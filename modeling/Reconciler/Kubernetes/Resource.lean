import Mathlib.Logic.Relation
import Reconciler.Lib.GoSlice

/-!
# The resource cache of a deployment

`ResourceCacheList` (`pkg/reconciler/kubernetes/resource.go`) holds the resources of a manifest
and `cache`, a map from the lowercased kind to a slice of the resources of that kind.
Interceptors visit the resources, or those of one kind, with a callback that may `Remove` or
`Replace` the resource it is called with.

The slices are Go slices over shared arrays (`GoSlice`).  `Remove` rebuilds a slice with
`append(slc[:idx], slc[idx+1:]...)`, which moves the later elements down in the very array that
a running `Visit` or `VisitByKind` ranges over, while the loop goes on to the next index.

`WellFormed` is the invariant of the list: `Add`, `Remove` and `Replace` keep the per-kind
slices in step with the resources.  What the visits do with it is the subject of
`Kubernetes.Visit`.
-/

namespace Reconciler

open GoSlice

/-- `strings.ToLower` on the ASCII letters that Kubernetes kinds are spelled in. -/
def toLower (s : String) : String :=
  String.ofList (s.toList.map Char.toLower)

/-- An `*unstructured.Unstructured` as the cache reads it. -/
structure Unstructured where
  kind : String
  apiVersion : String
  name : String
  «namespace» : String
  deriving DecidableEq, Repr

namespace Unstructured

/-- The test of `removeFromSlice` and `replaceFromSlice`: `uInSlc` has the name, namespace and
kind of `u`. -/
def sameResource (u uInSlc : Unstructured) : Bool :=
  uInSlc.name == u.name && uInSlc.namespace == u.namespace && uInSlc.kind == u.kind

theorem sameResource_iff {u v : Unstructured} :
    u.sameResource v ↔ v.name = u.name ∧ v.namespace = u.namespace ∧ v.kind = u.kind := by
  simp [sameResource, and_assoc]

theorem sameResource_self (u : Unstructured) : u.sameResource u := by
  simp [sameResource_iff]

theorem sameResource_comm {u v : Unstructured} : u.sameResource v = v.sameResource u := by
  rw [Bool.eq_iff_iff, sameResource_iff, sameResource_iff]
  constructor <;> rintro ⟨h₁, h₂, h₃⟩ <;> exact ⟨h₁.symm, h₂.symm, h₃.symm⟩

theorem kind_eq_of_sameResource {u v : Unstructured} (h : u.sameResource v) : v.kind = u.kind :=
  (sameResource_iff.mp h).2.2

theorem sameResource_trans {u v w : Unstructured} (huv : u.sameResource v)
    (hvw : v.sameResource w) : u.sameResource w := by
  rw [sameResource_iff] at *
  obtain ⟨h₁, h₂, h₃⟩ := huv
  obtain ⟨h₁', h₂', h₃'⟩ := hvw
  exact ⟨h₁'.trans h₁, h₂'.trans h₂, h₃'.trans h₃⟩

end Unstructured

/-! ## Slices of resources -/

/-- `removeFromSlice`: the first resource with the name, namespace and kind of `u` goes, by
`append(slc[:idx], slc[idx+1:]...)`. -/
def removeFromSlice (h : Heap Unstructured) (slc : Slice) (u : Unstructured) :
    Heap Unstructured × Slice :=
  match (h.toList slc).findIdx? u.sameResource with
  | some idx => removeAt h slc idx
  | none => (h, slc)

/-- `replaceFromSlice`: `u` is written over the first resource with its name, namespace and
kind. -/
def replaceFromSlice (h : Heap Unstructured) (slc : Slice) (u : Unstructured) :
    Heap Unstructured × Slice :=
  match (h.toList slc).findIdx? u.sameResource with
  | some idx => (set h slc idx u, slc)
  | none => (h, slc)

section Slices

variable {h : Heap Unstructured} {slc t : Slice} {u : Unstructured}

/-- What `removeFromSlice` can do: nothing, or remove at the first index that matches. -/
theorem removeFromSlice_cases (hv : Valid h slc) (u : Unstructured) :
    (removeFromSlice h slc u = (h, slc) ∧ (h.toList slc).findIdx? u.sameResource = none) ∨
    ∃ idx < slc.len, (h.toList slc).findIdx? u.sameResource = some idx ∧
      removeFromSlice h slc u = removeAt h slc idx := by
  unfold removeFromSlice
  split
  · rename_i idx hidx
    obtain ⟨hlt, -⟩ := List.findIdx?_eq_some_iff_getElem.mp hidx
    exact Or.inr ⟨idx, hv.length_toList ▸ hlt, hidx, rfl⟩
  · rename_i hidx
    exact Or.inl ⟨rfl, hidx⟩

theorem toList_removeFromSlice (hv : Valid h slc) (u : Unstructured) :
    (removeFromSlice h slc u).1.toList (removeFromSlice h slc u).2 =
      (h.toList slc).eraseP u.sameResource := by
  rw [List.eraseP_eq_eraseIdx]
  rcases removeFromSlice_cases hv u with ⟨hrem, hidx⟩ | ⟨idx, hlt, hidx, hrem⟩
  · rw [hrem, hidx]
  · rw [hrem, hidx, toList_removeAt hv hlt]

/-- The header `removeFromSlice` returns is the one it was given, perhaps one shorter. -/
theorem removeFromSlice_snd (hv : Valid h slc) (u : Unstructured) :
    ∃ m ≤ slc.len, (removeFromSlice h slc u).2 = { slc with len := m } := by
  rcases removeFromSlice_cases hv u with ⟨hrem, -⟩ | ⟨idx, hlt, -, hrem⟩
  · exact ⟨slc.len, Nat.le_refl _, by rw [hrem]⟩
  · exact ⟨slc.len - 1, Nat.sub_le _ _, by rw [hrem, removeAt_snd hv hlt]⟩

theorem valid_removeFromSlice (hv : Valid h slc) (ht : Valid h t) :
    Valid (removeFromSlice h slc u).1 t := by
  rcases removeFromSlice_cases hv u with ⟨hrem, -⟩ | ⟨idx, hlt, -, hrem⟩
  · rw [hrem]
    exact ht
  · rw [hrem]
    exact valid_removeAt hv hlt ht

theorem valid_removeFromSlice_self (hv : Valid h slc) :
    Valid (removeFromSlice h slc u).1 (removeFromSlice h slc u).2 := by
  rcases removeFromSlice_cases hv u with ⟨hrem, -⟩ | ⟨idx, hlt, -, hrem⟩
  · rw [hrem]
    exact hv
  · rw [hrem]
    exact valid_removeAt_self hv hlt

/-- `removeFromSlice` writes only to the array of its slice. -/
theorem get_removeFromSlice_of_apart (hv : Valid h slc) (hst : Apart slc t) (ht : 0 < t.cap) :
    (removeFromSlice h slc u).1.get t.array = h.get t.array := by
  rcases removeFromSlice_cases hv u with ⟨hrem, -⟩ | ⟨idx, hlt, -, hrem⟩
  · rw [hrem]
  · rw [hrem]
    rcases hst with hcap | hcap | hne
    · have := hv.len_le_cap
      omega
    · omega
    · exact get_removeAt_of_ne hv hlt (Ne.symm hne)

theorem toList_removeFromSlice_of_apart (hv : Valid h slc) (ht : Valid h t) (hst : Apart slc t) :
    (removeFromSlice h slc u).1.toList t = h.toList t := by
  by_cases htcap : t.cap = 0
  · have hlen : t.len = 0 := by have := ht.len_le_cap; omega
    simp [Heap.toList, hlen]
  · simp only [Heap.toList, get_removeFromSlice_of_apart hv hst (Nat.pos_of_ne_zero htcap)]

/-- A property of every element at positions `lo ≤ j < n` of the slice's array, `n` at least its
length, survives `removeFromSlice`. -/
theorem removeFromSlice_preserves_segment (hv : Valid h slc) {lo n : Nat} (hn : slc.len ≤ n)
    {Q : Unstructured → Prop}
    (hseg : ∀ j y, lo ≤ j → j < n → (h.get slc.array)[slc.offset + j]? = some y → Q y) :
    ∀ j y, lo ≤ j → j < n →
      ((removeFromSlice h slc u).1.get slc.array)[slc.offset + j]? = some y → Q y := by
  rcases removeFromSlice_cases hv u with ⟨hrem, -⟩ | ⟨idx, hlt, -, hrem⟩
  · rw [hrem]
    exact hseg
  · rw [hrem]
    exact removeAt_preserves_segment hv hlt hn hseg

/-- What `replaceFromSlice` can do: nothing, or write `u` at the first index that matches. -/
theorem replaceFromSlice_cases (hv : Valid h slc) (u : Unstructured) :
    (replaceFromSlice h slc u = (h, slc) ∧ (h.toList slc).findIdx? u.sameResource = none) ∨
    ∃ idx < slc.len, (h.toList slc).findIdx? u.sameResource = some idx ∧
      replaceFromSlice h slc u = (set h slc idx u, slc) := by
  unfold replaceFromSlice
  split
  · rename_i idx hidx
    obtain ⟨hlt, -⟩ := List.findIdx?_eq_some_iff_getElem.mp hidx
    exact Or.inr ⟨idx, hv.length_toList ▸ hlt, hidx, rfl⟩
  · rename_i hidx
    exact Or.inl ⟨rfl, hidx⟩

@[simp] theorem replaceFromSlice_snd : (replaceFromSlice h slc u).2 = slc := by
  unfold replaceFromSlice
  split <;> rfl

theorem toList_replaceFromSlice (hv : Valid h slc) (u : Unstructured) :
    (replaceFromSlice h slc u).1.toList slc = replaceFirst u.sameResource u (h.toList slc) := by
  rcases replaceFromSlice_cases hv u with ⟨hrep, hidx⟩ | ⟨idx, hlt, hidx, hrep⟩
  · rw [hrep, replaceFirst_of_forall (List.findIdx?_eq_none_iff.mp hidx)]
  · rw [hrep, toList_set hv hlt, set_eq_replaceFirst hidx]

theorem valid_replaceFromSlice (hv : Valid h slc) (ht : Valid h t) :
    Valid (replaceFromSlice h slc u).1 t := by
  rcases replaceFromSlice_cases hv u with ⟨hrep, -⟩ | ⟨idx, hlt, -, hrep⟩
  · rw [hrep]
    exact ht
  · rw [hrep]
    exact valid_set hv hlt u ht

/-- `replaceFromSlice` writes only to the array of its slice. -/
theorem get_replaceFromSlice_of_apart (hv : Valid h slc) (hst : Apart slc t) (ht : 0 < t.cap) :
    (replaceFromSlice h slc u).1.get t.array = h.get t.array := by
  rcases replaceFromSlice_cases hv u with ⟨hrep, -⟩ | ⟨idx, hlt, -, hrep⟩
  · rw [hrep]
  · rw [hrep]
    rcases hst with hcap | hcap | hne
    · have := hv.len_le_cap
      omega
    · omega
    · exact get_set_of_ne (Ne.symm hne) u

theorem toList_replaceFromSlice_of_apart (hv : Valid h slc) (ht : Valid h t) (hst : Apart slc t) :
    (replaceFromSlice h slc u).1.toList t = h.toList t := by
  by_cases htcap : t.cap = 0
  · have hlen : t.len = 0 := by have := ht.len_le_cap; omega
    simp [Heap.toList, hlen]
  · simp only [Heap.toList, get_replaceFromSlice_of_apart hv hst (Nat.pos_of_ne_zero htcap)]

theorem replaceFromSlice_preserves_segment (hv : Valid h slc) {lo n : Nat}
    {Q : Unstructured → Prop} (hu : Q u)
    (hseg : ∀ j y, lo ≤ j → j < n → (h.get slc.array)[slc.offset + j]? = some y → Q y) :
    ∀ j y, lo ≤ j → j < n →
      ((replaceFromSlice h slc u).1.get slc.array)[slc.offset + j]? = some y → Q y := by
  rcases replaceFromSlice_cases hv u with ⟨hrep, -⟩ | ⟨idx, hlt, -, hrep⟩
  · rw [hrep]
    exact hseg
  · rw [hrep]
    exact set_preserves_segment hv hlt hu hseg

end Slices

/-! ## The cache -/

/-- The `cache` map, from the lowercased kind to the slice of the resources of that kind; a kind
it does not hold reads as the nil slice, as a Go map does. -/
abbrev Cache := String → Slice

namespace Cache

/-- `make(cache)`. -/
def empty : Cache := fun _ => Slice.nil

/-- `cache.GetKind`. -/
def getKind (c : Cache) (kind : String) : Slice :=
  c (toLower kind)

/-- `cache.Add`: `u` is appended to the slice of its lowercased kind. -/
def add (h : Heap Unstructured) (c : Cache) (u : Unstructured) : Heap Unstructured × Cache :=
  let kind := toLower u.kind
  let appended := append h (c kind) [u]
  (appended.1, Function.update c kind appended.2)

/-- `cache.Remove`. -/
def remove (h : Heap Unstructured) (c : Cache) (u : Unstructured) : Heap Unstructured × Cache :=
  let kind := toLower u.kind
  let removed := removeFromSlice h (c kind) u
  (removed.1, Function.update c kind removed.2)

/-- `cache.Replace`. -/
def replace (h : Heap Unstructured) (c : Cache) (u : Unstructured) : Heap Unstructured × Cache :=
  let kind := toLower u.kind
  let replaced := replaceFromSlice h (c kind) u
  (replaced.1, Function.update c kind replaced.2)

/-- The slices of `c` over `h` index the resources `l`: they are valid, on arrays of their own,
and the slice of each lowercased kind shows exactly the resources of `l` of that kind, in their
order. -/
structure Indexes (c : Cache) (h : Heap Unstructured) (l : List Unstructured) : Prop where
  valid : ∀ kind, Valid h (c kind)
  apart : ∀ kind kind', kind ≠ kind' → Apart (c kind) (c kind')
  getKind_eq : ∀ kind, h.toList (c.getKind kind) = l.filter fun u => toLower u.kind == toLower kind

/-- A header outside the cache: valid, and apart from each slice of the cache. -/
def Outside (c : Cache) (h : Heap Unstructured) (t : Slice) : Prop :=
  Valid h t ∧ ∀ kind, Apart t (c kind)

variable {c : Cache} {h : Heap Unstructured} {l : List Unstructured} {u : Unstructured}
  {t : Slice} {kind : String}

@[simp] theorem add_fst : (c.add h u).1 = (append h (c (toLower u.kind)) [u]).1 := rfl

@[simp] theorem add_snd_self :
    (c.add h u).2 (toLower u.kind) = (append h (c (toLower u.kind)) [u]).2 := by
  simp [Cache.add]

theorem add_snd_of_ne (hkind : kind ≠ toLower u.kind) : (c.add h u).2 kind = c kind := by
  simp [Cache.add, Function.update_of_ne hkind]

@[simp] theorem remove_fst : (c.remove h u).1 = (removeFromSlice h (c (toLower u.kind)) u).1 := rfl

@[simp] theorem remove_snd_self :
    (c.remove h u).2 (toLower u.kind) = (removeFromSlice h (c (toLower u.kind)) u).2 := by
  simp [Cache.remove]

theorem remove_snd_of_ne (hkind : kind ≠ toLower u.kind) : (c.remove h u).2 kind = c kind := by
  simp [Cache.remove, Function.update_of_ne hkind]

@[simp] theorem replace_fst :
    (c.replace h u).1 = (replaceFromSlice h (c (toLower u.kind)) u).1 := rfl

@[simp] theorem replace_snd : (c.replace h u).2 = c := by
  funext kind
  by_cases hkind : kind = toLower u.kind
  · rw [hkind]
    simp [Cache.replace]
  · simp [Cache.replace]

theorem indexes_empty (h : Heap Unstructured) : empty.Indexes h [] :=
  ⟨fun _ => valid_nil h, fun _ _ _ => Or.inl rfl,
    fun _ => by simp [getKind, empty, Heap.toList, Slice.nil]⟩

theorem Indexes.toList_eq (hi : c.Indexes h l) (kind : String) :
    h.toList (c (toLower kind)) = l.filter fun u => toLower u.kind == toLower kind :=
  hi.getKind_eq kind

/-- A heap that shows the cache's slices as they were keeps the index. -/
theorem Indexes.of_toList {h' : Heap Unstructured} (hi : c.Indexes h l)
    (hvalid : ∀ kind, Valid h' (c kind))
    (htoList : ∀ kind, h'.toList (c kind) = h.toList (c kind)) : c.Indexes h' l :=
  ⟨hvalid, hi.apart, fun kind => (htoList _).trans (hi.getKind_eq kind)⟩

theorem Indexes.add (hi : c.Indexes h l) (u : Unstructured) :
    (c.add h u).2.Indexes (c.add h u).1 (l ++ [u]) := by
  refine ⟨fun kind => ?_, fun kind kind' hne => ?_, fun kind => ?_⟩
  · by_cases hkind : kind = toLower u.kind
    · rw [hkind, add_snd_self, add_fst]
      exact valid_append (hi.valid _) [u]
    · rw [add_snd_of_ne hkind, add_fst]
      exact valid_append_of_apart (hi.valid kind) (hi.apart _ kind (Ne.symm hkind)) [u]
  · -- the slice of `u`'s kind may have moved to a fresh array; the others stay
    by_cases hk : kind = toLower u.kind
    · have hk' : kind' ≠ toLower u.kind := fun h => hne (hk.trans h.symm)
      rw [hk, add_snd_self, add_snd_of_ne hk']
      exact apart_append (hi.valid kind') (hi.apart _ kind' (hk ▸ hne)) [u]
    · by_cases hk' : kind' = toLower u.kind
      · rw [hk', add_snd_self, add_snd_of_ne hk]
        exact (apart_append (hi.valid kind) (hi.apart _ kind (Ne.symm hk)) [u]).symm
      · rw [add_snd_of_ne hk, add_snd_of_ne hk']
        exact hi.apart kind kind' hne
  · rw [getKind, List.filter_append, add_fst]
    by_cases hkind : toLower kind = toLower u.kind
    · have hu : (toLower u.kind == toLower kind) = true := by simp [hkind]
      rw [hkind, add_snd_self, toList_append (hi.valid _), ← hkind, hi.toList_eq kind]
      simp [hu]
    · have hu : (toLower u.kind == toLower kind) = false := by
        simpa using Ne.symm hkind
      rw [add_snd_of_ne hkind,
        toList_append_of_apart (hi.valid _) (hi.apart _ _ (Ne.symm hkind)) [u], hi.toList_eq kind]
      simp [hu]

theorem Outside.add (ht : c.Outside h t) (u : Unstructured) :
    (c.add h u).2.Outside (c.add h u).1 t ∧ (c.add h u).1.toList t = h.toList t := by
  obtain ⟨htv, hta⟩ := ht
  refine ⟨⟨valid_append_of_apart htv (hta _).symm [u], fun kind => ?_⟩,
    toList_append_of_apart htv (hta _).symm [u]⟩
  by_cases hkind : kind = toLower u.kind
  · rw [hkind, add_snd_self]
    exact (apart_append htv (hta _).symm [u]).symm
  · rw [add_snd_of_ne hkind]
    exact hta kind

theorem Indexes.remove (hi : c.Indexes h l) (u : Unstructured) :
    (c.remove h u).2.Indexes (c.remove h u).1 (l.eraseP u.sameResource) := by
  have hvK := hi.valid (toLower u.kind)
  obtain ⟨m, -, hm⟩ := removeFromSlice_snd hvK u
  refine ⟨fun kind => ?_, fun kind kind' hne => ?_, fun kind => ?_⟩
  · by_cases hkind : kind = toLower u.kind
    · rw [hkind, remove_snd_self, remove_fst]
      exact valid_removeFromSlice_self hvK
    · rw [remove_snd_of_ne hkind, remove_fst]
      exact valid_removeFromSlice hvK (hi.valid kind)
  · -- removing keeps the array and the capacity of every slice
    by_cases hk : kind = toLower u.kind
    · have hk' : kind' ≠ toLower u.kind := fun h => hne (hk.trans h.symm)
      rw [hk, remove_snd_self, remove_snd_of_ne hk', hm]
      exact Apart.withLen (hi.apart _ kind' (hk ▸ hne)) m
    · by_cases hk' : kind' = toLower u.kind
      · rw [hk', remove_snd_self, remove_snd_of_ne hk, hm]
        exact (Apart.withLen (hi.apart _ kind (Ne.symm hk)) m).symm
      · rw [remove_snd_of_ne hk, remove_snd_of_ne hk']
        exact hi.apart kind kind' hne
  · rw [getKind, remove_fst]
    by_cases hkind : toLower kind = toLower u.kind
    · rw [hkind, remove_snd_self, toList_removeFromSlice hvK, ← hkind, hi.toList_eq kind,
        filter_eraseP_of_imp]
      intro y hy
      simp [Unstructured.kind_eq_of_sameResource hy, hkind]
    · rw [remove_snd_of_ne hkind, toList_removeFromSlice_of_apart hvK (hi.valid _)
        (hi.apart _ _ (Ne.symm hkind)), hi.toList_eq kind, filter_eraseP_of_disjoint]
      intro y hy
      simpa [Unstructured.kind_eq_of_sameResource hy] using Ne.symm hkind

theorem Outside.remove (ht : c.Outside h t) (hi : c.Indexes h l) (u : Unstructured) :
    (c.remove h u).2.Outside (c.remove h u).1 t ∧ (c.remove h u).1.toList t = h.toList t := by
  obtain ⟨htv, hta⟩ := ht
  have hvK := hi.valid (toLower u.kind)
  obtain ⟨m, -, hm⟩ := removeFromSlice_snd hvK u
  refine ⟨⟨valid_removeFromSlice hvK htv, fun kind => ?_⟩,
    toList_removeFromSlice_of_apart hvK htv (hta _).symm⟩
  by_cases hkind : kind = toLower u.kind
  · rw [hkind, remove_snd_self, hm]
    exact (Apart.withLen (hta _).symm m).symm
  · rw [remove_snd_of_ne hkind]
    exact hta kind

theorem Indexes.replace (hi : c.Indexes h l) (u : Unstructured) :
    (c.replace h u).2.Indexes (c.replace h u).1 (replaceFirst u.sameResource u l) := by
  have hvK := hi.valid (toLower u.kind)
  rw [replace_snd, replace_fst]
  refine ⟨fun kind => valid_replaceFromSlice hvK (hi.valid kind), hi.apart, fun kind => ?_⟩
  rw [getKind]
  by_cases hkind : toLower kind = toLower u.kind
  · rw [hkind, toList_replaceFromSlice hvK u, ← hkind, hi.toList_eq kind, filter_replaceFirst_of_imp]
    · intro y hy
      simp [Unstructured.kind_eq_of_sameResource hy, hkind]
    · simp [hkind]
  · rw [toList_replaceFromSlice_of_apart hvK (hi.valid _) (hi.apart _ _ (Ne.symm hkind)),
      hi.toList_eq kind, filter_replaceFirst_of_disjoint]
    · intro y hy
      simpa [Unstructured.kind_eq_of_sameResource hy] using Ne.symm hkind
    · simpa using Ne.symm hkind

theorem Outside.replace (ht : c.Outside h t) (hi : c.Indexes h l) (u : Unstructured) :
    (c.replace h u).2.Outside (c.replace h u).1 t ∧ (c.replace h u).1.toList t = h.toList t := by
  obtain ⟨htv, hta⟩ := ht
  have hvK := hi.valid (toLower u.kind)
  rw [replace_snd, replace_fst]
  exact ⟨⟨valid_replaceFromSlice hvK htv, hta⟩,
    toList_replaceFromSlice_of_apart hvK htv (hta _).symm⟩

end Cache

/-! ## The resource list -/

/-- `ResourceCacheList`: the heap its slices live in, the resources and the cache. -/
structure ResourceCacheList where
  heap : Heap Unstructured
  resources : Slice
  cache : Cache

/-- `NewResourceList`: `cache.Add` of each resource, in a loop over `unstructs`, which keeps
`unstructs` as the resources. -/
def newResourceList (heap : Heap Unstructured) (unstructs : Slice) : ResourceCacheList :=
  let built := forRange (fun p => p.1) unstructs (fun u p => Cache.add p.1 p.2 u)
    (heap, Cache.empty)
  { heap := built.1, resources := unstructs, cache := built.2 }

namespace ResourceCacheList

/-- The resources the list shows; `applyInterceptors` returns them. -/
def resourceList (r : ResourceCacheList) : List Unstructured :=
  r.heap.toList r.resources

/-- `GetByKind`, as the elements the returned slice shows. -/
def getByKind (r : ResourceCacheList) (kind : String) : List Unstructured :=
  r.heap.toList (r.cache.getKind kind)

/-- `Get`: the first resource of the kind's slice with exactly that kind and name, and no
namespace or the given one. -/
def get (r : ResourceCacheList) (kind name «namespace» : String) : Option Unstructured :=
  (r.getByKind kind).find? fun u =>
    u.kind == kind && u.name == name && (u.namespace == "" || u.namespace == «namespace»)

/-- `Len`. -/
def len (r : ResourceCacheList) : Nat :=
  r.resources.len

/-- `Remove`: from the resources, then from the cache. -/
def remove (r : ResourceCacheList) (u : Unstructured) : ResourceCacheList :=
  let resources := removeFromSlice r.heap r.resources u
  let cache := Cache.remove resources.1 r.cache u
  { heap := cache.1, resources := resources.2, cache := cache.2 }

/-- `Replace`: in the resources, then in the cache. -/
def replace (r : ResourceCacheList) (u : Unstructured) : ResourceCacheList :=
  let resources := replaceFromSlice r.heap r.resources u
  let cache := Cache.replace resources.1 r.cache u
  { heap := cache.1, resources := resources.2, cache := cache.2 }

/-- `Add`: `Remove` first, then append to the resources and to the cache. -/
def add (r : ResourceCacheList) (u : Unstructured) : ResourceCacheList :=
  let r := r.remove u
  let resources := append r.heap r.resources [u]
  let cache := Cache.add resources.1 r.cache u
  { heap := cache.1, resources := resources.2, cache := cache.2 }

theorem remove_eq (r : ResourceCacheList) (u : Unstructured) :
    r.remove u = ⟨(Cache.remove (removeFromSlice r.heap r.resources u).1 r.cache u).1,
      (removeFromSlice r.heap r.resources u).2,
      (Cache.remove (removeFromSlice r.heap r.resources u).1 r.cache u).2⟩ :=
  rfl

theorem replace_eq (r : ResourceCacheList) (u : Unstructured) :
    r.replace u = ⟨(Cache.replace (replaceFromSlice r.heap r.resources u).1 r.cache u).1,
      (replaceFromSlice r.heap r.resources u).2,
      (Cache.replace (replaceFromSlice r.heap r.resources u).1 r.cache u).2⟩ :=
  rfl

theorem add_eq (r : ResourceCacheList) (u : Unstructured) :
    r.add u = ⟨(Cache.add (append (r.remove u).heap (r.remove u).resources [u]).1
        (r.remove u).cache u).1,
      (append (r.remove u).heap (r.remove u).resources [u]).2,
      (Cache.add (append (r.remove u).heap (r.remove u).resources [u]).1
        (r.remove u).cache u).2⟩ :=
  rfl

@[simp] theorem resourceList_mk (heap : Heap Unstructured) (resources : Slice) (cache : Cache) :
    resourceList ⟨heap, resources, cache⟩ = heap.toList resources :=
  rfl

/-- The unexported `visit`: the callback on each element of `unstructs`, up to the first error.
A callback reaches the list through its pointer, so it takes and returns the list. -/
def visitSlice (r : ResourceCacheList) (unstructs : Slice)
    (callback : Unstructured → ResourceCacheList → ResourceCacheList × Option String) :
    ResourceCacheList × Option String :=
  forRangeErr (fun r => r.heap) unstructs callback r

/-- `Visit`. -/
def visit (r : ResourceCacheList)
    (callback : Unstructured → ResourceCacheList → ResourceCacheList × Option String) :
    ResourceCacheList × Option String :=
  r.visitSlice r.resources callback

/-- `VisitByKind`. -/
def visitByKind (r : ResourceCacheList) (kind : String)
    (callback : Unstructured → ResourceCacheList → ResourceCacheList × Option String) :
    ResourceCacheList × Option String :=
  r.visitSlice (r.cache.getKind kind) callback

/-- The loop of `VisitByKindAndAPIVersion`: the resources of the kind's slice with the API
version, appended to `make([]*unstructured.Unstructured, 0)`. -/
def collectByAPIVersion (heap : Heap Unstructured) (cachedByKind : Slice) (apiversion : String) :
    Heap Unstructured × Slice :=
  forRange (fun p => p.1) cachedByKind
    (fun u p => if u.apiVersion = apiversion then append p.1 p.2 [u] else p) (heap, Slice.nil)

/-- `VisitByKindAndAPIVersion`: a visit of the collected slice. -/
def visitByKindAndAPIVersion (r : ResourceCacheList) (kind apiversion : String)
    (callback : Unstructured → ResourceCacheList → ResourceCacheList × Option String) :
    ResourceCacheList × Option String :=
  let collected := collectByAPIVersion r.heap (r.cache.getKind kind) apiversion
  { r with heap := collected.1 }.visitSlice collected.2 callback

/-- What a callback does with the resource it is called with. -/
inductive CallbackAction
  | keep
  | remove
  | replace (u : Unstructured)
  deriving DecidableEq, Repr

/-- The list after a callback's action on `u`. -/
def perform (r : ResourceCacheList) (u : Unstructured) : CallbackAction → ResourceCacheList
  | .keep => r
  | .remove => r.remove u
  | .replace u' => r.replace u'

/-- A callback that decides on each resource what to do with it, or fails with an error and
leaves the list as it is. -/
def actionCallback (act : Unstructured → Except String CallbackAction) (u : Unstructured)
    (r : ResourceCacheList) : ResourceCacheList × Option String :=
  match act u with
  | .ok a => (r.perform u a, none)
  | .error e => (r, some e)

/-! ### The invariant -/

/-- The invariant of a resource list: the resources are a valid slice apart from every slice of
the cache, and the cache indexes the resources. -/
structure WellFormed (r : ResourceCacheList) : Prop where
  valid : Valid r.heap r.resources
  apart : ∀ kind, Apart r.resources (r.cache kind)
  indexes : r.cache.Indexes r.heap r.resourceList

variable {r : ResourceCacheList} {u : Unstructured}

/-- The invariant of a list given by its fields. -/
theorem wellFormed_mk {heap : Heap Unstructured} {resources : Slice} {cache : Cache}
    (hv : Valid heap resources) (hap : ∀ kind, Apart resources (cache kind))
    (hi : cache.Indexes heap (heap.toList resources)) :
    WellFormed ⟨heap, resources, cache⟩ :=
  ⟨hv, hap, hi⟩

theorem WellFormed.getByKind_eq (hr : r.WellFormed) (kind : String) :
    r.getByKind kind = r.resourceList.filter fun u => toLower u.kind == toLower kind :=
  hr.indexes.getKind_eq kind

theorem WellFormed.remove (hr : r.WellFormed) (u : Unstructured) :
    (r.remove u).WellFormed ∧
      (r.remove u).resourceList = r.resourceList.eraseP u.sameResource := by
  obtain ⟨hv, hap, hi⟩ := hr
  rw [remove_eq, resourceList_mk]
  set removed := removeFromSlice r.heap r.resources u
  -- the cache's slices are apart from the resources, so they still index the old list
  have hi₁ : r.cache.Indexes removed.1 r.resourceList :=
    hi.of_toList (fun kind => valid_removeFromSlice hv (hi.valid kind))
      (fun kind => toList_removeFromSlice_of_apart hv (hi.valid kind) (hap kind))
  obtain ⟨m, -, hm⟩ := removeFromSlice_snd hv u
  have hout : r.cache.Outside removed.1 removed.2 :=
    ⟨valid_removeFromSlice_self hv, fun kind => hm ▸ Apart.withLen (hap kind) m⟩
  obtain ⟨⟨hv', hap'⟩, hlist⟩ := hout.remove hi₁ u
  have hres := hlist.trans (toList_removeFromSlice hv u)
  refine ⟨wellFormed_mk hv' hap' ?_, hres⟩
  rw [hres]
  exact hi₁.remove u

theorem WellFormed.replace (hr : r.WellFormed) (u : Unstructured) :
    (r.replace u).WellFormed ∧
      (r.replace u).resourceList = replaceFirst u.sameResource u r.resourceList := by
  obtain ⟨hv, hap, hi⟩ := hr
  rw [replace_eq, resourceList_mk]
  set replaced := replaceFromSlice r.heap r.resources u
  have hi₁ : r.cache.Indexes replaced.1 r.resourceList :=
    hi.of_toList (fun kind => valid_replaceFromSlice hv (hi.valid kind))
      (fun kind => toList_replaceFromSlice_of_apart hv (hi.valid kind) (hap kind))
  have hout : r.cache.Outside replaced.1 replaced.2 := by
    rw [replaceFromSlice_snd]
    exact ⟨valid_replaceFromSlice hv hv, hap⟩
  obtain ⟨⟨hv', hap'⟩, hlist⟩ := hout.replace hi₁ u
  have hres : (Cache.replace replaced.1 r.cache u).1.toList replaced.2 =
      replaceFirst u.sameResource u r.resourceList := by
    refine hlist.trans ?_
    rw [replaceFromSlice_snd]
    exact toList_replaceFromSlice hv u
  refine ⟨wellFormed_mk hv' hap' ?_, hres⟩
  rw [hres]
  exact hi₁.replace u

theorem WellFormed.add (hr : r.WellFormed) (u : Unstructured) :
    (r.add u).WellFormed ∧
      (r.add u).resourceList = r.resourceList.eraseP u.sameResource ++ [u] := by
  obtain ⟨⟨hv, hap, hi⟩, hrem⟩ := hr.remove u
  rw [add_eq, resourceList_mk]
  set r₁ := r.remove u
  set appended := append r₁.heap r₁.resources [u]
  have hi₁ : r₁.cache.Indexes appended.1 r₁.resourceList :=
    hi.of_toList (fun kind => valid_append_of_apart (hi.valid kind) (hap kind) [u])
      (fun kind => toList_append_of_apart (hi.valid kind) (hap kind) [u])
  have hout : r₁.cache.Outside appended.1 appended.2 :=
    ⟨valid_append hv [u], fun kind => apart_append (hi.valid kind) (hap kind) [u]⟩
  obtain ⟨⟨hv', hap'⟩, hlist⟩ := hout.add u
  have hres : (Cache.add appended.1 r₁.cache u).1.toList appended.2 =
      r.resourceList.eraseP u.sameResource ++ [u] := by
    refine hlist.trans ?_
    rw [toList_append hv, ← hrem]
    rfl
  refine ⟨wellFormed_mk hv' hap' ?_, hres⟩
  rw [hres, ← hrem]
  exact hi₁.add u

theorem WellFormed.perform (hr : r.WellFormed) (u : Unstructured) (a : CallbackAction) :
    (r.perform u a).WellFormed := by
  cases a with
  | keep => exact hr
  | remove => exact (hr.remove u).1
  | replace u' => exact (hr.replace u').1

/-- A header outside the list: valid, and apart from the resources and from every slice of the
cache.  Nothing an operation other than `Add` does shows through it. -/
def Outside (r : ResourceCacheList) (t : Slice) : Prop :=
  Apart t r.resources ∧ r.cache.Outside r.heap t

theorem Outside.remove {t : Slice} (ht : r.Outside t) (hr : r.WellFormed) (u : Unstructured) :
    (r.remove u).Outside t ∧ (r.remove u).heap.toList t = r.heap.toList t := by
  obtain ⟨htr, htv, htc⟩ := ht
  obtain ⟨hv, hap, hi⟩ := hr
  set removed := removeFromSlice r.heap r.resources u
  have hi₁ : r.cache.Indexes removed.1 r.resourceList :=
    hi.of_toList (fun kind => valid_removeFromSlice hv (hi.valid kind))
      (fun kind => toList_removeFromSlice_of_apart hv (hi.valid kind) (hap kind))
  obtain ⟨m, -, hm⟩ := removeFromSlice_snd hv u
  obtain ⟨hout, hlist⟩ := Cache.Outside.remove ⟨valid_removeFromSlice hv htv, htc⟩ hi₁ u
  refine ⟨⟨?_, hout⟩, hlist.trans (toList_removeFromSlice_of_apart hv htv htr.symm)⟩
  show Apart t removed.2
  rw [hm]
  exact (Apart.withLen htr.symm m).symm

theorem Outside.replace {t : Slice} (ht : r.Outside t) (hr : r.WellFormed) (u : Unstructured) :
    (r.replace u).Outside t ∧ (r.replace u).heap.toList t = r.heap.toList t := by
  obtain ⟨htr, htv, htc⟩ := ht
  obtain ⟨hv, hap, hi⟩ := hr
  set replaced := replaceFromSlice r.heap r.resources u
  have hi₁ : r.cache.Indexes replaced.1 r.resourceList :=
    hi.of_toList (fun kind => valid_replaceFromSlice hv (hi.valid kind))
      (fun kind => toList_replaceFromSlice_of_apart hv (hi.valid kind) (hap kind))
  obtain ⟨hout, hlist⟩ := Cache.Outside.replace ⟨valid_replaceFromSlice hv htv, htc⟩ hi₁ u
  refine ⟨⟨?_, hout⟩, hlist.trans (toList_replaceFromSlice_of_apart hv htv htr.symm)⟩
  show Apart t replaced.2
  rw [replaceFromSlice_snd]
  exact htr

theorem Outside.perform {t : Slice} (ht : r.Outside t) (hr : r.WellFormed) (u : Unstructured)
    (a : CallbackAction) :
    (r.perform u a).Outside t ∧ (r.perform u a).heap.toList t = r.heap.toList t := by
  cases a with
  | keep => exact ⟨ht, rfl⟩
  | remove => exact ht.remove hr u
  | replace u' => exact ht.replace hr u'

theorem actionCallback_cases (act : Unstructured → Except String CallbackAction)
    (u : Unstructured) (r : ResourceCacheList) :
    (∃ a, act u = .ok a ∧ actionCallback act u r = (r.perform u a, none)) ∨
    ∃ e, act u = .error e ∧ actionCallback act u r = (r, some e) := by
  unfold actionCallback
  split
  · rename_i a ha
    exact Or.inl ⟨a, ha, rfl⟩
  · rename_i e he
    exact Or.inr ⟨e, he, rfl⟩

theorem WellFormed.actionCallback (hr : r.WellFormed)
    (act : Unstructured → Except String CallbackAction) (u : Unstructured) :
    (actionCallback act u r).1.WellFormed := by
  rcases actionCallback_cases act u r with ⟨a, -, hcall⟩ | ⟨e, -, hcall⟩
  · rw [hcall]
    exact hr.perform u a
  · rw [hcall]
    exact hr

theorem Outside.actionCallback {t : Slice} (ht : r.Outside t) (hr : r.WellFormed)
    (act : Unstructured → Except String CallbackAction) (u : Unstructured) :
    (actionCallback act u r).1.Outside t ∧
      (actionCallback act u r).1.heap.toList t = r.heap.toList t := by
  rcases actionCallback_cases act u r with ⟨a, -, hcall⟩ | ⟨e, -, hcall⟩
  · rw [hcall]
    exact ht.perform hr u a
  · rw [hcall]
    exact ⟨ht, rfl⟩

/-! ### Runs -/

/-- Within its length, a slice reads the elements it shows. -/
theorem read_of_toList {h : Heap Unstructured} {s : Slice} {l : List Unstructured}
    (hl : h.toList s = l) {k : Nat} (hk : k < s.len) : h.read s k = l[k]? := by
  rw [Heap.read_eq_getElem?_toList hk, hl]

end ResourceCacheList

open ResourceCacheList

theorem newResourceList_wellFormed {heap : Heap Unstructured} {unstructs : Slice}
    (hv : Valid heap unstructs) :
    (newResourceList heap unstructs).WellFormed ∧
      (newResourceList heap unstructs).resourceList = heap.toList unstructs := by
  set l := heap.toList unstructs
  have hlen : l.length = unstructs.len := hv.length_toList
  -- the loop appends only to the cache's own arrays, so `unstructs` shows `l` throughout
  let P : Nat → Heap Unstructured × Cache → Prop := fun k p =>
    p.2.Indexes p.1 (l.take k) ∧ p.2.Outside p.1 unstructs ∧ p.1.toList unstructs = l
  have hloop : P unstructs.len (forRange (fun p => p.1) unstructs
      (fun u p => Cache.add p.1 p.2 u) (heap, Cache.empty)) := by
    refine forRange_invariant P ⟨?_, ⟨hv, fun _ => Or.inr (Or.inl rfl)⟩, rfl⟩ ?_
    · simpa using Cache.indexes_empty heap
    · rintro k ⟨h', c⟩ hk ⟨hi, hout, hl⟩
      obtain ⟨x, hx⟩ : ∃ x, l[k]? = some x := Option.isSome_iff_exists.mp (by simp; omega)
      rw [rangeStep_of_read ((read_of_toList hl hk).trans hx)]
      obtain ⟨hout', hl'⟩ := hout.add x
      refine ⟨?_, hout', hl'.trans hl⟩
      rw [List.take_add_one, hx]
      exact hi.add x
  obtain ⟨hi, ⟨hv', hap⟩, hl⟩ := hloop
  rw [← hlen, List.take_length] at hi
  exact ⟨⟨hv', hap, by simpa [resourceList, newResourceList, hl] using hi⟩,
    by simpa [resourceList, newResourceList] using hl⟩

end Reconciler
