import Reconciler.Kubernetes.Resource

/-!
# Visiting the resources

`visit` ranges over a slice header that it reads once, and reads each element from the array as
it is when the loop reaches it.  A callback that keeps or replaces resources, or fails, leaves
the list well formed (`WellFormed.visitSlice`), so along any run of the list's operations the
per-kind slices show the resources of their kind (`visitByKindAndAPIVersion_of_run`).

`VisitByKindAndAPIVersion` collects the resources into an array of its own first, so it calls
the callback once on each resource of the kind and API version, whatever the callback removes
(`WellFormed.visitByKindAndAPIVersion_eq_callEach`, and along runs
`visitByKindAndAPIVersion_of_run`).  `Visit` and `VisitByKind` range over the
list's own arrays, which `Remove` shifts in place: once the callback removes the first
resource of a kind, the second moves to index 0, which the loop has passed, and the loop never
reaches it (`Spares`, `WellFormed.visitByKind_spares_second`).
-/

namespace Reconciler

open GoSlice

namespace ResourceCacheList

variable {r : ResourceCacheList}

/-! ## The invariant along visits -/

/-- A heap that shows the list's slices as they were keeps the invariant. -/
theorem WellFormed.of_heap (hr : r.WellFormed) {h' : Heap Unstructured}
    (hres : Valid h' r.resources ∧ h'.toList r.resources = r.heap.toList r.resources)
    (hcache : ∀ kind, Valid h' (r.cache kind) ∧
      h'.toList (r.cache kind) = r.heap.toList (r.cache kind)) :
    { r with heap := h' }.WellFormed := by
  refine ⟨hres.1, hr.apart, ?_⟩
  have hlist : ({ r with heap := h' } : ResourceCacheList).resourceList = r.resourceList :=
    hres.2
  rw [hlist]
  exact hr.indexes.of_toList (fun kind => (hcache kind).1) (fun kind => (hcache kind).2)

/-- **A visit keeps the invariant**, whatever the callback does to the resource it is called
with. -/
theorem WellFormed.visitSlice (hr : r.WellFormed) (t : Slice)
    (act : Unstructured → Except String CallbackAction) :
    (r.visitSlice t (ResourceCacheList.actionCallback act)).1.WellFormed :=
  forRangeErr_invariant (fun _ (st : ResourceCacheList) => st.WellFormed)
    (fun st : ResourceCacheList => st.WellFormed) (fun _ _ h => h) hr
    (fun _ _ x _ hst _ => ⟨hst.actionCallback act x, fun _ => hst.actionCallback act x⟩)
    (fun _ _ _ hst _ => hst)

/-- A visit whose callback fails on no resource returns no error. -/
theorem visitSlice_snd_of_ok (t : Slice) {act : Unstructured → Except String CallbackAction}
    (hok : ∀ u, ∃ a, act u = .ok a) :
    (r.visitSlice t (ResourceCacheList.actionCallback act)).2 = none :=
  forRangeErr_snd_of_ok fun u _ => by
    obtain ⟨a, ha⟩ := hok u
    simp [ResourceCacheList.actionCallback, ha]

/-! ## `VisitByKindAndAPIVersion` -/

/-- What the collecting loop keeps: the list's slices show what they showed, and the collected
slice is apart from them and shows the resources of the API version met so far. -/
structure Collects (r : ResourceCacheList) (l : List Unstructured) (h : Heap Unstructured)
    (t : Slice) : Prop where
  resources : Valid h r.resources ∧ h.toList r.resources = r.heap.toList r.resources
  cache : ∀ kind, Valid h (r.cache kind) ∧ h.toList (r.cache kind) = r.heap.toList (r.cache kind)
  outside : Apart t r.resources ∧ ∀ kind, Apart t (r.cache kind)
  valid : Valid h t
  toList : h.toList t = l

/-- Appending to the collected slice writes only to its array, which is none of the list's. -/
theorem Collects.append {l : List Unstructured} {h : Heap Unstructured} {t : Slice}
    (hc : r.Collects l h t) (x : Unstructured) :
    r.Collects (l ++ [x]) (append h t [x]).1 (append h t [x]).2 := by
  obtain ⟨hres, hcache, ⟨hres', hcache'⟩, hv, hl⟩ := hc
  refine ⟨⟨valid_append_of_apart hres.1 hres' [x], ?_⟩, fun kind => ⟨?_, ?_⟩,
    ⟨apart_append hres.1 hres' [x], fun kind => apart_append (hcache kind).1 (hcache' kind) [x]⟩,
    valid_append hv [x], by rw [toList_append hv, hl]⟩
  · rw [toList_append_of_apart hres.1 hres' [x], hres.2]
  · exact valid_append_of_apart (hcache kind).1 (hcache' kind) [x]
  · rw [toList_append_of_apart (hcache kind).1 (hcache' kind) [x], (hcache kind).2]

/-- The collecting loop of `VisitByKindAndAPIVersion` leaves the list as it was and collects
the resources of the kind with the API version, in order, into a slice apart from the list. -/
theorem WellFormed.collects (hr : r.WellFormed) (kind apiversion : String) :
    r.Collects ((r.getByKind kind).filter fun u => u.apiVersion = apiversion)
      (collectByAPIVersion r.heap (r.cache.getKind kind) apiversion).1
      (collectByAPIVersion r.heap (r.cache.getKind kind) apiversion).2 := by
  set l := r.getByKind kind
  have hvK : Valid r.heap (r.cache.getKind kind) := hr.indexes.valid _
  have hlen : l.length = (r.cache.getKind kind).len := hvK.length_toList
  let P : Nat → Heap Unstructured × Slice → Prop := fun k p =>
    r.Collects ((l.take k).filter fun u => u.apiVersion = apiversion) p.1 p.2
  have h0 : P 0 (r.heap, Slice.nil) :=
    ⟨⟨hr.valid, rfl⟩, fun kind => ⟨hr.indexes.valid kind, rfl⟩,
      ⟨Or.inl rfl, fun _ => Or.inl rfl⟩, valid_nil _, by simp [Heap.toList, Slice.nil]⟩
  have hloop : P (r.cache.getKind kind).len
      (collectByAPIVersion r.heap (r.cache.getKind kind) apiversion) :=
    forRange_invariant P h0 (fun k p hk hP => by
    -- the kind's slice still shows `l`, so the pass reads the `k`-th resource of the kind
    obtain ⟨x, hx⟩ : ∃ x, l[k]? = some x := Option.isSome_iff_exists.mp (by simp; omega)
    have hread : p.1.read (r.cache.getKind kind) k = some x :=
      (read_of_toList ((hP.cache _).2.trans rfl) hk).trans hx
    rw [rangeStep_of_read hread]
    show P (k + 1) (if x.apiVersion = apiversion then append p.1 p.2 [x] else p)
    simp only [P, List.take_add_one, hx, Option.toList_some, List.filter_append]
    split_ifs with hv
    · simpa [hv] using hP.append x
    · simpa [hv] using hP)
  rw [← hlen] at hloop
  simpa only [P, List.take_length] using hloop

/-- **`VisitByKindAndAPIVersion` calls the callback once on each resource of the kind with the
API version**, in their order and up to the first error, whatever the callback removes or
replaces: it ranges over an array of its own, which no operation of the list writes to. -/
theorem WellFormed.visitByKindAndAPIVersion_eq_callEach (hr : r.WellFormed)
    (kind apiversion : String) (act : Unstructured → Except String CallbackAction) :
    r.visitByKindAndAPIVersion kind apiversion (ResourceCacheList.actionCallback act) =
      callEach (ResourceCacheList.actionCallback act)
        ((r.getByKind kind).filter fun u => u.apiVersion = apiversion)
        { r with heap := (collectByAPIVersion r.heap (r.cache.getKind kind) apiversion).1 } := by
  set collected := collectByAPIVersion r.heap (r.cache.getKind kind) apiversion
  set l := (r.getByKind kind).filter fun u => u.apiVersion = apiversion
  have hc : r.Collects l collected.1 collected.2 := hr.collects kind apiversion
  have hr' : ({ r with heap := collected.1 } : ResourceCacheList).WellFormed :=
    hr.of_heap hc.resources hc.cache
  -- the collected slice is outside the list, so no callback changes what it shows
  let P : Nat → ResourceCacheList → Prop := fun _ st =>
    st.WellFormed ∧ st.Outside collected.2 ∧ st.heap.toList collected.2 = l
  refine forRangeErr_eq_callEach (hc.valid.length_toList.symm.trans (congrArg _ hc.toList)).symm
    P ⟨hr', ⟨hc.outside.1, hc.valid, hc.outside.2⟩, hc.toList⟩ ?_
  rintro k st x hk ⟨hst, hout, hl⟩ hx
  obtain ⟨hout', hl'⟩ := hout.actionCallback hst act x
  exact ⟨(read_of_toList hl hk).trans hx,
    fun _ => ⟨hst.actionCallback act x, hout', hl'.trans hl⟩⟩

/-! ## Runs of the list's operations -/

/-- The operations of the list: `Add`, `Remove`, `Replace`, and the three visits with a
callback that acts on the resource it is called with. -/
inductive Step : ResourceCacheList → ResourceCacheList → Prop
  | add (r : ResourceCacheList) (u : Unstructured) : Step r (r.add u)
  | remove (r : ResourceCacheList) (u : Unstructured) : Step r (r.remove u)
  | replace (r : ResourceCacheList) (u : Unstructured) : Step r (r.replace u)
  | visit (r : ResourceCacheList) (act : Unstructured → Except String CallbackAction) :
      Step r (r.visit (actionCallback act)).1
  | visitByKind (r : ResourceCacheList) (kind : String)
      (act : Unstructured → Except String CallbackAction) :
      Step r (r.visitByKind kind (actionCallback act)).1
  | visitByKindAndAPIVersion (r : ResourceCacheList) (kind apiversion : String)
      (act : Unstructured → Except String CallbackAction) :
      Step r (r.visitByKindAndAPIVersion kind apiversion (actionCallback act)).1

/-- Every operation keeps the invariant. -/
theorem WellFormed.step {r' : ResourceCacheList} (hr : r.WellFormed) (hstep : Step r r') :
    r'.WellFormed := by
  cases hstep with
  | add u => exact (hr.add u).1
  | remove u => exact (hr.remove u).1
  | replace u => exact (hr.replace u).1
  | visit act => exact hr.visitSlice _ act
  | visitByKind kind act => exact hr.visitSlice _ act
  | visitByKindAndAPIVersion kind apiversion act =>
    -- the visit runs on the list as the collecting loop leaves it
    have hc := hr.collects kind apiversion
    exact (hr.of_heap hc.resources hc.cache).visitSlice _ act

/-! ## Removing while `VisitByKind` runs -/

/-- Removing a resource unlike the first one of a slice keeps the first one in place, and the
header at least one long. -/
theorem removeFromSlice_of_head {h : Heap Unstructured} {slc : Slice} {u b : Unstructured}
    (hv : Valid h slc) (hpos : 0 < slc.len) (hhead : (h.get slc.array)[slc.offset]? = some b)
    (hu : u.sameResource b = false) :
    ((removeFromSlice h slc u).1.get slc.array)[slc.offset]? = some b ∧
      ∃ m, 0 < m ∧ m ≤ slc.len ∧ (removeFromSlice h slc u).2 = { slc with len := m } := by
  rcases removeFromSlice_cases hv u with ⟨hrem, -⟩ | ⟨idx, hlt, hidx, hrem⟩
  · rw [hrem]
    exact ⟨hhead, slc.len, hpos, Nat.le_refl _, rfl⟩
  · -- the first resource does not match, so the one removed comes later
    have hidx0 : idx ≠ 0 := by
      rintro rfl
      obtain ⟨hl, hp, -⟩ := List.findIdx?_eq_some_iff_getElem.mp hidx
      have hfirst : (h.toList slc)[0]? = some b := by
        rw [← Heap.read_eq_getElem?_toList hpos]
        simpa [Heap.read] using hhead
      rw [List.getElem?_eq_getElem hl, Option.some.injEq] at hfirst
      rw [hfirst, hu] at hp
      exact Bool.false_ne_true hp
    have hkeep := getElem?_get_removeAt hv hlt 0
    rw [Nat.add_zero, if_pos (Or.inl (Nat.pos_of_ne_zero hidx0))] at hkeep
    rw [hrem, removeAt_snd hv hlt, hkeep]
    exact ⟨hhead, slc.len - 1, by omega, by omega, rfl⟩

/-- `Remove` writes the resources' array, then the slice of the removed resource's kind. -/
theorem remove_heap (r : ResourceCacheList) (y : Unstructured) :
    (r.remove y).heap = (removeFromSlice (removeFromSlice r.heap r.resources y).1
      (r.cache (toLower y.kind)) y).1 :=
  rfl

theorem remove_cache (r : ResourceCacheList) (y : Unstructured) :
    (r.remove y).cache = Function.update r.cache (toLower y.kind)
      (removeFromSlice (removeFromSlice r.heap r.resources y).1 (r.cache (toLower y.kind)) y).2 :=
  rfl

/-- The resources' array is none of the cache's, so writing it leaves every kind's array. -/
theorem WellFormed.get_removeFromSlice_resources (hr : r.WellFormed) {kind : String}
    (hcap : 0 < (r.cache kind).cap) (y : Unstructured) :
    (removeFromSlice r.heap r.resources y).1.get (r.cache kind).array =
      r.heap.get (r.cache kind).array :=
  get_removeFromSlice_of_apart hr.valid (hr.apart kind) hcap

variable {s : Slice} {kind : String} {lo : Nat} {Q : Unstructured → Prop}

/-- What a visit over the header `s` of the kind can still read: the kind's slice is `s`,
perhaps shortened, and the positions `lo ≤ j < s.len` of its array hold resources with the
property `Q`. -/
structure Ranges (r : ResourceCacheList) (s : Slice) (kind : String) (lo : Nat)
    (Q : Unstructured → Prop) : Prop where
  wellFormed : r.WellFormed
  len_le_cap : s.len ≤ s.cap
  header : ∃ m ≤ s.len, r.cache (toLower kind) = { s with len := m }
  segment : ∀ j y, lo ≤ j → j < s.len → (r.heap.get s.array)[s.offset + j]? = some y → Q y

/-- **`Remove` keeps what a visit can read**: it shortens the kind's slice at most, and moves
later elements of its array down, among the positions they held; the other arrays it writes
are not the kind's. -/
theorem Ranges.remove (hs : r.Ranges s kind lo Q) (y : Unstructured) :
    (r.remove y).Ranges s kind lo Q := by
  obtain ⟨hr, hcap, ⟨m, hms, hhdr⟩, hseg⟩ := hs
  set removed := removeFromSlice r.heap r.resources y
  have hvY : Valid removed.1 (r.cache (toLower y.kind)) :=
    valid_removeFromSlice hr.valid (hr.indexes.valid _)
  have harrEq : (r.cache (toLower kind)).array = s.array := by rw [hhdr]
  have hoffEq : (r.cache (toLower kind)).offset = s.offset := by rw [hhdr]
  refine ⟨(hr.remove y).1, hcap, ?_, fun j x hj hjs hx => ?_⟩
  · by_cases hy : toLower y.kind = toLower kind
    · -- the kind's own slice loses at most one element
      rw [hy] at hvY
      obtain ⟨m', hm', hm'eq⟩ := removeFromSlice_snd hvY y
      rw [hhdr] at hm'
      refine ⟨m', Nat.le_trans hm' hms, ?_⟩
      rw [remove_cache, hy, Function.update_self, hm'eq, hhdr]
    · rw [remove_cache, Function.update_of_ne (Ne.symm hy)]
      exact ⟨m, hms, hhdr⟩
  · have hcapK : 0 < (r.cache (toLower kind)).cap := by
      rw [hhdr]
      show 0 < s.cap
      omega
    have harr : removed.1.get s.array = r.heap.get s.array := by
      rw [← harrEq]
      exact hr.get_removeFromSlice_resources hcapK y
    rw [remove_heap] at hx
    by_cases hy : toLower y.kind = toLower kind
    · -- the removal shifts elements within the kind's own array
      rw [hy] at hvY hx
      have hseg' : ∀ j x, lo ≤ j → j < s.len →
          (removed.1.get (r.cache (toLower kind)).array)[(r.cache (toLower kind)).offset + j]? =
            some x → Q x := by
        rw [harrEq, hoffEq, harr]
        exact hseg
      have hpres := removeFromSlice_preserves_segment hvY (u := y) (by rw [hhdr]; exact hms) hseg'
      rw [harrEq, hoffEq] at hpres
      exact hpres j x hj hjs hx
    · -- another kind's slice is on another array
      have hother : (removeFromSlice removed.1 (r.cache (toLower y.kind)) y).1.get s.array =
          removed.1.get s.array := by
        rw [← harrEq]
        exact get_removeFromSlice_of_apart hvY (hr.indexes.apart _ _ hy) hcapK
      rw [hother, harr] at hx
      exact hseg j x hj hjs hx

/-- What `VisitByKind` over the header `s` of the kind keeps once it has removed the first
resource and gone past index 0: the positions from 1 on hold resources of `rest` only, the
kind's slice starts with `b`, and `b` is still a resource of the list. -/
structure Spares (r : ResourceCacheList) (s : Slice) (kind : String) (b : Unstructured)
    (rest : List Unstructured) : Prop where
  ranges : r.Ranges s kind 1 (· ∈ rest)
  nonempty : 0 < (r.cache (toLower kind)).len
  first : (r.heap.get s.array)[s.offset]? = some b
  mem : b ∈ r.resourceList

variable {a b : Unstructured} {rest : List Unstructured}

theorem Spares.mem_getByKind (hs : r.Spares s kind b rest) : b ∈ r.getByKind kind := by
  obtain ⟨m, -, hhdr⟩ := hs.ranges.header
  have hread : r.heap.read (r.cache (toLower kind)) 0 = (r.getByKind kind)[0]? :=
    Heap.read_eq_getElem?_toList hs.nonempty
  rw [Heap.read, hhdr] at hread
  exact List.mem_of_getElem? (hread.symm.trans hs.first)

/-- **The step past index 0**: removing a later resource of the kind, unlike `b`, keeps `b` at
the front of the kind's slice and in the list. -/
theorem Spares.remove {y : Unstructured} (hs : r.Spares s kind b rest)
    (hkind : toLower y.kind = toLower kind) (hyb : y.sameResource b = false) :
    (r.remove y).Spares s kind b rest := by
  obtain ⟨hranges, hne, hfirst, hmem⟩ := hs
  have hr := hranges.wellFormed
  obtain ⟨m, -, hhdr⟩ := hranges.header
  set K := toLower kind
  set removed := removeFromSlice r.heap r.resources y
  have harrEq : (r.cache K).array = s.array := by rw [hhdr]
  have hoffEq : (r.cache K).offset = s.offset := by rw [hhdr]
  have hvK1 : Valid removed.1 (r.cache K) :=
    valid_removeFromSlice hr.valid (hr.indexes.valid K)
  have harr : removed.1.get (r.cache K).array = r.heap.get (r.cache K).array :=
    hr.get_removeFromSlice_resources (by have := (hr.indexes.valid K).len_le_cap; omega) y
  -- `b` comes first in the kind's slice, so the removal is further on
  obtain ⟨hhead, m', hm', -, hhdr'⟩ := removeFromSlice_of_head hvK1 hne
    (by rw [harr, harrEq, hoffEq]; exact hfirst) hyb
  refine ⟨hranges.remove y, ?_, ?_, ?_⟩
  · rw [remove_cache, hkind, Function.update_self, hhdr']
    exact hm'
  · rw [remove_heap, hkind, ← harrEq, ← hoffEq]
    exact hhead
  · rw [(hr.remove y).2]
    exact (List.mem_eraseP_of_neg (by simp [hyb])).mpr hmem

/-- A resource of the kind's slice has the kind. -/
theorem WellFormed.kind_of_mem_getByKind (hr : r.WellFormed) {y : Unstructured}
    (hy : y ∈ r.getByKind kind) : toLower y.kind = toLower kind := by
  rw [hr.getByKind_eq] at hy
  simpa using (List.mem_filter.mp hy).2

/-- **The step at index 0**: removing `a`, the first resource of the kind, moves `b` to the
front of the kind's slice and leaves only resources of `rest` behind it in the array. -/
theorem WellFormed.spares_remove_first (hr : r.WellFormed) (hkind : r.getByKind kind = a :: b :: rest)
    (hrest : rest ≠ []) (hab : a.sameResource b = false) :
    (r.remove a).Spares (r.cache (toLower kind)) kind b rest := by
  set K := toLower kind
  set s := r.cache K
  have hvK : Valid r.heap s := hr.indexes.valid K
  have hl : r.heap.toList s = a :: b :: rest := hkind
  have hlen : s.len = rest.length + 2 := by
    rw [← hvK.length_toList, hl]
    simp
  have hrestlen : 0 < rest.length := List.length_pos_iff.mpr hrest
  have hcap : 0 < s.cap := by have := hvK.len_le_cap; omega
  have haK : toLower a.kind = K := hr.kind_of_mem_getByKind (by rw [hkind]; simp)
  -- removing from the resources leaves the kind's array, which is not theirs
  set removed := removeFromSlice r.heap r.resources a
  have harr : removed.1.get s.array = r.heap.get s.array :=
    get_removeFromSlice_of_apart hr.valid (hr.apart K) hcap
  have hvK1 : Valid removed.1 s := valid_removeFromSlice hr.valid hvK
  have hl1 : removed.1.toList s = a :: b :: rest := by
    rw [Heap.toList, harr]
    exact hl
  -- `a` is the first resource of the kind, so the kind's slice loses its index 0
  have hrem : removeFromSlice removed.1 s a = removeAt removed.1 s 0 := by
    unfold removeFromSlice
    rw [hl1, List.findIdx?_cons, if_pos (Unstructured.sameResource_self a)]
  have hheap : (r.remove a).heap = (removeAt removed.1 s 0).1 := by
    simp only [ResourceCacheList.remove, Cache.remove_fst, haK, removed, s, K]
    rw [hrem]
  have hcacheK : (r.remove a).cache K = { s with len := s.len - 1 } := by
    simp only [ResourceCacheList.remove, K, ← haK, Cache.remove_snd_self]
    rw [haK, hrem, removeAt_snd hvK1 (by omega)]
  have hpos : ∀ j, ((r.remove a).heap.get s.array)[s.offset + j]? =
      if s.len ≤ j + 1 then (r.heap.get s.array)[s.offset + j]?
      else (r.heap.get s.array)[s.offset + j + 1]? := by
    intro j
    rw [hheap, getElem?_get_removeAt hvK1 (by omega), harr]
    simp
  -- the positions from 2 on hold the resources of `rest`
  have hat : ∀ j, j < s.len → (r.heap.get s.array)[s.offset + j]? = (a :: b :: rest)[j]? := by
    intro j hj
    rw [← hl, ← Heap.read_eq_getElem?_toList hj]
    rfl
  refine ⟨⟨(hr.remove a).1, hvK.len_le_cap, ⟨s.len - 1, by omega, hcacheK⟩,
    fun j y hj hjs hy => ?_⟩, ?_, ?_, ?_⟩
  · rw [hpos j] at hy
    obtain ⟨j', rfl⟩ : ∃ j', j = j' + 1 := ⟨j - 1, by omega⟩
    split_ifs at hy with hlast
    · -- the last position keeps what it held
      obtain ⟨j'', rfl⟩ : ∃ j'', j' = j'' + 1 := ⟨j' - 1, by omega⟩
      rw [hat _ hjs] at hy
      exact List.mem_of_getElem? hy
    · rw [Nat.add_assoc, hat _ (by omega)] at hy
      exact List.mem_of_getElem? hy
  · rw [hcacheK]
    show 0 < s.len - 1
    omega
  · rw [← Nat.add_zero s.offset, hpos 0, if_neg (by omega), hat 1 (by omega)]
    rfl
  · have hb : b ∈ r.resourceList := by
      have hbk : b ∈ r.getByKind kind := by rw [hkind]; simp
      rw [hr.getByKind_eq] at hbk
      exact (List.mem_filter.mp hbk).1
    rw [(hr.remove a).2]
    exact (List.mem_eraseP_of_neg (by simp [hab])).mpr hb

/-- **`VisitByKind` passes over the second resource of a kind when the callback removes the
first.**  Take a well-formed list whose resources of the kind are `a`, `b` and at least one
more, pairwise different in name, namespace or kind, and a callback that removes `a` and
replaces none of the others.  After `VisitByKind`, `b` is still a resource of the list and of
its kind: removing `a` moved `b` to index 0, which the loop had passed, and every later index
reads a resource behind `b`. -/
theorem WellFormed.visitByKind_spares_second (hr : r.WellFormed)
    (hkind : r.getByKind kind = a :: b :: rest) (hrest : rest ≠ [])
    (hdistinct : (r.getByKind kind).Pairwise fun x y => x.sameResource y = false)
    {act : Unstructured → Except String CallbackAction} (ha : act a = .ok .remove)
    (hreplace : ∀ y ∈ rest, ∀ u, act y ≠ .ok (.replace u)) :
    b ∈ (r.visitByKind kind (ResourceCacheList.actionCallback act)).1.resourceList ∧
      b ∈ (r.visitByKind kind (ResourceCacheList.actionCallback act)).1.getByKind kind := by
  set s := r.cache (toLower kind)
  have hl : r.heap.toList s = a :: b :: rest := hkind
  rw [hkind, List.pairwise_cons, List.pairwise_cons] at hdistinct
  have hab : a.sameResource b = false := hdistinct.1 b (by simp)
  have hrestb : ∀ y ∈ rest, y.sameResource b = false := fun y hy => by
    rw [Unstructured.sameResource_comm]
    exact hdistinct.2.1 y hy
  have hrestKind : ∀ y ∈ rest, toLower y.kind = toLower kind := fun y hy =>
    hr.kind_of_mem_getByKind (by rw [hkind]; simp [hy])
  -- before index 0 the list is `r`; from index 1 on it spares `b`
  let P : Nat → ResourceCacheList → Prop := fun k st =>
    (k = 0 ∧ st = r) ∨ (0 < k ∧ st.Spares s kind b rest)
  let Q : ResourceCacheList → Prop := fun st => b ∈ st.resourceList ∧ b ∈ st.getByKind kind
  have hQ : ∀ st, st.Spares s kind b rest → Q st := fun st hs => ⟨hs.mem, hs.mem_getByKind⟩
  show Q (forRangeErr (fun st => st.heap) s (ResourceCacheList.actionCallback act) r).1
  refine forRangeErr_invariant P Q ?_ (Or.inl ⟨rfl, rfl⟩) ?_ ?_
  · rintro k st (⟨-, rfl⟩ | ⟨-, hs⟩)
    · have hbk : b ∈ st.getByKind kind := by rw [hkind]; simp
      refine ⟨?_, hbk⟩
      rw [hr.getByKind_eq] at hbk
      exact (List.mem_filter.mp hbk).1
    · exact hQ st hs
  · rintro k st x hk (⟨rfl, rfl⟩ | ⟨hk0, hs⟩) hx
    · -- index 0 reads `a`, which the callback removes
      rw [read_of_toList hl hk] at hx
      obtain rfl : x = a := (Option.some.inj hx).symm
      have hs := hr.spares_remove_first hkind hrest hab
      have hcall : ResourceCacheList.actionCallback act x st = (st.remove x, none) := by
        simp [ResourceCacheList.actionCallback, ha, ResourceCacheList.perform]
      rw [hcall]
      exact ⟨hQ _ hs, fun _ => Or.inr ⟨Nat.succ_pos 0, hs⟩⟩
    · -- every later index reads a resource of `rest`
      have hxrest : x ∈ rest := hs.ranges.segment k x (by omega) hk hx
      rcases actionCallback_cases act x st with ⟨act', hact, hcall⟩ | ⟨e, -, hcall⟩
      · rw [hcall]
        cases act' with
        | keep => exact ⟨hQ st hs, fun _ => Or.inr ⟨by omega, hs⟩⟩
        | remove =>
          have hs' := hs.remove (hrestKind x hxrest) (hrestb x hxrest)
          exact ⟨hQ _ hs', fun _ => Or.inr ⟨by omega, hs'⟩⟩
        | replace u => exact absurd hact (hreplace x hxrest u)
      · rw [hcall]
        exact ⟨hQ st hs, fun h => absurd h (by simp)⟩
  · rintro k st hk (⟨rfl, rfl⟩ | ⟨hk0, hs⟩) hx
    · rw [read_of_toList hl hk] at hx
      simp at hx
    · exact Or.inr ⟨by omega, hs⟩


/-- **A visit of another kind keeps `b`**, whatever its callback removes: every resource it
reads has the visited kind, so none of its removals matches `b`. -/
theorem WellFormed.visitByKind_keeps_other (hr : r.WellFormed) (hb : b ∈ r.resourceList)
    (hkb : toLower b.kind ≠ toLower kind) {act : Unstructured → Except String CallbackAction}
    (hreplace : ∀ y u, act y ≠ .ok (.replace u)) :
    (r.visitByKind kind (ResourceCacheList.actionCallback act)).1.WellFormed ∧
      b ∈ (r.visitByKind kind (ResourceCacheList.actionCallback act)).1.resourceList := by
  set s := r.cache (toLower kind)
  have hvK : Valid r.heap s := hr.indexes.valid _
  let P : Nat → ResourceCacheList → Prop := fun _ st =>
    st.Ranges s kind 0 (fun y => toLower y.kind = toLower kind) ∧ b ∈ st.resourceList
  let Q : ResourceCacheList → Prop := fun st => st.WellFormed ∧ b ∈ st.resourceList
  have h0 : P 0 r := by
    refine ⟨⟨hr, hvK.len_le_cap, ⟨s.len, Nat.le_refl _, rfl⟩, fun j y _ hjs hy => ?_⟩, hb⟩
    -- the positions of the kind's slice hold resources of the kind
    have hread : r.heap.read s j = (r.getByKind kind)[j]? := Heap.read_eq_getElem?_toList hjs
    rw [Heap.read, hy] at hread
    exact hr.kind_of_mem_getByKind (List.mem_of_getElem? hread.symm)
  show Q (forRangeErr (fun st => st.heap) s (ResourceCacheList.actionCallback act) r).1
  refine forRangeErr_invariant P Q (fun _ st hP => ⟨hP.1.wellFormed, hP.2⟩) h0 ?_
    (fun _ _ _ hP _ => hP)
  rintro k st x hk ⟨hranges, hmem⟩ hx
  have hxkind : toLower x.kind = toLower kind := hranges.segment k x (Nat.zero_le k) hk hx
  rcases actionCallback_cases act x st with ⟨act', hact, hcall⟩ | ⟨e, -, hcall⟩
  · rw [hcall]
    cases act' with
    | keep => exact ⟨⟨hranges.wellFormed, hmem⟩, fun _ => ⟨hranges, hmem⟩⟩
    | remove =>
      -- `x` has the visited kind and `b` another, so removing `x` leaves `b`
      have hxb : x.sameResource b = false := by
        cases h : x.sameResource b
        · rfl
        · have hbx : b.kind = x.kind := Unstructured.kind_eq_of_sameResource h
          exact absurd (hbx ▸ hxkind) hkb
      have hmem' : b ∈ (st.remove x).resourceList := by
        rw [(hranges.wellFormed.remove x).2]
        exact (List.mem_eraseP_of_neg (by simp [hxb])).mpr hmem
      exact ⟨⟨(hranges.wellFormed.remove x).1, hmem'⟩, fun _ => ⟨hranges.remove x, hmem'⟩⟩
    | replace u => exact absurd hact (hreplace x u)
  · rw [hcall]
    exact ⟨⟨hranges.wellFormed, hmem⟩, fun h => absurd h (by simp)⟩

end ResourceCacheList

open ResourceCacheList

/-- The run lemma: every list reached from `NewResourceList` is well formed. -/
theorem wellFormed_of_run {heap : Heap Unstructured} {unstructs : Slice}
    (hv : Valid heap unstructs) {r : ResourceCacheList}
    (hrun : Relation.ReflTransGen Step (newResourceList heap unstructs) r) : r.WellFormed := by
  induction hrun with
  | refl => exact (newResourceList_wellFormed hv).1
  | tail _ hstep ih => exact ih.step hstep

/-- **Along any run from `NewResourceList`, the list is read by kind as meant**: `GetByKind`
shows the resources of the kind in the order of the list, and `VisitByKindAndAPIVersion` calls
the callback once on each of them with the API version, in that order and up to the first
error, whatever the callback removes or replaces. -/
theorem visitByKindAndAPIVersion_of_run {heap : Heap Unstructured} {unstructs : Slice}
    (hv : Valid heap unstructs) {r : ResourceCacheList}
    (hrun : Relation.ReflTransGen Step (newResourceList heap unstructs) r) :
    (∀ kind, r.getByKind kind = r.resourceList.filter fun u => toLower u.kind == toLower kind) ∧
    ∀ kind apiversion (act : Unstructured → Except String CallbackAction),
      r.visitByKindAndAPIVersion kind apiversion (actionCallback act) =
        callEach (actionCallback act)
          ((r.resourceList.filter fun u => toLower u.kind == toLower kind).filter
            fun u => u.apiVersion = apiversion)
          { r with heap := (collectByAPIVersion r.heap (r.cache.getKind kind) apiversion).1 } := by
  have hr := wellFormed_of_run hv hrun
  refine ⟨hr.getByKind_eq, fun kind apiversion act => ?_⟩
  rw [hr.visitByKindAndAPIVersion_eq_callEach kind apiversion act, hr.getByKind_eq kind]

/-- A deployment added to the empty list. -/
def oneDeploymentList : ResourceCacheList :=
  (newResourceList ⟨[]⟩ Slice.nil).add ⟨"Deployment", "apps/v1", "web", "default"⟩

theorem visitByKindAndAPIVersion_of_run_oneDeployment :
    Valid (⟨[]⟩ : Heap Unstructured) Slice.nil ∧
      Relation.ReflTransGen Step (newResourceList ⟨[]⟩ Slice.nil) oneDeploymentList ∧
      (∀ kind, oneDeploymentList.getByKind kind =
        oneDeploymentList.resourceList.filter fun u => toLower u.kind == toLower kind) ∧
      ∀ kind apiversion (act : Unstructured → Except String CallbackAction),
        oneDeploymentList.visitByKindAndAPIVersion kind apiversion (actionCallback act) =
          callEach (actionCallback act)
            ((oneDeploymentList.resourceList.filter fun u => toLower u.kind == toLower kind).filter
              fun u => u.apiVersion = apiversion)
            { oneDeploymentList with
              heap := (collectByAPIVersion oneDeploymentList.heap
                (oneDeploymentList.cache.getKind kind) apiversion).1 } := by
  have hrun : Relation.ReflTransGen Step (newResourceList ⟨[]⟩ Slice.nil) oneDeploymentList :=
    .single (.add _ _)
  exact ⟨valid_nil _, hrun, visitByKindAndAPIVersion_of_run (valid_nil _) hrun⟩

end Reconciler
