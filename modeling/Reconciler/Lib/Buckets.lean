import Mathlib.Data.List.Perm.Subperm
import Mathlib.Data.List.Nodup
import Mathlib.Data.List.MinMax

/-!
# Buckets — grouping a list into a map of slices

A loop of the shape

```
for _, x := range xs { m[key(x)] = append(m[key(x)], x) }
```

builds a map from keys to the elements carrying them, each slice in input order.  This
module models the map as an association list whose entries appear in order of first
insertion, and proves what the loop computes: keys are unique, every slice is the filter
of the input by its key, and every element lands in the slice of its key.

The consequence used downstream is `flatMap_subperm`: picking a sublist out of every slice
and concatenating the picks never yields an element more often than the input holds it.
-/

namespace Buckets

open scoped List

variable {α κ : Type*}

/-- The keys of an association list. -/
def keys (m : List (κ × List α)) : List κ :=
  m.map Prod.fst

@[simp] theorem keys_nil : keys ([] : List (κ × List α)) = [] := rfl

@[simp] theorem keys_cons (k : κ) (xs : List α) (m : List (κ × List α)) :
    keys ((k, xs) :: m) = k :: keys m := rfl

theorem mem_keys_of_mem {k : κ} {xs : List α} {m : List (κ × List α)} (h : (k, xs) ∈ m) :
    k ∈ keys m :=
  List.mem_map.2 ⟨(k, xs), h, rfl⟩

variable [DecidableEq κ]

/-! ## The one-element update -/

/-- Append `x` to the slice of key `k`, creating the slice at the end when `k` is absent. -/
def appendAt (k : κ) (x : α) : List (κ × List α) → List (κ × List α)
  | [] => [(k, [x])]
  | (k', xs) :: rest => if k' = k then (k', xs ++ [x]) :: rest else (k', xs) :: appendAt k x rest

/-- Group a list by `key`, slices in input order, keys in order of first appearance. -/
def groupBy (key : α → κ) (l : List α) : List (κ × List α) :=
  l.foldl (fun m x => appendAt (key x) x m) []

theorem keys_appendAt (k : κ) (x : α) (m : List (κ × List α)) :
    keys (appendAt k x m) = if k ∈ keys m then keys m else keys m ++ [k] := by
  induction m with
  | nil => simp [appendAt, keys]
  | cons e rest ih =>
      obtain ⟨k', xs⟩ := e
      by_cases hk : k' = k
      · subst hk
        simp [appendAt]
      · have hne : k ≠ k' := fun h => hk h.symm
        simp [appendAt, hk, ih, hne]
        split_ifs <;> simp

/-- What the update does to the entries, when keys are unique. -/
theorem mem_appendAt {k k' : κ} {x : α} {ys : List α} {m : List (κ × List α)}
    (hnd : (keys m).Nodup) :
    (k', ys) ∈ appendAt k x m ↔
      (k' ≠ k ∧ (k', ys) ∈ m) ∨
        (k' = k ∧ ((∃ xs, (k, xs) ∈ m ∧ ys = xs ++ [x]) ∨ (k ∉ keys m ∧ ys = [x]))) := by
  induction m with
  | nil => simp [appendAt, eq_comm]
  | cons e rest ih =>
      obtain ⟨k₀, xs₀⟩ := e
      have hnd' : (keys rest).Nodup := (List.nodup_cons.1 hnd).2
      have hk₀ : k₀ ∉ keys rest := (List.nodup_cons.1 hnd).1
      by_cases h₀ : k₀ = k
      · subst h₀
        -- the updated slice is the head entry; `rest` holds no entry for this key
        have hrest : ∀ zs, (k₀, zs) ∉ rest := fun zs hz => hk₀ (mem_keys_of_mem hz)
        constructor
        · intro hmem
          simp only [appendAt, if_true, List.mem_cons, Prod.mk.injEq] at hmem
          rcases hmem with ⟨rfl, rfl⟩ | hmem
          · exact Or.inr ⟨rfl, Or.inl ⟨xs₀, by simp, rfl⟩⟩
          · have hne : k' ≠ k₀ := fun h => hrest ys (h ▸ hmem)
            exact Or.inl ⟨hne, List.mem_cons_of_mem _ hmem⟩
        · rintro (⟨hne, hmem⟩ | ⟨rfl, ⟨xs, hxs, rfl⟩ | ⟨hnot, -⟩⟩)
          · simp only [List.mem_cons, Prod.mk.injEq] at hmem
            rcases hmem with ⟨rfl, -⟩ | hmem
            · exact absurd rfl hne
            · simp [appendAt, hmem]
          · simp only [List.mem_cons, Prod.mk.injEq] at hxs
            rcases hxs with ⟨-, rfl⟩ | hxs
            · simp [appendAt]
            · exact absurd hxs (hrest xs)
          · exact absurd (List.mem_cons_self ..) hnot
      · have hmem_iff : (k', ys) ∈ appendAt k x ((k₀, xs₀) :: rest) ↔
            (k', ys) = (k₀, xs₀) ∨ (k', ys) ∈ appendAt k x rest := by
          simp [appendAt, h₀]
        rw [hmem_iff, ih hnd']
        constructor
        · rintro (heq | ⟨hne, hmem⟩ | ⟨rfl, ⟨xs, hxs, rfl⟩ | ⟨hnot, rfl⟩⟩)
          · simp only [Prod.mk.injEq] at heq
            obtain ⟨rfl, rfl⟩ := heq
            exact Or.inl ⟨h₀, List.mem_cons_self ..⟩
          · exact Or.inl ⟨hne, List.mem_cons_of_mem _ hmem⟩
          · exact Or.inr ⟨rfl, Or.inl ⟨xs, List.mem_cons_of_mem _ hxs, rfl⟩⟩
          · refine Or.inr ⟨rfl, Or.inr ⟨?_, rfl⟩⟩
            simp [hnot, Ne.symm h₀]
        · rintro (⟨hne, hmem⟩ | ⟨rfl, ⟨xs, hxs, rfl⟩ | ⟨hnot, rfl⟩⟩)
          · simp only [List.mem_cons] at hmem
            rcases hmem with heq | hmem
            · exact Or.inl heq
            · exact Or.inr (Or.inl ⟨hne, hmem⟩)
          · simp only [List.mem_cons, Prod.mk.injEq] at hxs
            rcases hxs with ⟨rfl, -⟩ | hxs
            · exact absurd rfl h₀
            · exact Or.inr (Or.inr ⟨rfl, Or.inl ⟨xs, hxs, rfl⟩⟩)
          · refine Or.inr (Or.inr ⟨rfl, Or.inr ⟨?_, rfl⟩⟩)
            simp only [keys_cons, List.mem_cons, not_or] at hnot
            exact hnot.2

/-! ## The loop invariant -/

/-- The state of the grouping loop after it has read the prefix `p`. -/
structure Grouped (key : α → κ) (p : List α) (m : List (κ × List α)) : Prop where
  nodup : (keys m).Nodup
  slice_eq : ∀ k xs, (k, xs) ∈ m → xs = p.filter (fun x => key x = k)
  slice_ne_nil : ∀ k xs, (k, xs) ∈ m → xs ≠ []
  complete : ∀ x ∈ p, key x ∈ keys m

theorem grouped_nil (key : α → κ) : Grouped key [] [] :=
  ⟨List.nodup_nil, by simp, by simp, by simp⟩

/-- One iteration of the loop keeps the invariant. -/
theorem Grouped.appendAt {key : α → κ} {p : List α} {m : List (κ × List α)}
    (h : Grouped key p m) (x : α) :
    Grouped key (p ++ [x]) (appendAt (key x) x m) := by
  -- a key that has no slice yet has no element in the prefix
  have hfresh : key x ∉ keys m → p.filter (fun y => key y = key x) = [] := by
    intro hnot
    refine List.filter_eq_nil_iff.2 fun y hy hky => hnot ?_
    simpa using (of_decide_eq_true hky) ▸ h.complete y hy
  refine ⟨?_, ?_, ?_, ?_⟩
  · rw [keys_appendAt]
    split_ifs with hin
    · exact h.nodup
    · exact List.nodup_append.2 ⟨h.nodup, List.nodup_singleton _,
        fun a ha b hb hab => hin (by simp_all)⟩
  · intro k ys hmem
    rcases (mem_appendAt h.nodup).1 hmem with ⟨hne, hmem⟩ | ⟨rfl, ⟨xs, hxs, rfl⟩ | ⟨hnot, rfl⟩⟩
    · rw [h.slice_eq k ys hmem, List.filter_append]
      simp [Ne.symm hne]
    · rw [h.slice_eq _ xs hxs, List.filter_append]
      simp
    · rw [List.filter_append, hfresh hnot]
      simp
  · intro k ys hmem
    rcases (mem_appendAt h.nodup).1 hmem with ⟨-, hmem⟩ | ⟨rfl, ⟨xs, -, rfl⟩ | ⟨-, rfl⟩⟩
    · exact h.slice_ne_nil k ys hmem
    · simp
    · simp
  · intro y hy
    rw [keys_appendAt]
    rcases List.mem_append.1 hy with hy | hy
    · split_ifs <;> simp [h.complete y hy]
    · rw [List.mem_singleton.1 hy]
      split_ifs with hin <;> simp [hin]

theorem grouped_foldl (key : α → κ) (l : List α) :
    ∀ (p : List α) (m : List (κ × List α)), Grouped key p m →
      Grouped key (p ++ l) (l.foldl (fun m x => appendAt (key x) x m) m) := by
  induction l with
  | nil => simp
  | cons x rest ih =>
      intro p m h
      simpa using ih (p ++ [x]) _ (h.appendAt x)

theorem grouped_groupBy (key : α → κ) (l : List α) : Grouped key l (groupBy key l) := by
  have h := grouped_foldl key l [] [] (grouped_nil key)
  rwa [List.nil_append] at h

/-! ## What `groupBy` returns -/

theorem nodup_keys_groupBy (key : α → κ) (l : List α) : (keys (groupBy key l)).Nodup :=
  (grouped_groupBy key l).nodup

theorem eq_filter_of_mem_groupBy {key : α → κ} {l : List α} {k : κ} {xs : List α}
    (h : (k, xs) ∈ groupBy key l) : xs = l.filter (fun x => key x = k) :=
  (grouped_groupBy key l).slice_eq k xs h

theorem ne_nil_of_mem_groupBy {key : α → κ} {l : List α} {k : κ} {xs : List α}
    (h : (k, xs) ∈ groupBy key l) : xs ≠ [] :=
  (grouped_groupBy key l).slice_ne_nil k xs h

/-- Every element sits in the slice of its own key. -/
theorem mem_groupBy_of_mem {key : α → κ} {l : List α} {x : α} (hx : x ∈ l) :
    (key x, l.filter (fun y => key y = key x)) ∈ groupBy key l := by
  obtain ⟨⟨k, xs⟩, hmem, hk⟩ := List.mem_map.1 ((grouped_groupBy key l).complete x hx)
  simp only at hk
  subst hk
  simpa [← eq_filter_of_mem_groupBy hmem] using hmem

/-- Every slice holds an element of the input with the slice's key. -/
theorem exists_mem_of_mem_groupBy {key : α → κ} {l : List α} {k : κ} {xs : List α}
    (h : (k, xs) ∈ groupBy key l) : ∃ x ∈ l, key x = k := by
  obtain ⟨x, hx⟩ := List.exists_mem_of_ne_nil xs (ne_nil_of_mem_groupBy h)
  rw [eq_filter_of_mem_groupBy h, List.mem_filter] at hx
  exact ⟨x, hx.1, of_decide_eq_true hx.2⟩

theorem mem_keys_groupBy {key : α → κ} {l : List α} {k : κ} :
    k ∈ keys (groupBy key l) ↔ ∃ x ∈ l, key x = k := by
  constructor
  · intro hk
    obtain ⟨⟨k', xs⟩, hmem, rfl⟩ := List.mem_map.1 hk
    exact exists_mem_of_mem_groupBy hmem
  · rintro ⟨x, hx, rfl⟩
    exact mem_keys_of_mem (mem_groupBy_of_mem hx)

/-! ## Looking a key up -/

/-- `m[k]` on a map of slices: the slice of `k`, or the nil slice when `k` is absent. -/
def slice (m : List (κ × List α)) (k : κ) : List α :=
  ((m.find? (fun e => e.1 = k)).map Prod.snd).getD []

theorem find?_groupBy (key : α → κ) (l : List α) (k : κ) :
    (groupBy key l).find? (fun e => e.1 = k) =
      if k ∈ keys (groupBy key l) then some (k, l.filter (fun x => key x = k)) else none := by
  split_ifs with hk
  · obtain ⟨⟨k', xs⟩, hmem, hk'⟩ := List.mem_map.1 hk
    simp only at hk'
    subst hk'
    have hsome : ((groupBy key l).find? (fun e => e.1 = k')).isSome :=
      List.find?_isSome.2 ⟨(k', xs), hmem, by simp⟩
    obtain ⟨⟨e₁, e₂⟩, he⟩ := Option.isSome_iff_exists.1 hsome
    have hek : e₁ = k' := by simpa using List.find?_some he
    subst hek
    rw [he, eq_filter_of_mem_groupBy (List.mem_of_find?_eq_some he)]
  · refine List.find?_eq_none.2 fun e he hek => hk ?_
    rw [← of_decide_eq_true hek]
    exact mem_keys_of_mem (show (e.1, e.2) ∈ groupBy key l from he)

/-- Reading the map the loop built gives the filter of the input by the key, present or not. -/
theorem slice_groupBy (key : α → κ) (l : List α) (k : κ) :
    slice (groupBy key l) k = l.filter (fun x => key x = k) := by
  rw [slice, find?_groupBy]
  split_ifs with hk
  · rfl
  · -- an absent key carries no element, since every element's key is present
    symm
    refine List.filter_eq_nil_iff.2 fun x hx hxk => hk ?_
    simpa [of_decide_eq_true hxk] using (grouped_groupBy key l).complete x hx

/-- Filtering a concatenation of per-key results by one key keeps the result of that key. -/
theorem filter_flatMap_of_keys (key : α → κ) (f : κ × List α → List α) (k : κ) :
    ∀ m : List (κ × List α), (keys m).Nodup → (∀ e ∈ m, ∀ x ∈ f e, key x = e.1) →
      (m.flatMap f).filter (fun x => key x = k) = ((m.find? (fun e => e.1 = k)).map f).getD [] := by
  intro m
  induction m with
  | nil => intro _ _; simp
  | cons e rest ih =>
      intro hnd hf
      have hrest := ih (List.nodup_cons.1 hnd).2 (fun e' he' => hf e' (List.mem_cons_of_mem _ he'))
      rw [List.flatMap_cons, List.filter_append, hrest]
      by_cases hk : e.1 = k
      · -- the head entry is the entry of `k`: no entry of the tail carries `k`
        have hnone : rest.find? (fun e => e.1 = k) = none := by
          refine List.find?_eq_none.2 fun e' he' hek => (List.nodup_cons.1 hnd).1 ?_
          have hkey : e'.1 = e.1 := (of_decide_eq_true hek).trans hk.symm
          rw [← hkey]
          exact mem_keys_of_mem (show (e'.1, e'.2) ∈ rest from he')
        have hall : (f e).filter (fun x => key x = k) = f e :=
          List.filter_eq_self.2 fun x hx => by simp [hf e (List.mem_cons_self ..) x hx, hk]
        simp [hk, hnone, hall]
      · have hnil : (f e).filter (fun x => key x = k) = [] :=
          List.filter_eq_nil_iff.2 fun x hx => by simp [hf e (List.mem_cons_self ..) x hx, hk]
        simp [hk, hnil]

/-- Filtering the concatenated per-key results of `groupBy` by one key. -/
theorem filter_flatMap_groupBy {key : α → κ} {l : List α} (f : κ × List α → List α) (k : κ)
    (hf : ∀ e ∈ groupBy key l, ∀ x ∈ f e, key x = e.1) (hnil : f (k, []) = []) :
    ((groupBy key l).flatMap f).filter (fun x => key x = k) =
      f (k, l.filter (fun x => key x = k)) := by
  rw [filter_flatMap_of_keys key f k _ (nodup_keys_groupBy key l) hf, find?_groupBy]
  split_ifs with hk
  · rfl
  · have hempty : l.filter (fun x => key x = k) = [] := by
      refine List.filter_eq_nil_iff.2 fun x hx hxk => hk ?_
      simpa [of_decide_eq_true hxk] using (grouped_groupBy key l).complete x hx
    simp [hempty, hnil]

/-! ## Picking out of every slice -/

/-- Concatenating picks out of slices of distinct keys, each slice a filter of `l`,
stays a sub-multiset of `l`. -/
theorem flatMap_subperm_of_slices (key : α → κ) (f : κ × List α → List α) :
    ∀ (m : List (κ × List α)) (l : List α), (keys m).Nodup →
      (∀ k xs, (k, xs) ∈ m → xs = l.filter (fun x => key x = k)) →
      (∀ e ∈ m, f e <+ e.2) → m.flatMap f <+~ l := by
  intro m
  induction m with
  | nil => intro l _ _ _; simp
  | cons e rest ih =>
      intro l hnd hslice hpick
      obtain ⟨k, xs⟩ := e
      have hk : k ∉ keys rest := (List.nodup_cons.1 hnd).1
      -- the remaining slices are slices of the elements whose key is not `k`
      have hrest : rest.flatMap f <+~ l.filter (fun x => !decide (key x = k)) := by
        refine ih _ (List.nodup_cons.1 hnd).2 ?_ (fun e he => hpick e (List.mem_cons_of_mem _ he))
        intro k' xs' hmem
        have hne : k' ≠ k := fun h => hk (h ▸ mem_keys_of_mem hmem)
        rw [hslice k' xs' (List.mem_cons_of_mem _ hmem), List.filter_filter]
        congr 1
        funext x
        by_cases hx : key x = k' <;> simp [hx, hne]
      have hhead : f (k, xs) <+~ l.filter (fun x => decide (key x = k)) := by
        have hsub : f (k, xs) <+ xs := hpick (k, xs) (List.mem_cons_self ..)
        rw [← hslice k xs (List.mem_cons_self ..)]
        exact hsub.subperm
      have hperm := List.filter_append_perm (fun x => decide (key x = k)) l
      simpa [List.flatMap_cons] using (hperm.subperm_left).1 (hhead.append hrest)

/-- Picking a sublist out of every slice of `groupBy` never duplicates an element. -/
theorem flatMap_subperm {key : α → κ} {l : List α} (f : κ × List α → List α)
    (hpick : ∀ e ∈ groupBy key l, f e <+ e.2) : (groupBy key l).flatMap f <+~ l :=
  flatMap_subperm_of_slices key f (groupBy key l) l (nodup_keys_groupBy key l)
    (fun _ _ h => eq_filter_of_mem_groupBy h) hpick

/-! ## Walking the keys in order

A loop over the sorted keys that stops at the first key passing a test is `List.find?` on a
list ordered by a strict order: it stops at the least key that passes. -/

section Walk

variable {R : α → α → Prop} {l : List α} {p : α → Bool}

/-- Nothing that comes before the element `find?` returns passes the test. -/
theorem find?_least [Std.Asymm R] {a b : α} (hl : l.Pairwise R) (hb : l.find? p = some b)
    (ha : a ∈ l) (hab : R a b) : p a = false := by
  obtain ⟨-, as, bs, rfl, has⟩ := List.find?_eq_some_iff_append.1 hb
  rw [List.mem_append, List.mem_cons] at ha
  rcases ha with ha | rfl | ha
  · simpa using has a ha
  · exact absurd hab (asymm hab)
  · -- `a` comes after `b`, so the order puts `b` first
    have hba : R b a := (List.pairwise_cons.1 (List.pairwise_append.1 hl).2.1).1 a ha
    exact absurd hab (asymm hba)

/-- In a list ordered by a reflexive `R`, what `find?` returns comes `R`-before every element
that passes the test. -/
theorem find?_le {a b : α} (hrefl : ∀ x, R x x) (hl : l.Pairwise R) (hb : l.find? p = some b)
    (ha : a ∈ l) (hpa : p a = true) : R b a := by
  obtain ⟨-, as, bs, rfl, has⟩ := List.find?_eq_some_iff_append.1 hb
  rw [List.mem_append, List.mem_cons] at ha
  rcases ha with ha | rfl | ha
  · simpa [hpa] using has a ha
  · exact hrefl a
  · exact (List.pairwise_cons.1 (List.pairwise_append.1 hl).2.1).1 a ha

/-- `find?` returns the least element that passes the test. -/
theorem find?_eq_of_least [Std.Asymm R] [Std.Trichotomous R] {b : α} (hl : l.Pairwise R)
    (hb : b ∈ l) (hpb : p b = true) (hleast : ∀ a ∈ l, R a b → p a = false) :
    l.find? p = some b := by
  obtain ⟨c, hc⟩ : ∃ c, l.find? p = some c := by
    rw [← Option.isSome_iff_exists, List.find?_isSome]
    exact ⟨b, hb, hpb⟩
  have hpc : p c = true := List.find?_some hc
  rcases trichotomous (r := R) c b with hcb | rfl | hbc
  · simp [hleast c (List.mem_of_find?_eq_some hc) hcb] at hpc
  · exact hc
  · simp [find?_least hl hc hb hbc] at hpb

end Walk

/-! ## The greatest value of each group

`SELECT key, MAX(val) … GROUP BY key` over the rows of a table. -/

section GroupMax

variable {key : α → κ} {val : α → ℤ} {l : List α}

/-- Each key of the rows once, in the order it first appears, with the greatest value among the
rows of that key. -/
def groupMax (key : α → κ) (val : α → ℤ) (l : List α) : List (κ × ℤ) :=
  (groupBy key l).filterMap fun g => (g.2.map val).max?.map (g.1, ·)

/-- A key comes with `m` exactly when `m` is the value of one of its rows and no row of the key
has a greater one. -/
theorem mem_groupMax {k : κ} {m : ℤ} :
    (k, m) ∈ groupMax key val l ↔
      (∃ x ∈ l, key x = k ∧ val x = m) ∧ ∀ x ∈ l, key x = k → val x ≤ m := by
  simp only [groupMax, List.mem_filterMap, Option.map_eq_some_iff, Prod.mk.injEq]
  constructor
  · rintro ⟨⟨k', xs⟩, hg, m', hmax, rfl, rfl⟩
    rw [List.max?_eq_some_iff, eq_filter_of_mem_groupBy hg] at hmax
    obtain ⟨hmem, hle⟩ := hmax
    obtain ⟨x, hx, rfl⟩ := List.mem_map.1 hmem
    rw [List.mem_filter, decide_eq_true_eq] at hx
    refine ⟨⟨x, hx.1, hx.2, rfl⟩, fun y hy hyk => hle (val y) ?_⟩
    exact List.mem_map.2 ⟨y, List.mem_filter.2 ⟨hy, decide_eq_true hyk⟩, rfl⟩
  · rintro ⟨⟨x, hx, rfl, rfl⟩, hle⟩
    refine ⟨(key x, l.filter fun y => key y = key x), mem_groupBy_of_mem hx, val x, ?_, rfl, rfl⟩
    rw [List.max?_eq_some_iff]
    refine ⟨List.mem_map.2 ⟨x, List.mem_filter.2 ⟨hx, decide_eq_true rfl⟩, rfl⟩, ?_⟩
    rintro _ hb
    obtain ⟨y, hy, rfl⟩ := List.mem_map.1 hb
    rw [List.mem_filter, decide_eq_true_eq] at hy
    exact hle y hy.1 hy.2

/-- The keys of the groups are those of the rows. -/
theorem groupMax_keys (key : α → κ) (val : α → ℤ) (l : List α) :
    (groupMax key val l).map Prod.fst = keys (groupBy key l) := by
  -- every slice of `groupBy` holds a row, so each group has a greatest value
  have hsome : ∀ g ∈ groupBy key l, ∃ m, (g.2.map val).max? = some m := by
    intro g hg
    apply Option.ne_none_iff_exists'.1
    rw [Ne, List.max?_eq_none_iff, List.map_eq_nil_iff]
    exact ne_nil_of_mem_groupBy (show (g.1, g.2) ∈ groupBy key l from hg)
  unfold groupMax keys
  generalize groupBy key l = gs at hsome ⊢
  induction gs with
  | nil => rfl
  | cons g gs ih =>
    obtain ⟨m, hm⟩ := hsome g List.mem_cons_self
    rw [List.filterMap_cons, hm]
    simp [ih fun g' hg' => hsome g' (List.mem_cons_of_mem g hg')]

theorem nodup_keys_groupMax (key : α → κ) (val : α → ℤ) (l : List α) :
    ((groupMax key val l).map Prod.fst).Nodup := by
  rw [groupMax_keys]
  exact nodup_keys_groupBy key l

end GroupMax

end Buckets
