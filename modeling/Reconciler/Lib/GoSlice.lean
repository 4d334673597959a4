import Mathlib.Data.List.Basic

/-!
# Go slices

A Go slice is a header (a backing array, an offset into it, a length and a capacity) over
arrays that several headers may share: a write through one header shows through every other
header on the same array.  `append` writes in place while the capacity allows and copies to a
fresh array otherwise, and `s[lo:hi]` is a header on the same array.  A `for range` loop reads
its header once and each element when it reaches it, from the array as it is then.

The arrays live in a heap by address, each with the elements written to it so far.
-/

namespace GoSlice

/-- The backing arrays by address, each with the elements written to it so far. -/
structure Heap (α : Type*) where
  arrays : List (List α)

/-- A slice header. -/
structure Slice where
  array : Nat
  offset : Nat
  len : Nat
  cap : Nat
  deriving DecidableEq, Repr

/-- The nil slice. -/
def Slice.nil : Slice := ⟨0, 0, 0, 0⟩

/-- `s[lo:hi]`. -/
def Slice.slice (s : Slice) (lo hi : Nat) : Slice :=
  ⟨s.array, s.offset + lo, hi - lo, s.cap - lo⟩

variable {α : Type*}

namespace Heap

/-- The contents of an array. -/
def get (h : Heap α) (a : Nat) : List α :=
  h.arrays.getD a []

/-- `s[i]`, read from the array as it is now. -/
def read (h : Heap α) (s : Slice) (i : Nat) : Option α :=
  (h.get s.array)[s.offset + i]?

/-- The elements that a header shows. -/
def toList (h : Heap α) (s : Slice) : List α :=
  ((h.get s.array).drop s.offset).take s.len

/-- Writes `xs` to array `a` from position `pos` on. -/
def write (h : Heap α) (a pos : Nat) (xs : List α) : Heap α :=
  ⟨h.arrays.modify a fun arr => arr.take pos ++ xs ++ arr.drop (pos + xs.length)⟩

/-- A fresh array holding `xs`, at address `h.arrays.length`. -/
def alloc (h : Heap α) (xs : List α) : Heap α :=
  ⟨h.arrays ++ [xs]⟩

end Heap

/-- `append(s, xs...)`: in place while the capacity allows, else into a fresh array of twice
the capacity, or of the new length if that is more.  Go's `growslice` doubles only below 256
elements, grows by a quarter and 192 above, and rounds up to a size class of the allocator; the
model keeps the doubling for every capacity, which like Go's rule holds the new length. -/
def append (h : Heap α) (s : Slice) (xs : List α) : Heap α × Slice :=
  if s.len + xs.length ≤ s.cap then
    (h.write s.array (s.offset + s.len) xs, { s with len := s.len + xs.length })
  else
    (h.alloc (h.toList s ++ xs),
      ⟨h.arrays.length, 0, s.len + xs.length, max (s.len + xs.length) (2 * s.cap)⟩)

/-- `s[i] = x`. -/
def set (h : Heap α) (s : Slice) (i : Nat) (x : α) : Heap α :=
  h.write s.array (s.offset + i) [x]

/-- `append(s[:i], s[i+1:]...)`: the element at `i` goes, the later ones move down in place and
the last position keeps what it held. -/
def removeAt (h : Heap α) (s : Slice) (i : Nat) : Heap α × Slice :=
  append h (s.slice 0 i) (h.toList (s.slice (i + 1) s.len))

/-- One pass of `for _, x := range s { body }` at index `i`: the element is read when the loop
reaches it, from the array as it is then. -/
def rangeStep {σ : Type*} (heap : σ → Heap α) (s : Slice) (body : α → σ → σ) (st : σ)
    (i : Nat) : σ :=
  match (heap st).read s i with
  | some x => body x st
  | none => st

/-- `for _, x := range s { body }`: the header is read once, each element when the loop reaches
it. -/
def forRange {σ : Type*} (heap : σ → Heap α) (s : Slice) (body : α → σ → σ) (st : σ) : σ :=
  (List.range s.len).foldl (rangeStep heap s body) st

/-- `for _, x := range s { if err := body(x); err != nil { return err } }`: the loop stops at the
first error, with the state as the body left it. -/
def forRangeErr {σ ε : Type*} (heap : σ → Heap α) (s : Slice) (body : α → σ → σ × Option ε)
    (st : σ) : σ × Option ε :=
  forRange (fun acc => heap acc.1) s
    (fun x acc =>
      match acc.2 with
      | none => body x acc.1
      | some _ => acc)
    (st, none)

/-- What a loop over a list does: it calls `body` on each element in order, up to the first
error. -/
def callEach {σ ε : Type*} (body : α → σ → σ × Option ε) : List α → σ → σ × Option ε
  | [], st => (st, none)
  | x :: xs, st =>
    match body x st with
    | (st', none) => callEach body xs st'
    | (st', some e) => (st', some e)

/-! ## Arrays under writes and allocations -/

/-- Writing `xs` behind the first `o + n` positions of an array leaves the `n` positions from `o`
and then shows `xs`. -/
theorem drop_take_splice {arr xs : List α} {o n : Nat} (hlen : o + n ≤ arr.length) :
    ((arr.take (o + n) ++ xs ++ arr.drop (o + n + xs.length)).drop o).take (n + xs.length) =
      (arr.drop o).take n ++ xs := by
  have hprefix : (arr.take (o + n)).length = o + n := List.length_take_of_le hlen
  rw [List.append_assoc, List.drop_append_of_le_length (by omega), List.drop_take]
  have hmid : (arr.drop o).take (o + n - o) = (arr.drop o).take n := by rw [Nat.add_sub_cancel_left]
  have hwindow : ((arr.drop o).take n).length = n := by
    rw [List.length_take, List.length_drop]
    omega
  rw [hmid, List.take_append, hwindow, List.take_of_length_le (by omega), Nat.add_sub_cancel_left]
  simp

namespace Heap

variable {h : Heap α}

theorem get_write_self {a : Nat} (ha : a < h.arrays.length) (pos : Nat) (xs : List α) :
    (h.write a pos xs).get a = (h.get a).take pos ++ xs ++ (h.get a).drop (pos + xs.length) := by
  simp [write, get, List.getD_eq_getElem?_getD, ha]

theorem get_write_of_ne {a b : Nat} (hab : b ≠ a) (pos : Nat) (xs : List α) :
    (h.write a pos xs).get b = h.get b := by
  simp [write, get, List.getD_eq_getElem?_getD, List.getElem?_modify_ne _ _ (Ne.symm hab)]

@[simp] theorem length_write (a pos : Nat) (xs : List α) :
    (h.write a pos xs).arrays.length = h.arrays.length := by
  simp [write]

theorem write_nil (a pos : Nat) : h.write a pos [] = h := by
  have hid : (fun arr : List α => arr.take pos ++ [] ++ arr.drop (pos + ([] : List α).length)) =
      id := by
    funext arr
    simp
  simp only [write, hid, List.modify_id]

theorem get_alloc_of_lt {b : Nat} (hb : b < h.arrays.length) (xs : List α) :
    (h.alloc xs).get b = h.get b := by
  simp [alloc, get, List.getD_eq_getElem?_getD, List.getElem?_append_left hb]

theorem get_alloc_self (xs : List α) : (h.alloc xs).get h.arrays.length = xs := by
  simp [alloc, get, List.getD_eq_getElem?_getD]

@[simp] theorem length_alloc (xs : List α) : (h.alloc xs).arrays.length = h.arrays.length + 1 := by
  simp [alloc]

/-- Within the length, `s[i]` is the `i`-th element that the header shows. -/
theorem read_eq_getElem?_toList {s : Slice} {i : Nat} (hi : i < s.len) :
    h.read s i = (h.toList s)[i]? := by
  simp [read, toList, hi, List.getElem?_drop]

end Heap

/-! ## Headers -/

/-- A header of the heap: its length within its capacity and, unless it is nil, its window
within its array. -/
structure Valid (h : Heap α) (s : Slice) : Prop where
  len_le_cap : s.len ≤ s.cap
  within : 0 < s.cap → s.array < h.arrays.length ∧ s.offset + s.len ≤ (h.get s.array).length

/-- Two headers that no write through one shows through the other: one of them is nil, or
they are on different arrays. -/
def Apart (s t : Slice) : Prop :=
  s.cap = 0 ∨ t.cap = 0 ∨ s.array ≠ t.array

theorem Apart.symm {s t : Slice} (h : Apart s t) : Apart t s := by
  unfold Apart at *
  omega

variable {h : Heap α} {s t : Slice}

/-- Apartness reads only the array and the capacity of a header. -/
theorem Apart.withLen (hst : Apart s t) (m : Nat) : Apart { s with len := m } t := hst

theorem Valid.length_toList (hv : Valid h s) : (h.toList s).length = s.len := by
  by_cases hcap : s.cap = 0
  · have hlen : s.len = 0 := by have := hv.len_le_cap; omega
    simp [Heap.toList, hlen]
  · have hwithin := (hv.within (Nat.pos_of_ne_zero hcap)).2
    simp only [Heap.toList, List.length_take, List.length_drop]
    omega

theorem valid_nil (h : Heap α) : Valid h Slice.nil :=
  ⟨Nat.le_refl _, fun hcap => absurd hcap (Nat.lt_irrefl 0)⟩

theorem Valid.within_of_lt (hv : Valid h s) {i : Nat} (hi : i < s.len) :
    s.array < h.arrays.length ∧ s.offset + s.len ≤ (h.get s.array).length :=
  hv.within (by have := hv.len_le_cap; omega)

/-- A part of a header shows the part of its elements. -/
theorem toList_slice (s : Slice) {lo hi : Nat} (hhi : hi ≤ s.len) :
    h.toList (s.slice lo hi) = ((h.toList s).drop lo).take (hi - lo) := by
  simp only [Heap.toList, Slice.slice, List.drop_take, List.drop_drop, List.take_take]
  congr 1
  omega

/-! ## `append` -/

theorem toList_append (hv : Valid h s) (xs : List α) :
    (append h s xs).1.toList (append h s xs).2 = h.toList s ++ xs := by
  unfold append
  split_ifs with hfit
  · by_cases hcap : s.cap = 0
    · -- a nil header takes nothing in place
      have hlen : s.len = 0 := by have := hv.len_le_cap; omega
      have hxs : xs = [] := List.eq_nil_of_length_eq_zero (by omega)
      subst hxs
      simp [Heap.write_nil, Heap.toList, hlen]
    · obtain ⟨harr, hwithin⟩ := hv.within (Nat.pos_of_ne_zero hcap)
      show (((h.write s.array (s.offset + s.len) xs).get s.array).drop s.offset).take
          (s.len + xs.length) = h.toList s ++ xs
      rw [Heap.get_write_self harr]
      exact drop_take_splice hwithin
  · show (((h.alloc (h.toList s ++ xs)).get h.arrays.length).drop 0).take (s.len + xs.length) =
        h.toList s ++ xs
    rw [Heap.get_alloc_self, List.drop_zero, List.take_of_length_le (by simp [hv.length_toList])]

theorem valid_append (hv : Valid h s) (xs : List α) :
    Valid (append h s xs).1 (append h s xs).2 := by
  unfold append
  split_ifs with hfit
  · refine ⟨hfit, fun hcap => ?_⟩
    obtain ⟨harr, hwithin⟩ := hv.within hcap
    refine ⟨by simpa using harr, ?_⟩
    show s.offset + (s.len + xs.length) ≤ ((h.write s.array (s.offset + s.len) xs).get s.array).length
    rw [Heap.get_write_self harr]
    simp only [List.length_append, List.length_take, List.length_drop]
    omega
  · refine ⟨by simp only; omega, fun _ => ⟨by simp, ?_⟩⟩
    show 0 + (s.len + xs.length) ≤ ((h.alloc (h.toList s ++ xs)).get h.arrays.length).length
    rw [Heap.get_alloc_self]
    simp [hv.length_toList]

/-- A write through one header leaves the array of every header apart from it. -/
theorem get_append_of_apart (ht : Valid h t) (hst : Apart s t)
    (htcap : 0 < t.cap) (xs : List α) : (append h s xs).1.get t.array = h.get t.array := by
  unfold append
  split_ifs with hfit
  · by_cases hcap : s.cap = 0
    · have hxs : xs = [] := List.eq_nil_of_length_eq_zero (by omega)
      subst hxs
      rw [Heap.write_nil]
    · have hne : t.array ≠ s.array := by
        unfold Apart at hst
        omega
      exact Heap.get_write_of_ne hne _ _
  · exact Heap.get_alloc_of_lt (ht.within htcap).1 _

theorem toList_append_of_apart (ht : Valid h t) (hst : Apart s t)
    (xs : List α) : (append h s xs).1.toList t = h.toList t := by
  by_cases htcap : t.cap = 0
  · have hlen : t.len = 0 := by have := ht.len_le_cap; omega
    simp [Heap.toList, hlen]
  · simp only [Heap.toList, get_append_of_apart ht hst (Nat.pos_of_ne_zero htcap)]

theorem length_le_append (s : Slice) (xs : List α) :
    h.arrays.length ≤ (append h s xs).1.arrays.length := by
  unfold append
  split_ifs <;> simp

theorem valid_append_of_apart (ht : Valid h t) (hst : Apart s t)
    (xs : List α) : Valid (append h s xs).1 t := by
  refine ⟨ht.len_le_cap, fun htcap => ?_⟩
  obtain ⟨harr, hwithin⟩ := ht.within htcap
  rw [get_append_of_apart ht hst htcap]
  exact ⟨Nat.lt_of_lt_of_le harr (length_le_append s xs), hwithin⟩

theorem apart_append (ht : Valid h t) (hst : Apart s t) (xs : List α) :
    Apart (append h s xs).2 t := by
  unfold append
  split_ifs
  · exact hst
  · -- the fresh array is past every array a header points into
    by_cases htcap : t.cap = 0
    · exact Or.inr (Or.inl htcap)
    · exact Or.inr (Or.inr (Nat.ne_of_gt (ht.within (Nat.pos_of_ne_zero htcap)).1))

/-! ## Removing and replacing in place -/

variable {i : Nat}

/-- `append(s[:i], s[i+1:]...)` stays in place: it writes the later elements down from `i` and
shortens the header by one. -/
theorem removeAt_eq (hv : Valid h s) (hi : i < s.len) :
    removeAt h s i = (h.write s.array (s.offset + i) ((h.toList s).drop (i + 1)),
      { s with len := s.len - 1 }) := by
  have hrest : h.toList (s.slice (i + 1) s.len) = (h.toList s).drop (i + 1) := by
    rw [toList_slice s (Nat.le_refl _)]
    exact List.take_of_length_le (by simp [hv.length_toList])
  have hfit : (s.slice 0 i).len + (h.toList (s.slice (i + 1) s.len)).length ≤
      (s.slice 0 i).cap := by
    rw [hrest]
    simp only [Slice.slice, List.length_drop, hv.length_toList]
    have := hv.len_le_cap
    omega
  rw [removeAt, append, if_pos hfit, hrest]
  refine Prod.ext ?_ ?_
  · simp [Slice.slice]
  · simp only [Slice.slice, List.length_drop, hv.length_toList, Slice.mk.injEq, true_and]
    omega

theorem get_removeAt (hv : Valid h s) (hi : i < s.len) :
    (removeAt h s i).1.get s.array =
      (h.get s.array).take (s.offset + i) ++ (h.toList s).drop (i + 1) ++
        (h.get s.array).drop (s.offset + s.len - 1) := by
  obtain ⟨harr, -⟩ := hv.within_of_lt hi
  rw [removeAt_eq hv hi, Heap.get_write_self harr]
  simp only [List.length_drop, hv.length_toList]
  congr 2
  omega

theorem toList_removeAt (hv : Valid h s) (hi : i < s.len) :
    (removeAt h s i).1.toList (removeAt h s i).2 = (h.toList s).eraseIdx i := by
  obtain ⟨harr, hwithin⟩ := hv.within_of_lt hi
  rw [removeAt_eq hv hi]
  show (((h.write s.array (s.offset + i) ((h.toList s).drop (i + 1))).get s.array).drop
      s.offset).take (s.len - 1) = _
  have hlen : i + ((h.toList s).drop (i + 1)).length = s.len - 1 := by
    simp only [List.length_drop, hv.length_toList]
    omega
  rw [Heap.get_write_self harr, ← hlen, drop_take_splice (by omega),
    List.eraseIdx_eq_take_drop_succ]
  simp only [Heap.toList, List.take_take]
  congr 2
  omega

/-- After the removal, the array reads at position `j` what it read at `j + 1` between `i` and
the last position of the header, and elsewhere what it read before. -/
theorem getElem?_get_removeAt (hv : Valid h s) (hi : i < s.len) (j : Nat) :
    ((removeAt h s i).1.get s.array)[s.offset + j]? =
      if j < i ∨ s.len ≤ j + 1 then (h.get s.array)[s.offset + j]?
      else (h.get s.array)[s.offset + j + 1]? := by
  obtain ⟨-, hwithin⟩ := hv.within_of_lt hi
  have hprefix : ((h.get s.array).take (s.offset + i)).length = s.offset + i :=
    List.length_take_of_le (by omega)
  have hmiddle : ((h.toList s).drop (i + 1)).length = s.len - i - 1 := by
    simp only [List.length_drop, hv.length_toList]
    omega
  rw [get_removeAt hv hi]
  split_ifs with hj
  · rcases hj with hj | hj
    · rw [List.append_assoc, List.getElem?_append_left (by omega), List.getElem?_take_of_lt (by omega)]
    · rw [List.getElem?_append_right (by simp only [List.length_append]; omega),
        List.getElem?_drop]
      simp only [List.length_append, hprefix, hmiddle]
      congr 1
      omega
  · simp only [not_or, Nat.not_lt, Nat.not_le] at hj
    rw [List.append_assoc, List.getElem?_append_right (by omega),
      List.getElem?_append_left (by omega), List.getElem?_drop, hprefix,
      ← Heap.read_eq_getElem?_toList (by omega), Heap.read]
    congr 1
    omega

theorem get_set (hv : Valid h s) (hi : i < s.len) (x : α) :
    (set h s i x).get s.array = (h.get s.array).set (s.offset + i) x := by
  obtain ⟨harr, hwithin⟩ := hv.within_of_lt hi
  rw [set, Heap.get_write_self harr, List.set_eq_take_append_cons_drop, if_pos (by omega)]
  simp

theorem toList_set (hv : Valid h s) (hi : i < s.len) (x : α) :
    (set h s i x).toList s = (h.toList s).set i x := by
  rw [Heap.toList, Heap.toList, get_set hv hi, List.drop_set, if_neg (by omega), List.take_set,
    Nat.add_sub_cancel_left]

theorem get_set_of_ne {a : Nat} (ha : a ≠ s.array) (x : α) : (set h s i x).get a = h.get a :=
  Heap.get_write_of_ne ha _ _

/-- Writes within an array keep the length of every array, so every header stays valid. -/
theorem valid_write {a pos : Nat} {xs : List α} (hfit : pos + xs.length ≤ (h.get a).length)
    (ht : Valid h t) : Valid (h.write a pos xs) t := by
  refine ⟨ht.len_le_cap, fun htcap => ?_⟩
  obtain ⟨harr, hwithin⟩ := ht.within htcap
  refine ⟨by simpa using harr, ?_⟩
  by_cases hta : t.array = a
  · rw [hta] at harr hwithin ⊢
    rw [Heap.get_write_self harr]
    simp only [List.length_append, List.length_take, List.length_drop]
    omega
  · rw [Heap.get_write_of_ne hta]
    exact hwithin

theorem valid_set (hv : Valid h s) (hi : i < s.len) (x : α) (ht : Valid h t) :
    Valid (set h s i x) t := by
  obtain ⟨-, hwithin⟩ := hv.within_of_lt hi
  exact valid_write (by simp; omega) ht

theorem removeAt_fst (hv : Valid h s) (hi : i < s.len) :
    (removeAt h s i).1 = h.write s.array (s.offset + i) ((h.toList s).drop (i + 1)) := by
  rw [removeAt_eq hv hi]

theorem removeAt_snd (hv : Valid h s) (hi : i < s.len) :
    (removeAt h s i).2 = { s with len := s.len - 1 } := by
  rw [removeAt_eq hv hi]

theorem valid_removeAt (hv : Valid h s) (hi : i < s.len) (ht : Valid h t) :
    Valid (removeAt h s i).1 t := by
  obtain ⟨-, hwithin⟩ := hv.within_of_lt hi
  rw [removeAt_fst hv hi]
  exact valid_write (by simp only [List.length_drop, hv.length_toList]; omega) ht

theorem valid_removeAt_self (hv : Valid h s) (hi : i < s.len) :
    Valid (removeAt h s i).1 (removeAt h s i).2 := by
  have hv' := valid_removeAt hv hi hv
  rw [removeAt_snd hv hi]
  refine ⟨by have := hv.len_le_cap; simp only; omega, fun hcap => ?_⟩
  obtain ⟨harr, hwithin⟩ := hv'.within hcap
  exact ⟨harr, by simp only at hwithin ⊢; omega⟩

theorem get_removeAt_of_ne (hv : Valid h s) (hi : i < s.len) {b : Nat} (hb : b ≠ s.array) :
    (removeAt h s i).1.get b = h.get b := by
  rw [removeAt_fst hv hi, Heap.get_write_of_ne hb]

/-- A header apart from the one written through shows what it showed. -/
theorem toList_of_apart {h' : Heap α} (hs : 0 < s.cap) (ht : Valid h t) (hst : Apart s t)
    (hget : ∀ b, b ≠ s.array → h'.get b = h.get b) : h'.toList t = h.toList t := by
  rcases hst with hscap | htcap | hne
  · omega
  · have hlen : t.len = 0 := by have := ht.len_le_cap; omega
    simp [Heap.toList, hlen]
  · simp only [Heap.toList, hget t.array (Ne.symm hne)]

/-- Removing in place moves elements down within the header and leaves the rest of the array:
a property of every element at positions `lo ≤ j < n`, for `n` at least the length, stays
true. -/
theorem removeAt_preserves_segment (hv : Valid h s) (hi : i < s.len) {lo n : Nat}
    (hn : s.len ≤ n) {Q : α → Prop}
    (hseg : ∀ j y, lo ≤ j → j < n → (h.get s.array)[s.offset + j]? = some y → Q y) :
    ∀ j y, lo ≤ j → j < n → ((removeAt h s i).1.get s.array)[s.offset + j]? = some y → Q y := by
  intro j y hlo hjn hy
  rw [getElem?_get_removeAt hv hi] at hy
  split_ifs at hy with hj
  · exact hseg j y hlo hjn hy
  · rw [Nat.add_assoc] at hy
    exact hseg (j + 1) y (by omega) (by omega) hy

theorem set_preserves_segment (hv : Valid h s) (hi : i < s.len) {x : α} {lo n : Nat}
    {Q : α → Prop} (hx : Q x)
    (hseg : ∀ j y, lo ≤ j → j < n → (h.get s.array)[s.offset + j]? = some y → Q y) :
    ∀ j y, lo ≤ j → j < n → ((set h s i x).get s.array)[s.offset + j]? = some y → Q y := by
  intro j y hlo hjn hy
  rw [get_set hv hi, List.getElem?_set] at hy
  split_ifs at hy with hij
  · exact Option.some.inj hy ▸ hx
  · exact hseg j y hlo hjn hy

/-! ## `for range` -/

section Loops

variable {σ ε : Type*} {heap : σ → Heap α} {body : α → σ → σ} {st : σ}

theorem rangeStep_of_read {k : Nat} {x : α} (hx : (heap st).read s k = some x) :
    rangeStep heap s body st k = body x st := by
  rw [rangeStep, hx]

theorem foldl_range_succ (f : σ → Nat → σ) (st : σ) (k : Nat) :
    (List.range (k + 1)).foldl f st = f ((List.range k).foldl f st) k := by
  rw [List.range_succ, List.foldl_append]
  rfl

/-- The loop rule: an invariant at each index, kept by each pass of the loop. -/
theorem forRange_invariant (P : Nat → σ → Prop) (h0 : P 0 st)
    (hstep : ∀ k st, k < s.len → P k st → P (k + 1) (rangeStep heap s body st k)) :
    P s.len (forRange heap s body st) := by
  suffices hk : ∀ k ≤ s.len, P k ((List.range k).foldl (rangeStep heap s body) st) from
    hk s.len (Nat.le_refl _)
  intro k hk
  induction k with
  | zero => simpa using h0
  | succ k ih =>
    rw [foldl_range_succ]
    exact hstep k _ (by omega) (ih (by omega))

/-- The loop calls the body on exactly the elements of `l`, in order, when the invariant makes
the pass at index `k` act as the body on the `k`-th element of `l`. -/
theorem forRange_eq_foldl {l : List α} (hl : l.length = s.len) (P : Nat → σ → Prop)
    (h0 : P 0 st)
    (hstep : ∀ k st x, k < s.len → P k st → l[k]? = some x →
      rangeStep heap s body st k = body x st ∧ P (k + 1) (body x st)) :
    forRange heap s body st = l.foldl (fun st x => body x st) st := by
  suffices hk : ∀ k ≤ s.len, (List.range k).foldl (rangeStep heap s body) st =
      (l.take k).foldl (fun st x => body x st) st ∧
      P k ((l.take k).foldl (fun st x => body x st) st) by
    rw [forRange, (hk s.len (Nat.le_refl _)).1, ← hl, List.take_length]
  intro k hk
  induction k with
  | zero => simpa using h0
  | succ k ih =>
    obtain ⟨hfold, hP⟩ := ih (by omega)
    obtain ⟨x, hx⟩ : ∃ x, l[k]? = some x := Option.isSome_iff_exists.mp (by simp; omega)
    obtain ⟨hpass, hP'⟩ := hstep k _ x (by omega) hP hx
    rw [foldl_range_succ, hfold, hpass, List.take_add_one, hx]
    exact ⟨by simp, by simpa using hP'⟩

variable {body : α → σ → σ × Option ε}

@[simp] theorem callEach_nil (st : σ) : callEach body [] st = (st, none) := rfl

theorem callEach_cons (x : α) (xs : List α) (st : σ) :
    callEach body (x :: xs) st =
      if (body x st).2 = none then callEach body xs (body x st).1 else body x st := by
  rw [callEach]
  split <;> simp_all

/-- After an error the lifted body leaves the loop state alone. -/
theorem foldl_lift_of_error (l : List α) (acc : σ × Option ε) (hacc : acc.2 ≠ none) :
    l.foldl (fun acc x =>
      match acc.2 with
      | none => body x acc.1
      | some _ => acc) acc = acc := by
  induction l with
  | nil => rfl
  | cons x xs ih =>
    obtain ⟨st, _ | e⟩ := acc
    · exact absurd rfl hacc
    · exact ih

theorem foldl_lift_eq_callEach (l : List α) (st : σ) :
    l.foldl (fun acc x =>
      match acc.2 with
      | none => body x acc.1
      | some _ => acc) (st, none) = callEach body l st := by
  induction l generalizing st with
  | nil => rfl
  | cons x xs ih =>
    rw [List.foldl_cons, callEach_cons]
    split_ifs with herr
    · show List.foldl _ (body x st) xs = _
      rw [← ih]
      congr 1
      exact Prod.ext rfl herr
    · exact foldl_lift_of_error xs _ herr

/-- The loop with early return calls the body on exactly the elements of `l`, in order and up
to the first error, when on every state the invariant allows the array shows the `k`-th
element of `l` at index `k`. -/
theorem forRangeErr_eq_callEach {l : List α} (hl : l.length = s.len) (P : Nat → σ → Prop)
    (h0 : P 0 st)
    (hstep : ∀ k st x, k < s.len → P k st → l[k]? = some x →
      (heap st).read s k = some x ∧ ((body x st).2 = none → P (k + 1) (body x st).1)) :
    forRangeErr heap s body st = callEach body l st := by
  rw [forRangeErr, ← foldl_lift_eq_callEach]
  -- the invariant only speaks of the states before an error
  refine forRange_eq_foldl hl (fun k acc => acc.2 = none → P k acc.1) (fun _ => h0) ?_
  rintro k ⟨st', _ | e⟩ x hk hP hx
  · obtain ⟨hread, hnext⟩ := hstep k st' x hk (hP rfl) hx
    exact ⟨rangeStep_of_read hread, hnext⟩
  · refine ⟨?_, fun h => absurd h (by simp)⟩
    simp only [rangeStep]
    split <;> rfl

/-- The loop rule with early return: an invariant at each index, kept by each call of the body
that returns no error, and a property of the state that the invariant gives and that every
call of the body leaves, hold of the state the loop stops in. -/
theorem forRangeErr_invariant (P : Nat → σ → Prop) (Q : σ → Prop)
    (hPQ : ∀ k st, P k st → Q st) (h0 : P 0 st)
    (hstep : ∀ k st x, k < s.len → P k st → (heap st).read s k = some x →
      Q (body x st).1 ∧ ((body x st).2 = none → P (k + 1) (body x st).1))
    (hnone : ∀ k st, k < s.len → P k st → (heap st).read s k = none → P (k + 1) st) :
    Q (forRangeErr heap s body st).1 := by
  -- before an error the invariant holds at the index; after one, the state stays as it was left
  refine (forRange_invariant (fun k (acc : σ × Option ε) => (acc.2 = none → P k acc.1) ∧ Q acc.1)
    ⟨fun _ => h0, hPQ 0 st h0⟩ ?_).2
  rintro k ⟨st', _ | e⟩ hk ⟨hP, hQ⟩
  · have hP := hP rfl
    simp only [rangeStep]
    split
    · rename_i x hx
      exact ⟨(hstep k st' x hk hP hx).2, (hstep k st' x hk hP hx).1⟩
    · rename_i hx
      exact ⟨fun _ => hnone k st' hk hP hx, hQ⟩
  · simp only [rangeStep]
    split <;> exact ⟨fun h => absurd h (by simp), hQ⟩

/-- A body that never fails makes a loop that never fails. -/
theorem forRangeErr_snd_of_ok (hok : ∀ x st, (body x st).2 = none) :
    (forRangeErr heap s body st).2 = none := by
  refine forRange_invariant (fun _ (acc : σ × Option ε) => acc.2 = none) rfl ?_
  rintro k ⟨st', e⟩ hk (rfl : e = none)
  simp only [rangeStep]
  split
  · exact hok _ _
  · rfl

/-- The loop rule of `callEach`: what every call of the body keeps holds of the state the loop
stops in, after an error as well. -/
theorem callEach_invariant (Q : σ → Prop) (hstep : ∀ x st, Q st → Q (body x st).1)
    (l : List α) (st : σ) (h0 : Q st) : Q (callEach body l st).1 := by
  induction l generalizing st with
  | nil => exact h0
  | cons x xs ih =>
    rw [callEach_cons]
    split_ifs
    · exact ih _ (hstep x st h0)
    · exact hstep x st h0

/-- When whether a call fails does not depend on the state, the loop returns no error exactly
when no element makes the body fail. -/
theorem callEach_snd_eq_none_iff {err : α → Option ε} (herr : ∀ x st, (body x st).2 = err x)
    (l : List α) (st : σ) :
    (callEach body l st).2 = none ↔ ∀ x ∈ l, err x = none := by
  induction l generalizing st with
  | nil => simp
  | cons x xs ih =>
    rw [callEach_cons, herr]
    split_ifs with hx
    · rw [ih]
      simp [hx]
    · simp [herr, hx]

end Loops

/-! ## The first element that matches

Go code finds the first element of a slice that matches and removes or replaces it; on the
elements the slice shows that is `List.eraseP` and `replaceFirst`. -/

section FirstMatch

variable {p q : α → Bool} {y : α}

/-- The list with its first element that satisfies `p` replaced by `y`. -/
def replaceFirst (p : α → Bool) (y : α) : List α → List α
  | [] => []
  | x :: xs => if p x then y :: xs else x :: replaceFirst p y xs

theorem set_eq_replaceFirst {l : List α} {i : Nat} (hi : l.findIdx? p = some i) :
    l.set i y = replaceFirst p y l := by
  induction l generalizing i with
  | nil => simp at hi
  | cons x xs ih =>
    rw [List.findIdx?_cons] at hi
    by_cases hx : p x
    · simp only [hx, if_true, Option.some.injEq] at hi
      subst hi
      simp [replaceFirst, hx]
    · simp only [hx, Bool.false_eq_true, if_false, Option.map_eq_some_iff] at hi
      obtain ⟨i', hi', rfl⟩ := hi
      simp [replaceFirst, hx, ih hi']

theorem replaceFirst_of_forall {l : List α} (hl : ∀ x ∈ l, p x = false) :
    replaceFirst p y l = l := by
  induction l with
  | nil => rfl
  | cons x xs ih =>
    have hx : p x = false := hl x List.mem_cons_self
    simp [replaceFirst, hx, ih fun z hz => hl z (List.mem_cons_of_mem x hz)]

theorem mem_replaceFirst {l : List α} {x : α} (hx : x ∈ l) (hpx : p x = false) :
    x ∈ replaceFirst p y l := by
  induction l with
  | nil => simp at hx
  | cons z zs ih =>
    unfold replaceFirst
    rcases List.mem_cons.mp hx with rfl | hzs
    · simp [hpx]
    · split_ifs <;> simp [hzs, ih hzs]

/-- When every element that matches passes the filter, and so does `y`, replacing commutes with
the filter. -/
theorem filter_replaceFirst_of_imp (hpq : ∀ x, p x → q x) (hy : q y) (l : List α) :
    (replaceFirst p y l).filter q = replaceFirst p y (l.filter q) := by
  induction l with
  | nil => rfl
  | cons x xs ih =>
    by_cases hx : p x
    · simp [replaceFirst, hx, hy, hpq x hx]
    · by_cases hqx : q x <;> simp [replaceFirst, hx, hqx, ih]

/-- When no element that matches passes the filter, nor `y`, the filter does not see the
replacement. -/
theorem filter_replaceFirst_of_disjoint (hpq : ∀ x, p x → q x = false) (hy : q y = false)
    (l : List α) : (replaceFirst p y l).filter q = l.filter q := by
  induction l with
  | nil => rfl
  | cons x xs ih =>
    by_cases hx : p x
    · simp [replaceFirst, hx, hy, hpq x hx]
    · simp [replaceFirst, hx, List.filter_cons, ih]

theorem filter_eraseP_of_imp (hpq : ∀ x, p x → q x) (l : List α) :
    (l.eraseP p).filter q = (l.filter q).eraseP p := by
  have hp : (fun x => p x && q x) = p := by
    funext x
    by_cases hx : p x <;> simp [hx, hpq x]
  rw [List.eraseP_filter, hp]

theorem filter_eraseP_of_disjoint (hpq : ∀ x, p x → q x = false) (l : List α) :
    (l.eraseP p).filter q = l.filter q := by
  induction l with
  | nil => rfl
  | cons x xs ih =>
    by_cases hx : p x
    · simp [hx, hpq x hx]
    · simp [hx, List.filter_cons, ih]

end FirstMatch

end GoSlice
