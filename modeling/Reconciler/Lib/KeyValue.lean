import Mathlib.Data.List.AList

/-!
# Maps with one value type

A Go `map[K]V` is modelled by an `AList` whose value type does not depend on the key.  Go
iterates a map in an unspecified order; `values` lists the values in the order the `AList`
keeps, and every statement below is about membership, so none depends on that order.

What the stateful models need: membership in `values` characterised through `lookup`, how
`insert`, `erase` and a filter on keys change the lookups, and what a loop of writes to single
keys leaves under each key (`lookup_foldl_write`).
-/

namespace KeyValue

variable {α β : Type*} [DecidableEq α]

/-- The values of a map. -/
def values (m : AList (fun _ : α => β)) : List β :=
  m.entries.map Sigma.snd

/-- The map restricted to the keys that pass a test, as a loop of `delete` calls leaves it. -/
def filterKeys (p : α → Bool) (m : AList (fun _ : α => β)) : AList (fun _ : α => β) :=
  ⟨m.entries.filter (fun e => p e.1), m.nodupKeys.sublist List.filter_sublist⟩

theorem mem_values {m : AList (fun _ : α => β)} {b : β} :
    b ∈ values m ↔ ∃ a, m.lookup a = some b := by
  simp only [values, List.mem_map]
  constructor
  · rintro ⟨⟨a, b'⟩, hmem, rfl⟩
    exact ⟨a, AList.mem_lookup_iff.2 hmem⟩
  · rintro ⟨a, h⟩
    exact ⟨⟨a, b⟩, AList.mem_lookup_iff.1 h, rfl⟩

theorem lookup_insert_eq (m : AList (fun _ : α => β)) (a a' : α) (b : β) :
    (m.insert a b).lookup a' = if a' = a then some b else m.lookup a' := by
  split_ifs with h
  · subst h
    exact AList.lookup_insert m
  · exact AList.lookup_insert_ne h

theorem lookup_erase_eq (m : AList (fun _ : α => β)) (a a' : α) :
    (m.erase a).lookup a' = if a' = a then none else m.lookup a' := by
  split_ifs with h
  · subst h
    exact AList.lookup_erase a' m
  · exact AList.lookup_erase_ne h

theorem lookup_filterKeys (p : α → Bool) (m : AList (fun _ : α => β)) (a : α) :
    (filterKeys p m).lookup a = if p a then m.lookup a else none := by
  cases hl : m.lookup a with
  | none =>
      rw [ite_self]
      rw [AList.lookup_eq_none] at hl ⊢
      intro hmem
      rw [AList.mem_keys, AList.keys, filterKeys] at hmem
      obtain ⟨e, he, rfl⟩ := List.mem_map.1 hmem
      exact hl (AList.mem_keys.2 (List.mem_map.2 ⟨e, (List.mem_filter.1 he).1, rfl⟩))
  | some b =>
      have hmem : (⟨a, b⟩ : Sigma (fun _ : α => β)) ∈ m.entries := AList.mem_lookup_iff.1 hl
      split_ifs with hp
      · exact AList.mem_lookup_iff.2 (List.mem_filter.2 ⟨hmem, hp⟩)
      · rw [AList.lookup_eq_none]
        intro hkey
        rw [AList.mem_keys, AList.keys, filterKeys] at hkey
        obtain ⟨⟨a', b'⟩, he, hkey⟩ := List.mem_map.1 hkey
        simp only at hkey
        subst hkey
        exact hp (List.mem_filter.1 he).2

/-- A value of a map after `insert` is the inserted one or one that was there before under
another key. -/
theorem mem_values_insert {m : AList (fun _ : α => β)} {a : α} {b x : β} :
    x ∈ values (m.insert a b) ↔ x = b ∨ ∃ a', a' ≠ a ∧ m.lookup a' = some x := by
  rw [mem_values]
  constructor
  · rintro ⟨a', h⟩
    rw [lookup_insert_eq] at h
    split_ifs at h with ha
    · exact Or.inl (Option.some.inj h).symm
    · exact Or.inr ⟨a', ha, h⟩
  · rintro (rfl | ⟨a', ha, h⟩)
    · exact ⟨a, AList.lookup_insert m⟩
    · exact ⟨a', by rw [lookup_insert_eq, if_neg ha, h]⟩

theorem mem_values_of_mem_erase {m : AList (fun _ : α => β)} {a : α} {x : β}
    (h : x ∈ values (m.erase a)) : x ∈ values m := by
  obtain ⟨a', h'⟩ := mem_values.1 h
  rw [lookup_erase_eq] at h'
  split_ifs at h'
  exact mem_values.2 ⟨a', h'⟩

theorem mem_values_filterKeys {p : α → Bool} {m : AList (fun _ : α => β)} {x : β} :
    x ∈ values (filterKeys p m) ↔ ∃ a, p a ∧ m.lookup a = some x := by
  rw [mem_values]
  constructor
  · rintro ⟨a, h⟩
    rw [lookup_filterKeys] at h
    split_ifs at h with hp
    exact ⟨a, hp, h⟩
  · rintro ⟨a, hp, h⟩
    exact ⟨a, by rw [lookup_filterKeys, if_pos hp, h]⟩

theorem values_insert_of_not_mem {m : AList (fun _ : α => β)} {a : α} {b : β} (h : a ∉ m) :
    values (m.insert a b) = b :: values m := by
  rw [values, AList.entries_insert, List.kerase_of_notMem_keys (AList.mem_keys.not.1 h)]
  rfl

/-- Inserting elements under distinct keys that are new to the map puts them in front of its
values. -/
theorem values_foldl_insert (key : β → α) (l : List β) (m : AList (fun _ : α => β))
    (hnd : (l.map key).Nodup) (hfresh : ∀ x ∈ l, key x ∉ m) :
    values (l.foldl (fun m x => m.insert (key x) x) m) = l.reverse ++ values m := by
  induction l generalizing m with
  | nil => simp
  | cons x l ih =>
      rw [List.map_cons, List.nodup_cons] at hnd
      -- the later keys are new to the map that holds `x`
      have hfresh' : ∀ y ∈ l, key y ∉ m.insert (key x) x := by
        intro y hy hmem
        rcases (AList.mem_insert m).1 hmem with heq | hm
        · exact hnd.1 (heq ▸ List.mem_map_of_mem hy)
        · exact hfresh y (List.mem_cons_of_mem _ hy) hm
      rw [List.foldl_cons, ih _ hnd.2 hfresh', values_insert_of_not_mem (hfresh x List.mem_cons_self)]
      simp

theorem lookup_of_lookup_filterKeys {p : α → Bool} {m : AList (fun _ : α => β)} {a : α} {b : β}
    (h : (filterKeys p m).lookup a = some b) : m.lookup a = some b := by
  rw [lookup_filterKeys] at h
  split_ifs at h
  exact h

/-- A value found after inserting the elements of `l` was inserted under its own key, or was
there before. -/
theorem lookup_foldl_insert {key : β → α} {l : List β} {m : AList (fun _ : α => β)} {a : α} {b : β}
    (h : (l.foldl (fun m x => m.insert (key x) x) m).lookup a = some b) :
    (b ∈ l ∧ key b = a) ∨ m.lookup a = some b := by
  induction l generalizing m with
  | nil => exact .inr h
  | cons x l ih =>
      rcases ih h with ⟨hb, hkey⟩ | hm
      · exact .inl ⟨List.mem_cons_of_mem _ hb, hkey⟩
      · rw [lookup_insert_eq] at hm
        split_ifs at hm with ha
        · cases hm
          exact .inl ⟨List.mem_cons_self, ha.symm⟩
        · exact .inr hm

omit [DecidableEq α] in
/-- **A loop of point writes.** Writes that each apply an idempotent `f` to the values under the
keys they touch, and leave the rest, apply `f` once under every key one of them touched.  The
store is anything with a lookup, so that a write may be a call of a repository that fails. -/
theorem lookup_foldl_write {ρ ι : Type*} (lookup : ρ → α → Option β) (f : β → β)
    (hf : ∀ b, f (f b) = f b) (write : ρ → ι → ρ) (touches : ι → α → Prop)
    [∀ i a, Decidable (touches i a)]
    (hwrite : ∀ r i a, lookup (write r i) a =
      if touches i a then (lookup r a).map f else lookup r a)
    (l : List ι) (r : ρ) (a : α) :
    lookup (l.foldl write r) a =
      if ∃ i ∈ l, touches i a then (lookup r a).map f else lookup r a := by
  induction l generalizing r with
  | nil => simp
  | cons i l ih =>
    rw [List.foldl_cons, ih, hwrite]
    by_cases hi : touches i a
    · -- a value the first write changed is not changed again
      have hagain : ((lookup r a).map f).map f = (lookup r a).map f := by
        rw [Option.map_map, show f ∘ f = f from funext hf]
      simp [hi, hagain]
    · simp [hi]

end KeyValue
