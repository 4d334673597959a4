import Mathlib.Data.List.Basic

/-!
# Nested maps

A `map[string]interface{}` whose values are leaves or maps again, as Helm values are.  The
entries of a map are kept in a list with one entry per key; a map is read by the leaf it holds
at each path of keys (`leafAt`).

`mergeMap dst src` is the recursive, right-biased union: a key of `src` that both maps hold as
maps is merged, and any other value of `src` takes the place of the one in `dst`.  `nest path v`
is the map that holds only `v`, at `path`.  `leafAt_mergeMap_nest` says what merging such a
chain into a map does: it puts `v` at `path` and removes every leaf on a path that runs through
`path` or that `path` runs through.

A map is also read by the paths at which it holds a map (`nodeAt`).  Two maps whose keys are
distinct at every level (`DistinctKeys`) and that agree on both readings merge alike into any
map (`leafAt_mergeMap_congr`), whatever the order of their entries.
-/

namespace NestedMap

/-- A value of a nested map: a leaf, or a map again. -/
inductive Value (α : Type) where
  | leaf (v : α)
  | node (entries : List (String × Value α))
  deriving Repr

variable {α : Type}

/-- The value at key `k`. -/
def lookup (k : String) : List (String × Value α) → Option (Value α)
  | [] => none
  | (k', v) :: es => if k' = k then some v else lookup k es

/-- Sets key `k` to `f` of its value, or adds it at the end. -/
def upsert (k : String) (f : Option (Value α) → Value α) :
    List (String × Value α) → List (String × Value α)
  | [] => [(k, f none)]
  | (k', v') :: es => if k' = k then (k, f (some v')) :: es else (k', v') :: upsert k f es

mutual

/-- The right-biased union of two values: maps are merged, and anything else is replaced. -/
def mergeValue : Value α → Value α → Value α
  | .node d, .node s => .node (mergeMap d s)
  | _, s => s

/-- The right-biased union of two maps, key by key of the source. -/
def mergeMap : List (String × Value α) → List (String × Value α) → List (String × Value α)
  | dst, [] => dst
  | dst, (k, v) :: src =>
    mergeMap (upsert k (fun old =>
      match old with
      | some v' => mergeValue v' v
      | none => v) dst) src

end

/-- The leaf at a path of keys. -/
def leafAt : List (String × Value α) → List String → Option α
  | _, [] => none
  | es, k :: p =>
    match lookup k es with
    | some (.leaf v) => if p = [] then some v else none
    | some (.node es') => leafAt es' p
    | none => none

/-- The map that holds only `v`, at `path`. -/
def nest : List String → α → List (String × Value α)
  | [], _ => []
  | [t], v => [(t, .leaf v)]
  | t :: t' :: ts, v => [(t, .node (nest (t' :: ts) v))]

/-- Whether the value at a path of keys is a map. -/
def nodeAt : List (String × Value α) → List String → Bool
  | _, [] => false
  | es, k :: p =>
    match lookup k es with
    | some (.node es') => p.isEmpty || nodeAt es' p
    | _ => false

mutual

/-- Every map inside a value has distinct keys. -/
def Value.Distinct : Value α → Prop
  | .leaf _ => True
  | .node es => DistinctKeys es

/-- No key of the map comes twice, and every map inside it has distinct keys. -/
def DistinctKeys : List (String × Value α) → Prop
  | [] => True
  | (k, v) :: es => lookup k es = none ∧ v.Distinct ∧ DistinctKeys es

end

theorem lookup_upsert (j k : String) (f : Option (Value α) → Value α)
    (es : List (String × Value α)) :
    lookup j (upsert k f es) = if j = k then some (f (lookup k es)) else lookup j es := by
  induction es with
  | nil => by_cases hjk : j = k <;> simp [upsert, lookup, hjk, eq_comm]
  | cons e es ih =>
    obtain ⟨k', v'⟩ := e
    by_cases hk' : k' = k
    · subst hk'
      by_cases hjk : j = k' <;> simp [upsert, lookup, hjk, eq_comm]
    · simp only [upsert, hk', if_false, lookup, ih]
      by_cases hjk : j = k
      · subst hjk
        simp [hk']
      · simp [hjk]

@[simp] theorem leafAt_nil_path (es : List (String × Value α)) : leafAt es [] = none := by
  cases es <;> rfl

@[simp] theorem leafAt_empty (p : List String) : leafAt ([] : List (String × Value α)) p = none := by
  cases p <;> rfl

/-- A path that leaves the merged key reads the map as it was. -/
theorem leafAt_upsert_of_ne {k j : String} (hjk : j ≠ k) (f : Option (Value α) → Value α)
    (es : List (String × Value α)) (p : List String) :
    leafAt (upsert k f es) (j :: p) = leafAt es (j :: p) := by
  simp only [leafAt, lookup_upsert, hjk, if_false]

theorem mergeMap_singleton (dst : List (String × Value α)) (k : String) (v : Value α) :
    mergeMap dst [(k, v)] = upsert k (fun old =>
      match old with
      | some v' => mergeValue v' v
      | none => v) dst := by
  simp [mergeMap]

theorem mergeValue_leaf (old : Value α) (v : α) : mergeValue old (.leaf v) = .leaf v := by
  cases old <;> simp [mergeValue]

theorem mergeMap_nil_nest (path : List String) (v : α) : mergeMap [] (nest path v) = nest path v := by
  match path with
  | [] => simp [nest, mergeMap]
  | [t] => simp [nest, mergeMap, upsert]
  | t :: t' :: ts => simp [nest, mergeMap, upsert]

/-- The maps a merged chain meets below its first key: the old map at that key, or nothing. -/
def below (k : String) (dst : List (String × Value α)) : List (String × Value α) :=
  match lookup k dst with
  | some (.node es) => es
  | _ => []

theorem leafAt_cons_eq_below {k : String} {p : List String} (hp : p ≠ [])
    (dst : List (String × Value α)) : leafAt dst (k :: p) = leafAt (below k dst) p := by
  cases hk : lookup k dst with
  | none => simp [leafAt, below, hk]
  | some v =>
    cases v with
    | leaf w => simp [leafAt, below, hk, hp]
    | node es => simp [leafAt, below, hk]

/-- `upsert` reads `f` only at the value the map holds. -/
theorem upsert_congr {k : String} {f g : Option (Value α) → Value α}
    {es : List (String × Value α)} (h : f (lookup k es) = g (lookup k es)) :
    upsert k f es = upsert k g es := by
  induction es with
  | nil => simpa [upsert, lookup] using h
  | cons e es ih =>
    obtain ⟨k', v'⟩ := e
    by_cases hk : k' = k
    · subst hk
      simp only [lookup, if_true] at h
      simp [upsert, h]
    · simp only [lookup, hk, if_false] at h
      simp [upsert, hk, ih h]

/-- A chain of more than one key merges as the map at its first key, with the rest of the chain
merged into what the map held there. -/
theorem mergeMap_nest_cons_cons (j t : String) (ts : List String) (v : α)
    (dst : List (String × Value α)) :
    mergeMap dst (nest (j :: t :: ts) v) =
      upsert j (fun _ => .node (mergeMap (below j dst) (nest (t :: ts) v))) dst := by
  rw [nest, mergeMap_singleton]
  apply upsert_congr
  unfold below
  -- an old map takes the chain in; an old leaf or nothing gives way to the chain alone
  cases hj : lookup j dst with
  | none => simp [mergeMap_nil_nest]
  | some v' =>
    cases v' with
    | leaf w => simp [mergeValue, mergeMap_nil_nest]
    | node es => simp [mergeValue]

theorem below_mergeMap_nest_cons_cons (j t : String) (ts : List String) (v : α)
    (dst : List (String × Value α)) :
    below j (mergeMap dst (nest (j :: t :: ts) v)) =
      mergeMap (below j dst) (nest (t :: ts) v) := by
  simp [below, mergeMap_nest_cons_cons, lookup_upsert]

/-- **Merging a chain**: the merged map holds `v` at `path`, nothing on a path that runs
through `path` or that `path` runs through, and the old leaf everywhere else. -/
theorem leafAt_mergeMap_nest (path : List String) (hpath : path ≠ []) (v : α)
    (dst : List (String × Value α)) (p : List String) :
    leafAt (mergeMap dst (nest path v)) p =
      if p = path then some v
      else if p <+: path ∨ path <+: p then none
      else leafAt dst p := by
  induction path generalizing dst p with
  | nil => exact absurd rfl hpath
  | cons t ts ih =>
    -- the path is the first key and then, unless it ends there, a chain below it
    rcases p with _ | ⟨j, p⟩
    · simp
    by_cases hjt : j = t
    swap
    · have hrel : ¬ (j :: p <+: t :: ts ∨ t :: ts <+: j :: p) := by
        simp [List.cons_prefix_cons, hjt, Ne.symm hjt]
      cases ts with
      | nil =>
        simp only [nest, mergeMap_singleton, leafAt_upsert_of_ne hjt, hrel, if_false]
        simp [hjt]
      | cons t' ts =>
        simp only [nest, mergeMap_singleton, leafAt_upsert_of_ne hjt, hrel, if_false]
        simp [hjt]
    subst hjt
    cases ts with
    | nil =>
      simp only [nest, mergeMap_singleton, leafAt, lookup_upsert, if_true, mergeValue_leaf]
      cases lookup j dst <;> rcases p with _ | ⟨j', p⟩ <;> simp
    | cons t' ts =>
      rcases p with _ | ⟨j', p⟩
      · simp [mergeMap_nest_cons_cons, leafAt, lookup_upsert]
      · -- below the first key the rest of the chain merges into the old map there
        rw [leafAt_cons_eq_below (by simp) dst,
          @leafAt_cons_eq_below _ j (j' :: p) (by simp) _, below_mergeMap_nest_cons_cons,
          ih (by simp)]
        simp [List.cons_prefix_cons]

/-! ## Inner maps -/

@[simp] theorem nodeAt_nil_path (es : List (String × Value α)) : nodeAt es [] = false := by
  cases es <;> rfl

@[simp] theorem nodeAt_empty (p : List String) :
    nodeAt ([] : List (String × Value α)) p = false := by
  cases p <;> rfl

theorem nodeAt_cons_eq_below {k : String} {p : List String} (hp : p ≠ [])
    (dst : List (String × Value α)) : nodeAt dst (k :: p) = nodeAt (below k dst) p := by
  obtain ⟨j, p, rfl⟩ := List.exists_cons_of_ne_nil hp
  cases hk : lookup k dst with
  | none => simp [nodeAt, below, hk, lookup]
  | some v =>
    cases v with
    | leaf w => simp [nodeAt, below, hk, lookup]
    | node es => simp [nodeAt, below, hk]

/-- **Merging a chain, read by its maps**: the merged map holds a map on every path that `path`
runs through, none at `path` or below it, and the old maps everywhere else. -/
theorem nodeAt_mergeMap_nest (path : List String) (hpath : path ≠ []) (v : α)
    (dst : List (String × Value α)) (p : List String) :
    nodeAt (mergeMap dst (nest path v)) p =
      if p ≠ [] ∧ p <+: path ∧ p ≠ path then true
      else if p <+: path ∨ path <+: p then false
      else nodeAt dst p := by
  induction path generalizing dst p with
  | nil => exact absurd rfl hpath
  | cons t ts ih =>
    rcases p with _ | ⟨j, p⟩
    · simp
    by_cases hjt : j = t
    swap
    · -- a path that leaves the chain at its first key reads the old map
      have hrel : ¬ (j :: p <+: t :: ts ∨ t :: ts <+: j :: p) := by
        simp [List.cons_prefix_cons, hjt, Ne.symm hjt]
      have hlookup : lookup j (mergeMap dst (nest (t :: ts) v)) = lookup j dst := by
        cases ts with
        | nil => simp [nest, mergeMap_singleton, lookup_upsert, hjt]
        | cons t' ts => simp [mergeMap_nest_cons_cons, lookup_upsert, hjt]
      rw [if_neg (fun h => hrel (.inl h.2.1)), if_neg hrel]
      simp only [nodeAt, hlookup]
    subst hjt
    cases ts with
    | nil =>
      -- the chain ends in a leaf at its first key
      have hrel : j :: p <+: [j] ∨ [j] <+: j :: p := .inr (by simp [List.cons_prefix_cons])
      have hnot : ¬ (j :: p ≠ [] ∧ j :: p <+: [j] ∧ j :: p ≠ [j]) := by
        rintro ⟨-, hpre, hne⟩
        rcases p with _ | ⟨j', p⟩
        · exact hne rfl
        · simp [List.cons_prefix_cons] at hpre
      simp only [nest, mergeMap_singleton, nodeAt, lookup_upsert, if_true, mergeValue_leaf, hnot,
        hrel, if_false]
      cases lookup j dst <;> rfl
    | cons t' ts =>
      rcases p with _ | ⟨j', p⟩
      · simp [mergeMap_nest_cons_cons, nodeAt, lookup_upsert]
      · -- below the first key the rest of the chain merges into the old map there
        rw [nodeAt_cons_eq_below (by simp) dst,
          @nodeAt_cons_eq_below _ j (j' :: p) (by simp) _, below_mergeMap_nest_cons_cons,
          ih (by simp)]
        simp [List.cons_prefix_cons]

/-! ## Distinct keys -/

@[simp] theorem distinctKeys_nil : DistinctKeys ([] : List (String × Value α)) := trivial

theorem distinctKeys_cons {k : String} {v : Value α} {es : List (String × Value α)} :
    DistinctKeys ((k, v) :: es) ↔ lookup k es = none ∧ v.Distinct ∧ DistinctKeys es :=
  Iff.rfl

@[simp] theorem Value.distinct_leaf (w : α) : (Value.leaf w).Distinct := trivial

@[simp] theorem Value.distinct_node (es : List (String × Value α)) :
    (Value.node es).Distinct ↔ DistinctKeys es :=
  Iff.rfl

/-- Every value of a map with distinct keys has distinct keys inside. -/
theorem DistinctKeys.of_lookup {es : List (String × Value α)} (h : DistinctKeys es) {k : String}
    {v : Value α} (hk : lookup k es = some v) : v.Distinct := by
  induction es with
  | nil => simp [lookup] at hk
  | cons e es ih =>
    obtain ⟨k', v'⟩ := e
    obtain ⟨-, hv', hes⟩ := distinctKeys_cons.mp h
    by_cases hk' : k' = k
    · simp only [lookup, hk', if_true, Option.some.injEq] at hk
      exact hk ▸ hv'
    · simp only [lookup, hk', if_false] at hk
      exact ih hes hk

theorem DistinctKeys.below {dst : List (String × Value α)} (h : DistinctKeys dst) (k : String) :
    DistinctKeys (below k dst) := by
  unfold NestedMap.below
  split
  · rename_i es hes
    exact (h.of_lookup hes : (Value.node es).Distinct)
  · trivial

/-- Setting a key to a value with distinct keys inside keeps the keys distinct. -/
theorem DistinctKeys.upsert {es : List (String × Value α)} (h : DistinctKeys es) {k : String}
    {f : Option (Value α) → Value α} (hf : (f (lookup k es)).Distinct) :
    DistinctKeys (upsert k f es) := by
  induction es with
  | nil => exact ⟨rfl, hf, trivial⟩
  | cons e es ih =>
    obtain ⟨k', v'⟩ := e
    obtain ⟨hk', hv', hes⟩ := distinctKeys_cons.mp h
    by_cases hk : k' = k
    · subst hk
      simp only [lookup, if_true] at hf
      simp only [NestedMap.upsert, if_true]
      exact ⟨hk', hf, hes⟩
    · simp only [lookup, hk, if_false] at hf
      simp only [NestedMap.upsert, hk, if_false]
      refine ⟨?_, hv', ih hes hf⟩
      rw [lookup_upsert, if_neg hk]
      exact hk'

theorem distinctKeys_nest (path : List String) (v : α) : DistinctKeys (nest path v) := by
  match path with
  | [] => trivial
  | [t] => exact ⟨rfl, trivial, trivial⟩
  | t :: t' :: ts => exact ⟨rfl, distinctKeys_nest (t' :: ts) v, trivial⟩

/-- Merging a chain keeps the keys distinct. -/
theorem DistinctKeys.mergeMap_nest {dst : List (String × Value α)} (h : DistinctKeys dst)
    (path : List String) (v : α) : DistinctKeys (mergeMap dst (nest path v)) := by
  induction path generalizing dst with
  | nil => simpa [nest, mergeMap] using h
  | cons t ts ih =>
    cases ts with
    | nil =>
      rw [nest, mergeMap_singleton]
      apply h.upsert
      cases lookup t dst <;> simp [mergeValue_leaf]
    | cons t' ts =>
      rw [mergeMap_nest_cons_cons]
      exact h.upsert (ih (h.below t))

/-! ## Merging maps that read alike -/

/-- The value a merge leaves at a key of the source: the source's value merged into the old one.
The keys of the source must be distinct, or a later entry merges into an earlier one. -/
theorem lookup_mergeMap (k : String) (dst : List (String × Value α))
    {src : List (String × Value α)} (hsrc : DistinctKeys src) :
    lookup k (mergeMap dst src) =
      match lookup k src with
      | none => lookup k dst
      | some v => some (match lookup k dst with
        | some v' => mergeValue v' v
        | none => v) := by
  induction src generalizing dst with
  | nil => simp [mergeMap, lookup]
  | cons e src ih =>
    obtain ⟨k', v⟩ := e
    obtain ⟨hk', -, hsrc'⟩ := distinctKeys_cons.mp hsrc
    rw [mergeMap, ih _ hsrc']
    by_cases hk : k' = k
    · subst hk
      simp [hk', lookup, lookup_upsert]
    · simp [lookup, lookup_upsert, hk, Ne.symm hk]

/-- What two maps hold at a key, when they agree on their leaves and their inner maps below it. -/
theorem lookup_kind_eq {X Y : List (String × Value α)}
    (hleaf : ∀ p, leafAt X p = leafAt Y p) (hnode : ∀ p, nodeAt X p = nodeAt Y p) (k : String) :
    (lookup k X = none ↔ lookup k Y = none) ∧
      (∀ w, lookup k X = some (.leaf w) ↔ lookup k Y = some (.leaf w)) ∧
      ((∃ sx, lookup k X = some (.node sx)) ↔ ∃ sy, lookup k Y = some (.node sy)) := by
  have hl := hleaf [k]
  have hn := hnode [k]
  -- a key holds nothing, a leaf or a map, and the two readings at the key tell which
  cases hx : lookup k X with
  | none =>
    cases hy : lookup k Y with
    | none => simp
    | some vy =>
      cases vy with
      | leaf w => simp [leafAt, hx, hy] at hl
      | node sy => simp [nodeAt, hx, hy] at hn
  | some vx =>
    cases vx with
    | leaf w =>
      cases hy : lookup k Y with
      | none => simp [leafAt, hx, hy] at hl
      | some vy =>
        cases vy with
        | leaf w' =>
          simp only [leafAt, hx, hy, if_true, Option.some.injEq] at hl
          simp [hl]
        | node sy => simp [nodeAt, hx, hy] at hn
    | node sx =>
      cases hy : lookup k Y with
      | none => simp [nodeAt, hx, hy] at hn
      | some vy =>
        cases vy with
        | leaf w => simp [nodeAt, hx, hy] at hn
        | node sy => simp

/-- **Maps with distinct keys that hold the same leaves and the same inner maps merge alike into
any map**, whatever the order of their entries. -/
theorem leafAt_mergeMap_congr {X Y : List (String × Value α)} (hX : DistinctKeys X)
    (hY : DistinctKeys Y) (hleaf : ∀ p, leafAt X p = leafAt Y p)
    (hnode : ∀ p, nodeAt X p = nodeAt Y p) (dst : List (String × Value α)) (p : List String) :
    leafAt (mergeMap dst X) p = leafAt (mergeMap dst Y) p := by
  induction p generalizing X Y dst with
  | nil => simp
  | cons k p ih =>
    obtain ⟨hnone, hleafk, hnodek⟩ := lookup_kind_eq hleaf hnode k
    have hmx := lookup_mergeMap k dst hX
    have hmy := lookup_mergeMap k dst hY
    cases hx : lookup k X with
    | none =>
      have hy := hnone.mp hx
      simp only [leafAt, hmx, hmy, hx, hy]
    | some vx =>
      cases vx with
      | leaf w =>
        have hy := (hleafk w).mp hx
        simp only [leafAt, hmx, hmy, hx, hy]
      | node sx =>
        obtain ⟨sy, hy⟩ := hnodek.mp ⟨sx, hx⟩
        -- below the key the two inner maps read alike
        have hleaf' : ∀ q, leafAt sx q = leafAt sy q := by
          intro q
          rcases q with _ | ⟨j, q⟩
          · simp
          · simpa [leafAt, hx, hy] using hleaf (k :: j :: q)
        have hnode' : ∀ q, nodeAt sx q = nodeAt sy q := by
          intro q
          rcases q with _ | ⟨j, q⟩
          · simp
          · simpa [nodeAt, hx, hy] using hnode (k :: j :: q)
        have hsx : DistinctKeys sx := (hX.of_lookup hx : (Value.node sx).Distinct)
        have hsy : DistinctKeys sy := (hY.of_lookup hy : (Value.node sy).Distinct)
        simp only [leafAt, hmx, hmy, hx, hy]
        -- an old map takes either in; otherwise each stands alone
        cases hd : lookup k dst with
        | none => exact hleaf' p
        | some vd =>
          cases vd with
          | leaf w => exact hleaf' p
          | node d => exact ih hsx hsy hleaf' hnode' d

end NestedMap
