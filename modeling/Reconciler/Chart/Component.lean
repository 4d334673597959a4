import Mathlib.Data.List.Induction
import Mathlib.Data.List.Perm.Basic
import Reconciler.Lib.NestedMap

/-!
# The configuration of a component

`Component.Configuration` (`pkg/reconciler/chart/component.go`) turns the flat configuration of
a component, a Go map from dotted keys to values, into nested Helm values: in the iteration
order of the map, it merges the chain that `convertToNestedMap` builds of each entry into the
result, with `mergo.Merge` and `WithOverride`, taken here as the recursive right-biased union
(`NestedMap.mergeMap`).  The order is the one the Go map happens to iterate in, so the model
takes the entries in any order.

Two keys of which one is a dot-segment prefix of the other put a leaf and a map at the same
place, and the one merged last wins (`configuration_depends_on_order`).  Without such keys,
every order gives the map that holds each value at the segments of its key, no other leaf, and
a map on exactly the paths those segments run through; so the values `mergeChartConfiguration`
merges over the profile of the chart do not depend on the order either
(`configuration_of_prefixFree`).
-/

namespace Reconciler

open NestedMap

variable {α : Type}

/-- `strings.Split(key, ".")`. -/
def splitKey (key : String) : List String :=
  (key.toList.splitOn '.').map String.ofList

/-- `convertToNestedMap`: the chain of maps along the segments of the key, with the value at
its end. -/
def convertToNestedMap (key : String) (value : α) : List (String × Value α) :=
  nest (splitKey key) value

/-- `Component.Configuration`, over the entries of the configuration map in the order the loop
meets them.  `mergo.Merge` fails only on values of different types, which two maps are not. -/
def configuration (entries : List (String × α)) : List (String × Value α) :=
  entries.foldl (fun result e => mergeMap result (convertToNestedMap e.1 e.2)) []

/-- `HelmClient.mergeChartConfiguration`, from the profile values of the chart; the errors of
reading the profile are left out. -/
def mergeChartConfiguration (profile : List (String × Value α)) (entries : List (String × α)) :
    List (String × Value α) :=
  mergeMap profile (configuration entries)

/-- No key of the configuration is a dot-segment prefix of another. -/
def PrefixFree (c : List (String × α)) : Prop :=
  ∀ e ∈ c, ∀ e' ∈ c, e.1 ≠ e'.1 → ¬ splitKey e.1 <+: splitKey e'.1

theorem splitKey_ne_nil (key : String) : splitKey key ≠ [] := by
  simp [splitKey, List.splitOn_ne_nil]

theorem configuration_append_singleton (l : List (String × α)) (e : String × α) :
    configuration (l ++ [e]) = mergeMap (configuration l) (convertToNestedMap e.1 e.2) := by
  simp [configuration, List.foldl_append]

theorem PrefixFree.of_subset {c c' : List (String × α)} (hfree : PrefixFree c')
    (hsub : ∀ e ∈ c, e ∈ c') : PrefixFree c :=
  fun e he e' he' => hfree e (hsub e he) e' (hsub e' he')

/-- Of entries with distinct keys none of which is a dot-segment prefix of another, the segments
of an earlier key and of the last one are no prefixes of each other. -/
theorem PrefixFree.apart {l : List (String × α)} {e : String × α}
    (hdisj : ∀ a ∈ l.map Prod.fst, ∀ b ∈ [e].map Prod.fst, a ≠ b)
    (hfree : PrefixFree (l ++ [e]))
    {e' : String × α} (he' : e' ∈ l) :
    ¬ splitKey e'.1 <+: splitKey e.1 ∧ ¬ splitKey e.1 <+: splitKey e'.1 := by
  have hne : e'.1 ≠ e.1 := hdisj e'.1 (List.mem_map_of_mem he') e.1 (by simp)
  exact ⟨hfree e' (by simp [he']) e (by simp) hne,
    hfree e (by simp) e' (by simp [he']) (Ne.symm hne)⟩

/-- What the loop builds from entries with distinct keys none of which is a dot-segment prefix
of another: each value at the segments of its key, and no leaf on any other path. -/
theorem leafAt_configuration (l : List (String × α)) (hkeys : (l.map Prod.fst).Nodup)
    (hfree : PrefixFree l) (p : List String) :
    (∀ e ∈ l, splitKey e.1 = p → leafAt (configuration l) p = some e.2) ∧
      ((∀ e ∈ l, splitKey e.1 ≠ p) → leafAt (configuration l) p = none) := by
  induction l using List.reverseRecOn with
  | nil => simp [configuration]
  | append_singleton l e ih =>
    rw [List.map_append, List.nodup_append] at hkeys
    obtain ⟨hkeys', -, hdisj⟩ := hkeys
    -- the earlier keys differ from `e`'s, so their segments and `e`'s do not meet
    have hapart := fun e' (he' : e' ∈ l) => PrefixFree.apart hdisj hfree he'
    obtain ⟨ihsome, ihnone⟩ :=
      ih hkeys' (hfree.of_subset fun x hx => List.mem_append_left _ hx)
    have hstep : leafAt (configuration (l ++ [e])) p =
        if p = splitKey e.1 then some e.2
        else if p <+: splitKey e.1 ∨ splitKey e.1 <+: p then none
        else leafAt (configuration l) p := by
      rw [configuration_append_singleton]
      exact leafAt_mergeMap_nest _ (splitKey_ne_nil _) _ _ _
    -- no earlier key has segments that meet `e`'s
    have hnone_of_rel : (p = splitKey e.1 ∨ p <+: splitKey e.1 ∨ splitKey e.1 <+: p) →
        ∀ e' ∈ l, splitKey e'.1 ≠ p := by
      rintro hrel e' he' rfl
      obtain ⟨h₁, h₂⟩ := hapart e' he'
      rcases hrel with heq | hpre | hpre
      · exact h₁ (heq ▸ List.prefix_refl _)
      · exact h₁ hpre
      · exact h₂ hpre
    refine ⟨fun e' he' hp => ?_, fun hnot => ?_⟩
    · rcases List.mem_append.mp he' with he' | he'
      · -- an earlier entry: `e` leaves its path alone
        have hrel : ¬ (p = splitKey e.1 ∨ p <+: splitKey e.1 ∨ splitKey e.1 <+: p) :=
          fun hrel => hnone_of_rel hrel e' he' hp
        rw [hstep, if_neg (fun h => hrel (Or.inl h)), if_neg (fun h => hrel (Or.inr h))]
        exact ihsome e' he' hp
      · obtain rfl : e' = e := by simpa using he'
        rw [hstep, if_pos hp.symm]
    · by_cases hp : p = splitKey e.1
      · exact absurd hp.symm (hnot e (by simp))
      · rw [hstep, if_neg hp]
        split_ifs
        · rfl
        · exact ihnone fun e' he' => hnot e' (List.mem_append_left _ he')

/-- The loop builds a map on exactly the paths that the segments of a key run through, for
entries with distinct keys none of which is a dot-segment prefix of another. -/
theorem nodeAt_configuration (l : List (String × α)) (hkeys : (l.map Prod.fst).Nodup)
    (hfree : PrefixFree l) (p : List String) :
    nodeAt (configuration l) p = true ↔
      ∃ e ∈ l, p ≠ [] ∧ p <+: splitKey e.1 ∧ p ≠ splitKey e.1 := by
  induction l using List.reverseRecOn with
  | nil => simp [configuration]
  | append_singleton l e ih =>
    rw [List.map_append, List.nodup_append] at hkeys
    obtain ⟨hkeys', -, hdisj⟩ := hkeys
    have ih' := ih hkeys' (hfree.of_subset fun x hx => List.mem_append_left _ hx)
    rw [configuration_append_singleton, convertToNestedMap,
      nodeAt_mergeMap_nest _ (splitKey_ne_nil _) _ (configuration l) p]
    split_ifs with hthrough hmeet
    · -- the path runs through `e`'s segments
      simp only [true_iff]
      exact ⟨e, by simp, hthrough⟩
    · -- the path is `e`'s segments or below them, where no earlier key runs
      simp only [false_iff, not_exists, not_and]
      intro e' he' hp hpre hne
      have hat : splitKey e.1 <+: p := by
        rcases hmeet with h | h
        · have heq : p = splitKey e.1 := by
            by_contra hne'
            exact hthrough ⟨hp, h, hne'⟩
          exact heq ▸ List.prefix_refl _
        · exact h
      rcases List.mem_append.mp he' with he' | he'
      · exact (PrefixFree.apart hdisj hfree he').2 (hat.trans hpre)
      · obtain rfl : e' = e := by simpa using he'
        exact hne (hpre.eq_of_length (Nat.le_antisymm hpre.length_le hat.length_le))
    · -- elsewhere the earlier entries decide
      rw [ih']
      constructor
      · rintro ⟨e', he', h⟩
        exact ⟨e', List.mem_append_left _ he', h⟩
      · rintro ⟨e', he', h⟩
        rcases List.mem_append.mp he' with he' | he'
        · exact ⟨e', he', h⟩
        · obtain rfl : e' = e := by simpa using he'
          exact absurd h hthrough

theorem distinctKeys_configuration (l : List (String × α)) : DistinctKeys (configuration l) := by
  induction l using List.reverseRecOn with
  | nil => trivial
  | append_singleton l e ih =>
    rw [configuration_append_singleton]
    exact ih.mergeMap_nest _ _

section Orders

variable {c order₁ order₂ : List (String × α)}

theorem PrefixFree.perm (hfree : PrefixFree c) (h : order₁.Perm c) : PrefixFree order₁ :=
  hfree.of_subset fun _ he => h.mem_iff.mp he

/-- Two orders of entries with distinct keys, none a dot-segment prefix of another, build maps
with the same leaves. -/
theorem leafAt_configuration_perm (hkeys : (c.map Prod.fst).Nodup) (hfree : PrefixFree c)
    (h₁ : order₁.Perm c) (h₂ : order₂.Perm c) (p : List String) :
    leafAt (configuration order₁) p = leafAt (configuration order₂) p := by
  obtain ⟨hsome₁, hnone₁⟩ := leafAt_configuration order₁
    ((h₁.map Prod.fst).nodup_iff.mpr hkeys) (hfree.perm h₁) p
  obtain ⟨hsome₂, hnone₂⟩ := leafAt_configuration order₂
    ((h₂.map Prod.fst).nodup_iff.mpr hkeys) (hfree.perm h₂) p
  by_cases hkey : ∃ e ∈ c, splitKey e.1 = p
  · obtain ⟨e, he, hp⟩ := hkey
    rw [hsome₁ e (h₁.mem_iff.mpr he) hp, hsome₂ e (h₂.mem_iff.mpr he) hp]
  · simp only [not_exists, not_and] at hkey
    rw [hnone₁ fun e he => hkey e (h₁.mem_iff.mp he),
      hnone₂ fun e he => hkey e (h₂.mem_iff.mp he)]

/-- Two such orders build maps with the same inner maps. -/
theorem nodeAt_configuration_perm (hkeys : (c.map Prod.fst).Nodup) (hfree : PrefixFree c)
    (h₁ : order₁.Perm c) (h₂ : order₂.Perm c) (p : List String) :
    nodeAt (configuration order₁) p = nodeAt (configuration order₂) p := by
  rw [Bool.eq_iff_iff,
    nodeAt_configuration order₁ ((h₁.map Prod.fst).nodup_iff.mpr hkeys) (hfree.perm h₁),
    nodeAt_configuration order₂ ((h₂.map Prod.fst).nodup_iff.mpr hkeys) (hfree.perm h₂)]
  -- both orders hold the same entries
  exact ⟨fun ⟨e, he, h⟩ => ⟨e, h₂.mem_iff.mpr (h₁.mem_iff.mp he), h⟩,
    fun ⟨e, he, h⟩ => ⟨e, h₁.mem_iff.mpr (h₂.mem_iff.mp he), h⟩⟩

end Orders

/-- **Without keys that are dot-segment prefixes of others, the configuration does not depend
on the iteration order.**  For every configuration map with that property and every two orders
of its entries, the loop builds maps with the same leaf at every path: the value of the key
whose segments the path is, and none where there is no such key. -/
theorem configuration_of_prefixFree (c : List (String × α)) (hkeys : (c.map Prod.fst).Nodup)
    (hfree : PrefixFree c) (order₁ order₂ : List (String × α)) (h₁ : order₁.Perm c)
    (h₂ : order₂.Perm c) (p : List String) :
    leafAt (configuration order₁) p = leafAt (configuration order₂) p ∧
      (∀ e ∈ c, splitKey e.1 = p → leafAt (configuration order₁) p = some e.2) ∧
      ((∀ e ∈ c, splitKey e.1 ≠ p) → leafAt (configuration order₁) p = none) ∧
      ∀ profile : List (String × Value α),
        leafAt (mergeChartConfiguration profile order₁) p =
          leafAt (mergeChartConfiguration profile order₂) p := by
  obtain ⟨hsome, hnone⟩ := leafAt_configuration order₁
    ((h₁.map Prod.fst).nodup_iff.mpr hkeys) (hfree.perm h₁) p
  refine ⟨leafAt_configuration_perm hkeys hfree h₁ h₂ p,
    fun e he hp => hsome e (h₁.mem_iff.mpr he) hp,
    fun hnot => hnone fun e he => hnot e (h₁.mem_iff.mp he), fun profile => ?_⟩
  -- the profile takes in two configurations with the same leaves and the same inner maps
  exact leafAt_mergeMap_congr (distinctKeys_configuration order₁)
    (distinctKeys_configuration order₂) (leafAt_configuration_perm hkeys hfree h₁ h₂)
    (nodeAt_configuration_perm hkeys hfree h₁ h₂) profile p

/-- The configuration `a.b: 1, a.c: 2`, whose keys share a segment but are no prefixes. -/
def siblingConfiguration : List (String × Nat) := [("a.b", 1), ("a.c", 2)]

/-- Both orders of `a.b: 1, a.c: 2` hold `1` at `a`, `b`. -/
theorem configuration_of_prefixFree_siblings :
    leafAt (configuration siblingConfiguration) ["a", "b"] =
        leafAt (configuration siblingConfiguration.reverse) ["a", "b"] ∧
      (∀ e ∈ siblingConfiguration, splitKey e.1 = ["a", "b"] →
        leafAt (configuration siblingConfiguration) ["a", "b"] = some e.2) ∧
      ((∀ e ∈ siblingConfiguration, splitKey e.1 ≠ ["a", "b"]) →
        leafAt (configuration siblingConfiguration) ["a", "b"] = none) ∧
      ∀ profile : List (String × Value Nat),
        leafAt (mergeChartConfiguration profile siblingConfiguration) ["a", "b"] =
          leafAt (mergeChartConfiguration profile siblingConfiguration.reverse) ["a", "b"] :=
  configuration_of_prefixFree siblingConfiguration (by decide) (by unfold PrefixFree; decide) _ _
    (List.Perm.refl _) (List.reverse_perm _) ["a", "b"]

/-- The configuration `a: 1, a.b: 2`, whose first key is a dot-segment prefix of the second. -/
def prefixConfiguration : List (String × Nat) := [("a", 1), ("a.b", 2)]

/-- A key that is a dot-segment prefix of another makes the result depend on the order: merged
first, `a` is replaced by the map of `a.b`; merged last, it replaces that map. -/
theorem configuration_depends_on_order :
    leafAt (configuration prefixConfiguration) ["a"] = none ∧
      leafAt (configuration prefixConfiguration.reverse) ["a"] = some 1 := by
  constructor <;> rfl

end Reconciler
