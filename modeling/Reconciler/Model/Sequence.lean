import Reconciler.Model.Entity
import Mathlib.Data.List.Perm.Basic
import Mathlib.Data.List.Forall2
import Mathlib.Data.List.Nodup

/-!
# The reconciliation sequence

`ClusterConfigurationEntity.GetReconciliationSequence` (`pkg/model/clusterconfigentity.go`)
orders the components of a configuration into groups that the scheduler turns into
priorities: `CRDs` first, `cleaner` second when the cluster is being deleted, then one group
per `PreComponents` entry holding those of its names that are configured and not taken by an
earlier entry, and last every remaining component.

Two details of the source are kept visible:

* `cleanupComponent` is a package-level pointer whose `Configuration` slice grows by one
  `delete_strategy` entry on every call with a deleting status.  The model threads that slice
  through the call as `cleaner`.
* The remaining components are drained from a Go map, whose iteration order is unspecified.
  The model drains them in order of first insertion; the statements proved about the
  sequence do not depend on that order.
-/

namespace Reconciler

/-- `model.CRDComponent`. -/
def CRDComponent : String := "CRDs"

/-- `model.CleanupComponent`. -/
def CleanupComponent : String := "cleaner"

/-- `model.DeleteStrategyKey`. -/
def DeleteStrategyKey : String := "delete_strategy"

/-- The package-level `crdComponent`. -/
def crdComponent : Component :=
  { url := "", component := CRDComponent, configuration := [],
    componentNamespace := "default", version := "" }

/-- The package-level `cleanupComponent`, given the configuration it has accumulated. -/
def cleanupComponent (cleaner : List Configuration) : Component :=
  { url := "", component := CleanupComponent, configuration := cleaner,
    componentNamespace := "default", version := "" }

/-- `model.ReconciliationSequenceConfig`. -/
structure ReconciliationSequenceConfig where
  preComponents : List (List String)
  deleteStrategy : String
  reconciliationStatus : Status
  deriving DecidableEq, Repr

/-- `model.ReconciliationSequence`. -/
structure ReconciliationSequence where
  queue : List (List Component)
  preComponents : List (List String)
  deriving DecidableEq, Repr

/-- `newReconciliationSequence`: returns the sequence and the new value of
`cleanupComponent.Configuration`. -/
def newReconciliationSequence (cfg : ReconciliationSequenceConfig) (cleaner : List Configuration) :
    ReconciliationSequence × List Configuration :=
  if cfg.reconciliationStatus.isDeletionInProgress then
    let strategy : Configuration :=
      { key := DeleteStrategyKey, secret := false, value := cfg.deleteStrategy }
    let cleaner' := cleaner ++ [strategy]
    ({ queue := [[crdComponent], [cleanupComponent cleaner']],
       preComponents := cfg.preComponents }, cleaner')
  else
    ({ queue := [[crdComponent]], preComponents := cfg.preComponents }, cleaner)

/-! ## `addComponents` -/

/-- `result[component.Component] = component` on the name-indexed cache. -/
def cacheInsert (c : Component) : List Component → List Component
  | [] => [c]
  | d :: rest => if d.component = c.component then c :: rest else d :: cacheInsert c rest

/-- The `compsByNameCache` closure of `addComponents`. -/
def compsByNameCache (components : List Component) : List Component :=
  components.foldl (fun cache c => cacheInsert c cache) []

/-- The inner loop of `addComponents` over one `PreComponents` group: move every name found
in the cache into the group, deleting it from the cache. -/
def takePreComponents : List String → List Component → List Component × List Component
  | [], cache => ([], cache)
  | name :: names, cache =>
      match cache.find? (fun c => c.component = name) with
      | some preComp =>
          let rest := takePreComponents names (cache.filter (fun c => c.component ≠ preComp.component))
          (preComp :: rest.1, rest.2)
      | none => takePreComponents names cache

/-- The outer loop of `addComponents`: one queue entry per group that found a member. -/
def addPreComponents : List (List String) → List Component → List (List Component) × List Component
  | [], cache => ([], cache)
  | group :: groups, cache =>
      let taken := takePreComponents group cache
      let rest := addPreComponents groups taken.2
      (if taken.1 = [] then rest.1 else taken.1 :: rest.1, rest.2)

/-- `ReconciliationSequence.addComponents`. -/
def ReconciliationSequence.addComponents (rs : ReconciliationSequence)
    (components : List Component) : ReconciliationSequence :=
  let pre := addPreComponents rs.preComponents (compsByNameCache components)
  { rs with queue := rs.queue ++ pre.1 ++ (if pre.2 = [] then [] else [pre.2]) }

/-- `ClusterConfigurationEntity.GetReconciliationSequence`. -/
def ClusterConfigurationEntity.getReconciliationSequence (c : ClusterConfigurationEntity)
    (cfg : ReconciliationSequenceConfig) (cleaner : List Configuration) :
    ReconciliationSequence × List Configuration :=
  let seq := newReconciliationSequence cfg cleaner
  (seq.1.addComponents c.components, seq.2)

/-! ## What the sequence holds

For a configuration whose component names are distinct, the name cache is the component list
itself, every `PreComponents` group collects the configured components it lists that no
earlier group took, and the rest form the last group.  The groups hold these components up to
order: the last one is drained from a Go map. -/

open scoped List

/-- The names of a list of components. -/
def componentNames (cs : List Component) : List String :=
  cs.map (·.component)

@[simp] theorem mem_componentNames {cs : List Component} {n : String} :
    n ∈ componentNames cs ↔ ∃ c ∈ cs, c.component = n := by
  simp [componentNames]

/-- The configured components of every `PreComponents` group that no earlier group lists. -/
def preGroupMembers (components : List Component) : List (List String) → List (List Component)
  | [] => []
  | group :: groups =>
      components.filter (fun c => c.component ∈ group) ::
        preGroupMembers (components.filter (fun c => c.component ∉ group)) groups

/-- The queue the sequence prescribes, group by group. -/
def prescribedQueue (components : List Component) (cfg : ReconciliationSequenceConfig)
    (cleaner : List Configuration) : List (List Component) :=
  let rest := components.filter (fun c => c.component ∉ cfg.preComponents.flatten)
  (newReconciliationSequence cfg cleaner).1.queue ++
    (preGroupMembers components cfg.preComponents).filter (· ≠ []) ++
    (if rest = [] then [] else [rest])

theorem cacheInsert_of_not_mem {c : Component} {cache : List Component}
    (h : c.component ∉ componentNames cache) : cacheInsert c cache = cache ++ [c] := by
  induction cache with
  | nil => rfl
  | cons d rest ih =>
      have hd : d.component ≠ c.component := fun hdc => h (by simp [componentNames, hdc])
      have hrest : c.component ∉ componentNames rest := fun hc => h (by
        simp only [componentNames, List.map_cons, List.mem_cons] at hc ⊢
        exact Or.inr hc)
      rw [cacheInsert, if_neg hd, ih hrest, List.cons_append]

/-- Filling the cache from distinct names appends every component once. -/
theorem foldl_cacheInsert (l cache : List Component) (h : (componentNames (cache ++ l)).Nodup) :
    l.foldl (fun cache c => cacheInsert c cache) cache = cache ++ l := by
  induction l generalizing cache with
  | nil => simp
  | cons c l ih =>
      have hnd : (componentNames cache ++ c.component :: componentNames l).Nodup := by
        simpa [componentNames] using h
      have hc : c.component ∉ componentNames cache :=
        fun hc => (List.nodup_append.1 hnd).2.2 _ hc _ List.mem_cons_self rfl
      rw [List.foldl_cons, cacheInsert_of_not_mem hc, ih]
      · simp
      · simpa [componentNames] using h

theorem compsByNameCache_of_nodup {components : List Component}
    (h : (componentNames components).Nodup) : compsByNameCache components = components := by
  rw [compsByNameCache, foldl_cacheInsert _ _ (by simpa using h), List.nil_append]

/-- The components `takePreComponents` moves into a group, and what it leaves in the cache. -/
theorem takePreComponents_spec (group : List String) (cache : List Component)
    (h : (componentNames cache).Nodup) :
    (takePreComponents group cache).1.Nodup ∧
      (∀ c, c ∈ (takePreComponents group cache).1 ↔ c ∈ cache ∧ c.component ∈ group) ∧
      (takePreComponents group cache).2 = cache.filter (fun c => c.component ∉ group) := by
  induction group generalizing cache with
  | nil => simp [takePreComponents]
  | cons name names ih =>
      rw [takePreComponents]
      cases hfind : cache.find? (fun c => c.component = name) with
      | none =>
          -- no configured component carries `name`: the loop moves on
          have hnone : ∀ c ∈ cache, c.component ≠ name := by
            intro c hc hcn
            exact absurd (List.find?_eq_none.1 hfind c hc) (by simp [hcn])
          obtain ⟨hnd, hmem, hrest⟩ := ih cache h
          refine ⟨hnd, fun c => ?_, ?_⟩
          · rw [hmem]
            constructor
            · exact fun ⟨hc, hn⟩ => ⟨hc, List.mem_cons_of_mem _ hn⟩
            · rintro ⟨hc, hn⟩
              exact ⟨hc, (List.mem_cons.1 hn).resolve_left (hnone c hc)⟩
          · rw [hrest]
            refine List.filter_congr fun c hc => ?_
            simp [hnone c hc]
      | some pre =>
          -- `pre` is the one component named `name`; it leaves the cache
          have hpre : pre ∈ cache := List.mem_of_find?_eq_some hfind
          have hname : pre.component = name := by simpa using List.find?_some hfind
          have hinj : ∀ c ∈ cache, c.component = name → c = pre := fun c hc hcn =>
            List.inj_on_of_nodup_map h hc hpre (hcn.trans hname.symm)
          have hsub : (componentNames (cache.filter (fun c => c.component ≠ pre.component))).Nodup :=
            (h.sublist (List.filter_sublist.map _))
          obtain ⟨hnd, hmem, hrest⟩ := ih _ hsub
          refine ⟨List.nodup_cons.2 ⟨fun hin => ?_, hnd⟩, fun c => ?_, ?_⟩
          · simpa using ((hmem pre).1 hin).1
          · rw [List.mem_cons, hmem, List.mem_filter]
            constructor
            · rintro (rfl | ⟨⟨hc, -⟩, hn⟩)
              · exact ⟨hpre, by simp [hname]⟩
              · exact ⟨hc, List.mem_cons_of_mem _ hn⟩
            · rintro ⟨hc, hn⟩
              by_cases hcn : c.component = name
              · exact Or.inl (hinj c hc hcn)
              · exact Or.inr ⟨⟨hc, by simp [hname, hcn]⟩, (List.mem_cons.1 hn).resolve_left hcn⟩
          · simp only
            rw [hrest, List.filter_filter]
            refine List.filter_congr fun c _ => ?_
            simp [hname, Bool.and_comm]

/-- `addPreComponents` forms the non-empty groups of `preGroupMembers`, up to order inside a
group, and leaves the components no group lists. -/
theorem addPreComponents_spec (groups : List (List String)) (cache : List Component)
    (h : (componentNames cache).Nodup) :
    List.Forall₂ (· ~ ·) (addPreComponents groups cache).1
        ((preGroupMembers cache groups).filter (· ≠ [])) ∧
      (addPreComponents groups cache).2 =
        cache.filter (fun c => c.component ∉ groups.flatten) := by
  induction groups generalizing cache with
  | nil => simp [addPreComponents, preGroupMembers]
  | cons group groups ih =>
      obtain ⟨hnd, hmem, hrest⟩ := takePreComponents_spec group cache h
      have hcache : cache.Nodup := List.Nodup.of_map Component.component h
      have hperm : (takePreComponents group cache).1 ~ cache.filter (fun c => c.component ∈ group) :=
        (List.perm_ext_iff_of_nodup hnd (hcache.filter _)).2 fun c => by
          rw [hmem, List.mem_filter, decide_eq_true_iff]
      have hsub : (componentNames (takePreComponents group cache).2).Nodup := by
        rw [hrest]
        exact h.sublist (List.filter_sublist.map _)
      obtain ⟨hfst, hsnd⟩ := ih _ hsub
      rw [hrest] at hfst hsnd
      refine ⟨?_, ?_⟩
      · simp only [addPreComponents, preGroupMembers, List.filter_cons, hrest]
        -- the group is dropped exactly when none of its names is configured
        by_cases hnil : cache.filter (fun c => c.component ∈ group) = []
        · have htaken : (takePreComponents group cache).1 = [] := by
            rw [hnil] at hperm
            exact hperm.eq_nil
          simpa [hnil, htaken] using hfst
        · have htaken : (takePreComponents group cache).1 ≠ [] := by
            intro ht
            rw [ht] at hperm
            exact hnil hperm.nil_eq.symm
          simpa [hnil, htaken] using List.Forall₂.cons hperm hfst
      · simp only [addPreComponents, hrest]
        rw [hsnd, List.filter_filter]
        refine List.filter_congr fun c _ => ?_
        simp [Bool.and_comm, not_or]

/-- For distinct component names, the queue of the sequence is the prescribed queue, each
group up to order. -/
theorem getReconciliationSequence_queue (c : ClusterConfigurationEntity)
    (cfg : ReconciliationSequenceConfig) (cleaner : List Configuration)
    (h : (componentNames c.components).Nodup) :
    List.Forall₂ (· ~ ·) (c.getReconciliationSequence cfg cleaner).1.queue
      (prescribedQueue c.components cfg cleaner) := by
  obtain ⟨hpre, hrest⟩ := addPreComponents_spec cfg.preComponents c.components h
  have hinit : (newReconciliationSequence cfg cleaner).1.preComponents = cfg.preComponents := by
    unfold newReconciliationSequence
    split_ifs <;> rfl
  simp only [ClusterConfigurationEntity.getReconciliationSequence,
    ReconciliationSequence.addComponents, prescribedQueue, compsByNameCache_of_nodup h, hinit,
    hrest]
  refine List.rel_append (List.rel_append ?_ hpre) ?_
  · exact List.forall₂_same.2 fun _ _ => List.Perm.refl _
  · split_ifs
    · exact List.Forall₂.nil
    · exact List.Forall₂.cons (List.Perm.refl _) List.Forall₂.nil

/-! ## Calls in one process

`cleanupComponent` is shared by every call of the process: a call starts from the
`Configuration` the earlier calls with a deleting status left on it. -/

/-- The `delete_strategy` entry a deleting call appends to `cleanupComponent.Configuration`. -/
def deleteStrategyEntry (strategy : String) : Configuration :=
  { key := DeleteStrategyKey, secret := false, value := strategy }

/-- `cleanupComponent.Configuration` after a run of calls of `GetReconciliationSequence` in one
process, from its initial empty value. -/
def cleanerAfter (calls : List (ClusterConfigurationEntity × ReconciliationSequenceConfig)) :
    List Configuration :=
  calls.foldl (fun cleaner call => (call.1.getReconciliationSequence call.2 cleaner).2) []

/-- The strategies that the deleting calls of a run append, in order. -/
def deleteStrategies (calls : List (ClusterConfigurationEntity × ReconciliationSequenceConfig)) :
    List Configuration :=
  (calls.filter fun call => call.2.reconciliationStatus.isDeletionInProgress).map
    fun call => deleteStrategyEntry call.2.deleteStrategy

theorem getReconciliationSequence_snd (c : ClusterConfigurationEntity)
    (cfg : ReconciliationSequenceConfig) (cleaner : List Configuration) :
    (c.getReconciliationSequence cfg cleaner).2 = cleaner ++
      if cfg.reconciliationStatus.isDeletionInProgress then [deleteStrategyEntry cfg.deleteStrategy]
      else [] := by
  unfold ClusterConfigurationEntity.getReconciliationSequence newReconciliationSequence
  split_ifs <;> simp [deleteStrategyEntry]

theorem foldl_getReconciliationSequence_snd
    (calls : List (ClusterConfigurationEntity × ReconciliationSequenceConfig))
    (cleaner : List Configuration) :
    calls.foldl (fun cleaner call => (call.1.getReconciliationSequence call.2 cleaner).2) cleaner =
      cleaner ++ deleteStrategies calls := by
  induction calls generalizing cleaner with
  | nil => simp [deleteStrategies]
  | cons call calls ih =>
    rw [List.foldl_cons, ih, getReconciliationSequence_snd]
    by_cases hdel : call.2.reconciliationStatus.isDeletionInProgress
    · simp [deleteStrategies, hdel]
    · simp [deleteStrategies, hdel]

theorem cleanerAfter_eq (calls : List (ClusterConfigurationEntity × ReconciliationSequenceConfig)) :
    cleanerAfter calls = deleteStrategies calls := by
  rw [cleanerAfter, foldl_getReconciliationSequence_snd, List.nil_append]

/-- The second group of a deleting call's queue is the shared cleaner component, with the
configuration the call leaves on it. -/
theorem getReconciliationSequence_cleaner (c : ClusterConfigurationEntity)
    (cfg : ReconciliationSequenceConfig) (cleaner : List Configuration)
    (hdel : cfg.reconciliationStatus = Status.deleting) :
    (c.getReconciliationSequence cfg cleaner).1.queue[1]? =
      some [cleanupComponent (cleaner ++ [deleteStrategyEntry cfg.deleteStrategy])] := by
  have hin : cfg.reconciliationStatus.isDeletionInProgress = true := by simp [hdel]
  simp [ClusterConfigurationEntity.getReconciliationSequence, newReconciliationSequence, hin,
    ReconciliationSequence.addComponents, deleteStrategyEntry]

/-- **The cleaner of a deleting call carries the strategies of every earlier deleting call of
the process.**  After any run of calls, a call with a deleting status puts into its queue the
shared cleaner component, whose configuration holds one `delete_strategy` entry per earlier
deleting call and then its own. -/
theorem getReconciliationSequence_cleaner_accumulates
    (calls : List (ClusterConfigurationEntity × ReconciliationSequenceConfig))
    (c : ClusterConfigurationEntity) (cfg : ReconciliationSequenceConfig)
    (hdel : cfg.reconciliationStatus = Status.deleting) :
    (c.getReconciliationSequence cfg (cleanerAfter calls)).1.queue[1]? =
      some [cleanupComponent (deleteStrategies calls ++ [deleteStrategyEntry cfg.deleteStrategy])] := by
  rw [getReconciliationSequence_cleaner c cfg _ hdel, cleanerAfter_eq]

/-- The configuration of a deleting call with the strategy `system`. -/
def deletingSequenceConfig : ReconciliationSequenceConfig :=
  { preComponents := [], deleteStrategy := "system", reconciliationStatus := Status.deleting }

/-- The second of two deleting calls of one process gets a cleaner with two `delete_strategy`
entries, where the first call got one. -/
theorem getReconciliationSequence_cleaner_second_call :
    (({} : ClusterConfigurationEntity).getReconciliationSequence deletingSequenceConfig
        (cleanerAfter [({}, deletingSequenceConfig)])).1.queue[1]? =
      some [cleanupComponent [deleteStrategyEntry "system", deleteStrategyEntry "system"]] := by
  rw [getReconciliationSequence_cleaner_accumulates [({}, deletingSequenceConfig)] {}
    deletingSequenceConfig rfl]
  rfl

end Reconciler
