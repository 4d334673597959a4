import Mathlib.Algebra.GroupWithZero.Nat
import Reconciler.Scheduler.Persistent

/-!
# The operations of a new reconciliation

`CreateReconciliation` turns the reconciliation sequence of a cluster configuration into
operations: the `idx`-th group of the queue becomes operations of priority `idx + 1`, one per
component, each with a correlation ID of its own.  Both repositories run the same loop.

`PrescribedOperations` says what a reconciliation is meant to start with, in terms of the
configured component names: `CRDs` alone first, `cleaner` alone second when the sequence is
built for a deletion, then one group for each `PreComponents` entry that lists configured
components no earlier entry listed, then one group of everything no entry lists.
`createReconciliation_prescribed` proves that both repositories store exactly that.
-/

namespace Reconciler

open OperationState KeyValue
open scoped List

/-! ## What a reconciliation starts with -/

/-- The configured names of each `PreComponents` group that no earlier group lists. -/
def preGroupNames (names : List String) : List (List String) → List (List String)
  | [] => []
  | group :: groups =>
      names.filter (· ∈ group) :: preGroupNames (names.filter (· ∉ group)) groups

/-- The groups of component names a reconciliation runs, in order. -/
def prescribedGroups (names : List String) (deleting : Bool) (pre : List (List String)) :
    List (List String) :=
  let rest := names.filter (· ∉ pre.flatten)
  [CRDComponent] :: ((if deleting then [[CleanupComponent]] else []) ++
    (preGroupNames names pre).filter (· ≠ []) ++ (if rest = [] then [] else [rest]))

/-- Priority and name of every member of the groups, the first group at priority `p`. -/
def withPriorities : List (List String) → Int → List (Int × String)
  | [], _ => []
  | group :: groups, p => group.map (fun n => (p, n)) ++ withPriorities groups (p + 1)

/-- The operations a new reconciliation of `state` under `cfg` is meant to hold. -/
structure PrescribedOperations (state : ClusterState) (cfg : ReconciliationSequenceConfig)
    (schedulingID : String) (ops : List OperationEntity) : Prop where
  /-- All are new operations of the reconciliation, deleting when the cluster is. -/
  new_of_reconciliation : ∀ op ∈ ops, op.schedulingID = schedulingID ∧ op.state = new ∧
    (op.type = .delete ↔ state.status.status = .deleting)
  /-- Their correlation IDs are pairwise distinct. -/
  correlationID_nodup : (ops.map (·.correlationID)).Nodup
  /-- One operation per member of a group, with the group's priority. -/
  groups : ops.map (fun op => (op.priority, op.component)) ~
    withPriorities (prescribedGroups (componentNames state.configuration.components)
      cfg.reconciliationStatus.isDeletionInProgress cfg.preComponents) 1

theorem PrescribedOperations.perm {state : ClusterState} {cfg : ReconciliationSequenceConfig}
    {schedulingID : String} {ops ops' : List OperationEntity} (hperm : ops ~ ops')
    (h : PrescribedOperations state cfg schedulingID ops) :
    PrescribedOperations state cfg schedulingID ops' where
  new_of_reconciliation op hop := h.new_of_reconciliation op (hperm.symm.subset hop)
  correlationID_nodup := (hperm.map _).nodup_iff.1 h.correlationID_nodup
  groups := (hperm.map _).symm.trans h.groups

/-! ## The prescribed groups are the sequence's -/

theorem map_preGroupMembers (components : List Component) (pre : List (List String)) :
    (preGroupMembers components pre).map componentNames =
      preGroupNames (componentNames components) pre := by
  induction pre generalizing components with
  | nil => rfl
  | cons group groups ih =>
      simp only [preGroupMembers, preGroupNames, List.map_cons, ih, componentNames,
        List.filter_map]
      rfl

theorem componentNames_eq_nil {cs : List Component} : componentNames cs = [] ↔ cs = [] := by
  simp [componentNames]

theorem map_newReconciliationSequence_queue (cfg : ReconciliationSequenceConfig)
    (cleaner : List Configuration) :
    (newReconciliationSequence cfg cleaner).1.queue.map componentNames =
      [CRDComponent] ::
        (if cfg.reconciliationStatus.isDeletionInProgress then [[CleanupComponent]] else []) := by
  unfold newReconciliationSequence
  split_ifs <;> rfl

/-- The names of the prescribed queue are the prescribed groups. -/
theorem map_prescribedQueue (components : List Component) (cfg : ReconciliationSequenceConfig)
    (cleaner : List Configuration) :
    (prescribedQueue components cfg cleaner).map componentNames =
      prescribedGroups (componentNames components) cfg.reconciliationStatus.isDeletionInProgress
        cfg.preComponents := by
  have hpre : ((preGroupMembers components cfg.preComponents).filter (· ≠ [])).map componentNames =
      (preGroupNames (componentNames components) cfg.preComponents).filter (· ≠ []) := by
    rw [← map_preGroupMembers, List.filter_map]
    congr 1
    refine List.filter_congr fun g _ => ?_
    simp [componentNames_eq_nil]
  -- the components no group lists, and their names
  have hrest : componentNames (components.filter (fun c => c.component ∉ cfg.preComponents.flatten)) =
      (componentNames components).filter (· ∉ cfg.preComponents.flatten) := by
    simp only [componentNames, List.filter_map]
    rfl
  have hlast : (if components.filter (fun c => c.component ∉ cfg.preComponents.flatten) = [] then []
        else [components.filter (fun c => c.component ∉ cfg.preComponents.flatten)]).map
          componentNames =
      if (componentNames components).filter (· ∉ cfg.preComponents.flatten) = [] then []
        else [(componentNames components).filter (· ∉ cfg.preComponents.flatten)] := by
    rw [← hrest]
    split_ifs with h₁ h₂ h₂
    · rfl
    · exact absurd (by rw [h₁]; rfl) h₂
    · exact absurd (componentNames_eq_nil.1 h₂) h₁
    · rfl
  dsimp only [prescribedQueue, prescribedGroups]
  rw [List.map_append, List.map_append, map_newReconciliationSequence_queue, hpre, hlast,
    List.cons_append, List.cons_append]

theorem withPriorities_perm {Q Q' : List (List String)} (h : List.Forall₂ (· ~ ·) Q Q') (p : Int) :
    withPriorities Q p ~ withPriorities Q' p := by
  induction h generalizing p with
  | nil => exact List.Perm.refl _
  | cons hg _ ih => exact (hg.map _).append (ih (p + 1))

theorem freshID_injective (runtimeID : String) : Function.Injective (freshID runtimeID) := by
  intro u v h
  have hlist := congrArg String.toList h
  simp only [freshID, String.toList_append] at hlist
  exact String.toList_injective (List.append_cancel_left hlist)

/-! ## The loops of `CreateReconciliation` -/

section Loops

variable {mk : Int → Component → Nat → OperationEntity}

theorem groupOperations_keys
    (hmk : ∀ p c k, (mk p c k).priority = p ∧ (mk p c k).component = c.component)
    (p : Int) (cs : List Component) (k : Nat) :
    (groupOperations mk p cs k).map (fun op => (op.priority, op.component)) =
      (componentNames cs).map (fun n => (p, n)) := by
  induction cs generalizing k with
  | nil => rfl
  | cons c cs ih =>
      simp only [groupOperations, List.map_cons, ih, componentNames, (hmk p c k).1, (hmk p c k).2]

/-- Every component of the queue gets its priority. -/
theorem queueOperations_keys
    (hmk : ∀ p c k, (mk p c k).priority = p ∧ (mk p c k).component = c.component)
    (Q : List (List Component)) (p : Int) (k : Nat) :
    (queueOperations mk Q p k).map (fun op => (op.priority, op.component)) =
      withPriorities (Q.map componentNames) p := by
  induction Q generalizing p k with
  | nil => rfl
  | cons cs Q ih =>
      rw [queueOperations, List.map_append, groupOperations_keys hmk, ih]
      rfl

theorem groupOperations_correlationIDs {f : Nat → String}
    (hf : ∀ p c k, (mk p c k).correlationID = f k) (p : Int) (cs : List Component) (k : Nat) :
    (groupOperations mk p cs k).map (·.correlationID) =
      (List.range cs.length).map (fun i => f (k + 2 * i)) := by
  induction cs generalizing k with
  | nil => rfl
  | cons c cs ih =>
      rw [groupOperations, List.map_cons, ih, hf, List.length_cons, List.range_succ_eq_map,
        List.map_cons, List.map_map]
      congr 2
      funext i
      simp only [Function.comp_apply]
      congr 1
      omega

/-- The correlation IDs use every other UUID the call draws, from the `k`-th on. -/
theorem queueOperations_correlationIDs {f : Nat → String}
    (hf : ∀ p c k, (mk p c k).correlationID = f k) (Q : List (List Component)) (p : Int)
    (k : Nat) :
    (queueOperations mk Q p k).map (·.correlationID) =
      (List.range (Q.map List.length).sum).map (fun i => f (k + 2 * i)) := by
  induction Q generalizing p k with
  | nil => rfl
  | cons cs Q ih =>
      rw [queueOperations, List.map_append, groupOperations_correlationIDs hf, ih, List.map_cons,
        List.sum_cons, List.range_add, List.map_append, List.map_map]
      congr 2
      funext i
      simp only [Function.comp_apply]
      congr 1
      omega

theorem mem_groupOperations {op : OperationEntity} {p : Int} {cs : List Component} {k : Nat}
    (h : op ∈ groupOperations mk p cs k) : ∃ c k', op = mk p c k' := by
  induction cs generalizing k with
  | nil => cases h
  | cons c cs ih =>
      rcases List.mem_cons.1 h with rfl | h
      · exact ⟨c, k, rfl⟩
      · exact ih h

theorem mem_queueOperations {op : OperationEntity} {Q : List (List Component)} {p : Int} {k : Nat}
    (h : op ∈ queueOperations mk Q p k) : ∃ p' c k', op = mk p' c k' := by
  induction Q generalizing p k with
  | nil => cases h
  | cons cs Q ih =>
      rw [queueOperations, List.mem_append] at h
      rcases h with h | h
      · obtain ⟨c, k', rfl⟩ := mem_groupOperations h
        exact ⟨p, c, k', rfl⟩
      · exact ih h

end Loops

section NewOperations

variable {state : ClusterState} {schedulingID : String} {ids : Nat → String} {now : Nat}

theorem schedulingID_of_mem_queueOperations {Q : List (List Component)} {p : Int} {k : Nat}
    {op : OperationEntity} (hop : op ∈ queueOperations (newOperation state schedulingID ids now) Q p k) :
    op.schedulingID = schedulingID := by
  obtain ⟨p', c, k', rfl⟩ := mem_queueOperations hop
  rfl

/-- Distinct UUIDs give distinct correlation IDs. -/
theorem queueOperations_correlationID_nodup (hids : Function.Injective ids)
    (Q : List (List Component)) (p : Int) (k : Nat) :
    ((queueOperations (newOperation state schedulingID ids now) Q p k).map (·.correlationID)).Nodup := by
  -- the `k`-th UUID makes the correlation ID of the operation created at `k`
  have hf : ∀ p c k, (newOperation state schedulingID ids now p c k).correlationID =
      freshID state.cluster.runtimeID (ids k) := fun _ _ _ => rfl
  rw [queueOperations_correlationIDs hf]
  refine List.nodup_range.map fun i j hij => ?_
  have := hids (freshID_injective _ hij)
  omega

end NewOperations

/-- The loop of `CreateReconciliation` creates the prescribed operations, for distinct
component names and distinct UUIDs. -/
theorem queueOperations_prescribed (state : ClusterState) (cfg : ReconciliationSequenceConfig)
    (cleaner : List Configuration) (schedulingID : String) (ids : Nat → String) (now : Nat)
    (hids : Function.Injective ids) (hnames : (componentNames state.configuration.components).Nodup) :
    PrescribedOperations state cfg schedulingID
      (queueOperations (newOperation state schedulingID ids now)
        (state.configuration.getReconciliationSequence cfg cleaner).1.queue 1 1) where
  new_of_reconciliation op hop := by
    obtain ⟨p, c, k, rfl⟩ := mem_queueOperations hop
    refine ⟨rfl, rfl, ?_⟩
    simp only [newOperation, opTypeOf]
    split_ifs with hdel <;> simp_all
  correlationID_nodup := queueOperations_correlationID_nodup hids _ 1 1
  groups := by
    rw [queueOperations_keys (fun _ _ _ => ⟨rfl, rfl⟩), ← map_prescribedQueue]
    apply withPriorities_perm
    exact List.forall₂_map_left_iff.2 (List.forall₂_map_right_iff.2
      ((getReconciliationSequence_queue _ cfg cleaner hnames).imp fun _ _ h => h.map _))

/-! ## What the repositories store -/

/-- Operations of one scheduling ID that no stored operation has, with distinct correlation IDs,
all land in the in-memory map. -/
theorem values_foldl_insert_operations {schedulingID : String} {ops : List OperationEntity}
    {m : AList (fun _ : String × String => OperationEntity)}
    (hsid : ∀ op ∈ ops, op.schedulingID = schedulingID) (hnd : (ops.map (·.correlationID)).Nodup)
    (hfresh : ∀ cid, (schedulingID, cid) ∉ m) :
    values (ops.foldl (fun m op => m.insert (op.schedulingID, op.correlationID) op) m) ~
      ops ++ values m := by
  have hkeys : (ops.map fun op => (op.schedulingID, op.correlationID)).Nodup :=
    List.Nodup.of_map Prod.snd (by rw [List.map_map]; exact hnd)
  rw [values_foldl_insert _ ops m hkeys]
  · exact (List.reverse_perm ops).append_right _
  · intro op hop
    rw [hsid op hop]
    exact hfresh _

/-- A successful `CreateReconciliation` of either repository adds the prescribed operations
under the new scheduling ID and keeps the stored ones.  The in-memory map is keyed by both IDs,
so there the new scheduling ID must not be in use. -/
theorem createReconciliation_prescribed (state : ClusterState)
    (cfg : ReconciliationSequenceConfig) (cleaner : List Configuration) (ids : Nat → String)
    (now : Nat) (hids : Function.Injective ids)
    (hnames : (componentNames state.configuration.components).Nodup) :
    (∀ (r r' : InMemoryReconciliationRepository) recon cleaner',
        (∀ cid, (freshID state.cluster.runtimeID (ids 0), cid) ∉ r.operations) →
        r.createReconciliation state cfg cleaner ids now = .ok (r', recon, cleaner') →
        ∃ ops, PrescribedOperations state cfg recon.schedulingID ops ∧
          r'.allOperations ~ ops ++ r.allOperations) ∧
    (∀ (r r' : PersistentReconciliationRepository) recon cleaner',
        r.createReconciliation state cfg cleaner ids now = .ok (r', recon, cleaner') →
        ∃ ops, PrescribedOperations state cfg recon.schedulingID ops ∧
          r'.operations ~ ops ++ r.operations) := by
  constructor
  · intro r r' recon cleaner' hfresh hok
    obtain ⟨hsid, -, hops⟩ := InMemoryReconciliationRepository.createReconciliation_ok hok
    have hpres := queueOperations_prescribed state cfg cleaner recon.schedulingID ids now hids hnames
    refine ⟨_, hpres, ?_⟩
    rw [InMemoryReconciliationRepository.allOperations, hops]
    refine values_foldl_insert_operations (fun op hop => (hpres.new_of_reconciliation op hop).1)
      hpres.correlationID_nodup ?_
    rw [hsid]
    exact hfresh
  · intro r r' recon cleaner' hok
    obtain ⟨-, -, -, -, hops⟩ := PersistentReconciliationRepository.createReconciliation_ok hok
    refine ⟨_, queueOperations_prescribed state cfg cleaner recon.schedulingID ids now hids hnames, ?_⟩
    rw [hops]
    exact List.perm_append_comm

/-- A cluster of two components, "a" and "b", being reconciled. -/
def twoComponentState : ClusterState :=
  { cluster := { runtimeID := "rt" },
    configuration := { components := [{ component := "a" }, { component := "b" }] },
    status := { status := .reconciling } }

/-- Two `PreComponents` groups that both list "a". -/
def overlappingGroupsConfig : ReconciliationSequenceConfig :=
  { preComponents := [["a"], ["a", "b"]], deleteStrategy := "", reconciliationStatus := .reconciling }

/-- Two overlapping `PreComponents` groups, from either empty repository. -/
theorem createReconciliation_prescribed_overlapping_groups :
    (∃ r' recon cleaner', InMemoryReconciliationRepository.empty.createReconciliation
        twoComponentState overlappingGroupsConfig [] (fun n => String.ofList (List.replicate n 'u'))
        0 = .ok (r', recon, cleaner') ∧
      ∃ ops, PrescribedOperations twoComponentState overlappingGroupsConfig recon.schedulingID ops ∧
        r'.allOperations ~ ops ++ InMemoryReconciliationRepository.empty.allOperations) ∧
    (∃ r' recon cleaner', PersistentReconciliationRepository.empty.createReconciliation
        twoComponentState overlappingGroupsConfig [] (fun n => String.ofList (List.replicate n 'u'))
        0 = .ok (r', recon, cleaner') ∧
      ∃ ops, PrescribedOperations twoComponentState overlappingGroupsConfig recon.schedulingID ops ∧
        r'.operations ~ ops ++ []) := by
  have hids : Function.Injective (fun n : Nat => String.ofList (List.replicate n 'u')) := by
    intro m n h
    simpa using congrArg String.length h
  have hprescribed :=
    createReconciliation_prescribed twoComponentState overlappingGroupsConfig [] _ 0 hids (by decide)
  -- the empty map holds no key of the new scheduling ID
  have hfresh : ∀ cid, (freshID "rt" "", cid) ∉ InMemoryReconciliationRepository.empty.operations :=
    fun cid => AList.notMem_empty _
  exact ⟨⟨_, _, _, rfl, hprescribed.1 .empty _ _ _ hfresh rfl⟩,
    ⟨_, _, _, rfl, hprescribed.2 .empty _ _ _ rfl⟩⟩

/-- The second group lists both components, yet they run at different priorities: the first
group has taken "a". -/
theorem createReconciliation_splits_overlapping_groups :
    ∃ r recon cleaner', InMemoryReconciliationRepository.empty.createReconciliation
        { cluster := { runtimeID := "rt" },
          configuration := { components := [{ component := "a" }, { component := "b" }] },
          status := { status := .reconciling } }
        { preComponents := [["a"], ["a", "b"]], deleteStrategy := "",
          reconciliationStatus := .reconciling }
        [] (fun n => String.ofList (List.replicate n 'u')) 0 = .ok (r, recon, cleaner') ∧
      ∀ a ∈ r.allOperations, ∀ b ∈ r.allOperations,
        a.component = "a" → b.component = "b" → a.priority ≠ b.priority :=
  ⟨_, _, _, rfl, by decide⟩

end Reconciler
