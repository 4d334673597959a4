import Reconciler.Scheduler.Processable
import Reconciler.Model.Sequence
import Reconciler.Lib.KeyValue

/-!
# The in-memory reconciliation repository

`InMemoryReconciliationRepository` (`pkg/scheduler/reconciliation/inmemory.go`) stores the
reconciliations by runtime ID and the operations by scheduling ID and correlation ID.  Every
method runs under one mutex, so each call is one atomic step on the state.

The model flattens the nested operation map into one map keyed by the pair of IDs.  The Go
code never keeps an empty inner map for longer than one loop body, so no call can tell the two
apart.  `uuid.NewString()` and `time.Now()` become inputs: `ids k` is the `k`-th UUID a call
draws, and `now` is the time it reads.

The parts both repositories share are here as well: the errors, the check of the reasons of a
state change, and the loop of `CreateReconciliation` that turns the reconciliation sequence
into operations.
-/

namespace Reconciler

open OperationState KeyValue

/-- The errors of the reconciliation repositories, with the data their messages print. -/
inductive RepositoryError
  /-- `EmptyComponentsReconciliationError`. -/
  | emptyComponents (runtimeID : String) (configVersion : Int)
  /-- `DuplicateClusterReconciliationError`. -/
  | duplicateClusterReconciliation (cluster schedulingID : String)
  /-- `repository.EntityNotFoundError`. -/
  | entityNotFound
  /-- `alreadyInStateError`. -/
  | alreadyInState (component : String) (state : OperationState)
  /-- The refusal to leave a final state. -/
  | finalState (component : String) (state current : OperationState)
  /-- `concatStateReasons`: an `Error` or `Failed` state needs a reason. -/
  | missingReason (state : OperationState)
  /-- `FinishReconciliation` of a finished reconciliation. -/
  | alreadyFinished (schedulingID : String)
  /-- `FinishReconciliation` of an unknown reconciliation. -/
  | noReconciliation (schedulingID : String)
  /-- An update whose `WHERE` condition matched no row. -/
  | noRowUpdated (schedulingID correlationID : String)
  /-- An insert that the `UNIQUE` constraint of a column refused. -/
  | uniqueViolation (column value : String)
  /-- `UpdateComponentOperationProcessingDuration` found no operation, or more than one. -/
  | operationNotUnique (schedulingID correlationID : String)
  deriving DecidableEq, Repr

/-- `concatStateReasons`. -/
def concatStateReasons (state : OperationState) (reasons : List String) :
    Except RepositoryError String :=
  if (state = error ∨ state = failed) ∧ reasons = [] then .error (.missingReason state)
  else .ok (", ".intercalate reasons)

/-! ## Creating the operations of a reconciliation -/

/-- The fresh scheduling ID `fmt.Sprintf("%s--%s", runtimeID, uuid.NewString())`. -/
def freshID (runtimeID uuid : String) : String :=
  runtimeID ++ "--" ++ uuid

/-- The type of the operations `CreateReconciliation` creates for a cluster status. -/
def opTypeOf (status : Status) : OperationType :=
  if status.isDeletionInProgress then .delete else .reconcile

/-- The operation `CreateReconciliation` creates for `component` with `priority`; `k` is the
number of UUIDs the call has drawn before it: one for the correlation ID, one for the retry
ID. -/
def newOperation (state : ClusterState) (schedulingID : String) (ids : Nat → String) (now : Nat)
    (priority : Int) (component : Component) (k : Nat) : OperationEntity :=
  { priority := priority
    schedulingID := schedulingID
    correlationID := freshID state.cluster.runtimeID (ids k)
    runtimeID := state.cluster.runtimeID
    clusterConfig := state.configuration.version
    component := component.component
    state := new
    type := opTypeOf state.status.status
    retries := 0
    retryID := ids (k + 1)
    created := now
    updated := now }

/-- The inner loop over the components of one queue entry. -/
def groupOperations (mk : Int → Component → Nat → OperationEntity) (priority : Int) :
    List Component → Nat → List OperationEntity
  | [], _ => []
  | component :: components, k =>
      mk priority component k :: groupOperations mk priority components (k + 2)

/-- The outer loop over `sequence.Queue`: the entry at index `idx` gets priority `idx + 1`. -/
def queueOperations (mk : Int → Component → Nat → OperationEntity) :
    List (List Component) → Int → Nat → List OperationEntity
  | [], _, _ => []
  | components :: queue, priority, k =>
      groupOperations mk priority components k ++
        queueOperations mk queue (priority + 1) (k + 2 * components.length)

/-- The in-memory store of the reconciliations and their operations. -/
structure InMemoryReconciliationRepository where
  /-- key: runtime ID -/
  reconciliations : AList (fun _ : String => ReconciliationEntity)
  /-- key: scheduling ID and correlation ID -/
  operations : AList (fun _ : String × String => OperationEntity)

namespace InMemoryReconciliationRepository

/-- `NewInMemoryReconciliationRepository`. -/
def empty : InMemoryReconciliationRepository :=
  { reconciliations := ∅, operations := ∅ }

/-- All stored operations. -/
def allOperations (r : InMemoryReconciliationRepository) : List OperationEntity :=
  values r.operations

/-- The reconciliation with a scheduling ID, with the key it is stored under. -/
def findBySchedulingID (r : InMemoryReconciliationRepository) (schedulingID : String) :
    Option (String × ReconciliationEntity) :=
  (r.reconciliations.entries.find? (fun e => e.2.schedulingID = schedulingID)).map
    (fun e => (e.1, e.2))

/-- `CreateReconciliation`: besides the new state and the reconciliation it returns the
configuration of the package-level cleanup component, which the call extends when the
cluster is being deleted. -/
def createReconciliation (r : InMemoryReconciliationRepository) (state : ClusterState)
    (cfg : ReconciliationSequenceConfig) (cleaner : List Configuration) (ids : Nat → String)
    (now : Nat) :
    Except RepositoryError
      (InMemoryReconciliationRepository × ReconciliationEntity × List Configuration) :=
  if state.configuration.components = [] then
    .error (.emptyComponents state.cluster.runtimeID state.configuration.version)
  else
    match r.reconciliations.lookup state.cluster.runtimeID with
    | some existing => .error (.duplicateClusterReconciliation existing.runtimeID existing.schedulingID)
    | none =>
        let reconEntity : ReconciliationEntity :=
          { lock := state.cluster.runtimeID
            runtimeID := state.cluster.runtimeID
            clusterConfig := state.configuration.version
            clusterConfigStatus := state.status.id
            schedulingID := freshID state.cluster.runtimeID (ids 0)
            created := now }
        let sequence := state.configuration.getReconciliationSequence cfg cleaner
        let ops := queueOperations (newOperation state reconEntity.schedulingID ids now)
          sequence.1.queue 1 1
        let operations := ops.foldl
          (fun m op => m.insert (op.schedulingID, op.correlationID) op) r.operations
        .ok ({ reconciliations := r.reconciliations.insert state.cluster.runtimeID reconEntity
               operations := operations }, reconEntity, sequence.2)

/-- `removeSchedulingID`: the reconciliation and the operations of one scheduling ID. -/
def removeSchedulingID (r : InMemoryReconciliationRepository) (schedulingID : String) :
    InMemoryReconciliationRepository :=
  let reconciliations := match r.findBySchedulingID schedulingID with
    | some (_, recon) => r.reconciliations.erase recon.runtimeID
    | none => r.reconciliations
  { reconciliations := reconciliations
    operations := filterKeys (fun key => key.1 ≠ schedulingID) r.operations }

/-- `RemoveReconciliationBySchedulingID`. -/
def removeReconciliationBySchedulingID (r : InMemoryReconciliationRepository)
    (schedulingID : String) : InMemoryReconciliationRepository :=
  r.removeSchedulingID schedulingID

/-- `RemoveReconciliationsBySchedulingID`. -/
def removeReconciliationsBySchedulingID (r : InMemoryReconciliationRepository)
    (schedulingIDs : List String) : InMemoryReconciliationRepository :=
  schedulingIDs.foldl removeSchedulingID r

/-- `RemoveReconciliationByRuntimeID`: a runtime without reconciliation deletes the operations
of the empty scheduling ID. -/
def removeReconciliationByRuntimeID (r : InMemoryReconciliationRepository) (runtimeID : String) :
    InMemoryReconciliationRepository :=
  let schedulingID := ((r.reconciliations.lookup runtimeID).map (·.schedulingID)).getD ""
  { reconciliations := r.reconciliations.erase runtimeID
    operations := filterKeys (fun key => key.1 ≠ schedulingID) r.operations }

/-- `RemoveReconciliationsBeforeDeadline`: deletes the old operations of the runtime outside
the latest reconciliation; where that empties a scheduling ID, the reconciliation stored
under `runtimeID` goes too. -/
def removeReconciliationsBeforeDeadline (r : InMemoryReconciliationRepository)
    (runtimeID latestSchedulingID : String) (deadline : Nat) : InMemoryReconciliationRepository :=
  let old (op : OperationEntity) : Bool :=
    op.runtimeID = runtimeID ∧ op.schedulingID ≠ latestSchedulingID ∧ op.created < deadline
  let operations := filterKeys
    (fun key => !((r.operations.lookup key).map old).getD false) r.operations
  let emptied := (r.allOperations.map (·.schedulingID)).any
    (fun s => !(values operations).any (fun op => op.schedulingID = s))
  { reconciliations := if emptied then r.reconciliations.erase runtimeID else r.reconciliations
    operations := operations }

/-- `GetReconciliation`. -/
def getReconciliation (r : InMemoryReconciliationRepository) (schedulingID : String) :
    Except RepositoryError ReconciliationEntity :=
  match r.findBySchedulingID schedulingID with
  | some (_, recon) => .ok recon
  | none => .error .entityNotFound

/-- `FinishReconciliation`: the entity is changed in place, under the key it is stored at. -/
def finishReconciliation (r : InMemoryReconciliationRepository) (schedulingID : String)
    (status : ClusterStatusEntity) (now : Nat) : Except RepositoryError InMemoryReconciliationRepository :=
  match r.findBySchedulingID schedulingID with
  | none => .error (.noReconciliation schedulingID)
  | some (key, recon) =>
      if recon.finished then .error (.alreadyFinished schedulingID)
      else
        let recon' := { recon with
          lock := "", finished := true, clusterConfigStatus := status.id,
          status := some status.status, updated := now }
        .ok { r with reconciliations := r.reconciliations.insert key recon' }

/-- `GetOperation`: Go returns `nil` without an error for an unknown operation. -/
def getOperation (r : InMemoryReconciliationRepository) (schedulingID correlationID : String) :
    Option OperationEntity :=
  r.operations.lookup (schedulingID, correlationID)

/-- `GetReconcilingOperations`: every stored operation, finished reconciliations included. -/
def getReconcilingOperations (r : InMemoryReconciliationRepository) : List OperationEntity :=
  r.allOperations

/-- `GetProcessableOperations`. -/
def getProcessableOperations (r : InMemoryReconciliationRepository)
    (maxParallelOpsPerRecon : Int) : List OperationEntity :=
  findProcessableOperations r.getReconcilingOperations maxParallelOpsPerRecon

/-- Replace a stored operation, as the methods do with their copy of it. -/
def putOperation (r : InMemoryReconciliationRepository) (schedulingID correlationID : String)
    (op : OperationEntity) : InMemoryReconciliationRepository :=
  { r with operations := r.operations.insert (schedulingID, correlationID) op }

/-- `UpdateOperationState`. -/
def updateOperationState (r : InMemoryReconciliationRepository)
    (schedulingID correlationID : String) (state : OperationState) (allowInState : Bool)
    (reasons : List String) (now : Nat) : Except RepositoryError InMemoryReconciliationRepository :=
  match r.operations.lookup (schedulingID, correlationID) with
  | none => .error .entityNotFound
  | some op =>
      if op.state = state ∧ !allowInState then .error (.alreadyInState op.component op.state)
      else if op.state.isFinal then .error (.finalState op.component state op.state)
      else
        match concatStateReasons state reasons with
        | .error e => .error e
        | .ok reason =>
            .ok (r.putOperation schedulingID correlationID
              { op with state := state, reason := reason, updated := now })

/-- `UpdateOperationRetryID`. -/
def updateOperationRetryID (r : InMemoryReconciliationRepository)
    (schedulingID correlationID retryID : String) (now : Nat) :
    Except RepositoryError InMemoryReconciliationRepository :=
  match r.operations.lookup (schedulingID, correlationID) with
  | none => .error .entityNotFound
  | some op =>
      let op' := if op.retryID ≠ retryID then { op with retryID := retryID, retries := op.retries + 1 }
        else op
      .ok (r.putOperation schedulingID correlationID { op' with updated := now })

/-- `UpdateOperationPickedUp`: the time is overwritten on every call. -/
def updateOperationPickedUp (r : InMemoryReconciliationRepository)
    (schedulingID correlationID : String) (now : Nat) :
    Except RepositoryError InMemoryReconciliationRepository :=
  match r.operations.lookup (schedulingID, correlationID) with
  | none => .error .entityNotFound
  | some op => .ok (r.putOperation schedulingID correlationID { op with pickedUp := now })

/-! ## Spec lemmas -/

/-- A successful `CreateReconciliation` inserts the operations of the sequence under the fresh
scheduling ID. -/
theorem createReconciliation_ok {r r' : InMemoryReconciliationRepository} {state : ClusterState}
    {cfg : ReconciliationSequenceConfig} {cleaner cleaner' : List Configuration}
    {ids : Nat → String} {now : Nat} {recon : ReconciliationEntity}
    (h : r.createReconciliation state cfg cleaner ids now = .ok (r', recon, cleaner')) :
    recon.schedulingID = freshID state.cluster.runtimeID (ids 0) ∧
      r'.reconciliations = r.reconciliations.insert state.cluster.runtimeID recon ∧
      r'.operations = (queueOperations (newOperation state recon.schedulingID ids now)
        (state.configuration.getReconciliationSequence cfg cleaner).1.queue 1 1).foldl
          (fun m op => m.insert (op.schedulingID, op.correlationID) op) r.operations := by
  unfold createReconciliation at h
  split_ifs at h
  cases hl : r.reconciliations.lookup state.cluster.runtimeID with
  | some existing =>
      rw [hl] at h
      cases h
  | none =>
      rw [hl] at h
      simp only [Except.ok.injEq, Prod.mk.injEq] at h
      obtain ⟨rfl, rfl, rfl⟩ := h
      exact ⟨rfl, rfl, rfl⟩

/-- A runtime with a stored reconciliation, finished or not, gets no new one. -/
theorem createReconciliation_of_mem {r : InMemoryReconciliationRepository} {state : ClusterState}
    (cfg : ReconciliationSequenceConfig) (cleaner : List Configuration) (ids : Nat → String)
    (now : Nat) (h : state.cluster.runtimeID ∈ r.reconciliations) :
    ∃ e, r.createReconciliation state cfg cleaner ids now = .error e := by
  obtain ⟨existing, hl⟩ := Option.isSome_iff_exists.1 (AList.lookup_isSome.2 h)
  unfold createReconciliation
  split_ifs
  · exact ⟨_, rfl⟩
  · rw [hl]
    exact ⟨_, rfl⟩

/-- `FinishReconciliation` changes a reconciliation in place: every runtime keeps its entry. -/
theorem mem_finishReconciliation {r r' : InMemoryReconciliationRepository}
    {schedulingID : String} {status : ClusterStatusEntity} {now : Nat} {runtimeID : String}
    (h : r.finishReconciliation schedulingID status now = .ok r')
    (hmem : runtimeID ∈ r.reconciliations) : runtimeID ∈ r'.reconciliations := by
  unfold finishReconciliation at h
  rcases hf : r.findBySchedulingID schedulingID with _ | ⟨key, recon⟩
  · rw [hf] at h
    cases h
  · rw [hf] at h
    dsimp only at h
    split_ifs at h
    cases h
    exact (AList.mem_insert _).2 (.inr hmem)

theorem finishReconciliation_operations {r r' : InMemoryReconciliationRepository}
    {schedulingID : String} {status : ClusterStatusEntity} {now : Nat}
    (h : r.finishReconciliation schedulingID status now = .ok r') : r'.operations = r.operations := by
  unfold finishReconciliation at h
  rcases hf : r.findBySchedulingID schedulingID with _ | ⟨key, recon⟩
  · rw [hf] at h
    cases h
  · rw [hf] at h
    dsimp only at h
    split_ifs at h
    cases h
    rfl

/-! ### Writes of one operation -/

section Writes

variable {r r' : InMemoryReconciliationRepository} {schedulingID correlationID : String}
  {now : Nat}

theorem lookup_putOperation (r : InMemoryReconciliationRepository) (schedulingID correlationID : String)
    (op : OperationEntity) (k : String × String) :
    (r.putOperation schedulingID correlationID op).operations.lookup k =
      if k = (schedulingID, correlationID) then some op else r.operations.lookup k :=
  lookup_insert_eq _ _ _ _

theorem putOperation_putOperation (r : InMemoryReconciliationRepository)
    (schedulingID correlationID : String) (op op' : OperationEntity) :
    (r.putOperation schedulingID correlationID op).putOperation schedulingID correlationID op' =
      r.putOperation schedulingID correlationID op' := by
  simp only [putOperation, AList.insert_insert]

/-- A successful `UpdateOperationState` found the operation outside the final states, and not
in the requested state unless that is allowed, and stored it with the new state. -/
theorem updateOperationState_ok {state : OperationState} {allowInState : Bool}
    {reasons : List String}
    (h : r.updateOperationState schedulingID correlationID state allowInState reasons now = .ok r') :
    ∃ op reason, r.operations.lookup (schedulingID, correlationID) = some op ∧
      op.state.isFinal = false ∧ (op.state = state → allowInState = true) ∧
      concatStateReasons state reasons = .ok reason ∧
      r' = r.putOperation schedulingID correlationID
        { op with state := state, reason := reason, updated := now } := by
  unfold updateOperationState at h
  cases hl : r.operations.lookup (schedulingID, correlationID) with
  | none =>
      rw [hl] at h
      cases h
  | some op =>
      rw [hl] at h
      dsimp only at h
      split_ifs at h with hin hfin
      cases hc : concatStateReasons state reasons with
      | error e =>
          rw [hc] at h
          cases h
      | ok reason =>
          rw [hc] at h
          cases h
          refine ⟨op, reason, rfl, Bool.eq_false_iff.2 hfin, fun heq => ?_, rfl, rfl⟩
          simpa [heq] using hin

/-- `UpdateOperationState` succeeds on a stored operation outside the final states, unless the
operation is in the requested state and that is not allowed, or a reason is missing. -/
theorem updateOperationState_of_lookup {state : OperationState} {allowInState : Bool}
    {reasons : List String} {op : OperationEntity} {reason : String}
    (h : r.operations.lookup (schedulingID, correlationID) = some op)
    (hfin : op.state.isFinal = false) (hallow : op.state = state → allowInState = true)
    (hreason : concatStateReasons state reasons = .ok reason) :
    r.updateOperationState schedulingID correlationID state allowInState reasons now =
      .ok (r.putOperation schedulingID correlationID
        { op with state := state, reason := reason, updated := now }) := by
  have hin : ¬(op.state = state ∧ (!allowInState) = true) := by
    rintro ⟨heq, hnot⟩
    simp [hallow heq] at hnot
  unfold updateOperationState
  rw [h]
  dsimp only
  rw [if_neg hin, if_neg (by simp [hfin]), hreason]

theorem updateOperationPickedUp_of_lookup {op : OperationEntity}
    (h : r.operations.lookup (schedulingID, correlationID) = some op) :
    r.updateOperationPickedUp schedulingID correlationID now =
      .ok (r.putOperation schedulingID correlationID { op with pickedUp := now }) := by
  unfold updateOperationPickedUp
  rw [h]

theorem updateOperationRetryID_ok {retryID : String}
    (h : r.updateOperationRetryID schedulingID correlationID retryID now = .ok r') :
    ∃ op, r.operations.lookup (schedulingID, correlationID) = some op ∧
      r' = r.putOperation schedulingID correlationID
        { (if op.retryID ≠ retryID then { op with retryID := retryID, retries := op.retries + 1 }
            else op) with updated := now } := by
  unfold updateOperationRetryID at h
  cases hl : r.operations.lookup (schedulingID, correlationID) with
  | none =>
      rw [hl] at h
      cases h
  | some op =>
      rw [hl] at h
      cases h
      exact ⟨op, rfl, rfl⟩

theorem updateOperationPickedUp_ok
    (h : r.updateOperationPickedUp schedulingID correlationID now = .ok r') :
    ∃ op, r.operations.lookup (schedulingID, correlationID) = some op ∧
      r' = r.putOperation schedulingID correlationID { op with pickedUp := now } := by
  unfold updateOperationPickedUp at h
  cases hl : r.operations.lookup (schedulingID, correlationID) with
  | none =>
      rw [hl] at h
      cases h
  | some op =>
      rw [hl] at h
      cases h
      exact ⟨op, rfl, rfl⟩

end Writes

/-! ### Removals only forget operations -/

section Removals

variable {r : InMemoryReconciliationRepository} {k : String × String} {op : OperationEntity}

theorem lookup_removeSchedulingID {schedulingID : String}
    (h : (r.removeSchedulingID schedulingID).operations.lookup k = some op) :
    r.operations.lookup k = some op :=
  lookup_of_lookup_filterKeys h

theorem lookup_removeReconciliationsBySchedulingID {schedulingIDs : List String}
    (h : (r.removeReconciliationsBySchedulingID schedulingIDs).operations.lookup k = some op) :
    r.operations.lookup k = some op := by
  unfold removeReconciliationsBySchedulingID at h
  induction schedulingIDs generalizing r with
  | nil => exact h
  | cons schedulingID schedulingIDs ih => exact lookup_removeSchedulingID (ih h)

theorem lookup_removeReconciliationByRuntimeID {runtimeID : String}
    (h : (r.removeReconciliationByRuntimeID runtimeID).operations.lookup k = some op) :
    r.operations.lookup k = some op :=
  lookup_of_lookup_filterKeys h

theorem lookup_removeReconciliationsBeforeDeadline {runtimeID latestSchedulingID : String}
    {deadline : Nat}
    (h : (r.removeReconciliationsBeforeDeadline runtimeID latestSchedulingID deadline).operations.lookup
      k = some op) :
    r.operations.lookup k = some op :=
  lookup_of_lookup_filterKeys h

end Removals

end InMemoryReconciliationRepository

end Reconciler
