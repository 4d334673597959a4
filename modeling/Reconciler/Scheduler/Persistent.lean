import Reconciler.Scheduler.Repository

/-!
# The persistent reconciliation repository

`PersistentReconciliationRepository` (`pkg/scheduler/reconciliation/persistent.go`) keeps the
reconciliations and operations in the tables `scheduler_reconciliations` and
`scheduler_operations` of `configs/db/postgres`.  Each method runs in one transaction; the
model executes the calls one after another, each as one step that either commits all its
writes or, on an error, none.

The schema adds what the Go code relies on: `scheduling_id` is the key of a reconciliation,
`lock` is `UNIQUE`, the operations are keyed by both IDs and go with their reconciliation
(`ON DELETE CASCADE`).  A row that the driver reads back is the row that was written.
-/

namespace Reconciler

open OperationState

/-- The two tables. -/
structure PersistentReconciliationRepository where
  reconciliations : List ReconciliationEntity
  operations : List OperationEntity

namespace PersistentReconciliationRepository

/-- The empty database. -/
def empty : PersistentReconciliationRepository :=
  { reconciliations := [], operations := [] }

/-- `ON DELETE CASCADE`: drop the operations whose reconciliation is gone. -/
def cascade (r : PersistentReconciliationRepository) : PersistentReconciliationRepository :=
  let kept (op : OperationEntity) : Bool :=
    r.reconciliations.any (fun recon => recon.schedulingID = op.schedulingID)
  { r with operations := r.operations.filter kept }

/-- `CreateReconciliation`. -/
def createReconciliation (r : PersistentReconciliationRepository) (state : ClusterState)
    (cfg : ReconciliationSequenceConfig) (cleaner : List Configuration) (ids : Nat → String)
    (now : Nat) :
    Except RepositoryError
      (PersistentReconciliationRepository × ReconciliationEntity × List Configuration) :=
  if state.configuration.components = [] then
    .error (.emptyComponents state.cluster.runtimeID state.configuration.version)
  else
    let reconEntity : ReconciliationEntity :=
      { lock := state.cluster.runtimeID
        runtimeID := state.cluster.runtimeID
        clusterConfig := state.configuration.version
        clusterConfigStatus := state.status.id
        schedulingID := freshID state.cluster.runtimeID (ids 0)
        created := now
        status := some state.status.status }
    -- the unfinished reconciliation of the cluster, if any
    match r.reconciliations.find?
        (fun recon => recon.runtimeID = state.cluster.runtimeID ∧ !recon.finished) with
    | some existing =>
        .error (.duplicateClusterReconciliation existing.runtimeID existing.schedulingID)
    | none =>
        let sequence := state.configuration.getReconciliationSequence cfg cleaner
        let ops := queueOperations (newOperation state reconEntity.schedulingID ids now)
          sequence.1.queue 1 1
        -- the inserts, refused by the keys and the `UNIQUE` lock
        if r.reconciliations.any (fun recon => recon.schedulingID = reconEntity.schedulingID) then
          .error (.uniqueViolation "scheduling_id" reconEntity.schedulingID)
        else if r.reconciliations.any (fun recon => recon.lock = reconEntity.lock) then
          .error (.uniqueViolation "lock" reconEntity.lock)
        else if !((r.operations ++ ops).map (·.key)).Nodup then
          .error (.uniqueViolation "correlation_id" reconEntity.schedulingID)
        else
          .ok ({ reconciliations := r.reconciliations ++ [reconEntity]
                 operations := r.operations ++ ops }, reconEntity, sequence.2)

/-- `GetReconciliation`. -/
def getReconciliation (r : PersistentReconciliationRepository) (schedulingID : String) :
    Except RepositoryError ReconciliationEntity :=
  match r.reconciliations.find? (fun recon => recon.schedulingID = schedulingID) with
  | some recon => .ok recon
  | none => .error .entityNotFound

/-- `FinishReconciliation`: the update matches the unfinished row of the scheduling ID and
releases the lock by renaming it. -/
def finishReconciliation (r : PersistentReconciliationRepository) (schedulingID : String)
    (status : ClusterStatusEntity) (now : Nat) :
    Except RepositoryError PersistentReconciliationRepository :=
  match r.getReconciliation schedulingID with
  | .error e => .error e
  | .ok recon =>
      let recon' := { recon with
        lock := "unlock-" ++ recon.schedulingID, finished := true,
        clusterConfigStatus := status.id, status := some status.status, updated := now }
      let unfinished (row : ReconciliationEntity) : Bool :=
        row.schedulingID = schedulingID ∧ !row.finished
      if !r.reconciliations.any unfinished then .error (.noRowUpdated schedulingID "")
      else if r.reconciliations.any (fun row => !unfinished row ∧ row.lock = recon'.lock) then
        .error (.uniqueViolation "lock" recon'.lock)
      else
        let rows := r.reconciliations.map (fun row => if unfinished row then recon' else row)
        .ok { r with reconciliations := rows }

/-- `GetOperation`: an unknown operation is an error here. -/
def getOperation (r : PersistentReconciliationRepository) (schedulingID correlationID : String) :
    Except RepositoryError OperationEntity :=
  match r.operations.find?
      (fun op => op.schedulingID = schedulingID ∧ op.correlationID = correlationID) with
  | some op => .ok op
  | none => .error .entityNotFound

/-- `GetReconcilingOperations`: the operations of unfinished reconciliations. -/
def getReconcilingOperations (r : PersistentReconciliationRepository) : List OperationEntity :=
  r.operations.filter (fun op => r.reconciliations.any
    (fun recon => recon.schedulingID = op.schedulingID ∧ !recon.finished))

/-- `GetProcessableOperations`. -/
def getProcessableOperations (r : PersistentReconciliationRepository)
    (maxParallelOpsPerRecon : Int) : List OperationEntity :=
  findProcessableOperations r.getReconcilingOperations maxParallelOpsPerRecon

/-- `Query.Update` of one operation row, keyed by both IDs. -/
def updateOperation (r : PersistentReconciliationRepository) (op : OperationEntity) :
    PersistentReconciliationRepository :=
  let update (row : OperationEntity) : OperationEntity :=
    if row.schedulingID = op.schedulingID ∧ row.correlationID = op.correlationID then op else row
  { r with operations := r.operations.map update }

/-- `UpdateOperationState`. -/
def updateOperationState (r : PersistentReconciliationRepository)
    (schedulingID correlationID : String) (state : OperationState) (allowInState : Bool)
    (reasons : List String) (now : Nat) :
    Except RepositoryError PersistentReconciliationRepository :=
  match r.getOperation schedulingID correlationID with
  | .error e => .error e
  | .ok op =>
      if op.state = state ∧ !allowInState then .error (.alreadyInState op.component op.state)
      else if op.state.isFinal then .error (.finalState op.component state op.state)
      else
        match concatStateReasons state reasons with
        | .error e => .error e
        | .ok reason => .ok (r.updateOperation { op with state := state, reason := reason, updated := now })

/-- `UpdateOperationRetryID`. -/
def updateOperationRetryID (r : PersistentReconciliationRepository)
    (schedulingID correlationID retryID : String) (now : Nat) :
    Except RepositoryError PersistentReconciliationRepository :=
  match r.getOperation schedulingID correlationID with
  | .error e => .error e
  | .ok op =>
      if retryID = op.retryID then .ok r
      else .ok (r.updateOperation
        { op with retryID := retryID, retries := op.retries + 1, updated := now })

/-- `UpdateOperationPickedUp`: only the first pickup is recorded. -/
def updateOperationPickedUp (r : PersistentReconciliationRepository)
    (schedulingID correlationID : String) (now : Nat) :
    Except RepositoryError PersistentReconciliationRepository :=
  match r.getOperation schedulingID correlationID with
  | .error e => .error e
  | .ok op =>
      if op.pickedUp ≠ 0 then .ok r
      else .ok (r.updateOperation { op with pickedUp := now })

/-- `UpdateComponentOperationProcessingDuration`: the operations that the filters on both IDs
select must be exactly one. -/
def updateComponentOperationProcessingDuration (r : PersistentReconciliationRepository)
    (schedulingID correlationID : String) (processingDuration : Int) :
    Except RepositoryError PersistentReconciliationRepository :=
  match r.operations.filter
      (fun op => op.schedulingID = schedulingID ∧ op.correlationID = correlationID) with
  | [op] => .ok (r.updateOperation { op with processingDuration := processingDuration })
  | _ => .error (.operationNotUnique schedulingID correlationID)

/-- A `DELETE` on the reconciliations, with the cascade to their operations. -/
def deleteReconciliations (r : PersistentReconciliationRepository)
    (p : ReconciliationEntity → Bool) : PersistentReconciliationRepository :=
  cascade { r with reconciliations := r.reconciliations.filter (fun recon => !p recon) }

/-- `RemoveReconciliationBySchedulingID`. -/
def removeReconciliationBySchedulingID (r : PersistentReconciliationRepository)
    (schedulingID : String) : PersistentReconciliationRepository :=
  r.deleteReconciliations (fun recon => recon.schedulingID = schedulingID)

/-- `RemoveReconciliationsBySchedulingID`. -/
def removeReconciliationsBySchedulingID (r : PersistentReconciliationRepository)
    (schedulingIDs : List String) : PersistentReconciliationRepository :=
  r.deleteReconciliations (fun recon => recon.schedulingID ∈ schedulingIDs)

/-- `RemoveReconciliationByRuntimeID`. -/
def removeReconciliationByRuntimeID (r : PersistentReconciliationRepository)
    (runtimeID : String) : PersistentReconciliationRepository :=
  r.deleteReconciliations (fun recon => recon.runtimeID = runtimeID)

/-- `RemoveReconciliationsBeforeDeadline`. -/
def removeReconciliationsBeforeDeadline (r : PersistentReconciliationRepository)
    (runtimeID latestSchedulingID : String) (deadline : Nat) : PersistentReconciliationRepository :=
  r.deleteReconciliations (fun recon =>
    recon.schedulingID ≠ latestSchedulingID ∧ recon.runtimeID = runtimeID ∧ recon.created < deadline)

/-! ## Spec lemmas -/

section Create

variable {r r' : PersistentReconciliationRepository} {state : ClusterState}
  {cfg : ReconciliationSequenceConfig} {cleaner cleaner' : List Configuration}
  {ids : Nat → String} {now : Nat} {recon : ReconciliationEntity}

/-- A successful `CreateReconciliation` appends an unfinished reconciliation that holds the lock
of the runtime, and the operations of the sequence under its fresh scheduling ID. -/
theorem createReconciliation_ok
    (h : r.createReconciliation state cfg cleaner ids now = .ok (r', recon, cleaner')) :
    recon.schedulingID = freshID state.cluster.runtimeID (ids 0) ∧
      recon.lock = state.cluster.runtimeID ∧ recon.finished = false ∧
      r'.reconciliations = r.reconciliations ++ [recon] ∧
      r'.operations = r.operations ++ queueOperations (newOperation state recon.schedulingID ids now)
        (state.configuration.getReconciliationSequence cfg cleaner).1.queue 1 1 := by
  unfold createReconciliation at h
  split_ifs at h
  cases hf : r.reconciliations.find?
      (fun recon => recon.runtimeID = state.cluster.runtimeID ∧ !recon.finished) with
  | some existing =>
      rw [hf] at h
      cases h
  | none =>
      rw [hf] at h
      dsimp only at h
      split_ifs at h
      simp only [Except.ok.injEq, Prod.mk.injEq] at h
      obtain ⟨rfl, rfl, rfl⟩ := h
      exact ⟨rfl, rfl, rfl, rfl, rfl⟩

/-- What a successful `CreateReconciliation` checked: the configuration has components, the
runtime has no unfinished reconciliation, no row holds the new key or lock, and the operation
keys stay distinct. -/
theorem createReconciliation_guards
    (h : r.createReconciliation state cfg cleaner ids now = .ok (r', recon, cleaner')) :
    state.configuration.components ≠ [] ∧
      (∀ row ∈ r.reconciliations, row.runtimeID = state.cluster.runtimeID → row.finished = true) ∧
      (∀ row ∈ r.reconciliations, row.schedulingID ≠ recon.schedulingID ∧ row.lock ≠ recon.lock) ∧
      (r'.operations.map (·.key)).Nodup := by
  unfold createReconciliation at h
  split_ifs at h with hcomp
  cases hf : r.reconciliations.find?
      (fun recon => recon.runtimeID = state.cluster.runtimeID ∧ !recon.finished) with
  | some existing =>
      rw [hf] at h
      cases h
  | none =>
      rw [hf] at h
      dsimp only at h
      split_ifs at h with hsid hlock hkeys
      simp only [Except.ok.injEq, Prod.mk.injEq] at h
      obtain ⟨rfl, rfl, rfl⟩ := h
      refine ⟨hcomp, fun row hrow hrt => ?_, fun row hrow => ⟨fun heq => ?_, fun heq => ?_⟩,
        by simpa using hkeys⟩
      · -- the search for an unfinished reconciliation of the runtime came back empty
        have hnot := List.find?_eq_none.1 hf row hrow
        simpa [hrt] using hnot
      · exact hsid (List.any_eq_true.2 ⟨row, hrow, by simpa using heq⟩)
      · exact hlock (List.any_eq_true.2 ⟨row, hrow, by simpa using heq⟩)

/-- The new reconciliation is of the cluster and configuration version of the state. -/
theorem createReconciliation_runtimeID
    (h : r.createReconciliation state cfg cleaner ids now = .ok (r', recon, cleaner')) :
    recon.runtimeID = state.cluster.runtimeID ∧
      recon.clusterConfig = state.configuration.version := by
  unfold createReconciliation at h
  split_ifs at h
  cases hf : r.reconciliations.find?
      (fun recon => recon.runtimeID = state.cluster.runtimeID ∧ !recon.finished) with
  | some existing =>
      rw [hf] at h
      cases h
  | none =>
      rw [hf] at h
      dsimp only at h
      split_ifs at h
      simp only [Except.ok.injEq, Prod.mk.injEq] at h
      obtain ⟨-, rfl, -⟩ := h
      exact ⟨rfl, rfl⟩

/-- `GetReconciliation` reads the new reconciliation back by its scheduling ID. -/
theorem getReconciliation_of_createReconciliation
    (h : r.createReconciliation state cfg cleaner ids now = .ok (r', recon, cleaner')) :
    r'.getReconciliation recon.schedulingID = .ok recon := by
  obtain ⟨-, -, -, hrecons, -⟩ := createReconciliation_ok h
  obtain ⟨-, -, hkeys, -⟩ := createReconciliation_guards h
  -- no older row holds the new scheduling ID
  have hnone : r.reconciliations.find? (fun row => row.schedulingID = recon.schedulingID) =
      none := List.find?_eq_none.2 fun row hrow => by simpa using (hkeys row hrow).1
  simp [getReconciliation, hrecons, List.find?_append, hnone]

end Create

section Finish

variable {r r' : PersistentReconciliationRepository} {schedulingID : String}
  {status : ClusterStatusEntity} {now : Nat}

theorem schedulingID_of_getReconciliation {recon : ReconciliationEntity}
    (h : r.getReconciliation schedulingID = .ok recon) : recon.schedulingID = schedulingID := by
  unfold getReconciliation at h
  split at h
  · rename_i found hfound
    cases h
    simpa using List.find?_some hfound
  · cases h

theorem mem_of_getReconciliation {recon : ReconciliationEntity}
    (h : r.getReconciliation schedulingID = .ok recon) : recon ∈ r.reconciliations := by
  unfold getReconciliation at h
  split at h
  · rename_i found hfound
    cases h
    exact List.mem_of_find?_eq_some hfound
  · cases h

theorem finishReconciliation_operations
    (h : r.finishReconciliation schedulingID status now = .ok r') : r'.operations = r.operations := by
  unfold finishReconciliation at h
  rcases hget : r.getReconciliation schedulingID with e | recon
  · rw [hget] at h
    cases h
  · rw [hget] at h
    dsimp only at h
    split_ifs at h
    cases h
    rfl

/-- After `FinishReconciliation` a row is one that was there and is not the unfinished row of
the scheduling ID, or the finished row of the scheduling ID with its lock released. -/
theorem mem_finishReconciliation {row : ReconciliationEntity}
    (h : r.finishReconciliation schedulingID status now = .ok r') (hrow : row ∈ r'.reconciliations) :
    (row ∈ r.reconciliations ∧ ¬(row.schedulingID = schedulingID ∧ row.finished = false)) ∨
      (row.schedulingID = schedulingID ∧ row.finished = true ∧
        row.lock = "unlock-" ++ schedulingID) := by
  unfold finishReconciliation at h
  rcases hget : r.getReconciliation schedulingID with e | recon
  · rw [hget] at h
    cases h
  · rw [hget] at h
    have hsid := schedulingID_of_getReconciliation hget
    dsimp only at h
    split_ifs at h
    cases h
    obtain ⟨row₀, hrow₀, rfl⟩ := List.mem_map.1 hrow
    by_cases hun : row₀.schedulingID = schedulingID ∧ row₀.finished = false
    · right
      simp [hun, hsid]
    · left
      have hkeep : ¬(row₀.schedulingID = schedulingID ∧ (!row₀.finished) = true) := by
        simpa using hun
      simp only [hkeep, decide_false, Bool.false_eq_true, if_false]
      exact ⟨hrow₀, hun⟩

end Finish

section Operations

variable {r : PersistentReconciliationRepository} {schedulingID correlationID : String}
  {op : OperationEntity}

theorem getOperation_ok (h : r.getOperation schedulingID correlationID = .ok op) :
    op.schedulingID = schedulingID ∧ op.correlationID = correlationID := by
  unfold getOperation at h
  split at h
  · rename_i found hfound
    cases h
    simpa using List.find?_some hfound
  · cases h

/-- After a row is written back under its IDs, `GetOperation` reads the written row. -/
theorem getOperation_updateOperation (h : r.getOperation schedulingID correlationID = .ok op)
    {op' : OperationEntity} (hsid : op'.schedulingID = schedulingID)
    (hcid : op'.correlationID = correlationID) :
    (r.updateOperation op').getOperation schedulingID correlationID = .ok op' := by
  obtain ⟨hsid₀, hcid₀⟩ := getOperation_ok h
  unfold getOperation at h ⊢
  unfold updateOperation
  dsimp only
  rw [List.find?_map]
  -- the write keeps the IDs of every row, so the search stops at the same row
  have hsame : ((fun row : OperationEntity =>
        decide (row.schedulingID = schedulingID ∧ row.correlationID = correlationID)) ∘
      fun row => if row.schedulingID = op'.schedulingID ∧ row.correlationID = op'.correlationID
        then op' else row) =
      fun row => decide (row.schedulingID = schedulingID ∧ row.correlationID = correlationID) := by
    funext row
    simp only [Function.comp_apply]
    split_ifs with hrow
    · rw [hsid, hcid, hrow.1, hrow.2, hsid, hcid]
    · rfl
  rw [hsame]
  split at h
  · rename_i found hfound
    cases h
    rw [hfound]
    simp [hsid₀, hcid₀, hsid, hcid]
  · cases h

/-- `UpdateOperationState` succeeds on a stored operation outside the final states, unless the
operation is in the requested state and that is not allowed, or a reason is missing. -/
theorem updateOperationState_of_getOperation {state : OperationState} {allowInState : Bool}
    {reasons : List String} {now : Nat} {reason : String}
    (h : r.getOperation schedulingID correlationID = .ok op) (hfin : op.state.isFinal = false)
    (hallow : op.state = state → allowInState = true)
    (hreason : concatStateReasons state reasons = .ok reason) :
    r.updateOperationState schedulingID correlationID state allowInState reasons now =
      .ok (r.updateOperation { op with state := state, reason := reason, updated := now }) := by
  have hin : ¬(op.state = state ∧ (!allowInState) = true) := by
    rintro ⟨heq, hnot⟩
    simp [hallow heq] at hnot
  unfold updateOperationState
  rw [h]
  dsimp only
  rw [if_neg hin, if_neg (by simp [hfin]), hreason]

/-- `UpdateOperationPickedUp` succeeds on a stored operation, which stays stored. -/
theorem updateOperationPickedUp_of_getOperation (h : r.getOperation schedulingID correlationID = .ok op)
    (now : Nat) :
    ∃ r' op', r.updateOperationPickedUp schedulingID correlationID now = .ok r' ∧
      r'.getOperation schedulingID correlationID = .ok op' := by
  obtain ⟨hsid, hcid⟩ := getOperation_ok h
  unfold updateOperationPickedUp
  rw [h]
  dsimp only
  split_ifs
  · exact ⟨r, op, rfl, h⟩
  · exact ⟨_, _, rfl, getOperation_updateOperation h hsid hcid⟩

/-- `Query.Update` keeps the keys of every row. -/
@[simp] theorem updateOperation_keys (op' : OperationEntity) :
    (r.updateOperation op').operations.map OperationEntity.key = r.operations.map OperationEntity.key := by
  unfold updateOperation
  rw [List.map_map]
  congr 1
  funext row
  simp only [Function.comp_apply]
  split_ifs with hrow
  · simp [OperationEntity.key, hrow.1, hrow.2]
  · rfl

/-- Two writes of rows with one key leave the second. -/
theorem updateOperation_updateOperation {op₁ op₂ : OperationEntity} (hkey : op₁.key = op₂.key) :
    (r.updateOperation op₁).updateOperation op₂ = r.updateOperation op₂ := by
  have hsid : op₁.schedulingID = op₂.schedulingID := congrArg Prod.fst hkey
  have hcid : op₁.correlationID = op₂.correlationID := congrArg Prod.snd hkey
  unfold updateOperation
  simp only [List.map_map]
  congr 2
  funext row
  simp only [Function.comp_apply]
  split_ifs with h₁ h₂ h₂ <;> simp_all

/-- In rows with distinct keys, the filter on both IDs selects exactly the row the search on
them finds. -/
theorem filter_key_of_find? {rows : List OperationEntity} {found : OperationEntity}
    (hfound : rows.find? (fun row => row.schedulingID = schedulingID ∧
      row.correlationID = correlationID) = some found)
    (hkeys : (rows.map OperationEntity.key).Nodup) :
    rows.filter (fun row => row.schedulingID = schedulingID ∧
      row.correlationID = correlationID) = [found] := by
  induction rows with
  | nil => cases hfound
  | cons row rows ih =>
      rw [List.map_cons, List.nodup_cons] at hkeys
      by_cases hrow : row.schedulingID = schedulingID ∧ row.correlationID = correlationID
      · -- the first row is the one found, and no later row has its key
        rw [List.find?_cons_of_pos (by simpa using hrow)] at hfound
        cases hfound
        rw [List.filter_cons_of_pos (by simpa using hrow), List.filter_eq_nil_iff.2]
        intro row' hrow' hsel
        apply hkeys.1
        have hkey : row'.key = found.key := by
          simp only [decide_eq_true_eq] at hsel
          simp [OperationEntity.key, hsel.1, hsel.2, hrow.1, hrow.2]
        exact hkey ▸ List.mem_map_of_mem hrow'
      · rw [List.find?_cons_of_neg (by simpa using hrow)] at hfound
        rw [List.filter_cons_of_neg (by simpa using hrow)]
        exact ih hfound hkeys.2

/-- With distinct keys, the filter on both IDs of `UpdateComponentOperationProcessingDuration`
selects exactly the row `GetOperation` finds. -/
theorem filter_of_getOperation (h : r.getOperation schedulingID correlationID = .ok op)
    (hkeys : (r.operations.map OperationEntity.key).Nodup) :
    r.operations.filter (fun row => row.schedulingID = schedulingID ∧
      row.correlationID = correlationID) = [op] := by
  unfold getOperation at h
  split at h
  · rename_i found hfound
    cases h
    exact filter_key_of_find? hfound hkeys
  · cases h

end Operations

end PersistentReconciliationRepository

end Reconciler
