import Reconciler.Cluster.Inventory
import Reconciler.Scheduler.Persistent
import Reconciler.Lib.SnapshotWrites

/-!
# Cluster status writers of the mothership

Several mothership actors append to the status history of a cluster.  The bookkeeper's
`ClusterStatusTransition.FinishReconciliation` (`pkg/scheduler/service/transition.go`) does it
in one `REPEATABLE READ` transaction.  The handlers `deleteCluster`, `updateLatestCluster` and
`createOrUpdateCluster` (`cmd/mothership/.../http.go`) do it with statements of their own.
Each is a client of `SnapshotWrites`.  It reads its snapshot when it begins and decides its
writes, which go to the tables as they are when it commits.  Status rows are inserts, which
concurrent transactions neither see nor block.

The handlers' statements run in one step here, at their commit.  `createOrUpdateCluster`
reads the previous status when it begins, and then creates and re-disables in one step.
`StartReconciliation` is not modelled.
-/

namespace Reconciler

open SnapshotWrites Relation

/-- The errors of the cluster status writers. -/
inductive TransitionError
  | repository (e : RepositoryError)
  | inventory (e : InventoryError)
  /-- `FinishReconciliation` of a reconciliation that is already finished. -/
  | alreadyFinished (schedulingID : String)
  deriving DecidableEq, Repr

/-- The tables the actors share: the inventory and the scheduler's. -/
structure Database where
  inventory : DefaultInventory
  repository : PersistentReconciliationRepository

/-- A call of an actor that writes a cluster status, with its arguments. -/
inductive ClusterCall
  /-- `ClusterStatusTransition.FinishReconciliation`. -/
  | finishReconciliation (schedulingID : String) (status : Status) (now : Nat)
  /-- The `deleteCluster` handler: `MarkForDeletion`. -/
  | deleteCluster (runtimeID : String) (now : Nat)
  /-- The `updateLatestCluster` handler: `UpdateStatus` of the latest state. -/
  | updateLatestCluster (runtimeID : String) (status : Status) (now : Nat)
  /-- The `createOrUpdateCluster` handler. -/
  | createOrUpdateCluster (contractVersion : Int) (cluster : Cluster) (now : Nat)

namespace ClusterCall

/-- The writes of `FinishReconciliation`, decided on the snapshot `snap` where it read
`clusterState`, made on the tables `db` as they are at commit.  `UpdateStatus` compares with
the latest status of the snapshot; the insert, the update of the reconciliation and `Delete`
go to `db`. -/
def finishReconciliationWrites (snap : Database) (clusterState : ClusterState)
    (schedulingID : String) (status : Status) (now : Nat) (db : Database) :
    Except TransitionError Database := do
  let (inventory, statusEntity) ←
    if clusterState.status.status.isInProgress then
      (DefaultInventory.createStatusIn snap.inventory db.inventory clusterState.configuration
        status now).mapError .inventory
    else pure (db.inventory, clusterState.status)
  let repository ←
    (db.repository.finishReconciliation schedulingID statusEntity now).mapError .repository
  let inventory :=
    if status = .deleted then inventory.delete clusterState.cluster.runtimeID now else inventory
  pure { inventory := inventory, repository := repository }

/-- The transaction of `FinishReconciliation`: what it reads from its snapshot. -/
def finishReconciliationTx (schedulingID : String) (status : Status) (now : Nat)
    (snap : Database) : Except TransitionError (Database → Except TransitionError Database) := do
  let recon ← (snap.repository.getReconciliation schedulingID).mapError .repository
  if recon.finished then throw (.alreadyFinished schedulingID)
  let clusterState ← (snap.inventory.get recon.runtimeID recon.clusterConfig).mapError .inventory
  pure (finishReconciliationWrites snap clusterState schedulingID status now)

/-- The `deleteCluster` handler at commit: `MarkForDeletion` on the tables as they are. -/
def deleteClusterWrites (runtimeID : String) (now : Nat) (db : Database) :
    Except TransitionError Database := do
  let (inventory, _) ← (db.inventory.markForDeletion runtimeID now).mapError .inventory
  pure { db with inventory := inventory }

/-- The `updateLatestCluster` handler at commit. -/
def updateLatestClusterWrites (runtimeID : String) (status : Status) (now : Nat) (db : Database) :
    Except TransitionError Database := do
  let clusterState ← (db.inventory.getLatest runtimeID).mapError .inventory
  let (inventory, _) ← (db.inventory.updateStatus clusterState status now).mapError .inventory
  pure { db with inventory := inventory }

/-- The `createOrUpdateCluster` handler at commit: `CreateOrUpdate`, and `UpdateStatus` to
`ReconcileDisabled` when the state read before was disabled. -/
def createOrUpdateClusterWrites (clusterStateOld : Option ClusterState) (contractVersion : Int)
    (cluster : Cluster) (now : Nat) (db : Database) : Except TransitionError Database := do
  let (inventory, clusterStateNew) ←
    (db.inventory.createOrUpdate contractVersion cluster now).mapError .inventory
  if clusterStateOld.any (fun clusterState => clusterState.status.status.isDisabled) then
    let (inventory', _) ←
      (inventory.updateStatus clusterStateNew .reconcileDisabled now).mapError .inventory
    pure { db with inventory := inventory' }
  else pure { db with inventory := inventory }

/-- The transaction of a call. -/
def txn : ClusterCall → Database → Except TransitionError (Database → Except TransitionError Database)
  | finishReconciliation schedulingID status now => finishReconciliationTx schedulingID status now
  | deleteCluster runtimeID now => fun _ => pure (deleteClusterWrites runtimeID now)
  | updateLatestCluster runtimeID status now => fun _ =>
      pure (updateLatestClusterWrites runtimeID status now)
  | createOrUpdateCluster contractVersion cluster now => fun snap => do
      -- the previous state; a cluster that is not found yet is no error
      let clusterStateOld ← match snap.inventory.getLatest cluster.runtimeID with
        | .ok clusterState => pure (some clusterState)
        | .error .entityNotFound => pure none
        | .error e => throw (.inventory e)
      pure (createOrUpdateClusterWrites clusterStateOld contractVersion cluster now)

end ClusterCall

/-- The actors' calls, interleaved. -/
def ClusterStep {ι : Type*} [DecidableEq ι] (calls : ι → ClusterCall) :
    SnapshotWrites.State ι Database → SnapshotWrites.State ι Database → Prop :=
  SnapshotWrites.Step (fun i => (calls i).txn)

/-! ## Spec lemmas -/

namespace ClusterCall

open DefaultInventory

section Writes

variable {snap db : Database} {schedulingID runtimeID : String} {status : Status} {now : Nat}
  {state : ClusterState}

theorem finishReconciliationTx_eq {recon : ReconciliationEntity}
    (hrecon : snap.repository.getReconciliation schedulingID = .ok recon)
    (hopen : recon.finished = false)
    (hget : snap.inventory.get recon.runtimeID recon.clusterConfig = .ok state) :
    finishReconciliationTx schedulingID status now snap =
      .ok (finishReconciliationWrites snap state schedulingID status now) := by
  simp only [finishReconciliationTx, hrecon, Except.mapError, ok_bind, hopen, hget]
  rfl

/-- A finish of a reconciliation in progress inserts its status into the tables it meets,
whatever was inserted since its snapshot, if the snapshot's latest status differs. -/
theorem finishReconciliationWrites_of_inProgress {old : ClusterStatusEntity}
    {repository : PersistentReconciliationRepository}
    (hprogress : state.status.status.isInProgress = true)
    (hold : snap.inventory.latestStatus state.configuration.version = .ok old)
    (hne : old.status ≠ status) (hdeleted : status ≠ .deleted)
    (hfinish : db.repository.finishReconciliation schedulingID
      (db.inventory.insertStatus (newStatusEntity state.configuration status) now).2 now =
        .ok repository) :
    finishReconciliationWrites snap state schedulingID status now db =
      .ok { inventory := (db.inventory.insertStatus (newStatusEntity state.configuration status)
              now).1,
            repository := repository } := by
  simp only [finishReconciliationWrites, hprogress, if_true, createStatusIn_of_ne hold hne,
    Except.mapError, ok_bind, hfinish, if_neg hdeleted]
  rfl

/-- `MarkForDeletion` of a cluster whose latest status is another one inserts
`DeletePending`. -/
theorem markForDeletion_of_getLatest {inv : DefaultInventory}
    (hlatest : inv.getLatest runtimeID = .ok state)
    (hne : state.status.status ≠ .deletePending) :
    inv.markForDeletion runtimeID now =
      .ok ((inv.insertStatus (newStatusEntity state.configuration .deletePending) now).1,
        { state with
          status := (inv.insertStatus (newStatusEntity state.configuration .deletePending)
            now).2 }) := by
  obtain ⟨-, -, hst⟩ := getLatest_ok hlatest
  simp only [markForDeletion, hlatest, ok_bind, updateStatus, createStatus,
    createStatusIn_of_ne hst hne]
  rfl

end Writes

end ClusterCall

open ClusterCall DefaultInventory in
/-- **A finished reconciliation overrides a deletion.**  The bookkeeper finishes the running
reconciliation of a cluster whose latest status is `Reconciling`, and a deletion request for
the cluster comes in while the bookkeeper's transaction is open.  The request returns with
`DeletePending` as the latest status.  The bookkeeper then commits, and `Ready`, decided on
its snapshot, becomes the latest status; no `CreateOrUpdate` runs in between. -/
theorem finishReconciliation_overrides_deletion {ι : Type*} [DecidableEq ι]
    (calls : ι → ClusterCall) (i j : ι) (hij : i ≠ j) (db : Database)
    (schedulingID runtimeID : String) (nowFinish nowDelete : Nat)
    (recon : ReconciliationEntity) (state : ClusterState)
    (hi : calls i = .finishReconciliation schedulingID .ready nowFinish)
    (hj : calls j = .deleteCluster runtimeID nowDelete)
    (hwf : db.inventory.WellFormed)
    (hrecon : db.repository.getReconciliation schedulingID = .ok recon)
    (hopen : recon.finished = false) (hruntime : recon.runtimeID = runtimeID)
    (hget : db.inventory.get runtimeID recon.clusterConfig = .ok state)
    (hlatest : db.inventory.getLatest runtimeID = .ok state)
    (hreconciling : state.status.status = .reconciling)
    (hfinish : ∀ st, ∃ repository,
      db.repository.finishReconciliation schedulingID st nowFinish = .ok repository) :
    ∃ s₁ s₂, ReflTransGen (ClusterStep calls) (init db) s₁ ∧ s₁.phase j = .committed ∧
      (s₁.db.inventory.getLatest runtimeID).map (·.status.status) = .ok .deletePending ∧
      StepAt (fun k => (calls k).txn) i s₁ s₂ ∧
      (s₂.db.inventory.getLatest runtimeID).map (·.status.status) = .ok .ready ∧
      ∀ k, k ≠ i → k ≠ j → s₂.phase k = .idle := by
  -- the deletion inserts `DeletePending` into the tables
  set deletion := db.inventory.insertStatus (newStatusEntity state.configuration .deletePending)
    nowDelete
  set inv₁ := deletion.1
  have hlatest₁ : inv₁.getLatest runtimeID = .ok { state with status := deletion.2 } :=
    getLatest_insertStatus hwf hlatest .deletePending
  have hdelete : (calls j).txn db = .ok (deleteClusterWrites runtimeID nowDelete) := by
    rw [hj]
    rfl
  have hdeleted : deleteClusterWrites runtimeID nowDelete db = .ok { db with inventory := inv₁ } := by
    simp only [deleteClusterWrites, markForDeletion_of_getLatest hlatest
      (by rw [hreconciling]; exact nofun), Except.mapError, ok_bind]
    rfl
  -- the finisher's snapshot is the state before the deletion
  have hfinisher : (calls i).txn db = .ok (finishReconciliationWrites db state schedulingID
      .ready nowFinish) := by
    rw [hi]
    exact finishReconciliationTx_eq hrecon hopen (hruntime ▸ hget)
  obtain ⟨hversion, hold⟩ := get_ok hget
  obtain ⟨repository, hrepo⟩ := hfinish
    (inv₁.insertStatus (newStatusEntity state.configuration .ready) nowFinish).2
  have hwrites : finishReconciliationWrites db state schedulingID .ready nowFinish
      { db with inventory := inv₁ } =
      .ok { inventory := (inv₁.insertStatus (newStatusEntity state.configuration .ready)
              nowFinish).1,
            repository := repository } :=
    finishReconciliationWrites_of_inProgress (by rw [hreconciling]; rfl) (hversion ▸ hold)
      (by rw [hreconciling]; exact nofun) nofun hrepo
  -- the run: the finisher begins, the deletion runs, the finisher commits
  set s₀ := (init db : SnapshotWrites.State ι Database).setPhase i (.running db)
  have hbegin : StepAt (fun k => (calls k).txn) i (init db) s₀ := .begin rfl
  have hj₀ : s₀.phase j = .idle := by simp [s₀, init, Function.update_of_ne hij.symm]
  have hrun : ReflTransGen (ClusterStep calls) s₀ _ := Step.begin_commit hj₀ hdelete hdeleted
  refine ⟨_, _, .head ⟨i, hbegin⟩ hrun, by simp, ?_, .commit ?_ hfinisher hwrites, ?_, ?_⟩
  · rw [hlatest₁]
    rfl
  · simp [s₀, Function.update_of_ne hij]
  · have hwf₁ : inv₁.WellFormed := hwf.insertStatus nowDelete _
    rw [getLatest_insertStatus hwf₁ hlatest₁ .ready]
    rfl
  -- no other client, a `CreateOrUpdate` among them, has begun
  · intro k hki hkj
    simp [s₀, init, Function.update_of_ne hki, Function.update_of_ne hkj]

/-- A cluster being reconciled: one cluster version, one configuration with status
`Reconciling`, and the unfinished reconciliation of that configuration. -/
def reconcilingDatabase : Database where
  inventory :=
    { clusters := [{ version := 1, runtimeID := "runtime" }]
      configs := [{ version := 1, runtimeID := "runtime", clusterVersion := 1 }]
      statuses := [{ id := 1, runtimeID := "runtime", clusterVersion := 1, configVersion := 1,
                     status := .reconciling }]
      clusterVersionSeq := 2, configVersionSeq := 2, statusIDSeq := 2 }
  repository :=
    { reconciliations := [{ lock := "runtime", runtimeID := "runtime", clusterConfig := 1,
                            clusterConfigStatus := 1, schedulingID := "runtime--1" }]
      operations := [] }

/-- The bookkeeper finishing the reconciliation, and a deletion request. -/
def finishAndDelete : Bool → ClusterCall
  | true => .finishReconciliation "runtime--1" .ready 2
  | false => .deleteCluster "runtime" 1

theorem finishReconciliation_overrides_deletion_of_reconciling :
    ∃ s₁ s₂, ReflTransGen (ClusterStep finishAndDelete) (init reconcilingDatabase) s₁ ∧
      s₁.phase false = .committed ∧
      (s₁.db.inventory.getLatest "runtime").map (·.status.status) = .ok .deletePending ∧
      StepAt (fun k => (finishAndDelete k).txn) true s₁ s₂ ∧
      (s₂.db.inventory.getLatest "runtime").map (·.status.status) = .ok .ready ∧
      ∀ k, k ≠ true → k ≠ false → s₂.phase k = .idle :=
  finishReconciliation_overrides_deletion finishAndDelete true false (by decide)
    reconcilingDatabase "runtime--1" "runtime" 2 1 _ _ rfl rfl
    { clusters_lt := by decide, configs_lt := by decide, statuses_lt := by decide }
    rfl rfl rfl rfl rfl rfl (fun _ => ⟨_, rfl⟩)

end Reconciler
