import Reconciler.Cluster.Transition
import Reconciler.Db.Validator
import Reconciler.Lib.Window
import Reconciler.Lib.Transition
import Mathlib.Algebra.Group.Int.Defs

/-!
# The retry budget of failing reconciliations

The bookkeeper's `finishOperation.Apply` (`pkg/scheduler/service/bookkeepingtask.go`) turns a
failed reconciliation of a cluster into `ReconcileErrorRetryable` while fewer than
`MaxReconcileErrRetries` errors are recorded, and into the terminal `ReconcileError` after
that; a failed deletion likewise, with `MaxDeleteErrRetries`.  The budget is not stored.
`DefaultInventory.CountRetries` (`pkg/cluster/inventory.go`) counts it again each time, over
the newest `5 * maxRetries` statuses of the configuration version, up to the newest
`Ready` or `Deleted` one.

A round of a failing cluster is `StartReconciliation` (`pkg/scheduler/service/transition.go`),
which sets `Reconciling` or `Deleting`, statuses that are not final written by the
`updateLatestCluster` handler meanwhile, and the bookkeeper's finish.  Each round refines a
`Window.Round` of the history, newest first, and so keeps its `Window.Budget`.

The database runs one statement or transaction at a time here, and its queries do not fail.
-/

namespace Reconciler

open Window

/-- `statusInSlice`. -/
def statusInSlice (status : Status) (statusList : List Status) : Bool :=
  statusList.any fun s => s == status

namespace DefaultInventory

/-- The statuses of a configuration version of a cluster, in the order of the table. -/
def statusHistory (inv : DefaultInventory) (runtimeID : String) (configVersion : Int) :
    List ClusterStatusEntity :=
  inv.statuses.filter fun s => s.runtimeID = runtimeID ∧ s.configVersion = configVersion

/-- The loop of `CountRetries` over the statuses it read, newest first. -/
def countErrors (errorStatus : List Status) : List ClusterStatusEntity → Nat → Nat
  | [], errCnt => errCnt
  | clStatusEntity :: clusterStatuses, errCnt =>
    if clStatusEntity.status.isFinal then
      if statusInSlice clStatusEntity.status errorStatus then
        countErrors errorStatus clusterStatuses (errCnt + 1)
      else if clStatusEntity.status.isFinalStable then errCnt
      else countErrors errorStatus clusterStatuses errCnt
    else countErrors errorStatus clusterStatuses errCnt

/-- Go's `int` arithmetic on 64 bits: the value modulo `2 ^ 64`, in `[-2 ^ 63, 2 ^ 63)`. -/
def wrapInt64 (x : Int) : Int := (x + 2 ^ 63) % 2 ^ 64 - 2 ^ 63

theorem wrapInt64_of_lt {x : Int} (h₀ : -2 ^ 63 ≤ x) (h : x < 2 ^ 63) : wrapInt64 x = x := by
  unfold wrapInt64
  rw [Int.emod_eq_of_lt (by omega) (by omega)]
  omega

/-- `CountRetries`: the query orders by `id` descending and has `LIMIT maxRetries * 5`, a
product of Go `int`s that wraps around, and which the database refuses when it is negative. -/
def countRetries (inv : DefaultInventory) (runtimeID : String) (configVersion : Int)
    (maxRetries : Int) (errorStatus : List Status) : Except String Nat :=
  if errorStatus = [] then .error "errorStatus slice is empty"
  else
    let maxStatusHistoryLength := wrapInt64 (maxRetries * 5)
    if maxStatusHistoryLength < 0 then
      .error ("failed to count error for runtime " ++ runtimeID ++
        ": pq: LIMIT must not be negative")
    else
      let clusterStatuses := ((inv.statusHistory runtimeID configVersion).mergeSort
        fun a b => decide (b.id ≤ a.id)).take maxStatusHistoryLength.toNat
      .ok (countErrors errorStatus clusterStatuses 0)

end DefaultInventory

/-! ## The bookkeeper -/

/-- `BookkeeperConfig`; the watch interval and the orphan timeout are left out. -/
structure BookkeeperConfig where
  maxReconcileErrRetries : Int
  maxDeleteErrRetries : Int
  deriving DecidableEq, Repr

/-- `defaultMaxReconcileErrRetries`. -/
def defaultMaxReconcileErrRetries : Int := 150

/-- `defaultMaxDeleteErrRetries`. -/
def defaultMaxDeleteErrRetries : Int := 15

/-- `BookkeeperConfig.validate`: a negative budget is refused, a zero one is the default.
Returns the configuration the bookkeeper runs with. -/
def BookkeeperConfig.validate (wc : BookkeeperConfig) : Except String BookkeeperConfig :=
  if wc.maxReconcileErrRetries < 0 then .error "maxReconcileErrRetries cannot be < 0"
  else
    let wc := if wc.maxReconcileErrRetries = 0 then
      { wc with maxReconcileErrRetries := defaultMaxReconcileErrRetries } else wc
    if wc.maxDeleteErrRetries < 0 then .error "maxDeleteErrRetries cannot be < 0"
    else .ok (if wc.maxDeleteErrRetries = 0 then
      { wc with maxDeleteErrRetries := defaultMaxDeleteErrRetries } else wc)

/-- A configuration the bookkeeper runs with has positive budgets. -/
theorem BookkeeperConfig.validate_pos {wc config : BookkeeperConfig}
    (h : wc.validate = .ok config) :
    0 < config.maxReconcileErrRetries ∧ 0 < config.maxDeleteErrRetries := by
  unfold BookkeeperConfig.validate at h
  dsimp only at h
  split_ifs at h <;> cases h
  -- the defaults, where a budget was zero
  · simp only [defaultMaxReconcileErrRetries, defaultMaxDeleteErrRetries] at *
    omega
  · simp only [defaultMaxReconcileErrRetries] at *
    omega
  · simp only [defaultMaxDeleteErrRetries] at *
    omega
  · omega

/-- `operationErrorContainsNoSuchHost`. -/
def operationErrorContainsNoSuchHost (ops : List OperationEntity) : Bool :=
  ops.any fun op => contains op.reason "no such host"

/-- The count a call of `CountRetries` returns: `0` with its error, which is only logged. -/
def errCount (r : Except String Nat) : Int :=
  match r with
  | .ok errCnt => errCnt
  | .error _ => 0

namespace ClusterCall

/-- A call with no other transaction open: its snapshot is the tables it writes. -/
def runAlone (call : ClusterCall) (db : Database) : Except TransitionError Database := do
  let writes ← call.txn db
  writes db

end ClusterCall

namespace FinishOperation

/-- The status `finishOperation.Apply` finishes a reconciliation with, from the result
`GetResult` gave and the operations that failed. -/
def newClusterStatus (inv : DefaultInventory) (config : BookkeeperConfig)
    (recon : ReconciliationEntity) (errorOps : List OperationEntity) (result : Status) : Status :=
  match result with
  | .deleteError =>
    let errCnt := errCount (inv.countRetries recon.runtimeID recon.clusterConfig
      config.maxDeleteErrRetries [.deleteError, .deleteErrorRetryable])
    if errCnt < config.maxDeleteErrRetries then
      if errCnt ≥ 1 ∧ operationErrorContainsNoSuchHost errorOps then .deleted
      else .deleteErrorRetryable
    else .deleteError
  | .reconcileError =>
    let errCnt := errCount (inv.countRetries recon.runtimeID recon.clusterConfig
      config.maxReconcileErrRetries [.reconcileError, .reconcileErrorRetryable])
    if errCnt < config.maxReconcileErrRetries then .reconcileErrorRetryable else .reconcileError
  | status => status

/-- `finishOperation.Apply`: `FinishReconciliation` with a final status.  A failed transaction
leaves the tables as they were; its error goes back to the bookkeeper. -/
def apply (db : Database) (config : BookkeeperConfig) (recon : ReconciliationEntity)
    (errorOps : List OperationEntity) (result : Status) (now : Nat) : Database :=
  let status := newClusterStatus db.inventory config recon errorOps result
  if !status.isFinal then db
  else
    match ClusterCall.runAlone (.finishReconciliation recon.schedulingID status now) db with
    | .ok db' => db'
    | .error _ => db

end FinishOperation

/-! ## `StartReconciliation` -/

/-- `SchedulerConfig`: the fields `StartReconciliation` reads. -/
structure SchedulerConfig where
  preComponents : List (List String)
  deleteStrategy : String
  deriving DecidableEq, Repr

/-- The errors of `StartReconciliation`. -/
inductive StartError
  | transition (e : TransitionError)
  /-- The cluster has an unfinished reconciliation. -/
  | alreadyEnqueued (runtimeID schedulingID : String)
  /-- The cluster's status is no candidate. -/
  | noCandidate (runtimeID : String) (status : Status)
  /-- `CreateReconciliation` failed after the status was set in `newClusterState`. -/
  | createReconciliation (newClusterState : ClusterState) (e : RepositoryError)
  deriving DecidableEq, Repr

namespace ClusterStatusTransition

/-- The status `StartReconciliation` sets: `Deleting` for a delete candidate, `Reconciling`
for a reconcile candidate. -/
def targetState (oldClusterState : ClusterState) : Except StartError Status :=
  if oldClusterState.status.status.isDeleteCandidate then .ok .deleting
  else if oldClusterState.status.status.isReconcileCandidate then .ok .reconciling
  else .error (.noCandidate oldClusterState.cluster.runtimeID oldClusterState.status.status)

/-- The transaction of `StartReconciliation`: the tables it leaves, the reconciliation it
enqueues and the configuration of the cleaner after it. -/
def startReconciliationTx (runtimeID : String) (configVersion : Int) (cfg : SchedulerConfig)
    (cleaner : List Configuration) (ids : Nat → String) (now : Nat) (db : Database) :
    Except StartError (Database × ReconciliationEntity × List Configuration) := do
  -- `CurrentlyReconcilingWithRuntimeID`
  let recons := db.repository.reconciliations.filter
    fun recon => recon.runtimeID = runtimeID ∧ !recon.finished
  (match recons.head? with
    | some recon => throw (.alreadyEnqueued runtimeID recon.schedulingID)
    | none => pure () : Except StartError Unit)
  let oldClusterState ← (db.inventory.get runtimeID configVersion).mapError
    fun e => .transition (.inventory e)
  let targetState ← targetState oldClusterState
  let (inventory, newClusterState) ←
    (db.inventory.updateStatus oldClusterState targetState now).mapError
      fun e => .transition (.inventory e)
  let (repository, reconEntity, cleaner') ←
    (db.repository.createReconciliation newClusterState
      { preComponents := cfg.preComponents, deleteStrategy := cfg.deleteStrategy,
        reconciliationStatus := newClusterState.status.status } cleaner ids now).mapError
      (.createReconciliation newClusterState)
  pure ({ inventory := inventory, repository := repository }, reconEntity, cleaner')

/-- `StartReconciliation`: the transaction, and after it failed for a cluster without
components, the update of the cluster's status to `ReconcileError` outside it. -/
def startReconciliation (runtimeID : String) (configVersion : Int) (cfg : SchedulerConfig)
    (cleaner : List Configuration) (ids : Nat → String) (now : Nat) (db : Database) :
    Database × Except StartError (ReconciliationEntity × List Configuration) :=
  match startReconciliationTx runtimeID configVersion cfg cleaner ids now db with
  | .ok (db', reconEntity, cleaner') => (db', .ok (reconEntity, cleaner'))
  | .error (.createReconciliation newClusterState (.emptyComponents r v)) =>
    match db.inventory.updateStatus newClusterState .reconcileError now with
    | .ok (inventory, _) =>
      ({ db with inventory := inventory },
        .error (.createReconciliation newClusterState (.emptyComponents r v)))
    | .error e => (db, .error (.transition (.inventory e)))
  | .error e => (db, .error e)

end ClusterStatusTransition

/-- The `updateLatestCluster` handler; a failed call changes nothing. -/
def updateLatestCluster (runtimeID : String) (status : Status) (now : Nat) (db : Database) :
    Database :=
  match ClusterCall.runAlone (.updateLatestCluster runtimeID status now) db with
  | .ok db' => db'
  | .error _ => db

/-- Statuses the `updateLatestCluster` handler writes while a reconciliation runs. -/
def writeInterims (runtimeID : String) (interims : List Status) (now : Nat) (db : Database) :
    Database :=
  interims.foldl (fun db status => updateLatestCluster runtimeID status now db) db

/-! ## The history of a configuration version -/

/-- A failing cluster is reconciled, or deleted, again and again. -/
inductive ErrorPath
  | reconcile
  | delete
  deriving DecidableEq, Repr

namespace ErrorPath

/-- The status `GetResult` gives a failed round. -/
def result : ErrorPath → Status
  | reconcile => .reconcileError
  | delete => .deleteError

/-- The status of a failed round that is retried. -/
def retryable : ErrorPath → Status
  | reconcile => .reconcileErrorRetryable
  | delete => .deleteErrorRetryable

/-- The statuses `CountRetries` is asked to count. -/
def errorStatus (path : ErrorPath) : List Status :=
  [path.result, path.retryable]

/-- The budget of the path. -/
def maxRetries (config : BookkeeperConfig) : ErrorPath → Int
  | reconcile => config.maxReconcileErrRetries
  | delete => config.maxDeleteErrRetries

/-- The entries `CountRetries` counts. -/
def counted (path : ErrorPath) (s : ClusterStatusEntity) : Bool :=
  s.status.isFinal && statusInSlice s.status path.errorStatus

/-- The entries that are retries. -/
def isRetry (path : ErrorPath) (s : ClusterStatusEntity) : Bool :=
  s.status == path.retryable

end ErrorPath

/-- The entries `CountRetries` stops at. -/
def isStable (s : ClusterStatusEntity) : Bool :=
  s.status.isFinal && s.status.isFinalStable

/-- The statuses `status` recorded in a history after its last `Ready` or `Deleted` one. -/
def recordedSinceStable (status : Status) (history : List ClusterStatusEntity) : Nat :=
  (history.reverse.takeWhile fun s => !s.status.isFinalStable).countP fun s => s.status == status

namespace DefaultInventory

/-- The history of a configuration version, newest first. -/
def newestFirst (inv : DefaultInventory) (runtimeID : String) (configVersion : Int) :
    List ClusterStatusEntity :=
  (inv.statusHistory runtimeID configVersion).reverse

/-- What the inventory keeps: its keys, status IDs ascending in the table, and each
configuration of the cluster of the cluster version it names. -/
structure Consistent (inv : DefaultInventory) : Prop where
  wellFormed : inv.WellFormed
  ids_lt : inv.statuses.Pairwise fun a b => a.id < b.id
  runtimeID_eq : ∀ c ∈ inv.configs, ∀ k ∈ inv.clusters, k.version = c.clusterVersion →
    k.runtimeID = c.runtimeID

/-- The statuses of a configuration version, also those `Delete` renamed away from its
history. -/
def statusesOf (inv : DefaultInventory) (configVersion : Int) : List ClusterStatusEntity :=
  inv.statuses.filter fun s => s.configVersion = configVersion

/-- From `inv` to `inv'`, the history of a configuration version gained no more entries than
the version gained statuses. -/
def HistoryCovered (inv inv' : DefaultInventory) (runtimeID : String) (configVersion : Int) :
    Prop :=
  (inv'.statusHistory runtimeID configVersion).length + (inv.statusesOf configVersion).length ≤
    (inv.statusHistory runtimeID configVersion).length + (inv'.statusesOf configVersion).length

/-- `inv'` is `inv`, or `inv` with a status `status` of the configuration `c` more. -/
def AddsStatus (inv inv' : DefaultInventory) (c : ClusterConfigurationEntity) (status : Status) :
    Prop :=
  inv' = inv ∨ ∃ now, inv' = (inv.insertStatus (newStatusEntity c status) now).1

/-! ### Spec lemmas -/

section Spec

variable {inv inv' : DefaultInventory} {runtimeID : String} {configVersion : Int} {now : Nat}

theorem statusHistory_insertStatus (e : ClusterStatusEntity) :
    (inv.insertStatus e now).1.statusHistory runtimeID configVersion =
      inv.statusHistory runtimeID configVersion ++
        if e.runtimeID = runtimeID ∧ e.configVersion = configVersion then
          [(inv.insertStatus e now).2] else [] := by
  simp only [statusHistory, insertStatus, List.filter_append, List.filter_singleton]
  by_cases hr : e.runtimeID = runtimeID <;> by_cases hv : e.configVersion = configVersion <;>
    simp [hr, hv]

theorem statusesOf_insertStatus (e : ClusterStatusEntity) :
    (inv.insertStatus e now).1.statusesOf configVersion =
      inv.statusesOf configVersion ++
        if e.configVersion = configVersion then [(inv.insertStatus e now).2] else [] := by
  simp only [statusesOf, insertStatus, List.filter_append, List.filter_singleton]
  by_cases hv : e.configVersion = configVersion <;> simp [hv]

theorem HistoryCovered.refl : HistoryCovered inv inv runtimeID configVersion :=
  Nat.le_refl _

theorem HistoryCovered.trans {inv'' : DefaultInventory}
    (h : HistoryCovered inv inv' runtimeID configVersion)
    (h' : HistoryCovered inv' inv'' runtimeID configVersion) :
    HistoryCovered inv inv'' runtimeID configVersion := by
  unfold HistoryCovered at *
  omega

theorem Consistent.insertStatus (hc : inv.Consistent) (e : ClusterStatusEntity) (now : Nat) :
    (inv.insertStatus e now).1.Consistent where
  wellFormed := hc.wellFormed.insertStatus now e
  ids_lt := by
    -- the new row takes the next value of the sequence, above every other
    refine List.pairwise_append.2 ⟨hc.ids_lt, List.pairwise_singleton _ _, ?_⟩
    intro a ha b hb
    rw [List.mem_singleton.1 hb]
    exact hc.wellFormed.statuses_lt a ha
  runtimeID_eq := hc.runtimeID_eq

/-- `Delete` renames every status of the cluster. -/
theorem statusHistory_delete :
    (inv.delete runtimeID now).statusHistory runtimeID configVersion = [] := by
  refine List.filter_eq_nil_iff.2 fun s hs => ?_
  obtain ⟨s, -, rfl⟩ := List.mem_map.1 hs
  split_ifs with hhit
  -- the new name is the old one behind a prefix, so another name
  · simp
  · simp only [decide_eq_true_eq, not_or] at hhit
    simp [hhit.1]

/-- The newest of renamed rows is the renamed newest row, when renaming keeps the key. -/
theorem newest_map {α : Type} {key : α → Int} {f : α → α} (hkey : ∀ a, key (f a) = key a)
    (rows : List α) : newest key (rows.map f) = (newest key rows).map f := by
  induction rows using List.reverseRecOn with
  | nil => rfl
  | append_singleton rows a ih =>
    unfold newest at ih ⊢
    rw [List.map_append, List.map_singleton, List.argmax_concat, List.argmax_concat, ih]
    cases List.argmax key rows with
    | none => rfl
    | some c =>
      simp only [Option.map_some, hkey]
      split_ifs <;> rfl

/-- Renaming rows keeps their versions, so the rows of a version are the renamed ones. -/
theorem filter_configVersion_map {f : ClusterStatusEntity → ClusterStatusEntity}
    (hf : ∀ s, (f s).configVersion = s.configVersion) (rows : List ClusterStatusEntity) :
    (rows.map f).filter (fun s => s.configVersion = configVersion) =
      (rows.filter fun s => s.configVersion = configVersion).map f := by
  rw [List.filter_map]
  congr 2
  funext s
  simp [hf]

/-- `Delete` keeps the latest status of a configuration version, renamed. -/
theorem latestStatus_delete (runtimeID' : String) {y : ClusterStatusEntity}
    (h : inv.latestStatus configVersion = .ok y) :
    ∃ y', (inv.delete runtimeID' now).latestStatus configVersion = .ok y' ∧ y'.status = y.status := by
  unfold latestStatus at h ⊢
  split at h
  · rename_i y₀ hnewest
    cases h
    -- the renaming keeps the version and the ID of every row
    simp only [delete]
    rw [filter_configVersion_map (fun s => by split_ifs <;> rfl),
      newest_map (fun s => by split_ifs <;> rfl), hnewest, Option.map_some]
    exact ⟨_, rfl, by split_ifs <;> rfl⟩
  · cases h

/-- `Delete` renames statuses and keeps them. -/
theorem length_statusesOf_delete (runtimeID' : String) :
    ((inv.delete runtimeID' now).statusesOf configVersion).length =
      (inv.statusesOf configVersion).length := by
  simp only [statusesOf, delete]
  rw [filter_configVersion_map (fun s => by split_ifs <;> rfl), List.length_map]

/-- The `Delete` of the cluster empties its history and keeps its statuses. -/
theorem HistoryCovered.delete : HistoryCovered inv (inv.delete runtimeID now) runtimeID configVersion := by
  unfold HistoryCovered
  rw [statusHistory_delete, length_statusesOf_delete, List.length_nil]
  omega

theorem Consistent.delete (hc : inv.Consistent) (runtimeID : String) (now : Nat) :
    (inv.delete runtimeID now).Consistent where
  wellFormed := by
    refine ⟨fun c hc' => ?_, fun c hc' => ?_, fun s hs => ?_⟩
    · obtain ⟨c, hmem, rfl⟩ := List.mem_map.1 hc'
      split_ifs <;> exact hc.wellFormed.clusters_lt c hmem
    · obtain ⟨c, hmem, rfl⟩ := List.mem_map.1 hc'
      split_ifs <;> exact hc.wellFormed.configs_lt c hmem
    · obtain ⟨s, hmem, rfl⟩ := List.mem_map.1 hs
      split_ifs <;> exact hc.wellFormed.statuses_lt s hmem
  ids_lt := hc.ids_lt.map _ fun a b hab => by split_ifs <;> exact hab
  runtimeID_eq := by
    -- a configuration and its cluster version carry one name, which is renamed alike
    intro c hc' k hk hversion
    obtain ⟨c, hcmem, rfl⟩ := List.mem_map.1 hc'
    obtain ⟨k, hkmem, rfl⟩ := List.mem_map.1 hk
    have hversion' : k.version = c.clusterVersion := by
      simpa only [apply_ite ClusterEntity.version,
        apply_ite ClusterConfigurationEntity.clusterVersion, ite_self] using hversion
    rw [apply_ite ClusterEntity.runtimeID, apply_ite ClusterConfigurationEntity.runtimeID,
      hc.runtimeID_eq c hcmem k hkmem hversion']

theorem mem_of_config {c : ClusterConfigurationEntity}
    (h : inv.config runtimeID configVersion = .ok c) :
    c ∈ inv.configs ∧ c.runtimeID = runtimeID := by
  unfold config at h
  split at h
  · rename_i c' hc
    cases h
    have hmem := List.mem_filter.1 (List.mem_of_mem_head? hc)
    simp only [decide_eq_true_eq] at hmem
    exact ⟨hmem.1, hmem.2.2⟩
  · cases h

theorem mem_of_cluster {clusterVersion : Int} {k : ClusterEntity}
    (h : inv.cluster clusterVersion = .ok k) :
    k ∈ inv.clusters ∧ k.version = clusterVersion := by
  unfold cluster at h
  split at h
  · rename_i k' hk
    cases h
    have hmem := List.mem_filter.1 (List.mem_of_mem_head? hk)
    simp only [decide_eq_true_eq] at hmem
    exact ⟨hmem.1, hmem.2.1⟩
  · cases h

/-- In a consistent inventory `Get` reads a state of the cluster it is asked for. -/
theorem Consistent.get_runtimeID (hc : inv.Consistent) {state : ClusterState}
    (h : inv.get runtimeID configVersion = .ok state) :
    state.cluster.runtimeID = runtimeID ∧ state.configuration.runtimeID = runtimeID ∧
      state.configuration.version = configVersion := by
  obtain ⟨configEntity, hcf, h'⟩ := bind_eq_ok h
  obtain ⟨statusEntity, -, h'⟩ := bind_eq_ok h'
  obtain ⟨clusterEntity, hcl, h'⟩ := bind_eq_ok h'
  cases h'
  obtain ⟨hcmem, hcname⟩ := mem_of_config hcf
  obtain ⟨hkmem, hkversion⟩ := mem_of_cluster hcl
  exact ⟨(hc.runtimeID_eq configEntity hcmem clusterEntity hkmem hkversion).trans hcname, hcname,
    config_version hcf⟩

/-! ### Writes of one status -/

variable {c : ClusterConfigurationEntity} {status : Status}

theorem AddsStatus.refl : AddsStatus inv inv c status :=
  .inl rfl

theorem AddsStatus.consistent (hc : inv.Consistent) (h : AddsStatus inv inv' c status) :
    inv'.Consistent := by
  rcases h with rfl | ⟨now, rfl⟩
  · exact hc
  · exact hc.insertStatus _ now

/-- A write of one status appends at most that status to a history. -/
theorem AddsStatus.statusHistory (h : AddsStatus inv inv' c status) (runtimeID : String)
    (configVersion : Int) :
    ∃ n, inv'.statusHistory runtimeID configVersion =
        inv.statusHistory runtimeID configVersion ++ n ∧
      n.length ≤ 1 ∧ ∀ x ∈ n, x.status = status := by
  rcases h with rfl | ⟨now, rfl⟩
  · exact ⟨[], by simp, by simp, by simp⟩
  · refine ⟨_, statusHistory_insertStatus _, by split_ifs <;> simp, fun x hx => ?_⟩
    split_ifs at hx
    · rw [List.mem_singleton.1 hx]
      rfl
    · cases hx

/-- A write of one status adds a status of the version for each entry its history gains. -/
theorem AddsStatus.covered (h : AddsStatus inv inv' c status) :
    HistoryCovered inv inv' runtimeID configVersion := by
  rcases h with rfl | ⟨now, rfl⟩
  · exact .refl
  · unfold HistoryCovered
    rw [statusHistory_insertStatus, statusesOf_insertStatus]
    -- the new row joins the history only as a status of the version
    by_cases hversion : (newStatusEntity c status).configVersion = configVersion
    · rw [if_pos hversion]
      split_ifs <;> simp only [List.length_append, List.length_singleton, List.length_nil] <;> omega
    · rw [if_neg hversion, if_neg fun h => hversion h.2, List.append_nil, List.append_nil]

theorem createStatusIn_adds {snap : DefaultInventory} {e : ClusterStatusEntity}
    (h : createStatusIn snap inv c status now = .ok (inv', e)) : AddsStatus inv inv' c status := by
  unfold createStatusIn at h
  dsimp only at h
  split at h
  · split_ifs at h
    · cases h
      exact .refl
    · cases h
      exact .inr ⟨now, rfl⟩
  · split_ifs at h
    cases h
    exact .inr ⟨now, rfl⟩

/-- The status row a creation returns has the requested status: a reused row is `Equal` to the
requested one, which compares the statuses. -/
theorem createStatusIn_status {snap : DefaultInventory} {e : ClusterStatusEntity}
    (h : createStatusIn snap inv c status now = .ok (inv', e)) : e.status = status := by
  unfold createStatusIn at h
  dsimp only at h
  split at h
  · split_ifs at h with heq
    · cases h
      simp only [ClusterStatusEntity.equal, newStatusEntity] at heq
      exact (of_decide_eq_true heq).2
    · cases h
      rfl
  · split_ifs at h
    cases h
    rfl

theorem updateStatus_status {state state' : ClusterState}
    (h : inv.updateStatus state status now = .ok (inv', state')) : state'.status.status = status := by
  obtain ⟨⟨inv'', e⟩, hcreate, h'⟩ := bind_eq_ok h
  cases h'
  exact createStatusIn_status hcreate

theorem updateStatus_adds {state state' : ClusterState}
    (h : inv.updateStatus state status now = .ok (inv', state')) :
    AddsStatus inv inv' state.configuration status ∧ state'.cluster = state.cluster ∧
      state'.configuration = state.configuration := by
  obtain ⟨⟨inv'', e⟩, hcreate, h'⟩ := bind_eq_ok h
  cases h'
  exact ⟨createStatusIn_adds hcreate, rfl, rfl⟩

end Spec

/-! ### What `CountRetries` counts -/

theorem countErrors_eq (errorStatus : List Status) (l : List ClusterStatusEntity) (errCnt : Nat) :
    countErrors errorStatus l errCnt = errCnt +
      countBefore (fun s => s.status.isFinal && statusInSlice s.status errorStatus) isStable l := by
  induction l generalizing errCnt with
  | nil => rfl
  | cons a l ih =>
    rw [countBefore_cons]
    cases hfinal : a.status.isFinal
    · simp [countErrors, isStable, hfinal, ih]
    · by_cases hin : statusInSlice a.status errorStatus = true
      · simp only [countErrors, hfinal, hin, if_true, Bool.and_self, ih]
        omega
      · simp only [countErrors, isStable, hfinal, hin, ih, if_true, Bool.true_and, if_false,
          Bool.false_eq_true]
        split_ifs <;> omega

/-- Rows with ascending IDs, ordered by `id` descending, are the rows newest first. -/
theorem mergeSort_id_desc {l : List ClusterStatusEntity} (h : l.Pairwise fun a b => a.id < b.id) :
    l.mergeSort (fun a b => decide (b.id ≤ a.id)) = l.reverse := by
  have hnodup : (l.map (·.id)).Nodup := List.pairwise_map.2 (h.imp ne_of_lt)
  have hsorted :
      (l.mergeSort fun a b => decide (b.id ≤ a.id)).Pairwise fun a b => b.id ≤ a.id :=
    (List.pairwise_mergeSort (fun a b c hab hbc => by simp only [decide_eq_true_eq] at *; omega)
      (fun a b => by simp only [Bool.or_eq_true, decide_eq_true_eq]; omega) l).imp
      (by simp)
  refine @List.Perm.eq_of_pairwise _ (fun a b => b.id ≤ a.id) _ _ ?_ hsorted
    (List.pairwise_reverse.2 (h.imp le_of_lt))
    ((List.mergeSort_perm _ _).trans (List.reverse_perm l).symm)
  -- two rows of one ID are one row
  intro a b ha hb hba hab
  exact List.inj_on_of_nodup_map hnodup ((List.mergeSort_perm _ _).subset ha)
    (List.mem_reverse.1 hb) (le_antisymm hab hba)

/-- **`CountRetries` counts through a window.**  On status IDs ascending in the table, with a
budget that is not negative and whose product by five does not wrap, it counts the newest
`5 * maxRetries` statuses as `countBefore` does. -/
theorem countRetries_eq {inv : DefaultInventory} {runtimeID : String} {configVersion : Int}
    {maxRetries : Int} {errorStatus : List Status} (hmax : 0 ≤ maxRetries)
    (hbound : maxRetries * 5 < 2 ^ 63)
    (hne : errorStatus ≠ []) (hids : inv.statuses.Pairwise fun a b => a.id < b.id) :
    inv.countRetries runtimeID configVersion maxRetries errorStatus =
      .ok (countBefore (fun s => s.status.isFinal && statusInSlice s.status errorStatus) isStable
        ((inv.newestFirst runtimeID configVersion).take (5 * maxRetries.toNat))) := by
  have hwrap : wrapInt64 (maxRetries * 5) = maxRetries * 5 := wrapInt64_of_lt (by omega) hbound
  have hlimit : ¬ maxRetries * 5 < 0 := by omega
  have htoNat : (maxRetries * 5).toNat = 5 * maxRetries.toNat := by omega
  simp only [countRetries, if_neg hne, hwrap, if_neg hlimit, htoNat, statusHistory,
    mergeSort_id_desc (hids.filter _), countErrors_eq, Nat.zero_add, newestFirst]

/-- A count above zero read a status of the history with one of the error statuses. -/
theorem exists_of_countRetries_pos {inv : DefaultInventory} {runtimeID : String}
    {configVersion maxRetries : Int} {errorStatus : List Status} {n : Nat}
    (h : inv.countRetries runtimeID configVersion maxRetries errorStatus = .ok n) (hn : 0 < n) :
    ∃ x ∈ inv.statusHistory runtimeID configVersion, statusInSlice x.status errorStatus = true := by
  unfold countRetries at h
  dsimp only at h
  split_ifs at h
  cases h
  rw [countErrors_eq, Nat.zero_add] at hn
  obtain ⟨x, hx, hcounted⟩ := exists_of_countBefore_pos hn
  refine ⟨x, (List.mergeSort_perm _ _).subset (List.mem_of_mem_take hx), ?_⟩
  simp only [Bool.and_eq_true] at hcounted
  exact hcounted.2

end DefaultInventory

/-! ## The decision of the bookkeeper -/

namespace ErrorPath

variable (path : ErrorPath) {s : ClusterStatusEntity}

theorem counted_of_status (h : s.status = path.result ∨ s.status = path.retryable) :
    path.counted s = true := by
  rcases h with h | h <;> cases path <;> simp [counted, errorStatus, statusInSlice, h, result,
    retryable, Status.isFinal]

theorem counted_of_isRetry (h : path.isRetry s = true) : path.counted s = true :=
  path.counted_of_status (.inr (by simpa [isRetry] using h))

/-- An entry that is not final is neither counted nor a stop. -/
theorem quiet_of_not_isFinal (h : s.status.isFinal = false) : Quiet path.counted isStable s :=
  ⟨by simp [counted, h], by simp [isStable, h]⟩

/-- The bookkeeper runs with a positive budget on either path. -/
theorem maxRetries_pos {wc config : BookkeeperConfig} (h : wc.validate = .ok config) :
    0 < path.maxRetries config := by
  cases path
  · exact (BookkeeperConfig.validate_pos h).1
  · exact (BookkeeperConfig.validate_pos h).2

/-- The status a refused start sets is no retry. -/
theorem reconcileError_ne_retryable : Status.reconcileError ≠ path.retryable := by
  cases path <;> decide

theorem not_isReconcileCandidate_result : path.result.isReconcileCandidate = false := by
  cases path <;> rfl

theorem not_isDeleteCandidate_result : path.result.isDeleteCandidate = false := by
  cases path <;> rfl

theorem isFinal_result : path.result.isFinal = true := by
  cases path <;> rfl

theorem result_ne_deleted : path.result ≠ .deleted := by
  cases path <;> decide

end ErrorPath

theorem isStable_of_deleted {s : ClusterStatusEntity} (h : s.status = .deleted) :
    isStable s = true := by
  simp [isStable, h, Status.isFinal, Status.isFinalStable]

/-- The claim's count is the count of retries before the first stop, newest first. -/
theorem recordedSinceStable_eq (path : ErrorPath) (history : List ClusterStatusEntity) :
    recordedSinceStable path.retryable history =
      countBefore path.isRetry isStable history.reverse := by
  have hstable : ∀ s : ClusterStatusEntity, isStable s = s.status.isFinalStable := by
    intro s
    cases h : s.status <;> simp [isStable, h, Status.isFinal, Status.isFinalStable]
  have hne : ∀ s, path.isRetry s = true → isStable s = false := by
    intro s hs
    cases path <;> simp_all [ErrorPath.isRetry, ErrorPath.retryable, Status.isFinalStable]
  rw [countBefore_eq_countP_takeWhile hne, recordedSinceStable]
  simp only [hstable]
  rfl

namespace FinishOperation

variable {inv : DefaultInventory} {config : BookkeeperConfig} {recon : ReconciliationEntity}
  {errorOps : List OperationEntity}

/-- The count `Apply` reads for a path. -/
def errCnt (inv : DefaultInventory) (config : BookkeeperConfig) (recon : ReconciliationEntity)
    (path : ErrorPath) : Int :=
  errCount (inv.countRetries recon.runtimeID recon.clusterConfig (path.maxRetries config)
    path.errorStatus)

/-- The decision on a failed round, for either path. -/
theorem newClusterStatus_result (path : ErrorPath) :
    newClusterStatus inv config recon errorOps path.result =
      if errCnt inv config recon path < path.maxRetries config then
        if path = .delete ∧ errCnt inv config recon path ≥ 1 ∧
            operationErrorContainsNoSuchHost errorOps then .deleted
        else path.retryable
      else path.result := by
  cases path <;> simp [newClusterStatus, errCnt, ErrorPath.result, ErrorPath.retryable,
    ErrorPath.maxRetries, ErrorPath.errorStatus]

/-- A failed round is retried only below the budget. -/
theorem errCnt_lt_of_retryable {path : ErrorPath}
    (h : newClusterStatus inv config recon errorOps path.result = path.retryable) :
    errCnt inv config recon path < path.maxRetries config := by
  rw [newClusterStatus_result] at h
  split_ifs at h with hlt
  · exact hlt
  · exact hlt
  · cases path <;> cases h

/-- At the budget a failed round is terminal. -/
theorem newClusterStatus_of_le {path : ErrorPath}
    (h : path.maxRetries config ≤ errCnt inv config recon path) :
    newClusterStatus inv config recon errorOps path.result = path.result := by
  rw [newClusterStatus_result, if_neg (not_lt.2 h)]

/-- A failed round finishes with an entry that is counted or a stop. -/
theorem counted_or_isStable (path : ErrorPath) {s : ClusterStatusEntity}
    (h : s.status = newClusterStatus inv config recon errorOps path.result) :
    path.counted s = true ∨ isStable s = true := by
  rw [newClusterStatus_result] at h
  split_ifs at h
  · exact .inr (isStable_of_deleted h)
  · exact .inl (path.counted_of_status (.inr h))
  · exact .inl (path.counted_of_status (.inl h))

/-- **The `no such host` shortcut needs a recorded delete error.**  A failed deletion is taken
for done only where `CountRetries` read a `DeleteError` or `DeleteErrorRetryable` status of the
configuration version. -/
theorem newClusterStatus_deleted
    (h : newClusterStatus inv config recon errorOps .deleteError = .deleted) :
    ∃ x ∈ inv.statusHistory recon.runtimeID recon.clusterConfig,
      x.status = .deleteError ∨ x.status = .deleteErrorRetryable := by
  have h' : newClusterStatus inv config recon errorOps ErrorPath.delete.result = .deleted := h
  rw [newClusterStatus_result] at h'
  split_ifs at h' with hlt hshortcut
  · obtain ⟨-, hge, -⟩ := hshortcut
    -- a failed count is zero, so the count succeeded and read an error
    unfold errCnt errCount at hge
    split at hge
    · rename_i n hcount
      obtain ⟨x, hx, hin⟩ := DefaultInventory.exists_of_countRetries_pos hcount (by omega)
      refine ⟨x, hx, ?_⟩
      simp only [statusInSlice, ErrorPath.errorStatus, ErrorPath.result, ErrorPath.retryable,
        List.any_cons, List.any_nil, beq_iff_eq, Bool.or_false, Bool.or_eq_true] at hin
      exact hin.imp Eq.symm Eq.symm
    · omega
  · cases h'
  · cases h'

end FinishOperation

/-! ## What a round writes -/

theorem ok_of_mapError_ok {ε ε' α : Type} {x : Except ε α} {f : ε → ε'} {a : α}
    (h : x.mapError f = .ok a) : x = .ok a := by
  cases x with
  | error e => cases h
  | ok b =>
    cases h
    rfl

/-- A history that grows by at most one entry grows by none or by one. -/
theorem eq_or_eq_append_singleton {h h' n : List ClusterStatusEntity} {p : Status → Prop}
    (hn : h' = h ++ n) (hlen : n.length ≤ 1) (hp : ∀ x ∈ n, p x.status) :
    h' = h ∨ ∃ x, p x.status ∧ h' = h ++ [x] := by
  rcases n with _ | ⟨x, _ | ⟨y, n⟩⟩
  · exact .inl (by simpa using hn)
  · exact .inr ⟨x, hp x List.mem_cons_self, hn⟩
  · simp at hlen

section Round

open DefaultInventory PersistentReconciliationRepository

variable {runtimeID : String} {configVersion : Int} {cfg : SchedulerConfig}
  {cleaner cleaner' : List Configuration} {ids : Nat → String} {now : Nat} {db db' : Database}
  {recon : ReconciliationEntity}

namespace ClusterStatusTransition

theorem targetState_not_isFinal {state : ClusterState} {target : Status}
    (h : targetState state = .ok target) : target.isFinal = false := by
  unfold targetState at h
  split_ifs at h <;> cases h <;> rfl

/-- **What a started reconciliation leaves.**  A status that is not final is set for a
configuration, and an unfinished reconciliation of the configuration version is enqueued,
which `GetReconciliation` reads back. -/
theorem startReconciliationTx_ok (hc : db.inventory.Consistent)
    (h : startReconciliationTx runtimeID configVersion cfg cleaner ids now db =
      .ok (db', recon, cleaner')) :
    (∃ c target, target.isFinal = false ∧ db.inventory.AddsStatus db'.inventory c target) ∧
      recon.runtimeID = runtimeID ∧ recon.clusterConfig = configVersion ∧
      recon.finished = false ∧
      db'.repository.getReconciliation recon.schedulingID = .ok recon := by
  unfold startReconciliationTx at h
  obtain ⟨-, -, h⟩ := bind_eq_ok h
  obtain ⟨old, hget, h⟩ := bind_eq_ok h
  obtain ⟨target, htarget, h⟩ := bind_eq_ok h
  obtain ⟨⟨inventory, newClusterState⟩, hupdate, h⟩ := bind_eq_ok h
  obtain ⟨⟨repository, reconEntity, c'⟩, hcreate, h⟩ := bind_eq_ok h
  cases h
  have hcreate := ok_of_mapError_ok hcreate
  obtain ⟨hadds, hcluster, hconfig⟩ := updateStatus_adds (ok_of_mapError_ok hupdate)
  obtain ⟨hrt, hcv⟩ := createReconciliation_runtimeID hcreate
  obtain ⟨-, -, hopen, -, -⟩ := createReconciliation_ok hcreate
  -- the reconciliation names the cluster of the configuration that `Get` read
  obtain ⟨hname, -, hversion⟩ := hc.get_runtimeID (ok_of_mapError_ok hget)
  refine ⟨⟨old.configuration, target, targetState_not_isFinal htarget, hadds⟩, ?_, ?_, hopen,
    getReconciliation_of_createReconciliation hcreate⟩
  · rw [hrt, hcluster, hname]
  · rw [hcv, hconfig, hversion]

/-- A refused start leaves at most the status `ReconcileError` it sets for a cluster without
components. -/
theorem startReconciliation_error {e : StartError}
    (h : startReconciliation runtimeID configVersion cfg cleaner ids now db = (db', .error e)) :
    ∃ c, db.inventory.AddsStatus db'.inventory c .reconcileError := by
  unfold startReconciliation at h
  split at h
  · simp at h
  · split at h
    · rename_i inventory _ hupdate
      obtain ⟨rfl, -⟩ := Prod.mk.inj h
      exact ⟨_, (updateStatus_adds hupdate).1⟩
    · obtain ⟨rfl, -⟩ := Prod.mk.inj h
      exact ⟨{}, .refl⟩
  · obtain ⟨rfl, -⟩ := Prod.mk.inj h
    exact ⟨{}, .refl⟩

/-- A start that succeeds is its transaction. -/
theorem startReconciliationTx_of_ok
    (h : startReconciliation runtimeID configVersion cfg cleaner ids now db =
      (db', .ok (recon, cleaner'))) :
    startReconciliationTx runtimeID configVersion cfg cleaner ids now db =
      .ok (db', recon, cleaner') := by
  unfold startReconciliation at h
  split at h
  · rename_i db₁ recon₁ cleaner₁ htx
    simp only [Prod.mk.injEq, Except.ok.injEq] at h
    obtain ⟨rfl, rfl, rfl⟩ := h
    exact htx
  · split at h <;> simp at h
  · simp at h

end ClusterStatusTransition

variable (runtimeID now db) in
/-- The handler writes at most the status it is given, and leaves the scheduler's tables. -/
theorem updateLatestCluster_adds (status : Status) :
    (updateLatestCluster runtimeID status now db).repository = db.repository ∧
      ∃ c, db.inventory.AddsStatus (updateLatestCluster runtimeID status now db).inventory c
        status := by
  unfold updateLatestCluster
  split
  · rename_i db₁ hrun
    change ClusterCall.updateLatestClusterWrites runtimeID status now db = .ok db₁ at hrun
    obtain ⟨state, -, hrun⟩ := bind_eq_ok hrun
    obtain ⟨⟨inventory, state'⟩, hupdate, hrun⟩ := bind_eq_ok hrun
    cases hrun
    exact ⟨rfl, _, (updateStatus_adds (ok_of_mapError_ok hupdate)).1⟩
  · exact ⟨rfl, {}, .refl⟩

variable (runtimeID configVersion) in
/-- **Interim statuses append entries that are not final.** -/
theorem writeInterims_spec {interims : List Status}
    (hint : ∀ s ∈ interims, s.isFinal = false) (hc : db.inventory.Consistent) :
    (writeInterims runtimeID interims now db).inventory.Consistent ∧
      (writeInterims runtimeID interims now db).repository = db.repository ∧
      ∃ n, (writeInterims runtimeID interims now db).inventory.statusHistory runtimeID
          configVersion = db.inventory.statusHistory runtimeID configVersion ++ n ∧
        ∀ x ∈ n, x.status.isFinal = false := by
  induction interims generalizing db with
  | nil => exact ⟨hc, rfl, [], by simp [writeInterims], by simp⟩
  | cons status interims ih =>
    -- the first write, then the others from the tables it leaves
    obtain ⟨hrepo, c, hadds⟩ := updateLatestCluster_adds runtimeID now db status
    obtain ⟨n₁, hn₁, -, hst₁⟩ := hadds.statusHistory runtimeID configVersion
    obtain ⟨hc', hrepo', n₂, hn₂, hst₂⟩ :=
      ih (fun s hs => hint s (List.mem_cons_of_mem _ hs)) (hadds.consistent hc)
    refine ⟨hc', hrepo'.trans hrepo, n₁ ++ n₂, ?_, ?_⟩
    · rw [← List.append_assoc, ← hn₁]
      exact hn₂
    · intro x hx
      rcases List.mem_append.1 hx with hx | hx
      · rw [hst₁ x hx]
        exact hint status List.mem_cons_self
      · exact hst₂ x hx

variable (runtimeID configVersion) in
/-- Interim statuses add a status of the version for each entry the history gains. -/
theorem writeInterims_covered {interims : List Status} :
    HistoryCovered db.inventory (writeInterims runtimeID interims now db).inventory runtimeID
      configVersion := by
  induction interims generalizing db with
  | nil => exact .refl
  | cons status interims ih =>
    obtain ⟨-, c, hadds⟩ := updateLatestCluster_adds runtimeID now db status
    exact hadds.covered.trans ih

namespace FinishOperation

variable {config : BookkeeperConfig} {errorOps : List OperationEntity} {result status : Status}

/-- **What `FinishReconciliation` does to the inventory**, run alone for an open
reconciliation: it reads the state of the reconciliation's configuration version, inserts the
status for a cluster in progress, and deletes the cluster when the status is `Deleted`. -/
theorem runAlone_finishReconciliation_inventory
    (hrecon : db.repository.getReconciliation recon.schedulingID = .ok recon)
    (hopen : recon.finished = false)
    (h : ClusterCall.runAlone (.finishReconciliation recon.schedulingID status now) db =
      .ok db') :
    ∃ state inventory, db.inventory.get recon.runtimeID recon.clusterConfig = .ok state ∧
      (state.status.status.isInProgress = true → ∃ e,
        createStatusIn db.inventory db.inventory state.configuration status now =
          .ok (inventory, e)) ∧
      (state.status.status.isInProgress = false → inventory = db.inventory) ∧
      db'.inventory =
        if status = .deleted then inventory.delete state.cluster.runtimeID now else inventory := by
  obtain ⟨writes, htx, hwrites⟩ := bind_eq_ok h
  simp only [ClusterCall.txn, ClusterCall.finishReconciliationTx, hrecon, Except.mapError,
    ok_bind, hopen, Bool.false_eq_true, if_false] at htx
  obtain ⟨state, hget, htx⟩ := bind_eq_ok htx
  cases htx
  unfold ClusterCall.finishReconciliationWrites at hwrites
  cases hprogress : state.status.status.isInProgress
  · simp only [hprogress, Bool.false_eq_true, if_false] at hwrites
    obtain ⟨p, hpure, hwrites⟩ := bind_eq_ok hwrites
    cases hpure
    obtain ⟨repository, -, hwrites⟩ := bind_eq_ok hwrites
    cases hwrites
    exact ⟨state, db.inventory, ok_of_mapError_ok hget, fun h => by simp [hprogress] at h,
      fun _ => rfl, rfl⟩
  · simp only [hprogress, if_true] at hwrites
    obtain ⟨p, hcreate, hwrites⟩ := bind_eq_ok hwrites
    obtain ⟨repository, -, hwrites⟩ := bind_eq_ok hwrites
    cases hwrites
    exact ⟨state, p.1, ok_of_mapError_ok hget, fun _ => ⟨p.2, ok_of_mapError_ok hcreate⟩,
      fun h => by simp [hprogress] at h, rfl⟩

/-- The inventory `FinishReconciliation` writes before `Delete` adds at most its status. -/
theorem adds_of_finishReconciliation {state : ClusterState} {inventory : DefaultInventory}
    (hin : state.status.status.isInProgress = true → ∃ e,
      createStatusIn db.inventory db.inventory state.configuration status now = .ok (inventory, e))
    (hout : state.status.status.isInProgress = false → inventory = db.inventory) :
    db.inventory.AddsStatus inventory state.configuration status := by
  cases hprogress : state.status.status.isInProgress
  · rw [hout hprogress]
    exact .refl
  · obtain ⟨e, hcreate⟩ := hin hprogress
    exact createStatusIn_adds hcreate

/-- **What `FinishReconciliation` writes to a history.**  Run alone for a reconciliation of
the configuration version, it appends at most its status, or `Delete` clears the history; and
the history gains no entry that is not a status of the version. -/
theorem runAlone_finishReconciliation (hc : db.inventory.Consistent)
    (hrecon : db.repository.getReconciliation recon.schedulingID = .ok recon)
    (hopen : recon.finished = false) (hruntime : recon.runtimeID = runtimeID)
    (h : ClusterCall.runAlone (.finishReconciliation recon.schedulingID status now) db =
      .ok db') :
    db'.inventory.Consistent ∧ HistoryCovered db.inventory db'.inventory runtimeID configVersion ∧
      (db'.inventory.statusHistory runtimeID configVersion = [] ∨
        db'.inventory.statusHistory runtimeID configVersion =
          db.inventory.statusHistory runtimeID configVersion ∨
        ∃ x, x.status = status ∧ db'.inventory.statusHistory runtimeID configVersion =
          db.inventory.statusHistory runtimeID configVersion ++ [x]) := by
  obtain ⟨state, inventory, hget, hin, hout, hdb'⟩ :=
    runAlone_finishReconciliation_inventory hrecon hopen h
  obtain ⟨hname, -, -⟩ := hc.get_runtimeID hget
  have hadds := adds_of_finishReconciliation hin hout
  have hc' := hadds.consistent hc
  rw [hdb']
  split_ifs with hdeleted
  -- `Delete` renames the cluster of the configuration version
  · rw [hname, hruntime]
    exact ⟨hc'.delete _ _, hadds.covered.trans .delete, .inl statusHistory_delete⟩
  · obtain ⟨n, hn, hlen, hst⟩ := hadds.statusHistory runtimeID configVersion
    exact ⟨hc', hadds.covered, .inr (eq_or_eq_append_singleton (p := (· = status)) hn hlen hst)⟩

/-- **`FinishReconciliation` records a final status for a cluster in progress.**  Run alone for
a reconciliation of the configuration version with a final status, it inserts a status of the
version, appended to the history unless it is `Deleted`; or it found the latest status out of
progress, which stays the latest, and recorded nothing. -/
theorem runAlone_finishReconciliation_final (hc : db.inventory.Consistent)
    (hrecon : db.repository.getReconciliation recon.schedulingID = .ok recon)
    (hopen : recon.finished = false) (hruntime : recon.runtimeID = runtimeID)
    (hversion : recon.clusterConfig = configVersion) (hfinal : status.isFinal = true)
    (h : ClusterCall.runAlone (.finishReconciliation recon.schedulingID status now) db =
      .ok db') :
    ((db'.inventory.statusesOf configVersion).length =
        (db.inventory.statusesOf configVersion).length + 1 ∧
      (status ≠ .deleted → ∃ x, x.status = status ∧
        db'.inventory.statusHistory runtimeID configVersion =
          db.inventory.statusHistory runtimeID configVersion ++ [x])) ∨
      ((db'.inventory.statusHistory runtimeID configVersion =
          db.inventory.statusHistory runtimeID configVersion ∨
        db'.inventory.statusHistory runtimeID configVersion = []) ∧
      ∃ y, db'.inventory.latestStatus configVersion = .ok y ∧ y.status.isInProgress = false) := by
  obtain ⟨state, inventory, hget, hin, hout, hdb'⟩ :=
    runAlone_finishReconciliation_inventory hrecon hopen h
  obtain ⟨hname, hconfig, hcv⟩ := hc.get_runtimeID hget
  have hlatest : db.inventory.latestStatus configVersion = .ok state.status := by
    rw [← hversion]
    exact (get_ok hget).2
  cases hprogress : state.status.status.isInProgress
  · -- out of progress: nothing is inserted, and `Delete` keeps the latest status
    rw [hout hprogress] at hdb'
    refine .inr ?_
    rw [hdb']
    split_ifs with hdeleted
    · rw [hname, hruntime]
      obtain ⟨y, hy, hstatus⟩ := latestStatus_delete runtimeID hlatest
      exact ⟨.inr statusHistory_delete, y, hy, hstatus ▸ hprogress⟩
    · exact ⟨.inl rfl, state.status, hlatest, hprogress⟩
  · -- in progress, the latest status is not final, so it differs from the one recorded
    have hdiff : state.status.status ≠ status := by
      intro heq
      have hnot := Status.isFinal_eq_false_of_isInProgress hprogress
      rw [heq, hfinal] at hnot
      cases hnot
    obtain ⟨e, hcreate⟩ := hin hprogress
    rw [createStatusIn_of_ne (hcv ▸ hversion ▸ hlatest) hdiff] at hcreate
    obtain rfl := (congrArg Prod.fst (Except.ok.inj hcreate)).symm
    have hrow : (newStatusEntity state.configuration status).runtimeID = runtimeID ∧
        (newStatusEntity state.configuration status).configVersion = configVersion :=
      ⟨hconfig.trans hruntime, hcv.trans hversion⟩
    refine .inl ⟨?_, fun hne =>
      ⟨(db.inventory.insertStatus (newStatusEntity state.configuration status) now).2, rfl, ?_⟩⟩
    · split_ifs at hdb' <;> rw [hdb']
      · rw [length_statusesOf_delete, statusesOf_insertStatus, if_pos hrow.2, List.length_append,
          List.length_singleton]
      · rw [statusesOf_insertStatus, if_pos hrow.2, List.length_append, List.length_singleton]
    · rw [hdb', if_neg hne, statusHistory_insertStatus, if_pos hrow]

variable (configVersion) in
/-- **What `finishOperation.Apply` writes to a history**: at most the status it decides, or
`Delete` clears the history; and the history gains no entry that is not a status of the
version. -/
theorem apply_spec (hc : db.inventory.Consistent)
    (hrecon : db.repository.getReconciliation recon.schedulingID = .ok recon)
    (hopen : recon.finished = false) (hruntime : recon.runtimeID = runtimeID)
    (h : apply db config recon errorOps result now = db') :
    db'.inventory.Consistent ∧ HistoryCovered db.inventory db'.inventory runtimeID configVersion ∧
      (db'.inventory.statusHistory runtimeID configVersion = [] ∨
        db'.inventory.statusHistory runtimeID configVersion =
          db.inventory.statusHistory runtimeID configVersion ∨
        ∃ x, x.status = newClusterStatus db.inventory config recon errorOps result ∧
          db'.inventory.statusHistory runtimeID configVersion =
            db.inventory.statusHistory runtimeID configVersion ++ [x]) := by
  unfold apply at h
  dsimp only at h
  split_ifs at h
  · subst h
    exact ⟨hc, .refl, .inr (.inl rfl)⟩
  · split at h
    · rename_i db₁ hrun
      subst h
      exact runAlone_finishReconciliation hc hrecon hopen hruntime hrun
    · subst h
      exact ⟨hc, .refl, .inr (.inl rfl)⟩

variable (configVersion) in
/-- **How `finishOperation.Apply` ends**: its transaction failed and left the tables, or it
inserted a status of the version, appended to the history unless it is `Deleted`, or
`FinishReconciliation` found the cluster out of progress and recorded nothing. -/
theorem apply_cases (hc : db.inventory.Consistent)
    (hrecon : db.repository.getReconciliation recon.schedulingID = .ok recon)
    (hopen : recon.finished = false) (hruntime : recon.runtimeID = runtimeID)
    (hversion : recon.clusterConfig = configVersion)
    (h : apply db config recon errorOps result now = db') :
    db' = db ∨
      ((db'.inventory.statusesOf configVersion).length =
          (db.inventory.statusesOf configVersion).length + 1 ∧
        (newClusterStatus db.inventory config recon errorOps result ≠ .deleted → ∃ x,
          x.status = newClusterStatus db.inventory config recon errorOps result ∧
          db'.inventory.statusHistory runtimeID configVersion =
            db.inventory.statusHistory runtimeID configVersion ++ [x])) ∨
      ((db'.inventory.statusHistory runtimeID configVersion =
          db.inventory.statusHistory runtimeID configVersion ∨
        db'.inventory.statusHistory runtimeID configVersion = []) ∧
      ∃ y, db'.inventory.latestStatus configVersion = .ok y ∧ y.status.isInProgress = false) := by
  unfold apply at h
  dsimp only at h
  split_ifs at h with hfinal
  · exact .inl h.symm
  · split at h
    · rename_i db₁ hrun
      subst h
      exact .inr (runAlone_finishReconciliation_final hc hrecon hopen hruntime hversion
        (by simpa using hfinal) hrun)
    · exact .inl h.symm

end FinishOperation

end Round

/-! ## Runs of a failing cluster -/

section Run

open DefaultInventory ClusterStatusTransition

variable (path : ErrorPath) (cfg : SchedulerConfig) (config : BookkeeperConfig)
  (runtimeID : String) (configVersion : Int)

/-- Where a round may start: right after an error of the path was recorded, or with none
recorded since the last stable status. -/
def StartsAfterError (db : Database) : Prop :=
  StartsAfter path.counted isStable (db.inventory.newestFirst runtimeID configVersion)

/-- A round the bookkeeper finishes.  `StartReconciliation` enqueues a reconciliation, the
handler writes statuses that are not final, and `finishOperation.Apply` finishes the round with
the result `path.result`; at most five statuses of the configuration version are appended,
counted also when `Delete` renames them away from the history. -/
inductive FinishedRound : Database × List Configuration → Database × List Configuration → Prop
  | mk {db : Database} {cleaner : List Configuration} {ids : Nat → String} {now : Nat}
      {db₁ : Database} {recon : ReconciliationEntity} {cleaner' : List Configuration}
      {interims : List Status} {nowInterims : Nat} {errorOps : List OperationEntity}
      {nowFinish : Nat} {db₃ : Database} :
      StartsAfterError path runtimeID configVersion db →
      startReconciliation runtimeID configVersion cfg cleaner ids now db =
        (db₁, .ok (recon, cleaner')) →
      (∀ s ∈ interims, s.isFinal = false) →
      FinishOperation.apply (writeInterims runtimeID interims nowInterims db₁) config recon
        errorOps path.result nowFinish = db₃ →
      (db₃.inventory.statusesOf configVersion).length ≤
        (db.inventory.statusesOf configVersion).length + 5 →
      FinishedRound (db, cleaner) (db₃, cleaner')

/-- A round of a failing cluster: refused by `StartReconciliation`, or finished. -/
inductive FailingRound : Database × List Configuration → Database × List Configuration → Prop
  | refused {db : Database} {cleaner : List Configuration} {ids : Nat → String} {now : Nat}
      {db' : Database} {e : StartError} :
      StartsAfterError path runtimeID configVersion db →
      startReconciliation runtimeID configVersion cfg cleaner ids now db = (db', .error e) →
      FailingRound (db, cleaner) (db', cleaner)
  | finished {s s' : Database × List Configuration} :
      FinishedRound path cfg config runtimeID configVersion s s' → FailingRound s s'

/-- The invariant of a run: a consistent inventory, and the budget on the history. -/
structure RetryBudget (db : Database) : Prop where
  consistent : db.inventory.Consistent
  budget : Budget path.counted isStable path.isRetry 4 (path.maxRetries config).toNat
    (db.inventory.newestFirst runtimeID configVersion)

variable {path cfg config runtimeID configVersion}

theorem FailingRound.startsAfterError {s s' : Database × List Configuration}
    (hr : FailingRound path cfg config runtimeID configVersion s s') :
    StartsAfterError path runtimeID configVersion s.1 := by
  rcases hr with ⟨hs, -⟩ | ⟨⟨hs, -, -, -, -⟩⟩
  · exact hs
  · exact hs

/-- **The finish of a round.**  After the start and the interim statuses the history holds
quiet entries `q` more, each a status of the version, and the round's reconciliation is open;
`finishOperation.Apply` then finishes it with `path.result`. -/
theorem FinishedRound.finish {s s' : Database × List Configuration}
    (hr : FinishedRound path cfg config runtimeID configVersion s s')
    (hc : s.1.inventory.Consistent) :
    ∃ (db₂ : Database) (recon : ReconciliationEntity) (errorOps : List OperationEntity)
      (nowFinish : Nat) (q : List ClusterStatusEntity),
      db₂.inventory.Consistent ∧
      db₂.repository.getReconciliation recon.schedulingID = .ok recon ∧
      recon.finished = false ∧ recon.runtimeID = runtimeID ∧ recon.clusterConfig = configVersion ∧
      (∀ x ∈ q, x.status.isFinal = false) ∧
      db₂.inventory.newestFirst runtimeID configVersion =
        q ++ s.1.inventory.newestFirst runtimeID configVersion ∧
      HistoryCovered s.1.inventory db₂.inventory runtimeID configVersion ∧
      FinishOperation.apply db₂ config recon errorOps path.result nowFinish = s'.1 ∧
      (s'.1.inventory.statusesOf configVersion).length ≤
        (s.1.inventory.statusesOf configVersion).length + 5 := by
  obtain ⟨hs, hstart, hint, happly, hlen⟩ := hr
  rename_i db cleaner ids now db₁ recon cleaner' interims nowInterims errorOps nowFinish db₃
  -- the start sets a status that is not final, and enqueues a reconciliation of the history
  obtain ⟨⟨c, target, htarget, hadds⟩, hruntime, hversion, hopen, hrecon⟩ :=
    startReconciliationTx_ok hc (startReconciliationTx_of_ok hstart)
  obtain ⟨n₁, hn₁, -, hst₁⟩ := hadds.statusHistory runtimeID configVersion
  obtain ⟨hc₂, hrepo₂, n₂, hn₂, hst₂⟩ :=
    writeInterims_spec runtimeID configVersion hint (hadds.consistent hc)
  refine ⟨_, recon, errorOps, nowFinish, (n₁ ++ n₂).reverse, hc₂, hrepo₂ ▸ hrecon, hopen,
    hruntime, hversion, ?_, ?_, hadds.covered.trans (writeInterims_covered runtimeID configVersion),
    happly, hlen⟩
  -- the quiet entries: the start's status and the interim ones
  · intro x hx
    rcases List.mem_append.1 (List.mem_reverse.1 hx) with hx | hx
    · rw [hst₁ x hx]
      exact htarget
    · exact hst₂ x hx
  · simp only [newestFirst, hn₂, hn₁, List.append_assoc, List.reverse_append]

/-- The bookkeeper's count is the count of the window of `CountRetries` on the history. -/
theorem FinishOperation.errCnt_eq_countBefore (hmax : 0 ≤ path.maxRetries config)
    (hbound : path.maxRetries config * 5 < 2 ^ 63) {db : Database} {recon : ReconciliationEntity}
    (hc : db.inventory.Consistent) (hruntime : recon.runtimeID = runtimeID)
    (hversion : recon.clusterConfig = configVersion) :
    FinishOperation.errCnt db.inventory config recon path =
      (countBefore path.counted isStable ((db.inventory.newestFirst runtimeID configVersion).take
        (5 * (path.maxRetries config).toNat)) : Int) := by
  rw [FinishOperation.errCnt, hruntime, hversion,
    countRetries_eq hmax hbound (by cases path <;> simp [ErrorPath.errorStatus]) hc.ids_lt]
  rfl

/-- **What a finished round does to the history, newest first.**  It adds quiet entries `q`,
and then the status the bookkeeper decided on the history with them, or clears the history. -/
theorem FinishedRound.spec (hmax : 0 ≤ path.maxRetries config)
    (hbound : path.maxRetries config * 5 < 2 ^ 63)
    {s s' : Database × List Configuration}
    (hr : FinishedRound path cfg config runtimeID configVersion s s')
    (hc : s.1.inventory.Consistent) :
    s'.1.inventory.Consistent ∧ ∃ q : List ClusterStatusEntity,
      (∀ x ∈ q, x.status.isFinal = false) ∧
      (s'.1.inventory.newestFirst runtimeID configVersion = [] ∨
        s'.1.inventory.newestFirst runtimeID configVersion =
          q ++ s.1.inventory.newestFirst runtimeID configVersion ∨
        ∃ x, s'.1.inventory.newestFirst runtimeID configVersion =
            x :: (q ++ s.1.inventory.newestFirst runtimeID configVersion) ∧
          q.length ≤ 4 ∧ (path.counted x = true ∨ isStable x = true) ∧
          (path.isRetry x = true → countBefore path.counted isStable
            ((q ++ s.1.inventory.newestFirst runtimeID configVersion).take
              (5 * (path.maxRetries config).toNat)) < (path.maxRetries config).toNat) ∧
          ((path.maxRetries config).toNat ≤ countBefore path.counted isStable
            ((q ++ s.1.inventory.newestFirst runtimeID configVersion).take
              (5 * (path.maxRetries config).toNat)) → x.status = path.result)) := by
  obtain ⟨db₂, recon, errorOps, nowFinish, q, hc₂, hrecon, hopen, hruntime, hversion, hquiet,
    hhist₂, hcov₂, happly, hlen⟩ := hr.finish hc
  obtain ⟨hc₃, hcov₃, hhist⟩ :=
    FinishOperation.apply_spec configVersion hc₂ hrecon hopen hruntime happly
  refine ⟨hc₃, q, hquiet, ?_⟩
  rcases hhist with hnil | hsame | ⟨x, hx, happend⟩
  · exact .inl (by simp [newestFirst, hnil])
  · exact .inr (.inl (by rw [← hhist₂]; simp [newestFirst, hsame]))
  · -- the bookkeeper's count is the window count on the history with the quiet entries
    have hcount := FinishOperation.errCnt_eq_countBefore hmax hbound hc₂ hruntime hversion
    rw [hhist₂] at hcount
    refine .inr (.inr ⟨x, ?_, ?_, FinishOperation.counted_or_isStable path hx, ?_, ?_⟩)
    · calc s'.1.inventory.newestFirst runtimeID configVersion
          = x :: db₂.inventory.newestFirst runtimeID configVersion := by
            simp [newestFirst, happend]
        _ = x :: (q ++ s.1.inventory.newestFirst runtimeID configVersion) := by
            rw [hhist₂]
    · -- the round appended `q` and `x`, no more than the five statuses it may add
      have hcov := hcov₂.trans hcov₃
      have hlen₂ := congrArg List.length hhist₂
      have hlen₃ := congrArg List.length happend
      unfold HistoryCovered at hcov
      simp only [newestFirst, List.length_reverse, List.length_append,
        List.length_singleton] at hlen₂ hlen₃
      omega
    · intro hretry
      have hlt := FinishOperation.errCnt_lt_of_retryable
        (hx.symm.trans (by simpa [ErrorPath.isRetry] using hretry))
      omega
    · intro hle
      rw [hx]
      exact FinishOperation.newClusterStatus_of_le (by omega)

/-- **Every failing round is a round of the history**, newest first, and keeps the inventory
consistent. -/
theorem FailingRound.round (hmax : 0 ≤ path.maxRetries config)
    (hbound : path.maxRetries config * 5 < 2 ^ 63)
    {s s' : Database × List Configuration}
    (hr : FailingRound path cfg config runtimeID configVersion s s')
    (hc : s.1.inventory.Consistent) :
    s'.1.inventory.Consistent ∧
      Round path.counted isStable path.isRetry 4 (5 * (path.maxRetries config).toNat)
        (path.maxRetries config).toNat (s.1.inventory.newestFirst runtimeID configVersion)
        (s'.1.inventory.newestFirst runtimeID configVersion) := by
  cases hr with
  | refused hs hstart =>
    -- at most `ReconcileError` is set, which is no retry of either path
    obtain ⟨c, hadds⟩ := startReconciliation_error hstart
    refine ⟨hadds.consistent hc, ?_⟩
    obtain ⟨n, hn, hlen, hst⟩ := hadds.statusHistory runtimeID configVersion
    rcases eq_or_eq_append_singleton (p := (· = .reconcileError)) hn hlen hst with
      hsame | ⟨x, hx, happend⟩
    · simp only [newestFirst, hsame]
      exact .quiet (q := []) (fun _ h => nomatch h)
    · simp only [newestFirst, happend, List.reverse_append]
      exact Round.cons (by simpa [ErrorPath.isRetry, hx] using path.reconcileError_ne_retryable)
  | finished hf =>
    obtain ⟨hc', q, hq, hhist⟩ := hf.spec hmax hbound hc
    have hquiet : ∀ x ∈ q, Quiet path.counted isStable x :=
      fun x hx => path.quiet_of_not_isFinal (hq x hx)
    refine ⟨hc', ?_⟩
    rcases hhist with hnil | hsame | ⟨x, happend, hlen, hfinal, hretry, -⟩
    · rw [hnil]
      exact .clear
    · rw [hsame]
      exact .quiet hquiet
    · rw [happend]
      exact .final hquiet hlen hfinal hretry

/-- **The budget is an invariant of the runs of a failing cluster.** -/
theorem retryBudget_invariant (hmax : 0 ≤ path.maxRetries config)
    (hbound : path.maxRetries config * 5 < 2 ^ 63) :
    Transition.Invariant (FailingRound path cfg config runtimeID configVersion)
      (fun s => RetryBudget path config runtimeID configVersion s.1) := by
  intro s s' hs hr
  obtain ⟨hc', hround⟩ := hr.round hmax hbound hs.consistent
  exact ⟨hc', hs.budget.round (fun _ h => path.counted_of_isRetry h) (by omega)
    hr.startsAfterError hround⟩

/-- A consistent inventory with no error of the path recorded since the last stable status
starts a run within its budget. -/
theorem retryBudget_of_countBefore_eq_zero {db : Database} (hc : db.inventory.Consistent)
    (hzero : countBefore path.counted isStable
      (db.inventory.newestFirst runtimeID configVersion) = 0) :
    RetryBudget path config runtimeID configVersion db where
  consistent := hc
  budget := by
    refine ⟨fun _ => Spaced.of_countBefore_eq_zero hzero, ?_⟩
    have hmono : countBefore path.isRetry isStable (db.inventory.newestFirst runtimeID configVersion)
        ≤ countBefore path.counted isStable (db.inventory.newestFirst runtimeID configVersion) :=
      countBefore_mono (fun _ h => path.counted_of_isRetry h) _
    omega

/-- **Once the budget is used up, a finished round ends terminal.**  Newest first, it records
at most four statuses that are not final and then `path.result`, unless its
`FinishReconciliation` failed, leaving the reconciliation open, or found the cluster out of
progress and recorded no status. -/
theorem FinishedRound.outcome_of_used (hmax : 0 ≤ path.maxRetries config)
    (hbound : path.maxRetries config * 5 < 2 ^ 63) {s s' : Database × List Configuration}
    (hb : RetryBudget path config runtimeID configVersion s.1)
    (hused : countBefore path.isRetry isStable (s.1.inventory.newestFirst runtimeID configVersion) =
      (path.maxRetries config).toNat)
    (hf : FinishedRound path cfg config runtimeID configVersion s s') :
    (∃ x q, s'.1.inventory.newestFirst runtimeID configVersion =
        x :: (q ++ s.1.inventory.newestFirst runtimeID configVersion) ∧
      (∀ y ∈ q, y.status.isFinal = false) ∧ q.length ≤ 4 ∧ x.status = path.result) ∨
    (∃ q, s'.1.inventory.newestFirst runtimeID configVersion =
        q ++ s.1.inventory.newestFirst runtimeID configVersion ∧
      (∀ y ∈ q, y.status.isFinal = false) ∧
      ∃ recon ∈ s'.1.repository.reconciliations, recon.runtimeID = runtimeID ∧
        recon.finished = false) ∨
    ((s'.1.inventory.newestFirst runtimeID configVersion = [] ∨
      ∃ q, s'.1.inventory.newestFirst runtimeID configVersion =
          q ++ s.1.inventory.newestFirst runtimeID configVersion ∧
        ∀ y ∈ q, y.status.isFinal = false) ∧
      ∃ y, s'.1.inventory.latestStatus configVersion = .ok y ∧ y.status.isInProgress = false) := by
  obtain ⟨db₂, recon, errorOps, nowFinish, q, hc₂, hrecon, hopen, hruntime, hversion, hq,
    hhist₂, hcov₂, happly, hlen⟩ := hf.finish hb.consistent
  -- the quiet entries are statuses of the version that the round added
  have hqlen : q.length + (s.1.inventory.statusesOf configVersion).length ≤
      (db₂.inventory.statusesOf configVersion).length := by
    have hlen₂ := congrArg List.length hhist₂
    unfold HistoryCovered at hcov₂
    simp only [newestFirst, List.length_reverse, List.length_append] at hlen₂
    omega
  have hhist₂' : db₂.inventory.statusHistory runtimeID configVersion =
      s.1.inventory.statusHistory runtimeID configVersion ++ q.reverse := by
    have := congrArg List.reverse hhist₂
    simpa [newestFirst] using this
  rcases FinishOperation.apply_cases configVersion hc₂ hrecon hopen hruntime hversion happly with
    hsame | ⟨hinserted, hrecord⟩ | ⟨hhist, y, hy, hprogress⟩
  · -- the transaction failed: the round's reconciliation stays open
    rw [hsame]
    exact .inr (.inl ⟨q, hhist₂, hq, recon,
      PersistentReconciliationRepository.mem_of_getReconciliation hrecon, hruntime, hopen⟩)
  · -- a status was inserted after at most four quiet ones, so the window still holds the budget
    have hq4 : q.length ≤ 4 := by omega
    have hcount : (path.maxRetries config).toNat ≤ countBefore path.counted isStable
        ((q ++ s.1.inventory.newestFirst runtimeID configVersion).take
          (5 * (path.maxRetries config).toNat)) :=
      hb.budget.max_le_countBefore_take (fun _ h => path.counted_of_isRetry h)
        (FailingRound.finished hf).startsAfterError
        (fun z hz => path.quiet_of_not_isFinal (hq z hz)) hq4 hused
    have hstatus : FinishOperation.newClusterStatus db₂.inventory config recon errorOps path.result =
        path.result := by
      apply FinishOperation.newClusterStatus_of_le
      rw [FinishOperation.errCnt_eq_countBefore hmax hbound hc₂ hruntime hversion, hhist₂]
      omega
    obtain ⟨x, hx, happend⟩ := hrecord (by rw [hstatus]; exact path.result_ne_deleted)
    refine .inl ⟨x, q, ?_, hq, hq4, hx.trans hstatus⟩
    simp [newestFirst, happend, hhist₂']
  · -- `FinishReconciliation` found the cluster out of progress and recorded nothing
    refine .inr (.inr ⟨?_, y, hy, hprogress⟩)
    rcases hhist with hkept | hcleared
    · exact .inr ⟨q, by simp [newestFirst, hkept, hhist₂'], hq⟩
    · exact .inl (by simp [newestFirst, hcleared])

/-- A cluster just created: one cluster version, one configuration version, and its status
`ReconcilePending`. -/
def pendingCluster : Database where
  inventory :=
    { clusters := [{ version := 1, runtimeID := "runtime" }]
      configs := [{ version := 1, runtimeID := "runtime", clusterVersion := 1 }]
      statuses :=
        [{ id := 1, runtimeID := "runtime", clusterVersion := 1, configVersion := 1,
           status := .reconcilePending }]
      clusterVersionSeq := 2
      configVersionSeq := 2
      statusIDSeq := 2 }
  repository := .empty

theorem retryBudget_pendingCluster (path : ErrorPath) (config : BookkeeperConfig) :
    RetryBudget path config "runtime" 1 pendingCluster :=
  retryBudget_of_countBefore_eq_zero
    ⟨⟨by decide, by decide, by decide⟩, List.pairwise_singleton _ _, by decide⟩
    (by cases path <;> rfl)

end Run

end Reconciler
