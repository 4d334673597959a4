import Reconciler.Cluster.Runs
import Reconciler.Scheduler.Creation

/-!
# The scheduler and its inventory watcher

The mothership's scheduler (`scheduler.Run`, `pkg/scheduler/service/scheduler.go`) starts an
inventory watcher (`inventorywatch.go`), which asks the inventory for the clusters to reconcile
once at its start and on every tick, and puts their states into the scheduling queue.  The
scheduler takes the states from the queue one at a time and calls `StartReconciliation` for
each; an error is only logged.

`Scheduling.Step` puts the two beside the other actors that write the database: the cluster
status writers and the cleaner, as in `Database.Step`, the `deleteReconciliationsByCluster`
handler, and the writes of the workers and the bookkeeper to the operations.  The queue is
unbounded here, where Go's channel holds `ClusterQueueSize` states and blocks the watcher while
it is full, so the model's runs include every run of the code.  The configuration of the cleanup
component, which every `CreateReconciliation` extends, is part of the state.

Every step but a start is a step of `Database.Step`, and a start writes a status only for the
configuration `Get` read, so every state reached from the empty database keeps its inventory
coherent (`Scheduling.coherent_of_scheduled`).  No writer but `CreateReconciliation` adds an
unfinished reconciliation, and it adds one only for a runtime without one, so no runtime ever
has two (`Scheduling.atMostOneReconciling_of_scheduled`).
-/

namespace Reconciler

open DefaultInventory PersistentReconciliationRepository ClusterStatusTransition
open scoped List

/-! ## The model -/

namespace PersistentReconciliationRepository

/-- `GetReconciliations(&CurrentlyReconcilingWithRuntimeID{RuntimeID: runtimeID})`: the
unfinished reconciliations of a runtime. -/
def currentlyReconcilingWithRuntimeID (r : PersistentReconciliationRepository)
    (runtimeID : String) : List ReconciliationEntity :=
  r.reconciliations.filter fun recon => recon.runtimeID = runtimeID ∧ !recon.finished

/-- Each runtime has at most one unfinished reconciliation. -/
def AtMostOneReconciling (r : PersistentReconciliationRepository) : Prop :=
  ∀ runtimeID, (r.currentlyReconcilingWithRuntimeID runtimeID).length ≤ 1

end PersistentReconciliationRepository

namespace Scheduler

/-- `inventoryWatcher.processClustersToReconcile`: the states `ClustersToReconcile` selects
go into the queue in their order; a failed selection is only logged. -/
def processClustersToReconcile (clusterReconcileInterval : GoTime.Duration) (now : Nat)
    (inventory : DefaultInventory) (queue : List ClusterState) : List ClusterState :=
  match inventory.clustersToReconcile now clusterReconcileInterval with
  | .ok clusterStates => queue ++ clusterStates
  | .error _ => queue

end Scheduler

/-- The database, the scheduling queue and the configuration of the cleanup component. -/
structure Scheduling where
  db : Database
  queue : List ClusterState
  cleaner : List Configuration

namespace Scheduling

/-- The mothership before its first request. -/
def init : Scheduling where
  db := Database.empty
  queue := []
  cleaner := []

/-- The body of the scheduler's loop for a state it took from the queue: `StartReconciliation`
of the state's runtime and configuration version.  The cleanup component's configuration
changes only with a reconciliation that is created. -/
def startFromQueue (cfg : SchedulerConfig) (ids : Nat → String) (now : Nat)
    (clusterState : ClusterState) (σ : Scheduling) : Scheduling :=
  match startReconciliation clusterState.cluster.runtimeID clusterState.configuration.version cfg
      σ.cleaner ids now σ.db with
  | (db, .ok (_, cleaner)) => { σ with db := db, cleaner := cleaner }
  | (db, .error _) => { σ with db := db }

/-- One step of the mothership's actors around the scheduler, with the scheduler's
configuration and the watcher's reconcile interval. -/
inductive Step (cfg : SchedulerConfig) (clusterReconcileInterval : GoTime.Duration) :
    Scheduling → Scheduling → Prop
  /-- A call of a cluster status writer, its transaction running on the tables as they are. -/
  | call (σ : Scheduling) (call : ClusterCall) {writes : Database → Except TransitionError Database}
      {db : Database} (htxn : call.txn σ.db = .ok writes) (hwrites : writes σ.db = .ok db) :
      Step cfg clusterReconcileInterval σ { σ with db := db }
  /-- A run of the cleaner that does not panic. -/
  | purge (σ : Scheduling) (config : CleanerConfig) (now : Nat) {db : Database}
      (hpurge : Cleaner.purgeEntities config now σ.db = some db) :
      Step cfg clusterReconcileInterval σ { σ with db := db }
  /-- The `deleteReconciliationsByCluster` handler. -/
  | deleteReconciliationsByCluster (σ : Scheduling) (runtimeID : String) :
      Step cfg clusterReconcileInterval σ
        { σ with db := { σ.db with
            repository := σ.db.repository.removeReconciliationByRuntimeID runtimeID } }
  /-- Any write of the workers or the bookkeeper to the operations. -/
  | operations (σ : Scheduling) (operations : List OperationEntity) :
      Step cfg clusterReconcileInterval σ
        { σ with db := { σ.db with repository := { σ.db.repository with operations := operations } } }
  /-- A run of the inventory watcher. -/
  | watch (σ : Scheduling) (now : Nat) :
      Step cfg clusterReconcileInterval σ
        { σ with
          queue := Scheduler.processClustersToReconcile clusterReconcileInterval now σ.db.inventory
            σ.queue }
  /-- The scheduler takes the first state of the queue and starts its reconciliation. -/
  | start (σ : Scheduling) {clusterState : ClusterState} {queue : List ClusterState}
      (hqueue : σ.queue = clusterState :: queue) (ids : Nat → String) (now : Nat) :
      Step cfg clusterReconcileInterval σ
        (startFromQueue cfg ids now clusterState { σ with queue := queue })

end Scheduling

/-! ## Who adds an unfinished reconciliation -/

namespace PersistentReconciliationRepository

variable {r r' : PersistentReconciliationRepository}

/-- Removing rows keeps at most one unfinished reconciliation per runtime. -/
theorem AtMostOneReconciling.of_sublist (h : r.AtMostOneReconciling)
    (hsub : r'.reconciliations.Sublist r.reconciliations) : r'.AtMostOneReconciling := by
  intro runtimeID
  calc (r'.currentlyReconcilingWithRuntimeID runtimeID).length
      ≤ (r.currentlyReconcilingWithRuntimeID runtimeID).length := (hsub.filter _).length_le
    _ ≤ 1 := h runtimeID

theorem sublist_deleteReconciliations (p : ReconciliationEntity → Bool) :
    (r.deleteReconciliations p).reconciliations.Sublist r.reconciliations :=
  List.filter_sublist

/-- A row map that only ever turns a row into a finished one counts no more unfinished rows. -/
theorem length_filter_map_le {f : ReconciliationEntity → ReconciliationEntity}
    {p : ReconciliationEntity → Bool} (hf : ∀ row, p (f row) = true → f row = row)
    (rows : List ReconciliationEntity) :
    ((rows.map f).filter p).length ≤ (rows.filter p).length := by
  rw [List.filter_map, List.length_map]
  refine (List.monotone_filter_right rows fun row hrow => ?_).length_le
  have hfix := hf row hrow
  simpa [hfix] using hrow

/-- `FinishReconciliation` turns the unfinished rows of its scheduling ID into a finished
one. -/
theorem AtMostOneReconciling.finishReconciliation (h : r.AtMostOneReconciling)
    {schedulingID : String} {status : ClusterStatusEntity} {now : Nat}
    (hfinish : r.finishReconciliation schedulingID status now = .ok r') :
    r'.AtMostOneReconciling := by
  unfold PersistentReconciliationRepository.finishReconciliation at hfinish
  rcases hget : r.getReconciliation schedulingID with e | recon
  · rw [hget] at hfinish
    cases hfinish
  · rw [hget] at hfinish
    dsimp only at hfinish
    split_ifs at hfinish
    cases hfinish
    intro runtimeID
    refine le_trans (length_filter_map_le ?_ _) (h runtimeID)
    intro row hrow
    split_ifs at hrow ⊢ with hun
    · simp at hrow
    · rfl

/-- **`CreateReconciliation` adds an unfinished reconciliation only for a runtime without
one.** -/
theorem AtMostOneReconciling.createReconciliation (h : r.AtMostOneReconciling)
    {state : ClusterState} {cfg : ReconciliationSequenceConfig} {cleaner cleaner' : List Configuration}
    {ids : Nat → String} {now : Nat} {recon : ReconciliationEntity}
    (hcreate : r.createReconciliation state cfg cleaner ids now = .ok (r', recon, cleaner')) :
    r'.AtMostOneReconciling := by
  obtain ⟨-, -, -, hrecons, -⟩ := createReconciliation_ok hcreate
  obtain ⟨-, hfinished, -, -⟩ := createReconciliation_guards hcreate
  obtain ⟨hruntime, -⟩ := createReconciliation_runtimeID hcreate
  intro runtimeID
  simp only [currentlyReconcilingWithRuntimeID, hrecons, List.filter_append, List.length_append]
  by_cases hsame : recon.runtimeID = runtimeID
  · -- the runtime of the new reconciliation had only finished ones
    have hnone : (r.currentlyReconcilingWithRuntimeID runtimeID).length = 0 := by
      rw [List.length_eq_zero_iff, currentlyReconcilingWithRuntimeID, List.filter_eq_nil_iff]
      intro row hrow hun
      have hrt : row.runtimeID = state.cluster.runtimeID := by
        rw [← hruntime, hsame]
        simpa using (of_decide_eq_true hun).1
      simp [hfinished row hrow hrt] at hun
    unfold currentlyReconcilingWithRuntimeID at hnone
    rw [hnone, Nat.zero_add]
    exact List.length_filter_le _ [recon]
  · have hnew : ([recon].filter fun recon => recon.runtimeID = runtimeID ∧ !recon.finished) = [] := by
      simp [hsame]
    rw [hnew, List.length_nil, Nat.add_zero]
    exact h runtimeID

end PersistentReconciliationRepository

/-! ## What the other writers do to the reconciliations -/

namespace Cleaner

open PersistentReconciliationRepository

variable {repo : PersistentReconciliationRepository}

theorem sublist_deleteRecordsByAge (runtimeID : String) (numberOfDays now : Nat) :
    (deleteRecordsByAge runtimeID numberOfDays now repo).reconciliations.Sublist
      repo.reconciliations := by
  unfold deleteRecordsByAge
  split
  · exact List.Sublist.refl _
  · exact sublist_deleteReconciliations _

theorem sublist_deleteRecordsByCountAndStatus (runtimeID : String) (config : CleanerConfig) :
    (deleteRecordsByCountAndStatus runtimeID config repo).reconciliations.Sublist
      repo.reconciliations := by
  unfold deleteRecordsByCountAndStatus
  dsimp only
  split_ifs
  · exact List.Sublist.refl _
  · exact List.Sublist.refl _
  · exact sublist_deleteReconciliations _
  · exact List.Sublist.refl _

/-- A loop of the cleaner whose every pass removes rows removes rows. -/
theorem sublist_foldl {β : Type*}
    (g : PersistentReconciliationRepository → β → PersistentReconciliationRepository)
    (hg : ∀ repo b, (g repo b).reconciliations.Sublist repo.reconciliations) (bs : List β) :
    (bs.foldl g repo).reconciliations.Sublist repo.reconciliations :=
  Transition.foldl_prefix_invariant (fun _ cur => cur.reconciliations.Sublist repo.reconciliations)
    g bs (fun _ b cur _ hcur => (hg cur b).trans hcur) (List.Sublist.refl _)

theorem sublist_purgeReconciliationsNew (config : CleanerConfig) (now : Nat) :
    (purgeReconciliationsNew config now repo).reconciliations.Sublist repo.reconciliations :=
  sublist_foldl _ (fun _ runtimeID =>
    (sublist_deleteRecordsByCountAndStatus runtimeID config).trans
      (sublist_deleteRecordsByAge runtimeID _ now)) _

theorem sublist_purgeReconciliationsOld (config : CleanerConfig) (now : Nat) :
    (purgeReconciliationsOld config now repo).reconciliations.Sublist repo.reconciliations :=
  sublist_foldl _ (fun _ _ => sublist_deleteReconciliations _) _

end Cleaner

namespace Database

open PersistentReconciliationRepository

variable {db db' : Database}

theorem sublist_deleteStatuses (p : ClusterStatusEntity → Bool) :
    (db.deleteStatuses p).repository.reconciliations.Sublist db.repository.reconciliations :=
  sublist_deleteReconciliations _

theorem sublist_deleteClusters (p : ClusterEntity → Bool) :
    (db.deleteClusters p).repository.reconciliations.Sublist db.repository.reconciliations :=
  sublist_deleteReconciliations _

theorem sublist_removeStatusesWithoutReconciliations {statusCleanupBatchSize : Nat}
    (h : db.removeStatusesWithoutReconciliations statusCleanupBatchSize = some db') :
    db'.repository.reconciliations.Sublist db.repository.reconciliations := by
  unfold removeStatusesWithoutReconciliations at h
  obtain ⟨blocks, -, h⟩ := Option.bind_eq_some_iff.1 h
  cases h
  exact Transition.foldl_prefix_invariant
    (fun _ (cur : Database) => cur.repository.reconciliations.Sublist db.repository.reconciliations)
    _ blocks
    (fun _ _ cur _ hcur => sublist_deleteStatuses _ |>.trans hcur) (List.Sublist.refl _)

end Database

namespace Cleaner

variable {db db' : Database} {config : CleanerConfig} {now : Nat}

theorem sublist_clusterEntityCleanup (h : clusterEntityCleanup config now db = some db') :
    db'.repository.reconciliations.Sublist db.repository.reconciliations := by
  unfold clusterEntityCleanup at h
  split_ifs at h
  · obtain ⟨db₁, h₁, h⟩ := Option.bind_eq_some_iff.1 h
    cases h
    -- the cluster cleanup cascades to the reconciliations of the statuses it takes
    exact (Database.sublist_deleteClusters _).trans
      (Database.sublist_removeStatusesWithoutReconciliations h₁)
  · cases h
    exact List.Sublist.refl _

/-- **The cleaner only removes reconciliations.** -/
theorem sublist_purgeEntities (h : purgeEntities config now db = some db') :
    db'.repository.reconciliations.Sublist db.repository.reconciliations := by
  unfold purgeEntities at h
  refine (sublist_clusterEntityCleanup h).trans ?_
  dsimp only
  split_ifs
  · exact sublist_purgeReconciliationsNew config now
  · exact sublist_purgeReconciliationsOld config now

end Cleaner

namespace ClusterCall

/-- `FinishReconciliation` finishes the reconciliation on the scheduler's tables as they are. -/
theorem finishReconciliationWrites_repository {snap db db' : Database}
    {clusterState : ClusterState} {schedulingID : String} {status : Status} {now : Nat}
    (h : finishReconciliationWrites snap clusterState schedulingID status now db = .ok db') :
    ∃ statusEntity, db.repository.finishReconciliation schedulingID statusEntity now =
      .ok db'.repository := by
  unfold finishReconciliationWrites at h
  dsimp only at h
  split at h
  · obtain ⟨⟨inv₁, statusEntity⟩, -, h⟩ := bind_eq_ok h
    obtain ⟨repository, hfinish, h⟩ := bind_eq_ok h
    cases h
    exact ⟨statusEntity, ok_of_mapError_ok hfinish⟩
  · obtain ⟨⟨inv₁, statusEntity⟩, h₁, h⟩ := bind_eq_ok h
    cases h₁
    obtain ⟨repository, hfinish, h⟩ := bind_eq_ok h
    cases h
    exact ⟨_, ok_of_mapError_ok hfinish⟩

/-- A cluster status writer leaves the scheduler's tables, or finishes a reconciliation on
them. -/
theorem txn_repository {db db' : Database} (call : ClusterCall)
    {writes : Database → Except TransitionError Database} (htxn : call.txn db = .ok writes)
    (hwrites : writes db = .ok db') :
    db'.repository = db.repository ∨ ∃ schedulingID status now,
      db.repository.finishReconciliation schedulingID status now = .ok db'.repository := by
  cases call with
  | finishReconciliation schedulingID status now =>
    obtain ⟨recon, -, htxn⟩ := bind_eq_ok htxn
    dsimp only at htxn
    split at htxn
    · cases htxn
    obtain ⟨clusterState, -, htxn⟩ := bind_eq_ok htxn
    cases htxn
    obtain ⟨statusEntity, hfinish⟩ := finishReconciliationWrites_repository hwrites
    exact .inr ⟨schedulingID, statusEntity, now, hfinish⟩
  | deleteCluster runtimeID now =>
    cases htxn
    obtain ⟨_, -, hwrites⟩ := bind_eq_ok hwrites
    cases hwrites
    exact .inl rfl
  | updateLatestCluster runtimeID status now =>
    cases htxn
    obtain ⟨_, -, hwrites⟩ := bind_eq_ok hwrites
    obtain ⟨_, -, hwrites⟩ := bind_eq_ok hwrites
    cases hwrites
    exact .inl rfl
  | createOrUpdateCluster contractVersion cluster now =>
    obtain ⟨clusterStateOld, rfl⟩ : ∃ clusterStateOld, writes =
        ClusterCall.createOrUpdateClusterWrites clusterStateOld contractVersion cluster now := by
      simp only [ClusterCall.txn] at htxn
      split at htxn <;> cases htxn
      all_goals exact ⟨_, rfl⟩
    obtain ⟨_, -, hwrites⟩ := bind_eq_ok hwrites
    dsimp only at hwrites
    split_ifs at hwrites
    · obtain ⟨_, -, hwrites⟩ := bind_eq_ok hwrites
      cases hwrites
      exact .inl rfl
    · cases hwrites
      exact .inl rfl

end ClusterCall

/-! ## What a start writes -/

section Start

variable {ε ε' α β : Type} {runtimeID : String} {configVersion : Int} {cfg : SchedulerConfig}
  {cleaner : List Configuration} {ids : Nat → String} {now : Nat} {db db' : Database}

theorem bind_eq_error {x : Except ε α} {f : α → Except ε β} {e : ε} (h : x >>= f = .error e) :
    x = .error e ∨ ∃ a, x = .ok a ∧ f a = .error e := by
  cases x with
  | error e' =>
    cases h
    exact .inl rfl
  | ok a => exact .inr ⟨a, rfl, h⟩

theorem mapError_eq_error {x : Except ε α} {f : ε → ε'} {e : ε'} (h : x.mapError f = .error e) :
    ∃ e₀, x = .error e₀ ∧ f e₀ = e := by
  cases x with
  | error e₀ =>
    cases h
    exact ⟨e₀, rfl, rfl⟩
  | ok a => cases h

namespace ClusterStatusTransition

theorem targetState_error {state : ClusterState} {e : StartError}
    (h : targetState state = .error e) :
    e = .noCandidate state.cluster.runtimeID state.status.status := by
  unfold targetState at h
  split_ifs at h
  cases h
  rfl

theorem targetState_eq_ok {state : ClusterState} {target : Status}
    (h : targetState state = .ok target) : target = .deleting ∨ target = .reconciling := by
  unfold targetState at h
  split_ifs at h <;> cases h
  · exact .inl rfl
  · exact .inr rfl

/-- A started reconciliation's transaction sets the target status for the configuration `Get`
read and creates the reconciliation on the scheduler's tables as they were, under that status. -/
theorem startReconciliationTx_eq_ok {recon : ReconciliationEntity} {cleaner' : List Configuration}
    (h : startReconciliationTx runtimeID configVersion cfg cleaner ids now db =
      .ok (db', recon, cleaner')) :
    ∃ old target newClusterState,
      db.inventory.get runtimeID configVersion = .ok old ∧ targetState old = .ok target ∧
      db.inventory.updateStatus old target now = .ok (db'.inventory, newClusterState) ∧
      db.repository.createReconciliation newClusterState
          { preComponents := cfg.preComponents, deleteStrategy := cfg.deleteStrategy,
            reconciliationStatus := newClusterState.status.status } cleaner ids now =
        .ok (db'.repository, recon, cleaner') := by
  unfold startReconciliationTx at h
  obtain ⟨-, -, h⟩ := bind_eq_ok h
  obtain ⟨old, hget, h⟩ := bind_eq_ok h
  obtain ⟨target, htarget, h⟩ := bind_eq_ok h
  obtain ⟨⟨inventory, newClusterState⟩, hupdate, h⟩ := bind_eq_ok h
  obtain ⟨⟨repository, reconEntity, c'⟩, hcreate, h⟩ := bind_eq_ok h
  cases h
  exact ⟨old, target, newClusterState, ok_of_mapError_ok hget, htarget,
    ok_of_mapError_ok hupdate, ok_of_mapError_ok hcreate⟩

/-- A transaction that failed in `CreateReconciliation` had set a status for the configuration
`Get` read. -/
theorem startReconciliationTx_eq_error {newClusterState : ClusterState} {e : RepositoryError}
    (h : startReconciliationTx runtimeID configVersion cfg cleaner ids now db =
      .error (.createReconciliation newClusterState e)) :
    ∃ old, db.inventory.get runtimeID configVersion = .ok old ∧
      newClusterState.configuration = old.configuration := by
  unfold startReconciliationTx at h
  -- each step before `CreateReconciliation` fails with an error of its own
  rcases bind_eq_error h with hguard | ⟨-, -, h⟩
  · split at hguard <;> cases hguard
  rcases bind_eq_error h with hget | ⟨old, hget, h⟩
  · obtain ⟨_, -, hmap⟩ := mapError_eq_error hget
    cases hmap
  rcases bind_eq_error h with htarget | ⟨target, -, h⟩
  · cases targetState_error htarget
  rcases bind_eq_error h with hupdate | ⟨⟨inventory, state⟩, hupdate, h⟩
  · obtain ⟨_, -, hmap⟩ := mapError_eq_error hupdate
    cases hmap
  rcases bind_eq_error h with hcreate | ⟨_, -, h⟩
  · obtain ⟨_, -, hmap⟩ := mapError_eq_error hcreate
    cases hmap
    exact ⟨old, ok_of_mapError_ok hget, (updateStatus_adds (ok_of_mapError_ok hupdate)).2.2⟩
  · cases h

/-- **A start keeps the inventory coherent**: whether it enqueues a reconciliation or sets
`ReconcileError` for a cluster without components, it writes a status only for a configuration
that `Get` read. -/
theorem coherent_startReconciliation (hc : db.inventory.Coherent) :
    (startReconciliation runtimeID configVersion cfg cleaner ids now db).1.inventory.Coherent := by
  unfold startReconciliation
  split
  · rename_i db₁ recon cleaner' htx
    obtain ⟨old, target, state, hget, -, hupdate, -⟩ := startReconciliationTx_eq_ok htx
    obtain ⟨hcm, hcd⟩ := hc.get_config hget
    exact hc.updateStatus hcm hcd hupdate
  · rename_i newClusterState r v htx
    obtain ⟨old, hget, hconfig⟩ := startReconciliationTx_eq_error htx
    obtain ⟨hcm, hcd⟩ := hc.get_config hget
    split
    · rename_i inventory state hupdate
      exact hc.updateStatus (hconfig ▸ hcm) (hconfig ▸ hcd) hupdate
    · exact hc
  · exact hc

variable (runtimeID configVersion cfg cleaner ids now db) in
/-- A start leaves the scheduler's tables, or is a `CreateReconciliation` on them. -/
theorem startReconciliation_repository :
    (startReconciliation runtimeID configVersion cfg cleaner ids now db).1.repository =
        db.repository ∨
      ∃ state seqCfg recon cleaner', db.repository.createReconciliation state seqCfg cleaner ids
        now = .ok ((startReconciliation runtimeID configVersion cfg cleaner ids now db).1.repository,
          recon, cleaner') := by
  unfold startReconciliation
  split
  · rename_i db₁ recon cleaner' htx
    obtain ⟨-, -, state, -, -, -, hcreate⟩ := startReconciliationTx_eq_ok htx
    exact .inr ⟨state, _, recon, cleaner', hcreate⟩
  · split
    · exact .inl rfl
    · exact .inl rfl
  · exact .inl rfl

theorem atMostOneReconciling_startReconciliation (h : db.repository.AtMostOneReconciling) :
    (startReconciliation runtimeID configVersion cfg cleaner ids now db).1.repository.AtMostOneReconciling := by
  rcases startReconciliation_repository runtimeID configVersion cfg cleaner ids now db with
    hrepo | ⟨_, _, _, _, hcreate⟩
  · rw [hrepo]
    exact h
  · exact h.createReconciliation hcreate

theorem configuration_mem_of_get {inv : DefaultInventory} {state : ClusterState}
    (h : inv.get runtimeID configVersion = .ok state) : state.configuration ∈ inv.configs := by
  obtain ⟨c, hcf, h⟩ := bind_eq_ok h
  obtain ⟨s, -, h⟩ := bind_eq_ok h
  obtain ⟨cl, -, h⟩ := bind_eq_ok h
  cases h
  exact (mem_of_config hcf).1

/-- **A started reconciliation holds the prescribed operations, with the cleaner exactly when
the cluster is being deleted.**  `StartReconciliation` sets `Deleting` or `Reconciling` and
passes the status it has just set as the sequence's `ReconciliationStatus`, so the groups that
`CreateReconciliation` prescribes by that status are those of the cluster's new status. -/
theorem startReconciliation_prescribed {recon : ReconciliationEntity}
    {cleaner' : List Configuration} (hids : Function.Injective ids)
    (hnames : ∀ c ∈ db.inventory.configs, (componentNames c.components).Nodup)
    (h : startReconciliation runtimeID configVersion cfg cleaner ids now db =
      (db', .ok (recon, cleaner'))) :
    ∃ (newClusterState : ClusterState) (ops : List OperationEntity),
      (newClusterState.status.status = .deleting ∨ newClusterState.status.status = .reconciling) ∧
      (∀ op ∈ ops, op.schedulingID = recon.schedulingID ∧ op.state = .new ∧
        (op.type = .delete ↔ newClusterState.status.status = .deleting)) ∧
      (ops.map (·.correlationID)).Nodup ∧
      ops.map (fun op => (op.priority, op.component)) ~
        withPriorities (prescribedGroups (componentNames newClusterState.configuration.components)
          (decide (newClusterState.status.status = .deleting)) cfg.preComponents) 1 ∧
      db'.repository.operations ~ ops ++ db.repository.operations := by
  obtain ⟨old, target, newClusterState, hget, htarget, hupdate, hcreate⟩ :=
    startReconciliationTx_eq_ok (startReconciliationTx_of_ok h)
  have hstatus : newClusterState.status.status = target := updateStatus_status hupdate
  have hconfig : newClusterState.configuration = old.configuration :=
    (updateStatus_adds hupdate).2.2
  have hnodup : (componentNames newClusterState.configuration.components).Nodup := by
    rw [hconfig]
    exact hnames _ (configuration_mem_of_get hget)
  obtain ⟨-, -, -, -, hops⟩ := PersistentReconciliationRepository.createReconciliation_ok hcreate
  have hpres := queueOperations_prescribed newClusterState
    { preComponents := cfg.preComponents, deleteStrategy := cfg.deleteStrategy,
      reconciliationStatus := newClusterState.status.status } cleaner recon.schedulingID ids now
    hids hnodup
  -- the sequence's status is the one just set, so its deletion flag is the cluster's
  have hflag : newClusterState.status.status.isDeletionInProgress =
      decide (newClusterState.status.status = .deleting) :=
    Bool.eq_iff_iff.2 (by rw [Status.isDeletionInProgress_iff, decide_eq_true_eq])
  refine ⟨newClusterState, _, hstatus ▸ targetState_eq_ok htarget, hpres.new_of_reconciliation,
    hpres.correlationID_nodup, ?_, ?_⟩
  · rw [← hflag]
    exact hpres.groups
  · rw [hops]
    exact List.perm_append_comm

/-- The start of the registered cluster, which is pending, reconciles its one component. -/
theorem startReconciliation_prescribed_registered :
    ∃ db' recon cleaner', startReconciliation "runtime" 1
        { preComponents := [], deleteStrategy := "system" } []
        (fun n => String.ofList (List.replicate n 'u')) 1 Database.registeredDatabase =
          (db', .ok (recon, cleaner')) ∧
      ∃ (newClusterState : ClusterState) (ops : List OperationEntity),
        (newClusterState.status.status = .deleting ∨
          newClusterState.status.status = .reconciling) ∧
        (∀ op ∈ ops, op.schedulingID = recon.schedulingID ∧ op.state = .new ∧
          (op.type = .delete ↔ newClusterState.status.status = .deleting)) ∧
        (ops.map (·.correlationID)).Nodup ∧
        ops.map (fun op => (op.priority, op.component)) ~
          withPriorities (prescribedGroups (componentNames newClusterState.configuration.components)
            (decide (newClusterState.status.status = .deleting)) []) 1 ∧
        db'.repository.operations ~ ops ++ Database.registeredDatabase.repository.operations := by
  have hids : Function.Injective (fun n : Nat => String.ofList (List.replicate n 'u')) := by
    intro m n h
    simpa using congrArg String.length h
  obtain ⟨db', recon, cleaner', hstart⟩ : ∃ db' recon cleaner', startReconciliation "runtime" 1
      { preComponents := [], deleteStrategy := "system" } []
      (fun n => String.ofList (List.replicate n 'u')) 1 Database.registeredDatabase =
        (db', .ok (recon, cleaner')) :=
    ⟨_, _, _, rfl⟩
  exact ⟨db', recon, cleaner', hstart, startReconciliation_prescribed hids (by decide) hstart⟩

end ClusterStatusTransition

end Start

/-! ## Runs -/

namespace Scheduling

open Transition Relation PersistentReconciliationRepository

variable {cfg : SchedulerConfig} {clusterReconcileInterval : GoTime.Duration}
  {σ σ' : Scheduling}

/-- A pass of the scheduler's loop is a `StartReconciliation` on the database. -/
theorem startFromQueue_db (cfg : SchedulerConfig) (ids : Nat → String) (now : Nat)
    (clusterState : ClusterState) (σ : Scheduling) :
    (startFromQueue cfg ids now clusterState σ).db =
      (startReconciliation clusterState.cluster.runtimeID clusterState.configuration.version cfg
        σ.cleaner ids now σ.db).1 := by
  unfold startFromQueue
  split
  · rename_i db _ _ h
    rw [h]
  · rename_i db _ h
    rw [h]

/-- Every step but a start is a step of the database's actors, or leaves the database. -/
theorem Step.toDatabase (h : Step cfg clusterReconcileInterval σ σ') :
    Database.Step σ.db σ'.db ∨ σ'.db = σ.db ∨
      ∃ runtimeID configVersion ids now,
        σ'.db = (startReconciliation runtimeID configVersion cfg σ.cleaner ids now σ.db).1 := by
  cases h with
  | call call htxn hwrites => exact .inl (.call call htxn hwrites)
  | purge config now hpurge => exact .inl (.purge config now hpurge)
  | deleteReconciliationsByCluster => exact .inl (.schedule _ _)
  | operations => exact .inl (.schedule _ _)
  | watch => exact .inr (.inl rfl)
  | start _ ids now => exact .inr (.inr ⟨_, _, ids, now, startFromQueue_db cfg ids now _ _⟩)

theorem coherent_invariant :
    Invariant (Step cfg clusterReconcileInterval) fun σ => σ.db.inventory.Coherent := by
  intro σ σ' hc h
  rcases h.toDatabase with hdb | hdb | ⟨runtimeID, configVersion, ids, now, hdb⟩
  · exact Database.coherent_step hc hdb
  · rw [hdb]
    exact hc
  · rw [hdb]
    exact coherent_startReconciliation hc

/-- **Every state the mothership reaches with its scheduler keeps the inventory coherent.** -/
theorem coherent_of_scheduled (h : Reachable (Step cfg clusterReconcileInterval) init σ) :
    σ.db.inventory.Coherent :=
  coherent_invariant.reachable Database.coherent_empty h

theorem atMostOneReconciling_invariant :
    Invariant (Step cfg clusterReconcileInterval) fun σ => σ.db.repository.AtMostOneReconciling := by
  intro σ σ' h hstep
  cases hstep with
  | call call htxn hwrites =>
    rcases ClusterCall.txn_repository call htxn hwrites with hrepo | ⟨_, _, _, hfinish⟩
    · exact hrepo ▸ h
    · exact h.finishReconciliation hfinish
  | purge config now hpurge => exact h.of_sublist (Cleaner.sublist_purgeEntities hpurge)
  | deleteReconciliationsByCluster => exact h.of_sublist (sublist_deleteReconciliations _)
  | operations => exact h
  | watch => exact h
  | start _ ids now =>
    show (startFromQueue cfg ids now _ _).db.repository.AtMostOneReconciling
    rw [startFromQueue_db]
    exact atMostOneReconciling_startReconciliation h

/-- **No runtime ever has two unfinished reconciliations**: every state the mothership reaches
with its scheduler has at most one per runtime. -/
theorem atMostOneReconciling_of_scheduled
    (h : Reachable (Step cfg clusterReconcileInterval) init σ) :
    σ.db.repository.AtMostOneReconciling := by
  have hinit : init.db.repository.AtMostOneReconciling := fun _ => Nat.zero_le 1
  exact atMostOneReconciling_invariant.reachable hinit h

/-! ### A run that starts a reconciliation -/

/-- A scheduler configuration without pre-components. -/
def systemConfig : SchedulerConfig where
  preComponents := []
  deleteStrategy := "system"

/-- The mothership once it has registered `oneComponentCluster`. -/
def registered : Scheduling := { init with db := Database.registeredDatabase }

/-- The state `ClustersToReconcile` selects in `registered`: its status is pending. -/
def registeredState : ClusterState where
  cluster := { version := 1, runtimeID := "runtime", kubeconfig := "kubeconfig-1", contract := 1 }
  configuration :=
    { version := 1, runtimeID := "runtime", clusterVersion := 1,
      components := [{ component := "istio" }], contract := 1 }
  status :=
    { id := 1, runtimeID := "runtime", clusterVersion := 1, configVersion := 1,
      status := .reconcilePending }

/-- The watcher has put the registered cluster into the queue. -/
def watched : Scheduling := { registered with queue := [registeredState] }

/-- The scheduler has started the reconciliation of the registered cluster. -/
def started : Scheduling := startFromQueue systemConfig toString 1 registeredState registered

theorem started_reachable : Reachable (Step systemConfig (.ofSeconds 60)) init started := by
  have hregister : Step systemConfig (.ofSeconds 60) init registered :=
    Step.call init (.createOrUpdateCluster 1 oneComponentCluster 0) rfl rfl
  have hwatch : Step systemConfig (.ofSeconds 60) registered watched := by
    have hqueue : Scheduler.processClustersToReconcile (.ofSeconds 60) 0 registered.db.inventory
        registered.queue = [registeredState] := by
      decide
    have h := @Step.watch systemConfig (.ofSeconds 60) registered 0
    rwa [hqueue] at h
  have hstart : Step systemConfig (.ofSeconds 60) watched started :=
    @Step.start systemConfig (.ofSeconds 60) watched registeredState [] rfl toString 1
  exact ((ReflTransGen.single hregister).tail hwatch).tail hstart

example : (started.db.repository.currentlyReconcilingWithRuntimeID "runtime").length = 1 := by
  decide

theorem coherent_of_scheduled_started :
    Reachable (Step systemConfig (.ofSeconds 60)) init started ∧ started.db.inventory.Coherent :=
  ⟨started_reachable, coherent_of_scheduled started_reachable⟩

theorem atMostOneReconciling_of_scheduled_started :
    Reachable (Step systemConfig (.ofSeconds 60)) init started ∧
      started.db.repository.AtMostOneReconciling :=
  ⟨started_reachable, atMostOneReconciling_of_scheduled started_reachable⟩

end Scheduling

end Reconciler
