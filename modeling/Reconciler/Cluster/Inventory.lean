import Mathlib.Data.List.MinMax
import Reconciler.Model.Entity

/-!
# The cluster inventory

`DefaultInventory` (`pkg/cluster/inventory.go`) keeps three append-only tables: the versions
of a cluster, the configuration versions of a cluster version, and the status history of a
configuration version (`configs/db/postgres`).  Their keys are `SERIAL` columns: the model
keeps the next value of each sequence, and an insert takes it, together with the creation
time.  A row the driver reads back is the row that was written, so the JSON columns of a
cluster and of a configuration are kept as their values.

`CreateOrUpdate` inserts a new cluster version, configuration version or status only when the
hand-written `Equal` of the latest stored one says that it differs from the requested one.
`getLatest_createOrUpdate` shows what `GetLatest` then reads; `ClusterEntity.equal` does not
compare the kubeconfig, and `createOrUpdate_keeps_kubeconfig` follows from that.
-/

namespace Reconciler

/-- The errors of `DefaultInventory`. -/
inductive InventoryError
  /-- `CreateOrUpdate` of a cluster whose configuration has no components. -/
  | emptyComponents (runtimeID : String)
  /-- `repository.EntityNotFoundError`: a query for one row found none. -/
  | entityNotFound
  deriving DecidableEq, Repr

namespace ClusterEntity

/-- `ClusterEntity.Equal`; `reflect.DeepEqual` of the pointers compares the values they point
to.  The kubeconfig is not compared. -/
def equal (c other : ClusterEntity) : Bool :=
  decide (c.runtimeID = other.runtimeID ∧ c.runtime = other.runtime ∧
    c.metadata = other.metadata ∧ c.contract = other.contract)

end ClusterEntity

namespace ClusterConfigurationEntity

/-- `ClusterConfigurationEntity.Equal`. -/
def equal (c other : ClusterConfigurationEntity) : Bool :=
  decide (c.runtimeID = other.runtimeID ∧ c.clusterVersion = other.clusterVersion ∧
    c.kymaVersion = other.kymaVersion ∧ c.kymaProfile = other.kymaProfile ∧
    c.components = other.components ∧ c.administrators = other.administrators ∧
    c.contract = other.contract)

end ClusterConfigurationEntity

namespace ClusterStatusEntity

/-- `ClusterStatusEntity.Equal`. -/
def equal (c other : ClusterStatusEntity) : Bool :=
  decide (c.configVersion = other.configVersion ∧ c.status = other.status)

end ClusterStatusEntity

/-- The three tables of the inventory and the next values of their `SERIAL` keys. -/
structure DefaultInventory where
  clusters : List ClusterEntity := []
  configs : List ClusterConfigurationEntity := []
  statuses : List ClusterStatusEntity := []
  clusterVersionSeq : Int := 1
  configVersionSeq : Int := 1
  statusIDSeq : Int := 1
  deriving DecidableEq, Repr

namespace DefaultInventory

/-! ## Queries -/

/-- The row with the greatest key, the first of them on a tie.  The order on the keys is given
by name, so that it is the order of `Int` whatever else is imported. -/
def newest {α : Type} (key : α → Int) (rows : List α) : Option α :=
  @List.argmax α Int Int.instLinearOrder.toPartialOrder.toPreorder Int.decLt key rows

/-- `latestCluster`: the newest version of the cluster that is not deleted. -/
def latestCluster (inv : DefaultInventory) (runtimeID : String) :
    Except InventoryError ClusterEntity :=
  match newest ClusterEntity.version
      (inv.clusters.filter (fun c => c.runtimeID = runtimeID ∧ c.deleted = false)) with
  | some c => .ok c
  | none => .error .entityNotFound

/-- `latestConfig`: the newest configuration of a cluster version. -/
def latestConfig (inv : DefaultInventory) (clusterVersion : Int) :
    Except InventoryError ClusterConfigurationEntity :=
  match newest ClusterConfigurationEntity.version
      (inv.configs.filter (fun c => c.clusterVersion = clusterVersion)) with
  | some c => .ok c
  | none => .error .entityNotFound

/-- `latestStatus`: the newest status of a configuration version. -/
def latestStatus (inv : DefaultInventory) (configVersion : Int) :
    Except InventoryError ClusterStatusEntity :=
  match newest ClusterStatusEntity.id
      (inv.statuses.filter (fun s => s.configVersion = configVersion)) with
  | some s => .ok s
  | none => .error .entityNotFound

/-- `config`: the configuration version of a cluster. -/
def config (inv : DefaultInventory) (runtimeID : String) (configVersion : Int) :
    Except InventoryError ClusterConfigurationEntity :=
  match (inv.configs.filter (fun c => c.version = configVersion ∧ c.runtimeID = runtimeID)).head?
      with
  | some c => .ok c
  | none => .error .entityNotFound

/-- `cluster`: a cluster version that is not deleted. -/
def cluster (inv : DefaultInventory) (clusterVersion : Int) : Except InventoryError ClusterEntity :=
  match (inv.clusters.filter (fun c => c.version = clusterVersion ∧ c.deleted = false)).head? with
  | some c => .ok c
  | none => .error .entityNotFound

/-- `Get`: a configuration version of a cluster with its latest status. -/
def get (inv : DefaultInventory) (runtimeID : String) (configVersion : Int) :
    Except InventoryError ClusterState := do
  let configEntity ← inv.config runtimeID configVersion
  let statusEntity ← inv.latestStatus configVersion
  let clusterEntity ← inv.cluster configEntity.clusterVersion
  pure { cluster := clusterEntity, configuration := configEntity, status := statusEntity }

/-- `GetLatest`. -/
def getLatest (inv : DefaultInventory) (runtimeID : String) :
    Except InventoryError ClusterState := do
  let cluster ← inv.latestCluster runtimeID
  let configuration ← inv.latestConfig cluster.version
  let status ← inv.latestStatus configuration.version
  pure { cluster := cluster, configuration := configuration, status := status }

/-! ## Inserts -/

/-- `INSERT ... RETURNING` of a cluster version: the key and the creation time come from the
database. -/
def insertCluster (inv : DefaultInventory) (e : ClusterEntity) (now : Nat) :
    DefaultInventory × ClusterEntity :=
  let row := { e with version := inv.clusterVersionSeq, created := now }
  ({ inv with clusters := inv.clusters ++ [row], clusterVersionSeq := inv.clusterVersionSeq + 1 },
    row)

/-- `INSERT ... RETURNING` of a configuration version. -/
def insertConfig (inv : DefaultInventory) (e : ClusterConfigurationEntity) (now : Nat) :
    DefaultInventory × ClusterConfigurationEntity :=
  let row := { e with version := inv.configVersionSeq, created := now }
  ({ inv with configs := inv.configs ++ [row], configVersionSeq := inv.configVersionSeq + 1 },
    row)

/-- `INSERT ... RETURNING` of a status. -/
def insertStatus (inv : DefaultInventory) (e : ClusterStatusEntity) (now : Nat) :
    DefaultInventory × ClusterStatusEntity :=
  let row := { e with id := inv.statusIDSeq, created := now }
  ({ inv with statuses := inv.statuses ++ [row], statusIDSeq := inv.statusIDSeq + 1 }, row)

/-- The cluster version `createCluster` would insert. -/
def newClusterEntity (contractVersion : Int) (cluster : Cluster) : ClusterEntity :=
  { runtimeID := cluster.runtimeID, runtime := cluster.runtimeInput, metadata := cluster.metadata,
    kubeconfig := cluster.kubeconfig, contract := contractVersion }

/-- The configuration version `createConfiguration` would insert. -/
def newConfigEntity (contractVersion : Int) (cluster : Cluster) (clusterEntity : ClusterEntity) :
    ClusterConfigurationEntity :=
  { runtimeID := clusterEntity.runtimeID, clusterVersion := clusterEntity.version,
    kymaVersion := cluster.kymaConfig.version, kymaProfile := cluster.kymaConfig.profile,
    components := cluster.kymaConfig.components,
    administrators := cluster.kymaConfig.administrators, contract := contractVersion }

/-- The status `createStatus` would insert. -/
def newStatusEntity (configEntity : ClusterConfigurationEntity) (status : Status) :
    ClusterStatusEntity :=
  { runtimeID := configEntity.runtimeID, clusterVersion := configEntity.clusterVersion,
    configVersion := configEntity.version, status := status }

/-- `createCluster`: reuse the latest version when `Equal` says it is the requested one. -/
def createCluster (inv : DefaultInventory) (contractVersion : Int) (cluster : Cluster)
    (now : Nat) : Except InventoryError (DefaultInventory × ClusterEntity) :=
  let entity := newClusterEntity contractVersion cluster
  match inv.latestCluster cluster.runtimeID with
  | .ok old => if old.equal entity then .ok (inv, old) else .ok (inv.insertCluster entity now)
  | .error e =>
      if e = .entityNotFound then .ok (inv.insertCluster entity now) else .error e

/-- `createConfiguration`. -/
def createConfiguration (inv : DefaultInventory) (contractVersion : Int) (cluster : Cluster)
    (clusterEntity : ClusterEntity) (now : Nat) :
    Except InventoryError (DefaultInventory × ClusterConfigurationEntity) :=
  let entity := newConfigEntity contractVersion cluster clusterEntity
  match inv.latestConfig clusterEntity.version with
  | .ok old => if old.equal entity then .ok (inv, old) else .ok (inv.insertConfig entity now)
  | .error e =>
      if e = .entityNotFound then .ok (inv.insertConfig entity now) else .error e

/-- `createStatus` run in a transaction: the latest status is read from the snapshot `snap`,
the insert goes to the tables `inv` as they are when it runs. -/
def createStatusIn (snap inv : DefaultInventory) (configEntity : ClusterConfigurationEntity)
    (status : Status) (now : Nat) : Except InventoryError (DefaultInventory × ClusterStatusEntity) :=
  let entity := newStatusEntity configEntity status
  match snap.latestStatus configEntity.version with
  | .ok old => if old.equal entity then .ok (inv, old) else .ok (inv.insertStatus entity now)
  | .error e =>
      if e = .entityNotFound then .ok (inv.insertStatus entity now) else .error e

/-- `createStatus`. -/
def createStatus (inv : DefaultInventory) (configEntity : ClusterConfigurationEntity)
    (status : Status) (now : Nat) : Except InventoryError (DefaultInventory × ClusterStatusEntity) :=
  createStatusIn inv inv configEntity status now

/-- `CreateOrUpdate`: one transaction over the three creations. -/
def createOrUpdate (inv : DefaultInventory) (contractVersion : Int) (cluster : Cluster)
    (now : Nat) : Except InventoryError (DefaultInventory × ClusterState) :=
  if cluster.kymaConfig.components = [] then .error (.emptyComponents cluster.runtimeID)
  else do
    let (inv₁, clusterEntity) ← inv.createCluster contractVersion cluster now
    let (inv₂, configEntity) ← inv₁.createConfiguration contractVersion cluster clusterEntity now
    let (inv₃, statusEntity) ← inv₂.createStatus configEntity .reconcilePending now
    pure (inv₃, { cluster := clusterEntity, configuration := configEntity, status := statusEntity })

/-- `UpdateStatus`. -/
def updateStatus (inv : DefaultInventory) (state : ClusterState) (status : Status) (now : Nat) :
    Except InventoryError (DefaultInventory × ClusterState) := do
  let (inv', statusEntity) ← inv.createStatus state.configuration status now
  pure (inv', { state with status := statusEntity })

/-- `Delete`: every row of the cluster is renamed to `deleted_<unix time>_<runtime ID>` and
marked deleted, in the three tables. -/
def delete (inv : DefaultInventory) (runtimeID : String) (now : Nat) : DefaultInventory :=
  let newClusterName := "deleted_" ++ toString now ++ "_" ++ runtimeID
  let hit (name : String) : Bool := name = runtimeID ∨ name = newClusterName
  { inv with
    clusters := inv.clusters.map fun c =>
      if hit c.runtimeID then { c with runtimeID := newClusterName, deleted := true } else c
    configs := inv.configs.map fun c =>
      if hit c.runtimeID then { c with runtimeID := newClusterName, deleted := true } else c
    statuses := inv.statuses.map fun s =>
      if hit s.runtimeID then { s with runtimeID := newClusterName, deleted := true } else s }

/-- `MarkForDeletion`. -/
def markForDeletion (inv : DefaultInventory) (runtimeID : String) (now : Nat) :
    Except InventoryError (DefaultInventory × ClusterState) := do
  let state ← inv.getLatest runtimeID
  inv.updateStatus state .deletePending now

/-! ## Spec lemmas -/

@[simp] theorem ok_bind {ε α β : Type} (a : α) (f : α → Except ε β) :
    (Except.ok a >>= f) = f a := rfl

theorem bind_eq_ok {ε α β : Type} {x : Except ε α} {f : α → Except ε β} {b : β}
    (h : x >>= f = .ok b) : ∃ a, x = .ok a ∧ f a = .ok b := by
  cases x with
  | error e => cases h
  | ok a => exact ⟨a, rfl, h⟩

/-- A row appended with a key above every other is the latest. -/
theorem newest_append_of_lt {α : Type} {f : α → Int} {l : List α} {a : α}
    (h : ∀ x ∈ l, f x < f a) : newest f (l ++ [a]) = some a := by
  rw [newest, List.argmax_concat]
  rcases hl : @List.argmax α Int Int.instLinearOrder.toPartialOrder.toPreorder Int.decLt f l with
    - | c
  · rfl
  · exact if_pos (h c (List.argmax_mem hl))

/-- Every key is below the next value of its sequence. -/
structure WellFormed (inv : DefaultInventory) : Prop where
  clusters_lt : ∀ c ∈ inv.clusters, c.version < inv.clusterVersionSeq
  configs_lt : ∀ c ∈ inv.configs, c.version < inv.configVersionSeq
  statuses_lt : ∀ s ∈ inv.statuses, s.id < inv.statusIDSeq

theorem wellFormed_empty : WellFormed {} where
  clusters_lt _ h := nomatch h
  configs_lt _ h := nomatch h
  statuses_lt _ h := nomatch h

section Inserts

variable {inv : DefaultInventory} (now : Nat)

/-- Each query reads one table. -/
theorem latestCluster_congr {inv' : DefaultInventory} (h : inv'.clusters = inv.clusters)
    (runtimeID : String) : inv'.latestCluster runtimeID = inv.latestCluster runtimeID := by
  simp only [latestCluster, h]

theorem latestConfig_congr {inv' : DefaultInventory} (h : inv'.configs = inv.configs)
    (clusterVersion : Int) : inv'.latestConfig clusterVersion = inv.latestConfig clusterVersion := by
  simp only [latestConfig, h]

theorem latestStatus_congr {inv' : DefaultInventory} (h : inv'.statuses = inv.statuses)
    (configVersion : Int) : inv'.latestStatus configVersion = inv.latestStatus configVersion := by
  simp only [latestStatus, h]

theorem WellFormed.insertCluster (hwf : inv.WellFormed) (e : ClusterEntity) :
    (inv.insertCluster e now).1.WellFormed where
  clusters_lt c hc := by
    rcases List.mem_append.1 hc with hc | hc
    · exact (hwf.clusters_lt c hc).trans (Int.lt_succ _)
    · rw [List.mem_singleton.1 hc]
      exact Int.lt_succ _
  configs_lt := hwf.configs_lt
  statuses_lt := hwf.statuses_lt

theorem WellFormed.insertConfig (hwf : inv.WellFormed) (e : ClusterConfigurationEntity) :
    (inv.insertConfig e now).1.WellFormed where
  clusters_lt := hwf.clusters_lt
  configs_lt c hc := by
    rcases List.mem_append.1 hc with hc | hc
    · exact (hwf.configs_lt c hc).trans (Int.lt_succ _)
    · rw [List.mem_singleton.1 hc]
      exact Int.lt_succ _
  statuses_lt := hwf.statuses_lt

theorem WellFormed.insertStatus (hwf : inv.WellFormed) (e : ClusterStatusEntity) :
    (inv.insertStatus e now).1.WellFormed where
  clusters_lt := hwf.clusters_lt
  configs_lt := hwf.configs_lt
  statuses_lt s hs := by
    rcases List.mem_append.1 hs with hs | hs
    · exact (hwf.statuses_lt s hs).trans (Int.lt_succ _)
    · rw [List.mem_singleton.1 hs]
      exact Int.lt_succ _

/-- An inserted cluster version is the latest of its cluster. -/
theorem latestCluster_insertCluster (hwf : inv.WellFormed) {e : ClusterEntity}
    (hdel : e.deleted = false) :
    (inv.insertCluster e now).1.latestCluster e.runtimeID = .ok (inv.insertCluster e now).2 := by
  have hrow : decide ((inv.insertCluster e now).2.runtimeID = e.runtimeID ∧
      (inv.insertCluster e now).2.deleted = false) = true := by
    simpa [insertCluster] using hdel
  unfold latestCluster
  rw [show (inv.insertCluster e now).1.clusters = inv.clusters ++ [(inv.insertCluster e now).2]
    from rfl, List.filter_append, List.filter_singleton, hrow, cond_true,
    newest_append_of_lt (fun c hc => hwf.clusters_lt c (List.mem_filter.1 hc).1)]

/-- An inserted configuration version is the latest of its cluster version. -/
theorem latestConfig_insertConfig (hwf : inv.WellFormed) (e : ClusterConfigurationEntity) :
    (inv.insertConfig e now).1.latestConfig e.clusterVersion = .ok (inv.insertConfig e now).2 := by
  have hrow : decide ((inv.insertConfig e now).2.clusterVersion = e.clusterVersion) = true := by
    simp [insertConfig]
  unfold latestConfig
  rw [show (inv.insertConfig e now).1.configs = inv.configs ++ [(inv.insertConfig e now).2]
    from rfl, List.filter_append, List.filter_singleton, hrow, cond_true,
    newest_append_of_lt (fun c hc => hwf.configs_lt c (List.mem_filter.1 hc).1)]

/-- An inserted status is the latest of its configuration version. -/
theorem latestStatus_insertStatus (hwf : inv.WellFormed) (e : ClusterStatusEntity) :
    (inv.insertStatus e now).1.latestStatus e.configVersion = .ok (inv.insertStatus e now).2 := by
  have hrow : decide ((inv.insertStatus e now).2.configVersion = e.configVersion) = true := by
    simp [insertStatus]
  unfold latestStatus
  rw [show (inv.insertStatus e now).1.statuses = inv.statuses ++ [(inv.insertStatus e now).2]
    from rfl, List.filter_append, List.filter_singleton, hrow, cond_true,
    newest_append_of_lt (fun s hs => hwf.statuses_lt s (List.mem_filter.1 hs).1)]

end Inserts

section Creations

variable {inv inv' : DefaultInventory} {contractVersion : Int} {cluster : Cluster} {now : Nat}

@[simp] theorem equal_insertCluster (e : ClusterEntity) :
    (inv.insertCluster e now).2.equal e = true := by
  simp [insertCluster, ClusterEntity.equal]

@[simp] theorem equal_insertConfig (e : ClusterConfigurationEntity) :
    (inv.insertConfig e now).2.equal e = true := by
  simp [insertConfig, ClusterConfigurationEntity.equal]

@[simp] theorem equal_insertStatus (e : ClusterStatusEntity) :
    (inv.insertStatus e now).2.equal e = true := by
  simp [insertStatus, ClusterStatusEntity.equal]

/-- What `createCluster` leaves: the cluster version it returns is the latest, `Equal` to the
requested one, and the other tables are untouched. -/
theorem createCluster_spec (hwf : inv.WellFormed) {c : ClusterEntity}
    (h : inv.createCluster contractVersion cluster now = .ok (inv', c)) :
    inv'.WellFormed ∧ inv'.latestCluster cluster.runtimeID = .ok c ∧
      c.equal (newClusterEntity contractVersion cluster) = true ∧
      inv'.configs = inv.configs ∧ inv'.statuses = inv.statuses := by
  -- both ways to insert leave the same
  have hins : ∀ {inv'' c'}, (inv.insertCluster (newClusterEntity contractVersion cluster) now) =
      (inv'', c') → inv''.WellFormed ∧ inv''.latestCluster cluster.runtimeID = .ok c' ∧
        c'.equal (newClusterEntity contractVersion cluster) = true ∧
        inv''.configs = inv.configs ∧ inv''.statuses = inv.statuses := by
    intro inv'' c' hi
    cases hi
    exact ⟨hwf.insertCluster now _, latestCluster_insertCluster now hwf rfl,
      equal_insertCluster _, rfl, rfl⟩
  unfold createCluster at h
  dsimp only at h
  split at h
  · rename_i old hold
    split_ifs at h with heq
    · cases h
      exact ⟨hwf, hold, heq, rfl, rfl⟩
    · exact hins (Except.ok.inj h)
  · split_ifs at h
    · exact hins (Except.ok.inj h)

theorem createConfiguration_spec (hwf : inv.WellFormed) {clusterEntity : ClusterEntity}
    {c : ClusterConfigurationEntity}
    (h : inv.createConfiguration contractVersion cluster clusterEntity now = .ok (inv', c)) :
    inv'.WellFormed ∧ inv'.latestConfig clusterEntity.version = .ok c ∧
      c.equal (newConfigEntity contractVersion cluster clusterEntity) = true ∧
      inv'.clusters = inv.clusters ∧ inv'.statuses = inv.statuses := by
  have hins : ∀ {inv'' c'},
      (inv.insertConfig (newConfigEntity contractVersion cluster clusterEntity) now) = (inv'', c') →
      inv''.WellFormed ∧ inv''.latestConfig clusterEntity.version = .ok c' ∧
        c'.equal (newConfigEntity contractVersion cluster clusterEntity) = true ∧
        inv''.clusters = inv.clusters ∧ inv''.statuses = inv.statuses := by
    intro inv'' c' hi
    cases hi
    exact ⟨hwf.insertConfig now _, latestConfig_insertConfig now hwf _, equal_insertConfig _,
      rfl, rfl⟩
  unfold createConfiguration at h
  dsimp only at h
  split at h
  · rename_i old hold
    split_ifs at h with heq
    · cases h
      exact ⟨hwf, hold, heq, rfl, rfl⟩
    · exact hins (Except.ok.inj h)
  · split_ifs at h
    · exact hins (Except.ok.inj h)

theorem createStatus_spec (hwf : inv.WellFormed) {configEntity : ClusterConfigurationEntity}
    {status : Status} {s : ClusterStatusEntity}
    (h : inv.createStatus configEntity status now = .ok (inv', s)) :
    inv'.WellFormed ∧ inv'.latestStatus configEntity.version = .ok s ∧
      s.equal (newStatusEntity configEntity status) = true ∧
      inv'.clusters = inv.clusters ∧ inv'.configs = inv.configs := by
  have hins : ∀ {inv'' s'}, (inv.insertStatus (newStatusEntity configEntity status) now) =
      (inv'', s') → inv''.WellFormed ∧ inv''.latestStatus configEntity.version = .ok s' ∧
        s'.equal (newStatusEntity configEntity status) = true ∧
        inv''.clusters = inv.clusters ∧ inv''.configs = inv.configs := by
    intro inv'' s' hi
    cases hi
    exact ⟨hwf.insertStatus now _, latestStatus_insertStatus now hwf _, equal_insertStatus _,
      rfl, rfl⟩
  unfold createStatus createStatusIn at h
  dsimp only at h
  split at h
  · rename_i old hold
    split_ifs at h with heq
    · cases h
      exact ⟨hwf, hold, heq, rfl, rfl⟩
    · exact hins (Except.ok.inj h)
  · split_ifs at h
    · exact hins (Except.ok.inj h)

/-- A stored version that `Equal` finds the same as the requested one is reused. -/
theorem createCluster_of_equal {old : ClusterEntity}
    (hold : inv.latestCluster cluster.runtimeID = .ok old)
    (heq : old.equal (newClusterEntity contractVersion cluster) = true) :
    inv.createCluster contractVersion cluster now = .ok (inv, old) := by
  simp only [createCluster, hold, heq, if_true]

theorem createConfiguration_of_equal {clusterEntity : ClusterEntity}
    {old : ClusterConfigurationEntity} (hold : inv.latestConfig clusterEntity.version = .ok old)
    (heq : old.equal (newConfigEntity contractVersion cluster clusterEntity) = true) :
    inv.createConfiguration contractVersion cluster clusterEntity now = .ok (inv, old) := by
  simp only [createConfiguration, hold, heq, if_true]

theorem createStatus_of_equal {configEntity : ClusterConfigurationEntity} {status : Status}
    {old : ClusterStatusEntity} (hold : inv.latestStatus configEntity.version = .ok old)
    (heq : old.equal (newStatusEntity configEntity status) = true) :
    inv.createStatus configEntity status now = .ok (inv, old) := by
  simp only [createStatus, createStatusIn, hold, heq, if_true]

end Creations

section Latest

variable {inv : DefaultInventory} {runtimeID : String} {state : ClusterState}

theorem getLatest_ok (h : inv.getLatest runtimeID = .ok state) :
    inv.latestCluster runtimeID = .ok state.cluster ∧
      inv.latestConfig state.cluster.version = .ok state.configuration ∧
      inv.latestStatus state.configuration.version = .ok state.status := by
  obtain ⟨cluster, hcl, h⟩ := bind_eq_ok h
  obtain ⟨configuration, hcf, h⟩ := bind_eq_ok h
  obtain ⟨status, hst, h⟩ := bind_eq_ok h
  cases h
  exact ⟨hcl, hcf, hst⟩

theorem getLatest_of (hcl : inv.latestCluster runtimeID = .ok state.cluster)
    (hcf : inv.latestConfig state.cluster.version = .ok state.configuration)
    (hst : inv.latestStatus state.configuration.version = .ok state.status) :
    inv.getLatest runtimeID = .ok state := by
  simp only [getLatest, hcl, ok_bind, hcf, hst]
  rfl

end Latest

section Statuses

variable {inv : DefaultInventory} {runtimeID : String} {now : Nat}

theorem config_version {configVersion : Int} {c : ClusterConfigurationEntity}
    (h : inv.config runtimeID configVersion = .ok c) : c.version = configVersion := by
  unfold config at h
  split at h
  · rename_i c' hc
    cases h
    have hmem := List.mem_filter.1 (List.mem_of_mem_head? hc)
    simp only [decide_eq_true_eq] at hmem
    exact hmem.2.1
  · cases h

/-- `Get` reads the configuration version it is asked for and that version's latest status. -/
theorem get_ok {configVersion : Int} {state : ClusterState}
    (h : inv.get runtimeID configVersion = .ok state) :
    state.configuration.version = configVersion ∧
      inv.latestStatus configVersion = .ok state.status := by
  obtain ⟨configEntity, hcf, h⟩ := bind_eq_ok h
  obtain ⟨statusEntity, hst, h⟩ := bind_eq_ok h
  obtain ⟨clusterEntity, -, h⟩ := bind_eq_ok h
  cases h
  exact ⟨config_version hcf, hst⟩

/-- A new status is inserted when the latest one of the snapshot has another status. -/
theorem createStatusIn_of_ne {snap : DefaultInventory} {configEntity : ClusterConfigurationEntity}
    {old : ClusterStatusEntity} {status : Status}
    (hold : snap.latestStatus configEntity.version = .ok old) (hne : old.status ≠ status) :
    createStatusIn snap inv configEntity status now =
      .ok (inv.insertStatus (newStatusEntity configEntity status) now) := by
  have heq : old.equal (newStatusEntity configEntity status) = false := by
    simp [ClusterStatusEntity.equal, newStatusEntity, hne]
  simp only [createStatusIn, hold, heq]
  rfl

/-- A status inserted for the configuration `GetLatest` reads is the one it reads next. -/
theorem getLatest_insertStatus (hwf : inv.WellFormed) {state : ClusterState}
    (h : inv.getLatest runtimeID = .ok state) (status : Status) :
    (inv.insertStatus (newStatusEntity state.configuration status) now).1.getLatest runtimeID =
      .ok { state with
        status := (inv.insertStatus (newStatusEntity state.configuration status) now).2 } := by
  obtain ⟨hcl, hcf, -⟩ := getLatest_ok h
  exact getLatest_of (latestCluster_congr rfl runtimeID ▸ hcl)
    (latestConfig_congr rfl _ ▸ hcf) (latestStatus_insertStatus now hwf _)

end Statuses

/-- **What `CreateOrUpdate` stores.**  On a well-formed inventory a successful call leaves a
well-formed inventory from which `GetLatest` reads the state it returned, and that state is
`Equal` to the request in each of its three parts. -/
theorem createOrUpdate_spec {inv inv' : DefaultInventory} {contractVersion : Int}
    {cluster : Cluster} {now : Nat} {state : ClusterState} (hwf : inv.WellFormed)
    (h : inv.createOrUpdate contractVersion cluster now = .ok (inv', state)) :
    cluster.kymaConfig.components ≠ [] ∧ inv'.WellFormed ∧
      inv'.getLatest cluster.runtimeID = .ok state ∧
      state.cluster.equal (newClusterEntity contractVersion cluster) = true ∧
      state.configuration.equal (newConfigEntity contractVersion cluster state.cluster) = true ∧
      state.status.equal (newStatusEntity state.configuration .reconcilePending) = true := by
  unfold createOrUpdate at h
  split_ifs at h with hcomp
  obtain ⟨⟨inv₁, clusterEntity⟩, h₁, h⟩ := bind_eq_ok h
  obtain ⟨⟨inv₂, configEntity⟩, h₂, h⟩ := bind_eq_ok h
  obtain ⟨⟨inv₃, statusEntity⟩, h₃, h⟩ := bind_eq_ok h
  cases h
  obtain ⟨hwf₁, hcl, hclEq, -, -⟩ := createCluster_spec hwf h₁
  obtain ⟨hwf₂, hcf, hcfEq, hcl₂, -⟩ := createConfiguration_spec hwf₁ h₂
  obtain ⟨hwf₃, hst, hstEq, hcl₃, hcf₃⟩ := createStatus_spec hwf₂ h₃
  refine ⟨hcomp, hwf₃, getLatest_of ?_ ?_ hst, hclEq, hcfEq, hstEq⟩
  -- the later creations leave the tables read before them alone
  · rw [latestCluster_congr hcl₃, latestCluster_congr hcl₂]
    exact hcl
  · rw [latestConfig_congr hcf₃]
    exact hcf

theorem equal_newClusterEntity_kubeconfig (c : ClusterEntity) (contractVersion : Int)
    (cluster : Cluster) (kubeconfig : String) :
    c.equal (newClusterEntity contractVersion { cluster with kubeconfig := kubeconfig }) =
      c.equal (newClusterEntity contractVersion cluster) :=
  rfl

/-- **A new kubeconfig alone is dropped.**  After a successful `CreateOrUpdate` on a
well-formed inventory, a request that differs only in its kubeconfig stores nothing and
answers with the state of the first, whose cluster version keeps the old kubeconfig; and
`GetLatest` reads that state. -/
theorem createOrUpdate_keeps_kubeconfig (inv : DefaultInventory) (hwf : inv.WellFormed)
    (contractVersion : Int) (cluster : Cluster) (kubeconfig : String) (now₁ now₂ : Nat)
    (inv₁ : DefaultInventory) (state₁ : ClusterState)
    (h₁ : inv.createOrUpdate contractVersion cluster now₁ = .ok (inv₁, state₁)) :
    inv₁.createOrUpdate contractVersion { cluster with kubeconfig := kubeconfig } now₂ =
        .ok (inv₁, state₁) ∧
      inv₁.getLatest cluster.runtimeID = .ok state₁ := by
  obtain ⟨hcomp, -, hget, hclEq, hcfEq, hstEq⟩ := createOrUpdate_spec hwf h₁
  obtain ⟨hcl, hcf, hst⟩ := getLatest_ok hget
  refine ⟨?_, hget⟩
  -- each of the three creations finds its latest row `Equal` to the request and reuses it
  have h_cl : inv₁.createCluster contractVersion { cluster with kubeconfig := kubeconfig } now₂ =
      .ok (inv₁, state₁.cluster) :=
    createCluster_of_equal hcl (by rw [equal_newClusterEntity_kubeconfig]; exact hclEq)
  have h_cf : inv₁.createConfiguration contractVersion { cluster with kubeconfig := kubeconfig }
      state₁.cluster now₂ = .ok (inv₁, state₁.configuration) :=
    createConfiguration_of_equal hcf hcfEq
  have h_st : inv₁.createStatus state₁.configuration .reconcilePending now₂ =
      .ok (inv₁, state₁.status) :=
    createStatus_of_equal hst hstEq
  have hcomp' : ({ cluster with kubeconfig := kubeconfig } : Cluster).kymaConfig.components ≠ [] :=
    hcomp
  simp only [createOrUpdate, if_neg hcomp', h_cl, ok_bind, h_cf, h_st]
  rfl

/-- A cluster with one component. -/
def oneComponentCluster : Cluster :=
  { runtimeID := "runtime", kubeconfig := "kubeconfig-1",
    kymaConfig := { components := [{ component := "istio" }] } }

theorem createOrUpdate_keeps_kubeconfig_of_empty :
    ∃ inv₁ state₁, ({} : DefaultInventory).createOrUpdate 1 oneComponentCluster 1 =
        .ok (inv₁, state₁) ∧
      inv₁.createOrUpdate 1 { oneComponentCluster with kubeconfig := "kubeconfig-2" } 2 =
        .ok (inv₁, state₁) ∧
      state₁.cluster.kubeconfig = "kubeconfig-1" :=
  ⟨_, _, rfl, (createOrUpdate_keeps_kubeconfig {} wellFormed_empty 1 oneComponentCluster
    "kubeconfig-2" 1 2 _ _ rfl).1, rfl⟩

end DefaultInventory

end Reconciler
