import Reconciler.Cluster.Inventory
import Reconciler.Lib.Buckets
import Reconciler.Lib.Duration
import Reconciler.Lib.Sql.Eval

/-!
# Which clusters the scheduler picks up

`ClustersToReconcile` and `ClustersNotReady` (`pkg/cluster/inventory.go`) do not read the
inventory through `GetLatest`.  They run three grouped queries over the status table alone:

* the newest cluster version of every runtime that has a status not marked deleted;
* for each of those cluster versions, its newest configuration version that has a status;
* for each such pair, the id of its newest status;

and then select the statuses with those ids that pass the status filters
(`pkg/cluster/statusfilter.go`) and are not deleted, and read each of them with `Get`.

The queries are modelled as they are written, with `Buckets.groupMax` for
`SELECT k, MAX(v) ... GROUP BY k`.  The main result, `Coherent.filterClusters_spec`, says
that on an inventory whose three tables are linked as the writers link them (`Coherent`)
this returns exactly the states `GetLatest` returns whose status passes the filters, one
per runtime.
-/

namespace Reconciler

open GoTime (Duration)

/-- `statusSQLFilter`: the two filters, each given by the meaning of the condition its
`Filter` method writes. -/
inductive StatusSQLFilter
  /-- `statusFilter`: the status is one of the allowed ones. -/
  | statusFilter (allowedStatuses : List Status)
  /-- `reconcileIntervalFilter`: the cluster is ready, or failed retryably, and its status
  is older than the seconds `%.0f` prints of the interval. -/
  | reconcileIntervalFilter (reconcileInterval : Duration)
  deriving DecidableEq, Repr

namespace StatusSQLFilter

/-- The condition of a filter at the database time `now`; the Postgres and SQLite texts
mean the same. -/
def holds (now : Nat) : StatusSQLFilter → ClusterStatusEntity → Bool
  | statusFilter allowedStatuses, s => allowedStatuses.contains s.status
  | reconcileIntervalFilter reconcileInterval, s =>
    [Status.ready, .reconcileErrorRetryable, .deleteErrorRetryable].contains s.status &&
      decide ((s.created : Int) ≤ (now : Int) - reconcileInterval.roundSeconds)

end StatusSQLFilter

namespace DefaultInventory

/-! ## The queries -/

/-- `buildStatusFilterSQL`: the conditions joined by `OR`, and `1=1` when there are none. -/
def statusFilterHolds (now : Nat) (filters : List StatusSQLFilter) (s : ClusterStatusEntity) :
    Bool :=
  filters.isEmpty || filters.any fun f => f.holds now s

/-- The inner query of `buildLatestStatusIdsSQL`:
`SELECT MAX(cluster_version) ... WHERE deleted=false GROUP BY runtime_id`. -/
def latestClusterVersions (inv : DefaultInventory) : List Int :=
  (Buckets.groupMax (·.runtimeID) (·.clusterVersion)
    (inv.statuses.filter fun s => !s.deleted)).map Prod.snd

/-- The cluster-status idents of `buildLatestStatusIdsSQL`:
`SELECT cluster_version, MAX(config_version) ... WHERE cluster_version IN (...)
GROUP BY cluster_version`. -/
def clusterStatusIdents (inv : DefaultInventory) : List (Int × Int) :=
  Buckets.groupMax (·.clusterVersion) (·.configVersion)
    (inv.statuses.filter fun s => inv.latestClusterVersions.contains s.clusterVersion)

/-- The subquery `buildLatestStatusIdsSQL` returns:
`SELECT MAX(id) ... WHERE (cluster_version=x AND config_version=y) OR ... GROUP BY
cluster_version`, and no statement when there is no ident. -/
def latestStatusIDs (inv : DefaultInventory) (idents : List (Int × Int)) : Option (List Int) :=
  if idents = [] then none
  else
    some ((Buckets.groupMax (·.clusterVersion) (·.id)
      (inv.statuses.filter fun s =>
        idents.any fun ident => s.clusterVersion = ident.1 && s.configVersion = ident.2)).map
      Prod.snd)

/-- `filterClusters`: the latest statuses that pass the filters and are not deleted, each
read with `Get`; the first error of `Get` is returned. -/
def filterClusters (inv : DefaultInventory) (now : Nat) (filters : List StatusSQLFilter) :
    Except InventoryError (List ClusterState) :=
  match inv.latestStatusIDs inv.clusterStatusIdents with
  | none => .ok []
  | some statusIDs =>
    (inv.statuses.filter fun s =>
        statusIDs.contains s.id && statusFilterHolds now filters s && !s.deleted).mapM
      fun clusterStatus => inv.get clusterStatus.runtimeID clusterStatus.configVersion

/-- `ClustersToReconcile`. -/
def clustersToReconcile (inv : DefaultInventory) (now : Nat) (reconcileInterval : Duration) :
    Except InventoryError (List ClusterState) :=
  inv.filterClusters now
    ((if 0 < reconcileInterval.nanoseconds then [.reconcileIntervalFilter reconcileInterval]
      else []) ++
      [.statusFilter [.reconcilePending, .deletePending]])

/-- `ClustersNotReady`. -/
def clustersNotReady (inv : DefaultInventory) (now : Nat) :
    Except InventoryError (List ClusterState) :=
  inv.filterClusters now
    [.statusFilter [.reconcileError, .reconcileErrorRetryable, .deleting, .deleteError,
      .deleteErrorRetryable]]

/-! ## How the tables are linked -/

/-- The links each row keeps to the rows above it: keys are unique, every status belongs to a
configuration and every configuration to a cluster version, with the same runtime and
deletion mark. -/
structure Linked (inv : DefaultInventory) : Prop where
  wellFormed : inv.WellFormed
  clusters_nodup : (inv.clusters.map (·.version)).Nodup
  configs_nodup : (inv.configs.map (·.version)).Nodup
  statuses_nodup : (inv.statuses.map (·.id)).Nodup
  status_config : ∀ s ∈ inv.statuses, ∃ c ∈ inv.configs, c.version = s.configVersion ∧
    c.clusterVersion = s.clusterVersion ∧ c.runtimeID = s.runtimeID ∧ c.deleted = s.deleted
  config_cluster : ∀ c ∈ inv.configs, ∃ cl ∈ inv.clusters, cl.version = c.clusterVersion ∧
    cl.runtimeID = c.runtimeID ∧ cl.deleted = c.deleted

/-- The links the writers keep between the three tables: besides the links upward, whatever is
not deleted has rows below it. -/
structure Coherent (inv : DefaultInventory) : Prop extends inv.Linked where
  config_status : ∀ c ∈ inv.configs, c.deleted = false →
    ∃ s ∈ inv.statuses, s.configVersion = c.version
  cluster_config : ∀ cl ∈ inv.clusters, cl.deleted = false →
    ∃ c ∈ inv.configs, c.clusterVersion = cl.version

/-! ## The newest row -/

section Newest

variable {α : Type} {key : α → Int} {rows : List α}

theorem newest_mem {a : α} (h : newest key rows = some a) : a ∈ rows :=
  List.argmax_mem h

theorem le_of_newest {a b : α} (h : newest key rows = some a) (hb : b ∈ rows) :
    key b ≤ key a :=
  List.le_of_mem_argmax hb h

theorem exists_newest_of_mem (key : α → Int) {b : α} (hb : b ∈ rows) :
    ∃ a, newest key rows = some a := by
  apply Option.ne_none_iff_exists'.1
  rw [Ne, newest, List.argmax_eq_none]
  exact List.ne_nil_of_mem hb

/-- On rows with distinct keys the newest row is the one whose key bounds all others. -/
theorem newest_eq_some_iff (hkey : (rows.map key).Nodup) {a : α} :
    newest key rows = some a ↔ a ∈ rows ∧ ∀ b ∈ rows, key b ≤ key a := by
  constructor
  · intro h
    exact ⟨newest_mem h, fun b hb => le_of_newest h hb⟩
  · rintro ⟨ha, hmax⟩
    obtain ⟨m, hm⟩ := exists_newest_of_mem key ha
    have hkm : key m = key a := le_antisymm (hmax m (newest_mem hm)) (le_of_newest hm ha)
    rw [hm, List.inj_on_of_nodup_map hkey (newest_mem hm) ha hkm]

theorem nodup_map_filter {β : Type} {f : α → β} (h : (rows.map f).Nodup) (p : α → Bool) :
    ((rows.filter p).map f).Nodup :=
  ((List.filter_sublist).map f).nodup h

/-- A filter that only one row passes starts with that row. -/
theorem head?_filter_of_unique {p : α → Bool} {a : α} (ha : a ∈ rows) (hpa : p a = true)
    (huniq : ∀ b ∈ rows, p b = true → b = a) : (rows.filter p).head? = some a := by
  obtain ⟨b, hb⟩ : ∃ b, (rows.filter p).head? = some b := by
    apply Option.ne_none_iff_exists'.1
    rw [Ne, List.head?_eq_none_iff]
    exact List.ne_nil_of_mem (List.mem_filter.2 ⟨ha, hpa⟩)
  have hb' := List.mem_filter.1 (List.mem_of_mem_head? hb)
  rw [hb, huniq b hb'.1 hb'.2]

end Newest

/-! ## The single-row queries -/

section Rows

variable {inv : DefaultInventory} {runtimeID : String}

theorem latestCluster_eq_ok_iff {cl : ClusterEntity} :
    inv.latestCluster runtimeID = .ok cl ↔
      newest ClusterEntity.version
        (inv.clusters.filter fun c => c.runtimeID = runtimeID ∧ c.deleted = false) = some cl := by
  unfold latestCluster
  split <;> simp_all

theorem latestConfig_eq_ok_iff {clusterVersion : Int} {c : ClusterConfigurationEntity} :
    inv.latestConfig clusterVersion = .ok c ↔
      newest ClusterConfigurationEntity.version
        (inv.configs.filter fun c => c.clusterVersion = clusterVersion) = some c := by
  unfold latestConfig
  split <;> simp_all

theorem latestStatus_eq_ok_iff {configVersion : Int} {s : ClusterStatusEntity} :
    inv.latestStatus configVersion = .ok s ↔
      newest ClusterStatusEntity.id
        (inv.statuses.filter fun s => s.configVersion = configVersion) = some s := by
  unfold latestStatus
  split <;> simp_all

theorem mem_of_latestCluster {cl : ClusterEntity} (h : inv.latestCluster runtimeID = .ok cl) :
    cl ∈ inv.clusters ∧ cl.runtimeID = runtimeID ∧ cl.deleted = false := by
  simpa using List.mem_filter.1 (newest_mem (latestCluster_eq_ok_iff.1 h))

theorem mem_of_latestConfig {clusterVersion : Int} {c : ClusterConfigurationEntity}
    (h : inv.latestConfig clusterVersion = .ok c) :
    c ∈ inv.configs ∧ c.clusterVersion = clusterVersion := by
  simpa using List.mem_filter.1 (newest_mem (latestConfig_eq_ok_iff.1 h))

theorem mem_of_latestStatus {configVersion : Int} {s : ClusterStatusEntity}
    (h : inv.latestStatus configVersion = .ok s) :
    s ∈ inv.statuses ∧ s.configVersion = configVersion := by
  simpa using List.mem_filter.1 (newest_mem (latestStatus_eq_ok_iff.1 h))

theorem exists_latestCluster {cl : ClusterEntity} (hcl : cl ∈ inv.clusters)
    (hdel : cl.deleted = false) : ∃ cl', inv.latestCluster cl.runtimeID = .ok cl' := by
  simp only [latestCluster_eq_ok_iff]
  exact exists_newest_of_mem _ (List.mem_filter.2 ⟨hcl, by simp [hdel]⟩)

theorem exists_latestConfig {c : ClusterConfigurationEntity} (hc : c ∈ inv.configs) :
    ∃ c', inv.latestConfig c.clusterVersion = .ok c' := by
  simp only [latestConfig_eq_ok_iff]
  exact exists_newest_of_mem _ (List.mem_filter.2 ⟨hc, by simp⟩)

theorem exists_latestStatus {s : ClusterStatusEntity} (hs : s ∈ inv.statuses) :
    ∃ s', inv.latestStatus s.configVersion = .ok s' := by
  simp only [latestStatus_eq_ok_iff]
  exact exists_newest_of_mem _ (List.mem_filter.2 ⟨hs, by simp⟩)

/-- The condition of the third query: the status is one of an ident's pair. -/
theorem any_ident_iff {idents : List (Int × Int)} {s : ClusterStatusEntity} :
    (idents.any fun ident => s.clusterVersion = ident.1 && s.configVersion = ident.2) = true ↔
      (s.clusterVersion, s.configVersion) ∈ idents := by
  simp only [List.any_eq_true, Bool.and_eq_true, decide_eq_true_eq]
  constructor
  · rintro ⟨⟨cv, cfg⟩, hmem, rfl, rfl⟩
    exact hmem
  · intro hmem
    exact ⟨_, hmem, rfl, rfl⟩

end Rows

/-! ## What the links give -/

section Linked

variable {inv : DefaultInventory} (hl : inv.Linked)
include hl

theorem Linked.cluster_eq {cl₁ cl₂ : ClusterEntity} (h₁ : cl₁ ∈ inv.clusters)
    (h₂ : cl₂ ∈ inv.clusters) (h : cl₁.version = cl₂.version) : cl₁ = cl₂ :=
  List.inj_on_of_nodup_map hl.clusters_nodup h₁ h₂ h

theorem Linked.config_eq {c₁ c₂ : ClusterConfigurationEntity} (h₁ : c₁ ∈ inv.configs)
    (h₂ : c₂ ∈ inv.configs) (h : c₁.version = c₂.version) : c₁ = c₂ :=
  List.inj_on_of_nodup_map hl.configs_nodup h₁ h₂ h

theorem Linked.status_eq {s₁ s₂ : ClusterStatusEntity} (h₁ : s₁ ∈ inv.statuses)
    (h₂ : s₂ ∈ inv.statuses) (h : s₁.id = s₂.id) : s₁ = s₂ :=
  List.inj_on_of_nodup_map hl.statuses_nodup h₁ h₂ h

/-- A status agrees with the configuration its version names. -/
theorem Linked.status_agrees {s : ClusterStatusEntity} {c : ClusterConfigurationEntity}
    (hs : s ∈ inv.statuses) (hcm : c ∈ inv.configs) (h : s.configVersion = c.version) :
    s.clusterVersion = c.clusterVersion ∧ s.runtimeID = c.runtimeID ∧ s.deleted = c.deleted := by
  obtain ⟨c', hc'm, hv, hcv, hr, hd⟩ := hl.status_config s hs
  obtain rfl : c' = c := hl.config_eq hc'm hcm (hv.trans h)
  exact ⟨hcv.symm, hr.symm, hd.symm⟩

/-- A configuration agrees with the cluster version it names. -/
theorem Linked.config_agrees {c : ClusterConfigurationEntity} {cl : ClusterEntity}
    (hcm : c ∈ inv.configs) (hcl : cl ∈ inv.clusters) (h : c.clusterVersion = cl.version) :
    c.runtimeID = cl.runtimeID ∧ c.deleted = cl.deleted := by
  obtain ⟨cl', hcl', hv, hr, hd⟩ := hl.config_cluster c hcm
  obtain rfl : cl' = cl := hl.cluster_eq hcl' hcl (hv.trans h)
  exact ⟨hr.symm, hd.symm⟩

theorem Linked.cluster_of_status {s : ClusterStatusEntity} (hs : s ∈ inv.statuses) :
    ∃ cl ∈ inv.clusters, cl.version = s.clusterVersion ∧ cl.runtimeID = s.runtimeID ∧
      cl.deleted = s.deleted := by
  obtain ⟨c, hcm, -, hcv, hr, hd⟩ := hl.status_config s hs
  obtain ⟨cl, hcl, hv, hr', hd'⟩ := hl.config_cluster c hcm
  exact ⟨cl, hcl, hv.trans hcv, hr'.trans hr, hd'.trans hd⟩

theorem Linked.latestCluster_eq_ok {runtimeID : String} {cl : ClusterEntity} :
    inv.latestCluster runtimeID = .ok cl ↔
      (cl ∈ inv.clusters ∧ cl.runtimeID = runtimeID ∧ cl.deleted = false) ∧
        ∀ cl' ∈ inv.clusters, cl'.runtimeID = runtimeID → cl'.deleted = false →
          cl'.version ≤ cl.version := by
  rw [latestCluster_eq_ok_iff, newest_eq_some_iff (nodup_map_filter hl.clusters_nodup _)]
  simp only [List.mem_filter, decide_eq_true_eq, and_imp]

theorem Linked.latestConfig_eq_ok {clusterVersion : Int} {c : ClusterConfigurationEntity} :
    inv.latestConfig clusterVersion = .ok c ↔
      (c ∈ inv.configs ∧ c.clusterVersion = clusterVersion) ∧
        ∀ c' ∈ inv.configs, c'.clusterVersion = clusterVersion → c'.version ≤ c.version := by
  rw [latestConfig_eq_ok_iff, newest_eq_some_iff (nodup_map_filter hl.configs_nodup _)]
  simp only [List.mem_filter, decide_eq_true_eq, and_imp]

theorem Linked.latestStatus_eq_ok {configVersion : Int} {s : ClusterStatusEntity} :
    inv.latestStatus configVersion = .ok s ↔
      (s ∈ inv.statuses ∧ s.configVersion = configVersion) ∧
        ∀ s' ∈ inv.statuses, s'.configVersion = configVersion → s'.id ≤ s.id := by
  rw [latestStatus_eq_ok_iff, newest_eq_some_iff (nodup_map_filter hl.statuses_nodup _)]
  simp only [List.mem_filter, decide_eq_true_eq, and_imp]

/-- The latest configuration of a cluster version `latestCluster` returns is not deleted. -/
theorem Linked.latestConfig_live {runtimeID : String} {cl : ClusterEntity}
    {c : ClusterConfigurationEntity} (hcl : inv.latestCluster runtimeID = .ok cl)
    (hcf : inv.latestConfig cl.version = .ok c) : c.deleted = false := by
  obtain ⟨⟨hclm, -, hcld⟩, -⟩ := hl.latestCluster_eq_ok.1 hcl
  obtain ⟨⟨hcm, hccv⟩, -⟩ := hl.latestConfig_eq_ok.1 hcf
  exact (hl.config_agrees hcm hclm hccv).2.trans hcld

/-- What the links say of the status in the state `GetLatest` reads. -/
theorem Linked.getLatest_status {runtimeID : String} {state : ClusterState}
    (h : inv.getLatest runtimeID = .ok state) :
    state.status ∈ inv.statuses ∧ state.status.runtimeID = runtimeID ∧
      state.status.clusterVersion = state.cluster.version ∧
      state.status.configVersion = state.configuration.version ∧
      state.status.deleted = false := by
  obtain ⟨hcl, hcf, hst⟩ := getLatest_ok h
  obtain ⟨⟨hclm, hclr, hcld⟩, -⟩ := hl.latestCluster_eq_ok.1 hcl
  obtain ⟨⟨hcm, hccv⟩, -⟩ := hl.latestConfig_eq_ok.1 hcf
  obtain ⟨⟨hsm, hscfg⟩, -⟩ := hl.latestStatus_eq_ok.1 hst
  obtain ⟨hcr, hcd⟩ := hl.config_agrees hcm hclm hccv
  obtain ⟨hscv, hsr, hsd⟩ := hl.status_agrees hsm hcm hscfg
  exact ⟨hsm, hsr.trans (hcr.trans hclr), hscv.trans hccv, hscfg, hsd.trans (hcd.trans hcld)⟩

/-- `Get`, asked for the runtime and configuration version of the status `GetLatest` reads,
reads the same state. -/
theorem Linked.get_of_getLatest {runtimeID : String} {state : ClusterState}
    (h : inv.getLatest runtimeID = .ok state) :
    inv.get state.status.runtimeID state.status.configVersion = .ok state := by
  obtain ⟨hcl, hcf, hst⟩ := getLatest_ok h
  obtain ⟨⟨hclm, hclr, hcld⟩, -⟩ := hl.latestCluster_eq_ok.1 hcl
  obtain ⟨⟨hcm, hccv⟩, -⟩ := hl.latestConfig_eq_ok.1 hcf
  obtain ⟨-, hsr, -, hscfg, -⟩ := hl.getLatest_status h
  obtain ⟨hcr, -⟩ := hl.config_agrees hcm hclm hccv
  -- the keys are unique, so each of the two lookups by key finds one row
  have hconfig : inv.config state.status.runtimeID state.status.configVersion =
      .ok state.configuration := by
    unfold config
    rw [head?_filter_of_unique hcm (by simp [hscfg, hsr, hcr, hclr])
      fun c' hc' hp => hl.config_eq hc' hcm (by simp_all)]
  have hcluster : inv.cluster state.configuration.clusterVersion = .ok state.cluster := by
    unfold cluster
    rw [head?_filter_of_unique hclm (by simp [hccv, hcld])
      fun cl' hcl' hp => hl.cluster_eq hcl' hclm (by simp_all)]
  simp only [get, hconfig, ok_bind]
  simp only [hscfg, hst, ok_bind, hcluster]
  rfl

end Linked

section Coherent

variable {inv : DefaultInventory} (hc : inv.Coherent)
include hc

/-- A configuration that is not deleted has a status, which is not deleted either. -/
theorem Coherent.status_of_config {c : ClusterConfigurationEntity} (hcm : c ∈ inv.configs)
    (hdel : c.deleted = false) :
    ∃ s ∈ inv.statuses, s.configVersion = c.version ∧ s.clusterVersion = c.clusterVersion ∧
      s.runtimeID = c.runtimeID ∧ s.deleted = false := by
  obtain ⟨s, hs, hv⟩ := hc.config_status c hcm hdel
  obtain ⟨hcv, hr, hd⟩ := hc.status_agrees hs hcm hv
  exact ⟨s, hs, hv, hcv, hr, hd.trans hdel⟩

/-- A cluster version that is not deleted has a status, which is not deleted either. -/
theorem Coherent.status_of_cluster {cl : ClusterEntity} (hcl : cl ∈ inv.clusters)
    (hdel : cl.deleted = false) :
    ∃ s ∈ inv.statuses, s.clusterVersion = cl.version ∧ s.runtimeID = cl.runtimeID ∧
      s.deleted = false := by
  obtain ⟨c, hcm, hcv⟩ := hc.cluster_config cl hcl hdel
  obtain ⟨hr, hd⟩ := hc.config_agrees hcm hcl hcv
  obtain ⟨s, hs, -, hscv, hsr, hsd⟩ := hc.status_of_config hcm (hd.trans hdel)
  exact ⟨s, hs, hscv.trans hcv, hsr.trans hr, hsd⟩

/-- The first query returns the cluster versions `GetLatest` starts from. -/
theorem Coherent.mem_latestClusterVersions {clusterVersion : Int} :
    clusterVersion ∈ inv.latestClusterVersions ↔
      ∃ runtimeID cl, inv.latestCluster runtimeID = .ok cl ∧ cl.version = clusterVersion := by
  simp only [latestClusterVersions, List.mem_map, Prod.exists, exists_eq_right,
    Buckets.mem_groupMax, List.mem_filter, Bool.not_eq_true', and_imp]
  constructor
  · rintro ⟨runtimeID, ⟨s, ⟨hs, hsd⟩, rfl, rfl⟩, hmax⟩
    obtain ⟨cl₀, hcl₀, hv₀, hr₀, hd₀⟩ := hc.cluster_of_status hs
    obtain ⟨cl, hcl⟩ := exists_latestCluster hcl₀ (hd₀.trans hsd)
    obtain ⟨⟨hclm, hclr, hcld⟩, hclmax⟩ := hc.latestCluster_eq_ok.1 hcl
    obtain ⟨s', hs', hs'v, hs'r, hs'd⟩ := hc.status_of_cluster hclm hcld
    refine ⟨s.runtimeID, cl, hr₀ ▸ hcl, le_antisymm ?_ ?_⟩
    · -- the latest cluster version has a status that is not deleted
      calc cl.version = s'.clusterVersion := hs'v.symm
        _ ≤ s.clusterVersion := hmax s' hs' hs'd (hs'r.trans (hclr.trans hr₀))
    · calc s.clusterVersion = cl₀.version := hv₀.symm
        _ ≤ cl.version := hclmax cl₀ hcl₀ rfl (hd₀.trans hsd)
  · rintro ⟨runtimeID, cl, hcl, rfl⟩
    obtain ⟨⟨hclm, hclr, hcld⟩, hclmax⟩ := hc.latestCluster_eq_ok.1 hcl
    obtain ⟨s, hs, hsv, hsr, hsd⟩ := hc.status_of_cluster hclm hcld
    refine ⟨runtimeID, ⟨s, ⟨hs, hsd⟩, hsr.trans hclr, hsv⟩, fun s' hs' hs'd hs'r => ?_⟩
    -- every status that is not deleted belongs to a cluster version that is not deleted
    obtain ⟨cl', hcl', hv', hr', hd'⟩ := hc.cluster_of_status hs'
    calc s'.clusterVersion = cl'.version := hv'.symm
      _ ≤ cl.version := hclmax cl' hcl' (hr'.trans hs'r) (hd'.trans hs'd)

/-- The second query pairs each of those cluster versions with the configuration version
`GetLatest` reads next. -/
theorem Coherent.mem_clusterStatusIdents {clusterVersion configVersion : Int} :
    (clusterVersion, configVersion) ∈ inv.clusterStatusIdents ↔
      clusterVersion ∈ inv.latestClusterVersions ∧
        ∃ c, inv.latestConfig clusterVersion = .ok c ∧ c.version = configVersion := by
  simp only [clusterStatusIdents, Buckets.mem_groupMax, List.mem_filter, List.contains_iff_mem,
    and_imp]
  constructor
  · rintro ⟨⟨s, ⟨hs, hscv⟩, rfl, rfl⟩, hmax⟩
    obtain ⟨runtimeID, cl, hcl, hclv⟩ := hc.mem_latestClusterVersions.1 hscv
    obtain ⟨c₀, hc₀, hv₀, hcv₀, -, -⟩ := hc.status_config s hs
    obtain ⟨c, hcf⟩ := exists_latestConfig hc₀
    rw [hcv₀] at hcf
    obtain ⟨⟨hcm, hccv⟩, hcmax⟩ := hc.latestConfig_eq_ok.1 hcf
    have hcd : c.deleted = false := hc.latestConfig_live hcl (by rw [hclv]; exact hcf)
    obtain ⟨s', hs', hs'v, hs'cv, -, -⟩ := hc.status_of_config hcm hcd
    refine ⟨hscv, c, hcf, le_antisymm ?_ ?_⟩
    · -- the latest configuration is not deleted, so it has a status
      calc c.version = s'.configVersion := hs'v.symm
        _ ≤ s.configVersion :=
          hmax s' hs' (by rw [hs'cv, hccv]; exact hscv) (hs'cv.trans hccv)
    · calc s.configVersion = c₀.version := hv₀.symm
        _ ≤ c.version := hcmax c₀ hc₀ hcv₀
  · rintro ⟨hcv, c, hcf, rfl⟩
    obtain ⟨runtimeID, cl, hcl, rfl⟩ := hc.mem_latestClusterVersions.1 hcv
    obtain ⟨⟨hcm, hccv⟩, hcmax⟩ := hc.latestConfig_eq_ok.1 hcf
    obtain ⟨s, hs, hsv, hscv, -, -⟩ := hc.status_of_config hcm (hc.latestConfig_live hcl hcf)
    refine ⟨⟨s, ⟨hs, by rw [hscv, hccv]; exact hcv⟩, hscv.trans hccv, hsv⟩,
      fun s' hs' _ hs'cv => ?_⟩
    obtain ⟨c', hc', hv', hcv', -, -⟩ := hc.status_config s' hs'
    calc s'.configVersion = c'.version := hv'.symm
      _ ≤ c.version := hcmax c' hc' (hcv'.trans hs'cv)

theorem Coherent.ident_of_getLatest {runtimeID : String} {state : ClusterState}
    (h : inv.getLatest runtimeID = .ok state) :
    (state.cluster.version, state.configuration.version) ∈ inv.clusterStatusIdents := by
  obtain ⟨hcl, hcf, -⟩ := getLatest_ok h
  exact hc.mem_clusterStatusIdents.2
    ⟨hc.mem_latestClusterVersions.2 ⟨runtimeID, _, hcl, rfl⟩, _, hcf, rfl⟩

/-- The third query returns the ids of the statuses `GetLatest` reads. -/
theorem Coherent.mem_latestStatusIDs {statusIDs : List Int}
    (h : inv.latestStatusIDs inv.clusterStatusIdents = some statusIDs) {id : Int} :
    id ∈ statusIDs ↔
      ∃ runtimeID state, inv.getLatest runtimeID = .ok state ∧ state.status.id = id := by
  unfold latestStatusIDs at h
  split at h
  · cases h
  obtain rfl := Option.some.inj h
  simp only [List.mem_map, Prod.exists, exists_eq_right, Buckets.mem_groupMax, List.mem_filter,
    any_ident_iff, and_imp]
  constructor
  · rintro ⟨_, ⟨s, ⟨hs, hsi⟩, rfl, rfl⟩, hmax⟩
    obtain ⟨hcv, c, hcf, hcv'⟩ := hc.mem_clusterStatusIdents.1 hsi
    obtain ⟨runtimeID, cl, hcl, hclv⟩ := hc.mem_latestClusterVersions.1 hcv
    obtain ⟨st, hst⟩ := exists_latestStatus hs
    obtain ⟨⟨hstm, hstcfg⟩, hstmax⟩ := hc.latestStatus_eq_ok.1 hst
    obtain ⟨⟨hcm, hccv⟩, -⟩ := hc.latestConfig_eq_ok.1 hcf
    -- the newest status of the configuration has its cluster version, so the query sees it
    have hstcv : st.clusterVersion = s.clusterVersion :=
      (hc.status_agrees hstm hcm (hstcfg.trans hcv'.symm)).1.trans hccv
    refine ⟨runtimeID, ⟨cl, c, st⟩,
      getLatest_of hcl (by rw [hclv]; exact hcf) (by rw [hcv']; exact hst), le_antisymm ?_ ?_⟩
    · exact hmax st hstm (by rw [hstcv, hstcfg]; exact hsi) hstcv
    · exact hstmax s hs rfl
  · rintro ⟨runtimeID, state, hgl, rfl⟩
    obtain ⟨hsm, -, hscv, hscfg, -⟩ := hc.getLatest_status hgl
    obtain ⟨-, hcf, hst⟩ := getLatest_ok hgl
    have hident := hc.ident_of_getLatest hgl
    refine ⟨state.cluster.version,
      ⟨state.status, ⟨hsm, by rw [hscv, hscfg]; exact hident⟩, hscv, rfl⟩,
      fun s hs hsi hscv' => ?_⟩
    -- a status of the same cluster version is one of the configuration `GetLatest` reads
    obtain ⟨-, c, hcf', hcv'⟩ := hc.mem_clusterStatusIdents.1 hsi
    rw [hscv', hcf] at hcf'
    obtain rfl := Except.ok.inj hcf'
    exact (hc.latestStatus_eq_ok.1 hst).2 s hs hcv'.symm

theorem Coherent.latest_of_mem_statusIDs {statusIDs : List Int}
    (h : inv.latestStatusIDs inv.clusterStatusIdents = some statusIDs)
    {s : ClusterStatusEntity} (hs : s ∈ inv.statuses) (hid : s.id ∈ statusIDs) :
    ∃ state, inv.getLatest s.runtimeID = .ok state ∧ state.status = s := by
  obtain ⟨runtimeID, state, hgl, hsid⟩ := (hc.mem_latestStatusIDs h).1 hid
  obtain ⟨hsm, hsr, -⟩ := hc.getLatest_status hgl
  obtain rfl : state.status = s := hc.status_eq hsm hs hsid
  exact ⟨state, by rw [hsr]; exact hgl, rfl⟩

/-- **`filterClusters` refines `GetLatest`.**  On a coherent inventory the query succeeds and
returns, once for each runtime, exactly the states `GetLatest` reads whose status passes the
filters. -/
theorem Coherent.filterClusters_spec (now : Nat) (filters : List StatusSQLFilter) :
    ∃ states, inv.filterClusters now filters = .ok states ∧
      (states.map (·.cluster.runtimeID)).Nodup ∧
      ∀ state, state ∈ states ↔ ∃ runtimeID, inv.getLatest runtimeID = .ok state ∧
        statusFilterHolds now filters state.status = true := by
  unfold filterClusters
  split
  · -- no ident: then no runtime has a latest state
    rename_i hnone
    have hidents : inv.clusterStatusIdents = [] := by
      by_contra hne
      simp [latestStatusIDs, hne] at hnone
    refine ⟨[], rfl, List.nodup_nil, fun state => ⟨fun h => absurd h List.not_mem_nil, ?_⟩⟩
    rintro ⟨runtimeID, hgl, -⟩
    have hident := hc.ident_of_getLatest hgl
    rw [hidents] at hident
    exact absurd hident List.not_mem_nil
  · rename_i statusIDs hsome
    set rows := inv.statuses.filter fun s =>
      statusIDs.contains s.id && statusFilterHolds now filters s && !s.deleted with hrows
    have hmem_rows : ∀ {s}, s ∈ rows ↔ s ∈ inv.statuses ∧ s.id ∈ statusIDs ∧
        statusFilterHolds now filters s = true ∧ s.deleted = false := by
      intro s
      simp [hrows, and_assoc]
    -- each row is the status of its runtime's latest state, which `Get` reads
    have hrow : ∀ s ∈ rows, ∃ state, inv.get s.runtimeID s.configVersion = .ok state ∧
        (inv.getLatest s.runtimeID = .ok state ∧ state.status = s) := by
      intro s hs
      obtain ⟨hsm, hid, -⟩ := hmem_rows.1 hs
      obtain ⟨state, hgl, rfl⟩ := hc.latest_of_mem_statusIDs hsome hsm hid
      exact ⟨state, hc.get_of_getLatest hgl, hgl, rfl⟩
    obtain ⟨states, hmapM, hR⟩ := Sql.mapM_ok_forall₂ hrow
    refine ⟨states, hmapM, ?_, fun state => ⟨fun hst => ?_, ?_⟩⟩
    · -- the runtimes are those of the rows, and two rows of one runtime are one status
      have hmap : states.map (·.cluster.runtimeID) = rows.map (·.runtimeID) :=
        Sql.map_eq_of_forall₂ hR fun s state ⟨hgl, _⟩ =>
          (hc.latestCluster_eq_ok.1 (getLatest_ok hgl).1).1.2.1
      rw [hmap]
      refine List.Nodup.map_on ?_ ((hc.statuses_nodup.of_map _).filter _)
      intro s hs s' hs' hr
      obtain ⟨state, -, hgl, rfl⟩ := hrow s hs
      obtain ⟨state', -, hgl', rfl⟩ := hrow s' hs'
      rw [hr, hgl'] at hgl
      rw [Except.ok.inj hgl]
    · obtain ⟨s, hs, hgl, rfl⟩ := Sql.exists_of_forall₂_of_mem_right hR hst
      exact ⟨_, hgl, (hmem_rows.1 hs).2.2.1⟩
    · rintro ⟨runtimeID, hgl, hholds⟩
      obtain ⟨hsm, hsr, -, -, hsd⟩ := hc.getLatest_status hgl
      have hid := (hc.mem_latestStatusIDs hsome).2 ⟨runtimeID, state, hgl, rfl⟩
      obtain ⟨state', hst', hgl', -⟩ :=
        Sql.exists_of_forall₂_of_mem_left hR (hmem_rows.2 ⟨hsm, hid, hholds, hsd⟩)
      rw [hsr, hgl] at hgl'
      rwa [Except.ok.inj hgl']

end Coherent

/-! ## The filters of the two selections -/

theorem statusFilterHolds_statusFilter {now : Nat} {allowedStatuses : List Status}
    {s : ClusterStatusEntity} :
    statusFilterHolds now [.statusFilter allowedStatuses] s = true ↔
      s.status ∈ allowedStatuses := by
  simp [statusFilterHolds, StatusSQLFilter.holds]

/-- The filters of `ClustersToReconcile` select a pending status and, with a positive interval,
a ready or retryably failed status at least the interval's printed seconds old. -/
theorem statusFilterHolds_reconcile {now : Nat} {reconcileInterval : Duration}
    {s : ClusterStatusEntity} :
    statusFilterHolds now
        ((if 0 < reconcileInterval.nanoseconds then [.reconcileIntervalFilter reconcileInterval]
          else []) ++ [.statusFilter [.reconcilePending, .deletePending]]) s = true ↔
      s.status ∈ [Status.reconcilePending, .deletePending] ∨
        0 < reconcileInterval.nanoseconds ∧
          s.status ∈ [Status.ready, .reconcileErrorRetryable, .deleteErrorRetryable] ∧
          (s.created : Int) + reconcileInterval.roundSeconds ≤ now := by
  by_cases h : 0 < reconcileInterval.nanoseconds
  · -- the database compares the creation time with the current time less the interval
    have hold : (s.created : Int) ≤ (now : Int) - reconcileInterval.roundSeconds ↔
        (s.created : Int) + reconcileInterval.roundSeconds ≤ now := by
      omega
    simp only [statusFilterHolds, StatusSQLFilter.holds, if_pos h]
    simp [hold, h, or_comm]
  · simp [statusFilterHolds, StatusSQLFilter.holds, h]

end DefaultInventory

end Reconciler
