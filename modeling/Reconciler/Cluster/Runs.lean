import Reconciler.Cluster.Selection
import Reconciler.Cluster.Retries
import Reconciler.Scheduler.Cleaner
import Reconciler.Lib.Transition

/-!
# The inventory along the mothership's runs

Three kinds of actors change the database: the cluster status writers (`ClusterCall`), the
cleaner (`purgeEntities`), and the scheduler, the workers and the bookkeeper, which write only
the scheduler's tables.  `Database.Step` runs each writer's transaction alone, on the tables as
they are, runs the cleaner, and lets the scheduler's tables change in any way.

Every insert keeps the links of `Linked` as soon as the row above it is there, and a whole
`CreateOrUpdate` also gives each new row the rows below it; `Delete` renames and marks a
runtime's rows in all three tables alike; the status cleanup spares the newest live status of
every live configuration, and the cluster cleanup takes the rows below the clusters it
deletes.  So every database reached from the empty one is `Coherent`
(`Database.coherent_of_reachable`), and on it `ClustersToReconcile` and `ClustersNotReady`
return the states `GetLatest` reads that their filters select.
-/

namespace Reconciler

namespace DefaultInventory

/-! ## Inserts -/

/-- A key above all others keeps the keys distinct. -/
theorem nodup_map_append_of_lt {α : Type} {f : α → Int} {l : List α} {a : α}
    (h : (l.map f).Nodup) (hlt : ∀ x ∈ l, f x < f a) : ((l ++ [a]).map f).Nodup := by
  rw [List.map_append, List.nodup_append]
  refine ⟨h, List.nodup_singleton _, ?_⟩
  intro y hy z hz
  obtain ⟨x, hx, rfl⟩ := List.mem_map.1 hy
  rw [List.map_cons, List.map_nil, List.mem_singleton] at hz
  rw [hz]
  exact (hlt x hx).ne

section Inserts

variable {inv : DefaultInventory} (now : Nat)

theorem Linked.insertCluster (hl : inv.Linked) (e : ClusterEntity) :
    (inv.insertCluster e now).1.Linked where
  wellFormed := hl.wellFormed.insertCluster now e
  clusters_nodup := nodup_map_append_of_lt hl.clusters_nodup hl.wellFormed.clusters_lt
  configs_nodup := hl.configs_nodup
  statuses_nodup := hl.statuses_nodup
  status_config := hl.status_config
  config_cluster c hc := by
    obtain ⟨cl, hcl, h⟩ := hl.config_cluster c hc
    exact ⟨cl, List.mem_append_left _ hcl, h⟩

/-- A configuration inserted below a cluster version it agrees with keeps the links. -/
theorem Linked.insertConfig (hl : inv.Linked) {e : ClusterConfigurationEntity}
    (hparent : ∃ cl ∈ inv.clusters, cl.version = e.clusterVersion ∧ cl.runtimeID = e.runtimeID ∧
      cl.deleted = e.deleted) :
    (inv.insertConfig e now).1.Linked where
  wellFormed := hl.wellFormed.insertConfig now e
  clusters_nodup := hl.clusters_nodup
  configs_nodup := nodup_map_append_of_lt hl.configs_nodup hl.wellFormed.configs_lt
  statuses_nodup := hl.statuses_nodup
  status_config s hs := by
    obtain ⟨c, hc, h⟩ := hl.status_config s hs
    exact ⟨c, List.mem_append_left _ hc, h⟩
  config_cluster c hc := by
    rcases (List.mem_append.1 hc).imp_right List.mem_singleton.1 with hc | rfl
    · exact hl.config_cluster c hc
    · exact hparent

/-- A status inserted below a configuration it agrees with keeps the links. -/
theorem Linked.insertStatus (hl : inv.Linked) {e : ClusterStatusEntity}
    (hparent : ∃ c ∈ inv.configs, c.version = e.configVersion ∧
      c.clusterVersion = e.clusterVersion ∧ c.runtimeID = e.runtimeID ∧ c.deleted = e.deleted) :
    (inv.insertStatus e now).1.Linked where
  wellFormed := hl.wellFormed.insertStatus now e
  clusters_nodup := hl.clusters_nodup
  configs_nodup := hl.configs_nodup
  statuses_nodup := nodup_map_append_of_lt hl.statuses_nodup hl.wellFormed.statuses_lt
  status_config s hs := by
    rcases (List.mem_append.1 hs).imp_right List.mem_singleton.1 with hs | rfl
    · exact hl.status_config s hs
    · exact hparent
  config_cluster := hl.config_cluster

end Inserts

/-- Rows added below rows that already had theirs leave every live row with rows below it,
once each new live row has its own. -/
theorem Coherent.of_linked {inv inv' : DefaultInventory} (hc : inv.Coherent) (hl : inv'.Linked)
    (hconfigs : inv.configs ⊆ inv'.configs) (hstatuses : inv.statuses ⊆ inv'.statuses)
    (hcl : ∀ cl ∈ inv'.clusters, cl.deleted = false →
      cl ∈ inv.clusters ∨ ∃ c ∈ inv'.configs, c.clusterVersion = cl.version)
    (hcf : ∀ c ∈ inv'.configs, c.deleted = false →
      c ∈ inv.configs ∨ ∃ s ∈ inv'.statuses, s.configVersion = c.version) :
    inv'.Coherent where
  toLinked := hl
  config_status c hcm hd := by
    rcases hcf c hcm hd with hold | hnew
    · obtain ⟨s, hs, hv⟩ := hc.config_status c hold hd
      exact ⟨s, hstatuses hs, hv⟩
    · exact hnew
  cluster_config cl hclm hd := by
    rcases hcl cl hclm hd with hold | hnew
    · obtain ⟨c, hcm, hv⟩ := hc.cluster_config cl hold hd
      exact ⟨c, hconfigs hcm, hv⟩
    · exact hnew

/-! ## The creations -/

section Creations

variable {inv inv' : DefaultInventory} {contractVersion : Int} {cluster : Cluster} {now : Nat}

/-- `createCluster` reuses the latest version or inserts the requested one. -/
theorem createCluster_eq {c : ClusterEntity}
    (h : inv.createCluster contractVersion cluster now = .ok (inv', c)) :
    (inv' = inv ∧ inv.latestCluster cluster.runtimeID = .ok c) ∨
      (inv', c) = inv.insertCluster (newClusterEntity contractVersion cluster) now := by
  unfold createCluster at h
  dsimp only at h
  split at h
  · rename_i old hold
    split_ifs at h
    · cases h
      exact Or.inl ⟨rfl, hold⟩
    · exact Or.inr (Except.ok.inj h).symm
  · split_ifs at h
    exact Or.inr (Except.ok.inj h).symm

theorem createConfiguration_eq {clusterEntity : ClusterEntity} {c : ClusterConfigurationEntity}
    (h : inv.createConfiguration contractVersion cluster clusterEntity now = .ok (inv', c)) :
    (inv' = inv ∧ inv.latestConfig clusterEntity.version = .ok c) ∨
      (inv', c) = inv.insertConfig (newConfigEntity contractVersion cluster clusterEntity) now := by
  unfold createConfiguration at h
  dsimp only at h
  split at h
  · rename_i old hold
    split_ifs at h
    · cases h
      exact Or.inl ⟨rfl, hold⟩
    · exact Or.inr (Except.ok.inj h).symm
  · split_ifs at h
    exact Or.inr (Except.ok.inj h).symm

theorem createStatus_eq {configEntity : ClusterConfigurationEntity} {status : Status}
    {s : ClusterStatusEntity} (h : inv.createStatus configEntity status now = .ok (inv', s)) :
    inv' = inv ∨ (inv', s) = inv.insertStatus (newStatusEntity configEntity status) now := by
  unfold createStatus createStatusIn at h
  dsimp only at h
  split at h
  · split_ifs at h
    · cases h
      exact Or.inl rfl
    · exact Or.inr (Except.ok.inj h).symm
  · split_ifs at h
    exact Or.inr (Except.ok.inj h).symm

theorem Linked.createCluster (hl : inv.Linked) {c : ClusterEntity}
    (h : inv.createCluster contractVersion cluster now = .ok (inv', c)) :
    inv'.Linked ∧ c ∈ inv'.clusters ∧ c.deleted = false ∧
      (∀ cl ∈ inv'.clusters, cl ∈ inv.clusters ∨ cl = c) ∧
      inv'.configs = inv.configs ∧ inv'.statuses = inv.statuses := by
  rcases createCluster_eq h with ⟨rfl, hold⟩ | hins
  · obtain ⟨hcm, -, hcd⟩ := mem_of_latestCluster hold
    exact ⟨hl, hcm, hcd, fun cl hcl => Or.inl hcl, rfl, rfl⟩
  · obtain ⟨rfl, rfl⟩ := Prod.ext_iff.1 hins
    exact ⟨hl.insertCluster now _, List.mem_append_right _ (List.mem_singleton_self _), rfl,
      fun cl hcl => (List.mem_append.1 hcl).imp_right List.mem_singleton.1, rfl, rfl⟩

/-- A configuration created for a live cluster version is live, new or not. -/
theorem Linked.createConfiguration (hl : inv.Linked) {clusterEntity : ClusterEntity}
    (hcl : clusterEntity ∈ inv.clusters) (hcld : clusterEntity.deleted = false)
    {c : ClusterConfigurationEntity}
    (h : inv.createConfiguration contractVersion cluster clusterEntity now = .ok (inv', c)) :
    inv'.Linked ∧ c ∈ inv'.configs ∧ c.clusterVersion = clusterEntity.version ∧
      c.deleted = false ∧ (∀ c' ∈ inv'.configs, c' ∈ inv.configs ∨ c' = c) ∧
      inv.configs ⊆ inv'.configs ∧ inv'.clusters = inv.clusters ∧
      inv'.statuses = inv.statuses := by
  rcases createConfiguration_eq h with ⟨rfl, hold⟩ | hins
  · obtain ⟨hcm, hcv⟩ := mem_of_latestConfig hold
    exact ⟨hl, hcm, hcv, (hl.config_agrees hcm hcl hcv).2.trans hcld, fun c' hc' => Or.inl hc',
      fun _ h => h, rfl, rfl⟩
  · obtain ⟨rfl, rfl⟩ := Prod.ext_iff.1 hins
    exact ⟨hl.insertConfig now ⟨clusterEntity, hcl, rfl, rfl, hcld⟩,
      List.mem_append_right _ (List.mem_singleton_self _), rfl, rfl,
      fun c' hc' => (List.mem_append.1 hc').imp_right List.mem_singleton.1,
      fun _ h => List.mem_append_left _ h, rfl, rfl⟩

theorem Linked.createStatus (hl : inv.Linked) {configEntity : ClusterConfigurationEntity}
    (hcm : configEntity ∈ inv.configs) (hcd : configEntity.deleted = false) {status : Status}
    {s : ClusterStatusEntity} (h : inv.createStatus configEntity status now = .ok (inv', s)) :
    inv'.Linked ∧ inv.statuses ⊆ inv'.statuses ∧ inv'.clusters = inv.clusters ∧
      inv'.configs = inv.configs := by
  rcases createStatus_eq h with rfl | hins
  · exact ⟨hl, fun _ h => h, rfl, rfl⟩
  · obtain ⟨rfl, rfl⟩ := Prod.ext_iff.1 hins
    exact ⟨hl.insertStatus now ⟨configEntity, hcm, rfl, rfl, rfl, hcd⟩,
      fun _ h => List.mem_append_left _ h, rfl, rfl⟩

/-- A status of a live configuration keeps the inventory coherent. -/
theorem Coherent.createStatus (hc : inv.Coherent) {configEntity : ClusterConfigurationEntity}
    (hcm : configEntity ∈ inv.configs) (hcd : configEntity.deleted = false) {status : Status}
    {s : ClusterStatusEntity} (h : inv.createStatus configEntity status now = .ok (inv', s)) :
    inv'.Coherent := by
  obtain ⟨hl, hsub, hcl, hcf⟩ := hc.toLinked.createStatus hcm hcd h
  refine hc.of_linked hl (by rw [hcf]; exact List.Subset.refl _) hsub ?_ ?_
  · intro cl hclm _
    exact Or.inl (hcl ▸ hclm)
  · intro c hcm' _
    exact Or.inl (hcf ▸ hcm')

theorem Coherent.updateStatus (hc : inv.Coherent) {state state' : ClusterState}
    (hcm : state.configuration ∈ inv.configs) (hcd : state.configuration.deleted = false)
    {status : Status} (h : inv.updateStatus state status now = .ok (inv', state')) :
    inv'.Coherent := by
  obtain ⟨⟨inv'', s⟩, hs, h⟩ := bind_eq_ok h
  cases h
  exact hc.createStatus hcm hcd hs

/-- **`CreateOrUpdate` keeps the inventory coherent**, and the configuration of the state it
returns is in the inventory and live. -/
theorem Coherent.createOrUpdate (hc : inv.Coherent) {state : ClusterState}
    (h : inv.createOrUpdate contractVersion cluster now = .ok (inv', state)) :
    inv'.Coherent ∧ state.configuration ∈ inv'.configs ∧ state.configuration.deleted = false := by
  unfold DefaultInventory.createOrUpdate at h
  split_ifs at h
  obtain ⟨⟨inv₁, clusterEntity⟩, h₁, h⟩ := bind_eq_ok h
  obtain ⟨⟨inv₂, configEntity⟩, h₂, h⟩ := bind_eq_ok h
  obtain ⟨⟨inv₃, statusEntity⟩, h₃, h⟩ := bind_eq_ok h
  cases h
  obtain ⟨hl₁, hclm, hcld, hcl₁, hcf₁, hst₁⟩ := hc.toLinked.createCluster h₁
  obtain ⟨hl₂, hcfm, hcfv, hcfd, hcf₂, hsub₂, hcl₂, hst₂⟩ := hl₁.createConfiguration hclm hcld h₂
  obtain ⟨hl₃, hsub₃, hcl₃, hcf₃⟩ := hl₂.createStatus hcfm hcfd h₃
  obtain ⟨hstm, hstv⟩ := mem_of_latestStatus (createStatus_spec hl₂.wellFormed h₃).2.1
  refine ⟨hc.of_linked hl₃ ?_ ?_ ?_ ?_, hcf₃ ▸ hcfm, hcfd⟩
  · rw [hcf₃, ← hcf₁]
    exact hsub₂
  · rw [← hst₁, ← hst₂]
    exact hsub₃
  · -- a new cluster version has the configuration created for it
    intro cl hcl hd
    rw [hcl₃, hcl₂] at hcl
    rcases hcl₁ cl hcl with hold | rfl
    · exact Or.inl hold
    · exact Or.inr ⟨configEntity, hcf₃ ▸ hcfm, hcfv⟩
  · -- and a new configuration the status created for it
    intro c hcm _
    rw [hcf₃] at hcm
    rcases hcf₂ c hcm with hold | rfl
    · exact Or.inl (hcf₁ ▸ hold)
    · exact Or.inr ⟨statusEntity, hstm, hstv⟩

end Creations

/-! ## What the writers read -/

section Reads

variable {inv : DefaultInventory} {runtimeID : String} {state : ClusterState}

/-- `cluster` finds a live row. -/
theorem deleted_of_cluster {clusterVersion : Int} {cl : ClusterEntity}
    (h : inv.cluster clusterVersion = .ok cl) : cl.deleted = false := by
  unfold cluster at h
  split at h
  · rename_i cl' hcl
    cases h
    have hmem := List.mem_filter.1 (List.mem_of_mem_head? hcl)
    simp only [decide_eq_true_eq] at hmem
    exact hmem.2.2
  · cases h

/-- `Get` reads a configuration of the inventory whose cluster version is live, so it is live
too. -/
theorem Linked.get_config (hl : inv.Linked) {configVersion : Int}
    (h : inv.get runtimeID configVersion = .ok state) :
    state.configuration ∈ inv.configs ∧ state.configuration.deleted = false := by
  obtain ⟨c, hcf, h⟩ := bind_eq_ok h
  obtain ⟨s, -, h⟩ := bind_eq_ok h
  obtain ⟨cl, hcl, h⟩ := bind_eq_ok h
  cases h
  obtain ⟨hcm, -⟩ := mem_of_config hcf
  obtain ⟨hclm, hclv⟩ := mem_of_cluster hcl
  exact ⟨hcm, (hl.config_agrees hcm hclm hclv.symm).2.trans (deleted_of_cluster hcl)⟩

theorem Linked.getLatest_config (hl : inv.Linked) (h : inv.getLatest runtimeID = .ok state) :
    state.configuration ∈ inv.configs ∧ state.configuration.deleted = false := by
  obtain ⟨hcl, hcf, -⟩ := getLatest_ok h
  exact ⟨(mem_of_latestConfig hcf).1, hl.latestConfig_live hcl hcf⟩

end Reads

/-! ## Deletes -/

section Deletes

variable {inv : DefaultInventory}

/-- **`Delete` keeps the inventory coherent**: it renames and marks the rows of a runtime in
the three tables alike, and the rows it leaves live keep theirs. -/
theorem Coherent.delete (hc : inv.Coherent) (runtimeID : String) (now : Nat) :
    (inv.delete runtimeID now).Coherent where
  wellFormed := by
    refine ⟨?_, ?_, ?_⟩ <;> simp only [DefaultInventory.delete, List.mem_map] <;>
      rintro _ ⟨x, hx, rfl⟩ <;> split
    all_goals first
      | exact hc.wellFormed.clusters_lt x hx
      | exact hc.wellFormed.configs_lt x hx
      | exact hc.wellFormed.statuses_lt x hx
  clusters_nodup := by
    simpa [DefaultInventory.delete, Function.comp_def, apply_ite] using hc.clusters_nodup
  configs_nodup := by
    simpa [DefaultInventory.delete, Function.comp_def, apply_ite] using hc.configs_nodup
  statuses_nodup := by
    simpa [DefaultInventory.delete, Function.comp_def, apply_ite] using hc.statuses_nodup
  status_config s' hs' := by
    simp only [DefaultInventory.delete, List.mem_map] at hs' ⊢
    obtain ⟨s, hs, rfl⟩ := hs'
    obtain ⟨c, hcm, hv, hcv, hr, hd⟩ := hc.status_config s hs
    refine ⟨_, ⟨c, hcm, rfl⟩, ?_⟩
    -- a status and its configuration have one runtime: both are renamed, or neither
    split_ifs <;> simp_all
  config_cluster c' hc' := by
    simp only [DefaultInventory.delete, List.mem_map] at hc' ⊢
    obtain ⟨c, hcm, rfl⟩ := hc'
    obtain ⟨cl, hcl, hv, hr, hd⟩ := hc.config_cluster c hcm
    refine ⟨_, ⟨cl, hcl, rfl⟩, ?_⟩
    split_ifs <;> simp_all
  config_status c' hc' hd' := by
    simp only [DefaultInventory.delete, List.mem_map] at hc' ⊢
    obtain ⟨c, hcm, rfl⟩ := hc'
    -- a configuration left live was not renamed
    split_ifs at hd' with hhit
    obtain ⟨s, hs, hv⟩ := hc.config_status c hcm hd'
    exact ⟨_, ⟨s, hs, rfl⟩, by split_ifs <;> exact hv⟩
  cluster_config cl' hcl' hd' := by
    simp only [DefaultInventory.delete, List.mem_map] at hcl' ⊢
    obtain ⟨cl, hcl, rfl⟩ := hcl'
    split_ifs at hd' with hhit
    obtain ⟨c, hcm, hv⟩ := hc.cluster_config cl hcl hd'
    exact ⟨_, ⟨c, hcm, rfl⟩, by split_ifs <;> exact hv⟩

/-- A delete of statuses that spares a status of every live configuration keeps the inventory
coherent. -/
theorem Coherent.filter_statuses (hc : inv.Coherent) (p : ClusterStatusEntity → Bool)
    (hspare : ∀ c ∈ inv.configs, c.deleted = false →
      ∃ s ∈ inv.statuses, s.configVersion = c.version ∧ p s = true) :
    ({ inv with statuses := inv.statuses.filter p } : DefaultInventory).Coherent where
  wellFormed := ⟨hc.wellFormed.clusters_lt, hc.wellFormed.configs_lt,
    fun s hs => hc.wellFormed.statuses_lt s (List.mem_filter.1 hs).1⟩
  clusters_nodup := hc.clusters_nodup
  configs_nodup := hc.configs_nodup
  statuses_nodup := nodup_map_filter hc.statuses_nodup p
  status_config s hs := hc.status_config s (List.mem_filter.1 hs).1
  config_cluster := hc.config_cluster
  config_status c hcm hd := by
    obtain ⟨s, hs, hv, hp⟩ := hspare c hcm hd
    exact ⟨s, List.mem_filter.2 ⟨hs, hp⟩, hv⟩
  cluster_config := hc.cluster_config

end Deletes

end DefaultInventory

namespace Database

open DefaultInventory

variable {db db' : Database}

/-- **The cluster cleanup keeps the inventory coherent**, whichever cluster versions it
deletes: it takes the configurations of those and the statuses of the configurations. -/
theorem coherent_deleteClusters (hc : db.inventory.Coherent) (p : ClusterEntity → Bool) :
    (db.deleteClusters p).inventory.Coherent := by
  simp only [deleteClusters, cascadeReconciliations]
  exact {
    wellFormed := ⟨fun cl hcl => hc.wellFormed.clusters_lt cl (List.mem_filter.1 hcl).1,
      fun c hcm => hc.wellFormed.configs_lt c (List.mem_filter.1 hcm).1,
      fun s hs => hc.wellFormed.statuses_lt s (List.mem_filter.1 hs).1⟩
    clusters_nodup := nodup_map_filter hc.clusters_nodup _
    configs_nodup := nodup_map_filter hc.configs_nodup _
    statuses_nodup := nodup_map_filter hc.statuses_nodup _
    status_config := by
      intro s hs
      simp only [List.mem_filter, List.any_eq_true, Bool.and_eq_true, decide_eq_true_eq] at hs ⊢
      obtain ⟨hs, c', ⟨hc'm, hkept⟩, ⟨hr, hcv⟩, hv⟩ := hs
      obtain ⟨c, hcm, hv', -, -, hd⟩ := hc.status_config s hs
      -- the configuration the cleanup kept for the status is its own
      obtain rfl : c' = c := hc.config_eq hc'm hcm (hv.trans hv'.symm)
      exact ⟨c', ⟨hc'm, hkept⟩, hv, hcv, hr, hd⟩
    config_cluster := by
      intro c hcm
      simp only [List.mem_filter, List.any_eq_true, Bool.and_eq_true, decide_eq_true_eq] at hcm ⊢
      obtain ⟨hcm, cl', ⟨hcl'm, hkept⟩, hr, hv⟩ := hcm
      obtain ⟨cl, hclm, hv', -, hd⟩ := hc.config_cluster c hcm
      obtain rfl : cl' = cl := hc.cluster_eq hcl'm hclm (hv.trans hv'.symm)
      exact ⟨cl', ⟨hcl'm, hkept⟩, hv, hr, hd⟩
    config_status := by
      intro c hcm hd
      simp only [List.mem_filter, List.any_eq_true, Bool.and_eq_true, decide_eq_true_eq] at hcm ⊢
      obtain ⟨s, hs, hv, hcv, hr, -⟩ := hc.status_of_config hcm.1 hd
      -- the status of a kept configuration is kept with it
      exact ⟨s, ⟨hs, c, hcm, ⟨hr.symm, hcv.symm⟩, hv.symm⟩, hv⟩
    cluster_config := by
      intro cl hcl hd
      simp only [List.mem_filter, List.any_eq_true, Bool.and_eq_true, decide_eq_true_eq] at hcl ⊢
      obtain ⟨c, hcm, hv⟩ := hc.cluster_config cl hcl.1 hd
      have hr := (hc.config_agrees hcm hcl.1 hv).1
      exact ⟨c, ⟨hcm, cl, hcl, hr.symm, hv.symm⟩, hv⟩ }

/-! ## The status cleanup -/

/-- Each block the status cleanup deletes takes the statuses of its IDs, and nothing else of the
inventory. -/
theorem foldl_deleteStatuses_inventory (blocks : List (List Int)) (db : Database) :
    (blocks.foldl (fun db block => db.deleteStatuses fun s => block.contains s.id) db).inventory =
      { db.inventory with
        statuses := db.inventory.statuses.filter fun s => !blocks.flatten.contains s.id } := by
  induction blocks generalizing db with
  | nil => simp
  | cons block rest ih =>
    rw [List.foldl_cons, ih]
    simp [deleteStatuses, cascadeReconciliations, List.filter_filter, List.flatten_cons,
      Bool.and_comm]

theorem removeStatusesWithoutReconciliations_inventory {statusCleanupBatchSize : Nat}
    (h : db.removeStatusesWithoutReconciliations statusCleanupBatchSize = some db') :
    db'.inventory = { db.inventory with
      statuses := db.inventory.statuses.filter fun s =>
        !((statusCleanup db).map (·.id)).contains s.id } := by
  unfold removeStatusesWithoutReconciliations at h
  cases hblocks : db.getStatusIDsBlocksToDelete statusCleanupBatchSize with
  | none => simp [hblocks] at h
  | some blocks =>
    simp only [hblocks, Option.bind_eq_bind, Option.bind_some, Option.some.injEq] at h
    subst h
    rw [foldl_deleteStatuses_inventory, flatten_of_splitSliceByBlockSize hblocks]

/-- Every live configuration has an active status of `v_inventory_status_cleanup`: the newest
of its live statuses. -/
theorem exists_active_status {inv : DefaultInventory} (hc : inv.Coherent)
    {c : ClusterConfigurationEntity} (hcm : c ∈ inv.configs) (hcd : c.deleted = false) :
    ∃ s ∈ inv.statuses, s.configVersion = c.version ∧ s.id ∈ activeStatusIDs inv := by
  obtain ⟨s, hs, hv, -, -, hsd⟩ := hc.status_of_config hcm hcd
  -- `t_active_status` joins the live statuses with their live configurations
  let joined := inv.statuses.filter fun s =>
    !s.deleted && inv.configs.any fun c => c.version = s.configVersion && !c.deleted
  have hjoin : s ∈ joined := by
    simp only [joined, List.mem_filter, Bool.and_eq_true, Bool.not_eq_true', List.any_eq_true,
      decide_eq_true_eq]
    exact ⟨hs, hsd, c, hcm, hv.symm, hcd⟩
  obtain ⟨m, hm⟩ : ∃ m,
      ((joined.filter fun s' => s'.configVersion = c.version).map (·.id)).max? = some m := by
    apply Option.ne_none_iff_exists'.1
    rw [Ne, List.max?_eq_none_iff]
    exact List.ne_nil_of_mem (List.mem_map.2 ⟨s, List.mem_filter.2 ⟨hjoin, by simpa using hv⟩, rfl⟩)
  obtain ⟨s', hs', rfl⟩ := List.mem_map.1 (List.max?_mem hm)
  obtain ⟨hs'j, hs'v⟩ := List.mem_filter.1 hs'
  refine ⟨s', (List.mem_filter.1 hs'j).1, by simpa using hs'v, ?_⟩
  exact List.mem_filterMap.2 ⟨c.version, List.mem_dedup.2 (List.mem_map.2 ⟨s, hjoin, hv⟩), hm⟩

/-- **The status cleanup keeps the inventory coherent**: the view it deletes leaves out the
active status of every live configuration. -/
theorem coherent_removeStatusesWithoutReconciliations (hc : db.inventory.Coherent)
    {statusCleanupBatchSize : Nat}
    (h : db.removeStatusesWithoutReconciliations statusCleanupBatchSize = some db') :
    db'.inventory.Coherent := by
  rw [removeStatusesWithoutReconciliations_inventory h]
  refine hc.filter_statuses _ fun c hcm hcd => ?_
  obtain ⟨s, hs, hv, hact⟩ := exists_active_status hc hcm hcd
  have hnot : s.id ∉ (statusCleanup db).map (·.id) := by
    intro hmem
    obtain ⟨s', hs', hid⟩ := List.mem_map.1 hmem
    have hview := (List.mem_filter.1 hs').2
    simp [hid, hact] at hview
  exact ⟨s, hs, hv, by simpa using hnot⟩

theorem coherent_clusterEntityCleanup (hc : db.inventory.Coherent) {config : CleanerConfig}
    {now : Nat} (h : Cleaner.clusterEntityCleanup config now db = some db') :
    db'.inventory.Coherent := by
  unfold Cleaner.clusterEntityCleanup at h
  split_ifs at h
  · obtain ⟨db₁, h₁, h⟩ := Option.bind_eq_some_iff.1 h
    cases h
    exact coherent_deleteClusters (coherent_removeStatusesWithoutReconciliations hc h₁) _
  · cases h
    exact hc

/-- **The cleaner keeps the inventory coherent**; its purge of reconciliations leaves the
inventory alone. -/
theorem coherent_purgeEntities (hc : db.inventory.Coherent) {config : CleanerConfig} {now : Nat}
    (h : Cleaner.purgeEntities config now db = some db') : db'.inventory.Coherent := by
  unfold Cleaner.purgeEntities at h
  refine coherent_clusterEntityCleanup ?_ h
  exact hc

/-! ## The cluster status writers -/

/-- The inventory `FinishReconciliation` leaves: the tables it meets, with the status it
creates for the configuration it read, if it creates one, and then `Delete` when the status is
`Deleted`. -/
theorem finishReconciliationWrites_inventory {snap : Database} {clusterState : ClusterState}
    {schedulingID : String} {status : Status} {now : Nat}
    (h : ClusterCall.finishReconciliationWrites snap clusterState schedulingID status now db =
      .ok db') :
    ∃ inv₁, (inv₁ = db.inventory ∨ ∃ statusEntity, DefaultInventory.createStatusIn snap.inventory
        db.inventory clusterState.configuration status now = .ok (inv₁, statusEntity)) ∧
      db'.inventory =
        if status = .deleted then inv₁.delete clusterState.cluster.runtimeID now else inv₁ := by
  unfold ClusterCall.finishReconciliationWrites at h
  dsimp only at h
  split at h
  · obtain ⟨⟨inv₁, statusEntity⟩, h₁, h⟩ := bind_eq_ok h
    obtain ⟨repository, -, h⟩ := bind_eq_ok h
    cases h
    exact ⟨inv₁, Or.inr ⟨statusEntity, ok_of_mapError_ok h₁⟩, rfl⟩
  · obtain ⟨⟨inv₁, statusEntity⟩, h₁, h⟩ := bind_eq_ok h
    cases h₁
    obtain ⟨repository, -, h⟩ := bind_eq_ok h
    cases h
    exact ⟨_, Or.inl rfl, rfl⟩

/-- **Each call of a cluster status writer keeps the inventory coherent**, its transaction
running on the tables as they are. -/
theorem coherent_call (hc : db.inventory.Coherent) (call : ClusterCall)
    {writes : Database → Except TransitionError Database} (htxn : call.txn db = .ok writes)
    (hwrites : writes db = .ok db') : db'.inventory.Coherent := by
  cases call with
  | finishReconciliation schedulingID status now =>
    obtain ⟨recon, -, htxn⟩ := bind_eq_ok htxn
    dsimp only at htxn
    split at htxn
    · cases htxn
    obtain ⟨clusterState, hget, htxn⟩ := bind_eq_ok htxn
    cases htxn
    obtain ⟨hcm, hcd⟩ := hc.get_config (ok_of_mapError_ok hget)
    obtain ⟨inv₁, h₁, hinv⟩ := finishReconciliationWrites_inventory hwrites
    have hc₁ : inv₁.Coherent := by
      rcases h₁ with rfl | ⟨statusEntity, h₁⟩
      · exact hc
      · exact hc.createStatus hcm hcd h₁
    rw [hinv]
    split_ifs
    · exact hc₁.delete _ _
    · exact hc₁
  | deleteCluster runtimeID now =>
    cases htxn
    obtain ⟨⟨inv₁, _⟩, h₁, hwrites⟩ := bind_eq_ok hwrites
    cases hwrites
    obtain ⟨state, hgl, h₁⟩ := bind_eq_ok (ok_of_mapError_ok h₁)
    obtain ⟨hcm, hcd⟩ := hc.getLatest_config hgl
    exact hc.updateStatus hcm hcd h₁
  | updateLatestCluster runtimeID status now =>
    cases htxn
    obtain ⟨state, hgl, hwrites⟩ := bind_eq_ok hwrites
    obtain ⟨⟨inv₁, _⟩, h₁, hwrites⟩ := bind_eq_ok hwrites
    cases hwrites
    obtain ⟨hcm, hcd⟩ := hc.getLatest_config (ok_of_mapError_ok hgl)
    exact hc.updateStatus hcm hcd (ok_of_mapError_ok h₁)
  | createOrUpdateCluster contractVersion cluster now =>
    -- whichever previous state the transaction read, it writes with `CreateOrUpdate`
    obtain ⟨clusterStateOld, rfl⟩ : ∃ clusterStateOld, writes =
        ClusterCall.createOrUpdateClusterWrites clusterStateOld contractVersion cluster now := by
      simp only [ClusterCall.txn] at htxn
      split at htxn <;> cases htxn
      all_goals exact ⟨_, rfl⟩
    obtain ⟨⟨inv₁, state⟩, h₁, hwrites⟩ := bind_eq_ok hwrites
    obtain ⟨hc₁, hcm, hcd⟩ := hc.createOrUpdate (ok_of_mapError_ok h₁)
    -- a cluster that was disabled is disabled again
    dsimp only at hwrites
    split_ifs at hwrites
    · obtain ⟨⟨inv₂, _⟩, h₂, hwrites⟩ := bind_eq_ok hwrites
      cases hwrites
      exact hc₁.updateStatus hcm hcd (ok_of_mapError_ok h₂)
    · cases hwrites
      exact hc₁

/-! ## Runs -/

/-- The empty database. -/
def empty : Database where
  inventory := {}
  repository := .empty

/-- One step of the actors that write the database, each transaction alone. -/
inductive Step : Database → Database → Prop
  /-- A call of a cluster status writer, its transaction running on the tables as they are. -/
  | call {db db' : Database} (call : ClusterCall)
      {writes : Database → Except TransitionError Database}
      (htxn : call.txn db = .ok writes) (hwrites : writes db = .ok db') : Step db db'
  /-- A run of the cleaner that does not panic. -/
  | purge {db db' : Database} (config : CleanerConfig) (now : Nat)
      (hpurge : Cleaner.purgeEntities config now db = some db') : Step db db'
  /-- Any write of the scheduler, the workers or the bookkeeper to the scheduler's tables. -/
  | schedule (db : Database) (repository : PersistentReconciliationRepository) :
      Step db { db with repository := repository }

theorem coherent_empty : empty.inventory.Coherent where
  wellFormed := wellFormed_empty
  clusters_nodup := List.nodup_nil
  configs_nodup := List.nodup_nil
  statuses_nodup := List.nodup_nil
  status_config _ h := nomatch h
  config_cluster _ h := nomatch h
  config_status _ h := nomatch h
  cluster_config _ h := nomatch h

theorem coherent_step : Transition.Invariant Step fun db => db.inventory.Coherent := by
  intro db db' hc hstep
  cases hstep with
  | call call htxn hwrites => exact coherent_call hc call htxn hwrites
  | purge config now hpurge => exact coherent_purgeEntities hc hpurge
  | schedule => exact hc

/-- **Every database the actors reach from the empty one is coherent.** -/
theorem coherent_of_reachable (h : Transition.Reachable Step empty db) : db.inventory.Coherent :=
  coherent_step.reachable coherent_empty h

/-- The database once the mothership has registered `oneComponentCluster`. -/
def registeredDatabase : Database where
  inventory :=
    { clusters :=
        [{ version := 1, runtimeID := "runtime", kubeconfig := "kubeconfig-1", contract := 1 }],
      configs :=
        [{ version := 1, runtimeID := "runtime", clusterVersion := 1,
           components := [{ component := "istio" }], contract := 1 }],
      statuses :=
        [{ id := 1, runtimeID := "runtime", clusterVersion := 1, configVersion := 1,
           status := .reconcilePending }],
      clusterVersionSeq := 2, configVersionSeq := 2, statusIDSeq := 2 }
  repository := .empty

theorem registeredDatabase_reachable : Transition.Reachable Step empty registeredDatabase :=
  Relation.ReflTransGen.single
    (Step.call (.createOrUpdateCluster 1 oneComponentCluster 0) rfl rfl)

theorem coherent_registeredDatabase :
    Transition.Reachable Step empty registeredDatabase ∧ registeredDatabase.inventory.Coherent :=
  ⟨registeredDatabase_reachable, coherent_of_reachable registeredDatabase_reachable⟩

/-! ## The two selections on every reachable database -/

/-- **`ClustersToReconcile` on every reachable database**: it succeeds, and returns once per
runtime exactly the states `GetLatest` reads whose status is pending or, with a positive
interval, ready or retryably failed at least as long ago as the seconds `%.0f` prints of the
interval. -/
theorem clustersToReconcile_of_reachable (h : Transition.Reachable Step empty db)
    (now : Nat) (reconcileInterval : GoTime.Duration) :
    ∃ states, db.inventory.clustersToReconcile now reconcileInterval = .ok states ∧
      (states.map (·.cluster.runtimeID)).Nodup ∧
      ∀ state, state ∈ states ↔ ∃ runtimeID, db.inventory.getLatest runtimeID = .ok state ∧
        (state.status.status ∈ [Status.reconcilePending, .deletePending] ∨
          0 < reconcileInterval.nanoseconds ∧
            state.status.status ∈ [Status.ready, .reconcileErrorRetryable, .deleteErrorRetryable] ∧
            (state.status.created : Int) + reconcileInterval.roundSeconds ≤ now) := by
  obtain ⟨states, hok, hnodup, hmem⟩ :=
    (coherent_step.reachable coherent_empty h).filterClusters_spec now _
  refine ⟨states, hok, hnodup, fun state => (hmem state).trans ?_⟩
  exact exists_congr fun _ => and_congr_right fun _ => statusFilterHolds_reconcile

theorem clustersToReconcile_registeredDatabase :
    Transition.Reachable Step empty registeredDatabase ∧
      ∃ states, registeredDatabase.inventory.clustersToReconcile 100 (.ofSeconds 60) = .ok states ∧
        (states.map (·.cluster.runtimeID)).Nodup ∧
        ∀ state, state ∈ states ↔
          ∃ runtimeID, registeredDatabase.inventory.getLatest runtimeID = .ok state ∧
            (state.status.status ∈ [Status.reconcilePending, .deletePending] ∨
              0 < (GoTime.Duration.ofSeconds 60).nanoseconds ∧
                state.status.status ∈
                  [Status.ready, .reconcileErrorRetryable, .deleteErrorRetryable] ∧
                (state.status.created : Int) + (GoTime.Duration.ofSeconds 60).roundSeconds ≤
                  100) :=
  ⟨registeredDatabase_reachable,
    clustersToReconcile_of_reachable registeredDatabase_reachable 100 (.ofSeconds 60)⟩

/-- **`ClustersNotReady` on every reachable database**: it succeeds, and returns once per
runtime exactly the states `GetLatest` reads whose status is an error or a deletion in
progress. -/
theorem clustersNotReady_of_reachable (h : Transition.Reachable Step empty db) (now : Nat) :
    ∃ states, db.inventory.clustersNotReady now = .ok states ∧
      (states.map (·.cluster.runtimeID)).Nodup ∧
      ∀ state, state ∈ states ↔ ∃ runtimeID, db.inventory.getLatest runtimeID = .ok state ∧
        state.status.status ∈ [Status.reconcileError, .reconcileErrorRetryable, .deleting,
          .deleteError, .deleteErrorRetryable] := by
  obtain ⟨states, hok, hnodup, hmem⟩ :=
    (coherent_step.reachable coherent_empty h).filterClusters_spec now _
  refine ⟨states, hok, hnodup, fun state => (hmem state).trans ?_⟩
  exact exists_congr fun _ => and_congr_right fun _ => statusFilterHolds_statusFilter

theorem clustersNotReady_registeredDatabase :
    Transition.Reachable Step empty registeredDatabase ∧
      ∃ states, registeredDatabase.inventory.clustersNotReady 0 = .ok states ∧
        (states.map (·.cluster.runtimeID)).Nodup ∧
        ∀ state, state ∈ states ↔
          ∃ runtimeID, registeredDatabase.inventory.getLatest runtimeID = .ok state ∧
            state.status.status ∈ [Status.reconcileError, .reconcileErrorRetryable, .deleting,
              .deleteError, .deleteErrorRetryable] :=
  ⟨registeredDatabase_reachable, clustersNotReady_of_reachable registeredDatabase_reachable 0⟩

end Database

end Reconciler
