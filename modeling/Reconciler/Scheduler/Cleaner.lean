import Reconciler.Cluster.Transition
import Mathlib.Data.List.Sort
import Mathlib.Data.List.Dedup

/-!
# The cleaner

`cleaner.purgeEntities` (`pkg/scheduler/service/cleaner.go`) deletes the reconciliations that
the retention rules of issue 668 no longer keep, then the statuses that no reconciliation
refers to and the deleted clusters older than the inventory age.  Every delete cascades
through the foreign keys of `configs/db/postgres`: a cluster takes its configurations, a
configuration its statuses, a status the reconciliations that refer to it (`000017`) and a
reconciliation its operations.

Times are UTC seconds since the epoch, read once for the whole run.  The database reports
no errors and no other writer runs.
-/

namespace Reconciler

/-! ## Time and configuration -/

/-- Seconds of a UTC day. -/
def secondsPerDay : Nat := 86400

/-- `beginningOfTheDay`: a UTC time truncated to the start of its day. -/
def beginningOfTheDay (t : Nat) : Nat :=
  t - t % secondsPerDay

/-- `t.AddDate(0, 0, -days)` of a UTC time. -/
def daysBefore (t days : Nat) : Nat :=
  t - days * secondsPerDay

/-- `CleanerConfig`, with durations in seconds.  `CleanerInterval` only paces the loop. -/
structure CleanerConfig where
  purgeEntitiesOlderThan : Nat
  retainReconciliationsCount : Nat
  maxReconciliationsAgeDays : Nat
  maxInventoryAgeDays : Nat
  statusCleanupBatchSize : Nat
  deriving DecidableEq, Repr

/-- `repository.SplitSliceByBlockSize`: the blocks `slice[low:high]` for `low = 0, blockSize,
2 * blockSize, …` below the length.  It is `none` where `(sliceLength-1)/blockSize` divides
by zero, which panics. -/
def splitSliceByBlockSize {α : Type*} (slice : List α) (blockSize : Nat) :
    Option (List (List α)) :=
  if slice.isEmpty then some []
  else if blockSize = 0 then none
  else some ((List.range ((slice.length - 1) / blockSize + 1)).map fun k =>
    (slice.drop (k * blockSize)).take blockSize)

/-! ## The reconciliation passes -/

namespace PersistentReconciliationRepository

/-- The rows in the order of `ORDER BY created DESC`.  Postgres leaves the order of rows
created at the same time open; the model assumes that they come in table order, the order
in which they were inserted. -/
def orderByCreatedDesc (recons : List ReconciliationEntity) : List ReconciliationEntity :=
  recons.insertionSort fun a b => b.created ≤ a.created

/-- The reconciliations of one runtime, in table order. -/
def ofRuntime (r : PersistentReconciliationRepository) (runtimeID : String) :
    List ReconciliationEntity :=
  r.reconciliations.filter fun recon => recon.runtimeID = runtimeID

/-- `GetReconciliations(&WithRuntimeID{RuntimeID: runtimeID})`, with the `ORDER BY created
DESC` that it adds. -/
def getReconciliationsOfRuntime (r : PersistentReconciliationRepository) (runtimeID : String) :
    List ReconciliationEntity :=
  orderByCreatedDesc (r.ofRuntime runtimeID)

/-- `GetRuntimeIDs`: `SELECT runtime_id … GROUP BY runtime_id`. -/
def getRuntimeIDs (r : PersistentReconciliationRepository) : List String :=
  (r.reconciliations.map (·.runtimeID)).dedup

end PersistentReconciliationRepository

namespace Cleaner

open PersistentReconciliationRepository

/-- `getMostRecentReconciliation`: `WithRuntimeID` and `Limit{Count: 1}`, whose query orders
by `created DESC`. -/
def getMostRecentReconciliation (runtimeID : String) (repo : PersistentReconciliationRepository) :
    Option ReconciliationEntity :=
  (repo.getReconciliationsOfRuntime runtimeID).head?

/-- `deleteRecordsByAge`. -/
def deleteRecordsByAge (runtimeID : String) (numberOfDays now : Nat)
    (repo : PersistentReconciliationRepository) : PersistentReconciliationRepository :=
  let deadline := daysBefore (beginningOfTheDay now) numberOfDays
  match getMostRecentReconciliation runtimeID repo with
  | none => repo
  | some mostRecentReconciliation =>
    repo.removeReconciliationsBeforeDeadline runtimeID mostRecentReconciliation.schedulingID deadline

/-- `deleteRecordsByCountAndStatus`.  An empty status is not final stable. -/
def deleteRecordsByCountAndStatus (runtimeID : String) (config : CleanerConfig)
    (repo : PersistentReconciliationRepository) : PersistentReconciliationRepository :=
  let mostRecentEntitiesToKeep := config.retainReconciliationsCount
  if mostRecentEntitiesToKeep = 0 then repo
  else
    let reconciliations := repo.getReconciliationsOfRuntime runtimeID
    if reconciliations.length ≤ mostRecentEntitiesToKeep then repo
    else
      let schedulingIDsToDrop :=
        ((reconciliations.drop mostRecentEntitiesToKeep).filter fun obsoleteReconciliation =>
          obsoleteReconciliation.status.any Status.isFinalStable).map (·.schedulingID)
      if 0 < schedulingIDsToDrop.length then
        repo.removeReconciliationsBySchedulingID schedulingIDsToDrop
      else repo

/-- `purgeReconciliationsForCluster`. -/
def purgeReconciliationsForCluster (runtimeID : String) (config : CleanerConfig) (now : Nat)
    (repo : PersistentReconciliationRepository) : PersistentReconciliationRepository :=
  deleteRecordsByCountAndStatus runtimeID config
    (deleteRecordsByAge runtimeID config.maxReconciliationsAgeDays now repo)

/-- `purgeReconciliationsNew`: the passes of the runtime IDs, one after another. -/
def purgeReconciliationsNew (config : CleanerConfig) (now : Nat)
    (repo : PersistentReconciliationRepository) : PersistentReconciliationRepository :=
  repo.getRuntimeIDs.foldl (fun repo runtimeID => purgeReconciliationsForCluster runtimeID config now repo)
    repo

/-- `purgeReconciliationsOld`. -/
def purgeReconciliationsOld (config : CleanerConfig) (now : Nat)
    (repo : PersistentReconciliationRepository) : PersistentReconciliationRepository :=
  let deadline := now - config.purgeEntitiesOlderThan
  let reconciliations :=
    orderByCreatedDesc (repo.reconciliations.filter fun recon => recon.created < deadline)
  reconciliations.foldl (fun repo recon => repo.removeReconciliationBySchedulingID recon.schedulingID)
    repo

end Cleaner

/-! ## The inventory cleanup -/

namespace Database

/-- `ON DELETE CASCADE` from the statuses to the reconciliations that refer to them, and on to
their operations. -/
def cascadeReconciliations (db : Database) : Database :=
  { db with
    repository := db.repository.deleteReconciliations fun recon =>
      !db.inventory.statuses.any fun s => s.id = recon.clusterConfigStatus }

/-- A `DELETE` on the statuses. -/
def deleteStatuses (db : Database) (p : ClusterStatusEntity → Bool) : Database :=
  cascadeReconciliations
    { db with inventory := { db.inventory with statuses := db.inventory.statuses.filter fun s => !p s } }

/-- A `DELETE` on the clusters, which takes their configurations, the statuses of those and the
reconciliations of the statuses. -/
def deleteClusters (db : Database) (p : ClusterEntity → Bool) : Database :=
  let clusters := db.inventory.clusters.filter fun c => !p c
  let configs := db.inventory.configs.filter fun c =>
    clusters.any fun cl => cl.runtimeID = c.runtimeID && cl.version = c.clusterVersion
  let statuses := db.inventory.statuses.filter fun s =>
    configs.any fun c =>
      c.runtimeID = s.runtimeID && c.clusterVersion = s.clusterVersion && c.version = s.configVersion
  cascadeReconciliations
    { db with inventory := { db.inventory with clusters := clusters, configs := configs, statuses := statuses } }

/-- `t_active_status` of `v_inventory_status_cleanup`: for each configuration version, the
greatest ID among its statuses that are not deleted, of a configuration that is not deleted. -/
def activeStatusIDs (inv : DefaultInventory) : List Int :=
  let joined := inv.statuses.filter fun s =>
    !s.deleted && inv.configs.any fun c => c.version = s.configVersion && !c.deleted
  (joined.map (·.configVersion)).dedup.filterMap fun v =>
    ((joined.filter fun s => s.configVersion = v).map (·.id)).max?

/-- The rows of `v_inventory_status_cleanup`: the statuses that no reconciliation refers to and
that are not an active status. -/
def statusCleanup (db : Database) : List ClusterStatusEntity :=
  db.inventory.statuses.filter fun s =>
    !(db.repository.reconciliations.any fun recon => recon.clusterConfigStatus = s.id) &&
      !(activeStatusIDs db.inventory).contains s.id

/-- `GetStatusIDsBlocksToDelete`. -/
def getStatusIDsBlocksToDelete (db : Database) (statusCleanupBatchSize : Nat) :
    Option (List (List Int)) :=
  splitSliceByBlockSize ((statusCleanup db).map (·.id)) statusCleanupBatchSize

/-- `RemoveStatusesWithoutReconciliations`: one transaction per block. -/
def removeStatusesWithoutReconciliations (db : Database) (statusCleanupBatchSize : Nat) :
    Option Database := do
  let statusIDsBlocks ← db.getStatusIDsBlocksToDelete statusCleanupBatchSize
  some (statusIDsBlocks.foldl
    (fun db statusIDsBlock => db.deleteStatuses fun s => statusIDsBlock.contains s.id) db)

/-- `RemoveDeletedClustersOlderThan`: the deleted cluster entities of the runtime IDs that have
an entity created before the deadline. -/
def removeDeletedClustersOlderThan (db : Database) (deadline : Nat) : Database :=
  let runtimeIDs :=
    (db.inventory.clusters.filter fun c => c.created < deadline).map (·.runtimeID)
  db.deleteClusters fun c => runtimeIDs.contains c.runtimeID && c.deleted

/-- `ClusterStatusTransition.CleanStatusesAndDeletedClustersOlderThan`. -/
def cleanStatusesAndDeletedClustersOlderThan (db : Database) (deadline statusCleanupBatchSize : Nat) :
    Option Database := do
  let db ← db.removeStatusesWithoutReconciliations statusCleanupBatchSize
  some (db.removeDeletedClustersOlderThan deadline)

end Database

namespace Cleaner

/-- `clusterEntityCleanup`. -/
def clusterEntityCleanup (config : CleanerConfig) (now : Nat) (db : Database) : Option Database :=
  if 0 < config.maxInventoryAgeDays then
    db.cleanStatusesAndDeletedClustersOlderThan
      (daysBefore (beginningOfTheDay now) config.maxInventoryAgeDays) config.statusCleanupBatchSize
  else some db

/-- `purgeEntities`; `none` is a panic of the cleaner. -/
def purgeEntities (config : CleanerConfig) (now : Nat) (db : Database) : Option Database :=
  let repository :=
    if 0 < config.retainReconciliationsCount then purgeReconciliationsNew config now db.repository
    else purgeReconciliationsOld config now db.repository
  clusterEntityCleanup config now { db with repository := repository }

end Cleaner

/-! ## Blocks -/

theorem flatten_map_range_drop_take {α : Type*} (l : List α) (b m : Nat) :
    ((List.range m).map fun k => (l.drop (k * b)).take b).flatten = l.take (m * b) := by
  induction m with
  | zero => simp
  | succ m ih =>
    rw [List.range_succ, List.map_append, List.flatten_append, ih, Nat.succ_mul, List.take_add]
    simp

/-- The blocks of a split, joined, are the slice. -/
theorem flatten_of_splitSliceByBlockSize {α : Type*} {slice : List α} {blockSize : Nat}
    {blocks : List (List α)} (h : splitSliceByBlockSize slice blockSize = some blocks) :
    blocks.flatten = slice := by
  unfold splitSliceByBlockSize at h
  split_ifs at h with hempty hzero
  · cases h
    simpa using (List.isEmpty_iff.mp hempty).symm
  · cases h
    rw [flatten_map_range_drop_take]
    apply List.take_of_length_le
    have hlen : 0 < slice.length := List.length_pos_iff.mpr (by simpa using hempty)
    have hlt : slice.length - 1 < (slice.length - 1) / blockSize * blockSize + blockSize :=
      Nat.lt_div_mul_add (Nat.pos_of_ne_zero hzero)
    rw [Nat.succ_mul]
    omega

/-- A split panics exactly on a block size of zero and a slice that is not empty. -/
theorem splitSliceByBlockSize_eq_none_iff {α : Type*} (slice : List α) (blockSize : Nat) :
    splitSliceByBlockSize slice blockSize = none ↔ slice ≠ [] ∧ blockSize = 0 := by
  unfold splitSliceByBlockSize
  split_ifs with hempty hzero
  · simp [List.isEmpty_iff.mp hempty]
  · exact iff_of_true rfl ⟨by simpa [List.isEmpty_iff] using hempty, hzero⟩
  · simp [hzero]

/-! ## The order of `created DESC` -/

namespace PersistentReconciliationRepository

@[simp] theorem mem_orderByCreatedDesc {recons : List ReconciliationEntity}
    {x : ReconciliationEntity} : x ∈ orderByCreatedDesc recons ↔ x ∈ recons :=
  List.mem_insertionSort _

theorem perm_orderByCreatedDesc (recons : List ReconciliationEntity) :
    (orderByCreatedDesc recons).Perm recons :=
  List.perm_insertionSort _ _

theorem pairwise_orderByCreatedDesc (recons : List ReconciliationEntity) :
    (orderByCreatedDesc recons).Pairwise fun a b => b.created ≤ a.created := by
  have : Std.Total fun a b : ReconciliationEntity => b.created ≤ a.created :=
    ⟨fun a b => le_total b.created a.created⟩
  have : IsTrans ReconciliationEntity fun a b => b.created ≤ a.created :=
    ⟨fun _ _ _ hab hbc => le_trans hbc hab⟩
  exact List.pairwise_insertionSort _ recons

/-- The first row in `created DESC` order was created last. -/
theorem created_le_of_head? {recons : List ReconciliationEntity} {y z : ReconciliationEntity}
    (hy : (orderByCreatedDesc recons).head? = some y) (hz : z ∈ recons) :
    z.created ≤ y.created := by
  obtain ⟨rest, hrest⟩ := List.head?_eq_some_iff.mp hy
  have hpair := pairwise_orderByCreatedDesc recons
  rw [hrest, List.pairwise_cons] at hpair
  rw [← mem_orderByCreatedDesc, hrest, List.mem_cons] at hz
  rcases hz with rfl | hz
  · exact le_refl _
  · exact hpair.1 z hz

theorem exists_head?_orderByCreatedDesc {recons : List ReconciliationEntity}
    {x : ReconciliationEntity} (hx : x ∈ recons) :
    ∃ y, (orderByCreatedDesc recons).head? = some y := by
  cases hsorted : orderByCreatedDesc recons with
  | nil =>
    have hmem : x ∈ orderByCreatedDesc recons := mem_orderByCreatedDesc.mpr hx
    simp [hsorted] at hmem
  | cons y rest => exact ⟨y, rfl⟩

/-! ## Deletes with their cascade -/

/-- The key of the reconciliations and the foreign key of the operations: `scheduling_id` is
the primary key of `scheduler_reconciliations`, and every operation refers to one. -/
structure WellKeyed (r : PersistentReconciliationRepository) : Prop where
  schedulingID_nodup : (r.reconciliations.map (·.schedulingID)).Nodup
  operation_reconciliation : ∀ op ∈ r.operations,
    ∃ recon ∈ r.reconciliations, recon.schedulingID = op.schedulingID

/-- `r'` is `r` after deletes of reconciliations and their cascade: some of the reconciliations,
and the operations of `r` whose reconciliation is still there. -/
structure Shrinks (r r' : PersistentReconciliationRepository) : Prop where
  sublist : r'.reconciliations.Sublist r.reconciliations
  operations : ∀ op, op ∈ r'.operations ↔
    op ∈ r.operations ∧ ∃ recon ∈ r'.reconciliations, recon.schedulingID = op.schedulingID

variable {r r' r'' : PersistentReconciliationRepository}

@[simp] theorem reconciliations_deleteReconciliations (p : ReconciliationEntity → Bool) :
    (r.deleteReconciliations p).reconciliations = r.reconciliations.filter fun recon => !p recon :=
  rfl

theorem ofRuntime_deleteReconciliations (p : ReconciliationEntity → Bool) (runtimeID : String) :
    (r.deleteReconciliations p).ofRuntime runtimeID =
      (r.ofRuntime runtimeID).filter fun recon => !p recon := by
  simp only [ofRuntime, reconciliations_deleteReconciliations, List.filter_filter, Bool.and_comm]

@[simp] theorem mem_ofRuntime_self {x : ReconciliationEntity} :
    x ∈ r.ofRuntime x.runtimeID ↔ x ∈ r.reconciliations := by
  simp [ofRuntime]

theorem runtimeID_of_mem_ofRuntime {x : ReconciliationEntity} {runtimeID : String}
    (hx : x ∈ r.ofRuntime runtimeID) : x.runtimeID = runtimeID := by
  simpa using (List.mem_filter.mp hx).2

theorem mem_of_mem_ofRuntime {x : ReconciliationEntity} {runtimeID : String}
    (hx : x ∈ r.ofRuntime runtimeID) : x ∈ r.reconciliations :=
  (List.mem_filter.mp hx).1

theorem shrinks_deleteReconciliations (p : ReconciliationEntity → Bool) :
    Shrinks r (r.deleteReconciliations p) where
  sublist := List.filter_sublist
  operations op := by
    simp [deleteReconciliations, cascade, List.any_eq_true, and_assoc]

theorem Shrinks.refl (h : r.WellKeyed) : Shrinks r r where
  sublist := List.Sublist.refl _
  operations op := ⟨fun hop => ⟨hop, h.operation_reconciliation op hop⟩, fun hop => hop.1⟩

theorem Shrinks.trans (h₁ : Shrinks r r') (h₂ : Shrinks r' r'') : Shrinks r r'' where
  sublist := h₂.sublist.trans h₁.sublist
  operations op := by
    rw [h₂.operations, h₁.operations]
    constructor
    · rintro ⟨⟨hop, -⟩, hrecon⟩
      exact ⟨hop, hrecon⟩
    · rintro ⟨hop, recon, hrecon, hkey⟩
      exact ⟨⟨hop, recon, h₂.sublist.subset hrecon, hkey⟩, recon, hrecon, hkey⟩

theorem Shrinks.wellKeyed (h : Shrinks r r') (hr : r.WellKeyed) : r'.WellKeyed where
  schedulingID_nodup := hr.schedulingID_nodup.sublist (h.sublist.map _)
  operation_reconciliation op hop := ((h.operations op).mp hop).2

/-- Under the key, a reconciliation's scheduling ID is among those of a part of the table
exactly when the reconciliation is. -/
theorem schedulingID_mem_map_iff (h : r.WellKeyed) {sub : List ReconciliationEntity}
    (hsub : ∀ y ∈ sub, y ∈ r.reconciliations) {x : ReconciliationEntity}
    (hx : x ∈ r.reconciliations) :
    x.schedulingID ∈ sub.map (·.schedulingID) ↔ x ∈ sub := by
  constructor
  · intro hmem
    obtain ⟨y, hy, hkey⟩ := List.mem_map.mp hmem
    have hxy : y = x := List.inj_on_of_nodup_map h.schedulingID_nodup (hsub y hy) hx hkey
    exact hxy ▸ hy
  · exact List.mem_map_of_mem

theorem shrinks_foldl {β : Type*}
    (f : PersistentReconciliationRepository → β → PersistentReconciliationRepository)
    (hf : ∀ r b, r.WellKeyed → Shrinks r (f r b)) (bs : List β) (h : r.WellKeyed) :
    Shrinks r (bs.foldl f r) := by
  induction bs generalizing r with
  | nil => exact Shrinks.refl h
  | cons b bs ih =>
    have hstep := hf r b h
    exact hstep.trans (ih (hstep.wellKeyed h))

theorem deleteReconciliations_eq_self (h : r.WellKeyed) {p : ReconciliationEntity → Bool}
    (hp : ∀ recon ∈ r.reconciliations, p recon = false) : r.deleteReconciliations p = r := by
  have hrecons : (r.reconciliations.filter fun recon => !p recon) = r.reconciliations :=
    List.filter_eq_self.mpr fun recon hrecon => by simp [hp recon hrecon]
  have hops : (r.operations.filter fun op =>
      r.reconciliations.any fun recon => recon.schedulingID = op.schedulingID) = r.operations :=
    List.filter_eq_self.mpr fun op hop => by
      simpa [List.any_eq_true] using h.operation_reconciliation op hop
  simp only [deleteReconciliations, cascade, hrecons, hops]

end PersistentReconciliationRepository

/-! ## The retention rules -/

namespace Retention

open PersistentReconciliationRepository

/-- The most recent of a runtime's reconciliations: the first in `created DESC` order. -/
def mostRecent (recons : List ReconciliationEntity) : Option ReconciliationEntity :=
  (orderByCreatedDesc recons).head?

/-- The age rule keeps the most recent reconciliation, and those not created before the
deadline. -/
def survivors (deadline : Nat) (recons : List ReconciliationEntity) : List ReconciliationEntity :=
  recons.filter fun x => mostRecent recons = some x ∨ deadline ≤ x.created

/-- The count rule removes a reconciliation outside the `count` most recent whose status is
`Ready` or `Deleted`. -/
def countRule (count : Nat) (recons : List ReconciliationEntity) : List ReconciliationEntity :=
  recons.filter fun x =>
    ¬ (x ∈ (orderByCreatedDesc recons).drop count ∧
      (x.status = some .ready ∨ x.status = some .deleted))

/-- What the retention rules of issue 668 keep of a runtime's reconciliations: the count rule
applied to what the age rule keeps. -/
def retained (count deadline : Nat) (recons : List ReconciliationEntity) :
    List ReconciliationEntity :=
  countRule count (survivors deadline recons)

variable {count deadline : Nat} {recons : List ReconciliationEntity} {x y : ReconciliationEntity}

@[simp] theorem retained_nil : retained count deadline [] = [] := by
  simp [retained, countRule, survivors]

theorem mem_of_mem_retained (hx : x ∈ retained count deadline recons) : x ∈ recons :=
  (List.mem_filter.mp (List.mem_filter.mp hx).1).1

theorem mem_of_mostRecent (h : mostRecent recons = some y) : y ∈ recons := by
  obtain ⟨rest, hrest⟩ := List.head?_eq_some_iff.mp h
  rw [← mem_orderByCreatedDesc, hrest]
  exact List.mem_cons_self

theorem mem_survivors_of_mostRecent (h : mostRecent recons = some y) :
    y ∈ survivors deadline recons := by
  simp [survivors, mem_of_mostRecent h, h]

/-- The first of a nonempty list in `created DESC` order is not past the first `count`. -/
theorem not_mem_drop_of_head? {l : List ReconciliationEntity} (hcount : 0 < count)
    (hnodup : (orderByCreatedDesc l).Nodup) (hy : (orderByCreatedDesc l).head? = some y) :
    y ∉ (orderByCreatedDesc l).drop count := by
  obtain ⟨rest, hrest⟩ := List.head?_eq_some_iff.mp hy
  obtain ⟨k, rfl⟩ : ∃ k, count = k + 1 := ⟨count - 1, by omega⟩
  rw [hrest] at hnodup ⊢
  rw [List.drop_succ_cons]
  exact fun hmem => (List.nodup_cons.mp hnodup).1 (List.mem_of_mem_drop hmem)

/-- (a) The rules keep a reconciliation created last: the first of the survivors in `created
DESC` order, which is not older than the most recent one. -/
theorem exists_greatest_mem_retained (hcount : 0 < count) (hnodup : recons.Nodup)
    (hx : x ∈ recons) :
    ∃ y ∈ retained count deadline recons, ∀ z ∈ recons, z.created ≤ y.created := by
  obtain ⟨latest, hlatest⟩ := exists_head?_orderByCreatedDesc hx
  have hlatest_mem : latest ∈ survivors deadline recons := mem_survivors_of_mostRecent hlatest
  obtain ⟨y, hy⟩ := exists_head?_orderByCreatedDesc hlatest_mem
  have hy_mem : y ∈ survivors deadline recons := by
    obtain ⟨rest, hrest⟩ := List.head?_eq_some_iff.mp hy
    rw [← mem_orderByCreatedDesc, hrest]
    exact List.mem_cons_self
  have hnodup_sorted : (orderByCreatedDesc (survivors deadline recons)).Nodup :=
    (perm_orderByCreatedDesc _).nodup_iff.mpr (hnodup.filter _)
  have hy_kept : y ∉ (orderByCreatedDesc (survivors deadline recons)).drop count :=
    not_mem_drop_of_head? hcount hnodup_sorted hy
  refine ⟨y, List.mem_filter.mpr ⟨hy_mem, by simp [hy_kept]⟩, fun z hz => ?_⟩
  calc z.created ≤ latest.created := created_le_of_head? hlatest hz
    _ ≤ y.created := created_le_of_head? hy hlatest_mem

/-- (b) Any other reconciliation goes exactly when it was created before the deadline, or when
it is outside the `count` most recent survivors with the status `Ready` or `Deleted`. -/
theorem not_mem_retained_iff (hx : x ∈ recons) (hrecent : mostRecent recons ≠ some x) :
    x ∉ retained count deadline recons ↔
      x.created < deadline ∨
        (x ∈ (orderByCreatedDesc (survivors deadline recons)).drop count ∧
          (x.status = some .ready ∨ x.status = some .deleted)) := by
  have hsurv : x ∈ survivors deadline recons ↔ deadline ≤ x.created := by
    simp [survivors, hx, hrecent]
  by_cases hage : deadline ≤ x.created
  · have hkept : x ∈ survivors deadline recons := hsurv.mpr hage
    have hnot : ¬ x.created < deadline := Nat.not_lt.mpr hage
    simp only [retained, countRule, List.mem_filter, hkept, true_and, decide_eq_true_eq, not_not,
      hnot, false_or]
  · have hgone : x ∉ survivors deadline recons := fun h => hage (hsurv.mp h)
    simp only [retained, countRule, List.mem_filter, hgone, false_and, not_false_eq_true,
      true_iff]
    exact Or.inl (Nat.lt_of_not_le hage)

end Retention

/-! ## The passes keep what the rules keep -/

namespace Cleaner

open PersistentReconciliationRepository

variable {repo : PersistentReconciliationRepository} {config : CleanerConfig}

theorem any_isFinalStable_iff (status : Option Status) :
    status.any Status.isFinalStable = true ↔ status = some .ready ∨ status = some .deleted := by
  cases status with
  | none => simp
  | some s => cases s <;> simp [Status.isFinalStable]

theorem shrinks_deleteRecordsByAge (h : repo.WellKeyed) (runtimeID : String)
    (numberOfDays now : Nat) : Shrinks repo (deleteRecordsByAge runtimeID numberOfDays now repo) := by
  unfold deleteRecordsByAge
  split
  · exact Shrinks.refl h
  · exact shrinks_deleteReconciliations _

/-- The age pass leaves of its runtime what the age rule keeps, and the other runtimes as
they are. -/
theorem ofRuntime_deleteRecordsByAge (h : repo.WellKeyed) (runtimeID : String)
    (numberOfDays now : Nat) (rid : String) :
    (deleteRecordsByAge runtimeID numberOfDays now repo).ofRuntime rid =
      if rid = runtimeID then
        Retention.survivors (daysBefore (beginningOfTheDay now) numberOfDays)
          (repo.ofRuntime runtimeID)
      else repo.ofRuntime rid := by
  unfold deleteRecordsByAge
  split
  · rename_i hnone
    split_ifs with hrid
    · -- no reconciliation of the runtime: the age rule has nothing to keep
      subst hrid
      have hnil : repo.ofRuntime rid = [] := List.eq_nil_iff_forall_not_mem.mpr fun x hx => by
        obtain ⟨y, hy⟩ := exists_head?_orderByCreatedDesc hx
        have hhead : (orderByCreatedDesc (repo.ofRuntime rid)).head? = none := hnone
        rw [hhead] at hy
        cases hy
      simp [hnil, Retention.survivors]
    · rfl
  · rename_i latest hlatest
    have hrecent : Retention.mostRecent (repo.ofRuntime runtimeID) = some latest := hlatest
    have hlatest_mem : latest ∈ repo.reconciliations :=
      mem_of_mem_ofRuntime (Retention.mem_of_mostRecent hrecent)
    rw [removeReconciliationsBeforeDeadline, ofRuntime_deleteReconciliations]
    split_ifs with hrid
    · subst hrid
      apply List.filter_congr
      intro x hx
      have hxrid := runtimeID_of_mem_ofRuntime hx
      by_cases hxl : x = latest
      · subst hxl
        simp [hrecent]
      · -- the scheduling ID is the key: only the most recent one carries its ID
        have hkey : x.schedulingID ≠ latest.schedulingID := fun heq =>
          hxl (List.inj_on_of_nodup_map h.schedulingID_nodup (mem_of_mem_ofRuntime hx)
            hlatest_mem heq)
        have hne : Retention.mostRecent (repo.ofRuntime rid) ≠ some x := by
          rw [hrecent]
          simpa using Ne.symm hxl
        simp [hkey, hne, hxrid]
        simp only [← decide_not, Nat.not_le]
    · apply List.filter_eq_self.mpr
      intro x hx
      simp [runtimeID_of_mem_ofRuntime hx, hrid]

theorem shrinks_deleteRecordsByCountAndStatus (h : repo.WellKeyed) (runtimeID : String)
    (config : CleanerConfig) : Shrinks repo (deleteRecordsByCountAndStatus runtimeID config repo) := by
  unfold deleteRecordsByCountAndStatus
  dsimp only
  split_ifs
  · exact Shrinks.refl h
  · exact Shrinks.refl h
  · exact shrinks_deleteReconciliations _
  · exact Shrinks.refl h

/-- The count pass leaves of its runtime what the count rule keeps, and the other runtimes as
they are. -/
theorem ofRuntime_deleteRecordsByCountAndStatus (h : repo.WellKeyed)
    (hN : 0 < config.retainReconciliationsCount) (runtimeID rid : String) :
    (deleteRecordsByCountAndStatus runtimeID config repo).ofRuntime rid =
      if rid = runtimeID then
        Retention.countRule config.retainReconciliationsCount (repo.ofRuntime runtimeID)
      else repo.ofRuntime rid := by
  set drops := ((repo.getReconciliationsOfRuntime runtimeID).drop config.retainReconciliationsCount).filter
    fun o => o.status.any Status.isFinalStable with hdrops
  have hdrops_mem : ∀ y ∈ drops, y ∈ repo.ofRuntime runtimeID := fun y hy =>
    mem_orderByCreatedDesc.mp (List.mem_of_mem_drop (List.mem_filter.mp hy).1)
  -- every branch removes the reconciliations whose scheduling ID is to be dropped
  have hremoved : (deleteRecordsByCountAndStatus runtimeID config repo).ofRuntime rid =
      (repo.ofRuntime rid).filter fun x => !decide (x.schedulingID ∈ drops.map (·.schedulingID)) := by
    unfold deleteRecordsByCountAndStatus
    dsimp only
    split_ifs with hzero hlen hpos
    · omega
    · have hnil : drops = [] := by
        rw [hdrops, List.drop_eq_nil_of_le hlen, List.filter_nil]
      simp [hnil]
    · rw [removeReconciliationsBySchedulingID, ofRuntime_deleteReconciliations]
    · have hnil : drops.map (·.schedulingID) = [] :=
        List.eq_nil_of_length_eq_zero (by rw [hdrops]; omega)
      simp [hnil]
  rw [hremoved]
  split_ifs with hrid
  · subst hrid
    apply List.filter_congr
    intro x hx
    have hkey := schedulingID_mem_map_iff h (fun y hy => mem_of_mem_ofRuntime (hdrops_mem y hy))
      (mem_of_mem_ofRuntime hx)
    simp only [hkey]
    simp only [hdrops, List.mem_filter, any_isFinalStable_iff, getReconciliationsOfRuntime,
      decide_not]
  · apply List.filter_eq_self.mpr
    intro x hx
    have hkey := schedulingID_mem_map_iff h (fun y hy => mem_of_mem_ofRuntime (hdrops_mem y hy))
      (mem_of_mem_ofRuntime hx)
    -- a reconciliation of another runtime is not among those to drop
    have hnot : x ∉ drops := fun hmem =>
      hrid ((runtimeID_of_mem_ofRuntime hx).symm.trans
        (runtimeID_of_mem_ofRuntime (hdrops_mem x hmem)))
    simp [hkey, hnot]

theorem shrinks_purgeReconciliationsForCluster (h : repo.WellKeyed) (runtimeID : String)
    (now : Nat) : Shrinks repo (purgeReconciliationsForCluster runtimeID config now repo) := by
  have hage := shrinks_deleteRecordsByAge h runtimeID config.maxReconciliationsAgeDays now
  exact hage.trans (shrinks_deleteRecordsByCountAndStatus (hage.wellKeyed h) runtimeID config)

/-- One runtime's pass leaves of it what the retention rules keep, and the other runtimes as
they are. -/
theorem ofRuntime_purgeReconciliationsForCluster (h : repo.WellKeyed)
    (hN : 0 < config.retainReconciliationsCount) (runtimeID : String) (now : Nat) (rid : String) :
    (purgeReconciliationsForCluster runtimeID config now repo).ofRuntime rid =
      if rid = runtimeID then
        Retention.retained config.retainReconciliationsCount
          (daysBefore (beginningOfTheDay now) config.maxReconciliationsAgeDays)
          (repo.ofRuntime runtimeID)
      else repo.ofRuntime rid := by
  have hage := shrinks_deleteRecordsByAge h runtimeID config.maxReconciliationsAgeDays now
  rw [purgeReconciliationsForCluster,
    ofRuntime_deleteRecordsByCountAndStatus (hage.wellKeyed h) hN]
  simp only [ofRuntime_deleteRecordsByAge h]
  split_ifs <;> rfl

/-- The loop over distinct runtime IDs: each listed runtime keeps what the rules keep of it.
The induction is on the list; a runtime's pass leaves the runtimes after it as they were. -/
theorem ofRuntime_foldl_purgeReconciliationsForCluster (hN : 0 < config.retainReconciliationsCount)
    (now : Nat) (runtimeIDs : List String) (hids : runtimeIDs.Nodup) (h : repo.WellKeyed)
    (rid : String) :
    (runtimeIDs.foldl (fun repo runtimeID => purgeReconciliationsForCluster runtimeID config now repo)
        repo).ofRuntime rid =
      if rid ∈ runtimeIDs then
        Retention.retained config.retainReconciliationsCount
          (daysBefore (beginningOfTheDay now) config.maxReconciliationsAgeDays) (repo.ofRuntime rid)
      else repo.ofRuntime rid := by
  induction runtimeIDs generalizing repo with
  | nil => simp
  | cons runtimeID rest ih =>
    obtain ⟨hfresh, hrest⟩ := List.nodup_cons.mp hids
    have hpass : Shrinks repo (purgeReconciliationsForCluster runtimeID config now repo) :=
      shrinks_purgeReconciliationsForCluster h runtimeID now
    rw [List.foldl_cons, ih hrest (hpass.wellKeyed h)]
    simp only [ofRuntime_purgeReconciliationsForCluster h hN, List.mem_cons]
    by_cases hrid : rid = runtimeID
    · subst hrid
      simp [hfresh]
    · simp [hrid]

theorem shrinks_purgeReconciliationsNew (h : repo.WellKeyed) (now : Nat) :
    Shrinks repo (purgeReconciliationsNew config now repo) :=
  shrinks_foldl _ (fun _ runtimeID hr => shrinks_purgeReconciliationsForCluster hr runtimeID now)
    _ h

/-- `purgeReconciliationsNew` leaves of every runtime what the retention rules keep of it. -/
theorem ofRuntime_purgeReconciliationsNew (h : repo.WellKeyed)
    (hN : 0 < config.retainReconciliationsCount) (now : Nat) (rid : String) :
    (purgeReconciliationsNew config now repo).ofRuntime rid =
      Retention.retained config.retainReconciliationsCount
        (daysBefore (beginningOfTheDay now) config.maxReconciliationsAgeDays) (repo.ofRuntime rid) := by
  rw [purgeReconciliationsNew, ofRuntime_foldl_purgeReconciliationsForCluster hN now
    repo.getRuntimeIDs (List.nodup_dedup _) h]
  split_ifs with hrid
  · rfl
  · -- a runtime ID that `GetRuntimeIDs` does not list has no reconciliation
    have hnil : repo.ofRuntime rid = [] := List.eq_nil_iff_forall_not_mem.mpr fun x hx => hrid (by
      rw [getRuntimeIDs, List.mem_dedup]
      exact List.mem_map.mpr ⟨x, mem_of_mem_ofRuntime hx, runtimeID_of_mem_ofRuntime hx⟩)
    simp [hnil]

theorem mem_purgeReconciliationsNew (h : repo.WellKeyed)
    (hN : 0 < config.retainReconciliationsCount) (now : Nat) (x : ReconciliationEntity) :
    x ∈ (purgeReconciliationsNew config now repo).reconciliations ↔
      x ∈ Retention.retained config.retainReconciliationsCount
        (daysBefore (beginningOfTheDay now) config.maxReconciliationsAgeDays)
        (repo.ofRuntime x.runtimeID) := by
  rw [← mem_ofRuntime_self, ofRuntime_purgeReconciliationsNew h hN]

end Cleaner

/-! ## The inventory cleanup keeps what it must -/

/-- The status that a reconciliation refers to belongs to a cluster entity that the cleanup of
deleted clusters keeps: one that is not deleted, or one whose runtime ID has no entity created
before the deadline. -/
def DefaultInventory.KeepsStatusOf (inv : DefaultInventory) (deadline : Nat)
    (recon : ReconciliationEntity) : Prop :=
  ∃ s ∈ inv.statuses, s.id = recon.clusterConfigStatus ∧
    ∃ cl ∈ inv.clusters, cl.runtimeID = s.runtimeID ∧ cl.version = s.clusterVersion ∧
      (cl.deleted = true → ∀ c ∈ inv.clusters, c.runtimeID = cl.runtimeID → deadline ≤ c.created)

namespace Database

open PersistentReconciliationRepository

/-- The keys and foreign keys of `configs/db/postgres` that the cleaner relies on. -/
structure Schema (db : Database) : Prop where
  repository : db.repository.WellKeyed
  reconciliation_status : ∀ recon ∈ db.repository.reconciliations,
    ∃ s ∈ db.inventory.statuses, s.id = recon.clusterConfigStatus
  status_config : ∀ s ∈ db.inventory.statuses, ∃ c ∈ db.inventory.configs,
    c.runtimeID = s.runtimeID ∧ c.clusterVersion = s.clusterVersion ∧ c.version = s.configVersion

variable {db db' : Database}

/-- Deletes of reconciliations keep the schema. -/
theorem Schema.of_shrinks (h : db.Schema) {repo : PersistentReconciliationRepository}
    (hrepo : Shrinks db.repository repo) : ({ db with repository := repo } : Database).Schema where
  repository := hrepo.wellKeyed h.repository
  reconciliation_status recon hrecon := h.reconciliation_status recon (hrepo.sublist.subset hrecon)
  status_config := h.status_config

/-- A delete of statuses that no reconciliation refers to cascades to nothing and keeps the
schema. -/
theorem Schema.deleteStatuses (h : db.Schema) {p : ClusterStatusEntity → Bool}
    (hp : ∀ s ∈ db.inventory.statuses, p s = true →
      ∀ recon ∈ db.repository.reconciliations, recon.clusterConfigStatus ≠ s.id) :
    (db.deleteStatuses p).repository = db.repository ∧ (db.deleteStatuses p).Schema := by
  -- the status of each reconciliation stays
  have hkept : ∀ recon ∈ db.repository.reconciliations, ∃ s ∈ db.inventory.statuses,
      p s = false ∧ s.id = recon.clusterConfigStatus := by
    intro recon hrecon
    obtain ⟨s, hs, hid⟩ := h.reconciliation_status recon hrecon
    refine ⟨s, hs, ?_, hid⟩
    cases hps : p s
    · rfl
    · exact absurd hid.symm (hp s hs hps recon hrecon)
  have hrepo : (db.deleteStatuses p).repository = db.repository := by
    refine deleteReconciliations_eq_self h.repository fun recon hrecon => ?_
    obtain ⟨s, hs, hps, hid⟩ := hkept recon hrecon
    simp only [Bool.not_eq_false', List.any_eq_true, List.mem_filter, decide_eq_true_eq]
    exact ⟨s, ⟨hs, by simp [hps]⟩, hid⟩
  refine ⟨hrepo, ⟨by rw [hrepo]; exact h.repository, fun recon hrecon => ?_, fun s hs => ?_⟩⟩
  · rw [hrepo] at hrecon
    obtain ⟨s, hs, hps, hid⟩ := hkept recon hrecon
    exact ⟨s, List.mem_filter.mpr ⟨hs, by simp [hps]⟩, hid⟩
  · exact h.status_config s (List.mem_filter.mp hs).1

/-- The blocks of status IDs, deleted one transaction after another. -/
theorem foldl_deleteStatuses (blocks : List (List Int)) (h : db.Schema)
    (hfree : ∀ i ∈ blocks.flatten, ∀ recon ∈ db.repository.reconciliations,
      recon.clusterConfigStatus ≠ i) :
    (blocks.foldl (fun db block => db.deleteStatuses fun s => block.contains s.id) db).repository =
        db.repository ∧
      (blocks.foldl (fun db block => db.deleteStatuses fun s => block.contains s.id) db).inventory =
        { db.inventory with
          statuses := db.inventory.statuses.filter fun s => !blocks.flatten.contains s.id } ∧
      (blocks.foldl (fun db block => db.deleteStatuses fun s => block.contains s.id) db).Schema := by
  induction blocks generalizing db with
  | nil => simpa using h
  | cons block rest ih =>
    have hblock : ∀ s ∈ db.inventory.statuses, block.contains s.id = true →
        ∀ recon ∈ db.repository.reconciliations, recon.clusterConfigStatus ≠ s.id :=
      fun s _ hs recon hrecon =>
        hfree s.id (List.mem_flatten.mpr ⟨block, List.mem_cons_self, by simpa using hs⟩) recon hrecon
    obtain ⟨hrepo, hschema⟩ := h.deleteStatuses hblock
    have hrest : ∀ i ∈ rest.flatten, ∀ recon ∈ (db.deleteStatuses fun s => block.contains s.id).repository.reconciliations,
        recon.clusterConfigStatus ≠ i := by
      rw [hrepo]
      exact fun i hi => hfree i (by rw [List.flatten_cons]; exact List.mem_append_right _ hi)
    obtain ⟨hrepo', hinv', hschema'⟩ := ih hschema hrest
    refine ⟨by rw [List.foldl_cons, hrepo', hrepo], ?_, hschema'⟩
    rw [List.foldl_cons, hinv']
    simp [deleteStatuses, cascadeReconciliations, List.filter_filter, List.flatten_cons,
      Bool.and_comm]

/-- No reconciliation refers to a status of `v_inventory_status_cleanup`. -/
theorem clusterConfigStatus_ne_of_mem_statusCleanup {s : ClusterStatusEntity}
    (hs : s ∈ statusCleanup db) {recon : ReconciliationEntity}
    (hrecon : recon ∈ db.repository.reconciliations) : recon.clusterConfigStatus ≠ s.id := by
  have hview := (List.mem_filter.mp hs).2
  simp only [Bool.and_eq_true, Bool.not_eq_eq_eq_not, Bool.not_true, List.any_eq_false,
    decide_eq_true_eq] at hview
  exact hview.1 recon hrecon

/-- The status cleanup removes the statuses of its view, and nothing else: the cascade takes
no reconciliation. -/
theorem removeStatusesWithoutReconciliations_eq (h : db.Schema) {statusCleanupBatchSize : Nat}
    (hremove : db.removeStatusesWithoutReconciliations statusCleanupBatchSize = some db') :
    db'.repository = db.repository ∧
      db'.inventory = { db.inventory with
        statuses := db.inventory.statuses.filter fun s => !((statusCleanup db).map (·.id)).contains s.id } ∧
      db'.Schema := by
  unfold removeStatusesWithoutReconciliations at hremove
  cases hblocks : db.getStatusIDsBlocksToDelete statusCleanupBatchSize with
  | none => simp [hblocks] at hremove
  | some blocks =>
    simp only [hblocks, Option.bind_eq_bind, Option.bind_some, Option.some.injEq] at hremove
    subst hremove
    have hflatten : blocks.flatten = (statusCleanup db).map (·.id) :=
      flatten_of_splitSliceByBlockSize hblocks
    have hfree : ∀ i ∈ blocks.flatten, ∀ recon ∈ db.repository.reconciliations,
        recon.clusterConfigStatus ≠ i := by
      rw [hflatten]
      intro i hi recon hrecon
      obtain ⟨s, hs, rfl⟩ := List.mem_map.mp hi
      exact clusterConfigStatus_ne_of_mem_statusCleanup hs hrecon
    rw [← hflatten]
    exact foldl_deleteStatuses blocks h hfree

theorem exists_removeStatusesWithoutReconciliations {statusCleanupBatchSize : Nat}
    (hbatch : 0 < statusCleanupBatchSize) :
    ∃ db', db.removeStatusesWithoutReconciliations statusCleanupBatchSize = some db' := by
  cases hblocks : db.getStatusIDsBlocksToDelete statusCleanupBatchSize with
  | none =>
    have hnone := (splitSliceByBlockSize_eq_none_iff _ _).mp hblocks
    omega
  | some blocks =>
    refine ⟨blocks.foldl (fun db statusIDsBlock => db.deleteStatuses fun s =>
      statusIDsBlock.contains s.id) db, ?_⟩
    rw [removeStatusesWithoutReconciliations, hblocks]
    rfl

/-- The status cleanup panics exactly on a batch size of zero with a view that is not empty. -/
theorem removeStatusesWithoutReconciliations_eq_none_iff (statusCleanupBatchSize : Nat) :
    db.removeStatusesWithoutReconciliations statusCleanupBatchSize = none ↔
      statusCleanup db ≠ [] ∧ statusCleanupBatchSize = 0 := by
  have hsplit := splitSliceByBlockSize_eq_none_iff ((statusCleanup db).map (·.id))
    statusCleanupBatchSize
  simp only [ne_eq, List.map_eq_nil_iff] at hsplit
  rw [← hsplit, removeStatusesWithoutReconciliations, getStatusIDsBlocksToDelete]
  cases splitSliceByBlockSize ((statusCleanup db).map (·.id)) statusCleanupBatchSize <;> simp

/-- The `WHERE` clause of `RemoveDeletedClustersOlderThan` spares a cluster entity exactly when
it is not deleted or its runtime ID has no entity created before the deadline. -/
theorem spared_by_removeDeletedClustersOlderThan_iff (clusters : List ClusterEntity)
    (deadline : Nat) (cl : ClusterEntity) :
    (((clusters.filter fun c => decide (c.created < deadline)).map (·.runtimeID)).contains
        cl.runtimeID && cl.deleted) = false ↔
      (cl.deleted = true → ∀ c ∈ clusters, c.runtimeID = cl.runtimeID → deadline ≤ c.created) := by
  cases hdel : cl.deleted
  · simp
  · simp only [Bool.and_true, Bool.eq_false_iff, ne_eq, List.contains_iff_mem, List.mem_map,
      List.mem_filter, decide_eq_true_eq, not_exists, not_and, forall_const]
    refine forall_congr' fun c => ⟨fun hc hmem hrid => Nat.not_lt.mp fun hlt => hc ⟨hmem, hlt⟩ hrid,
      fun hc ⟨hmem, hlt⟩ hrid => Nat.not_le.mpr hlt (hc hmem hrid)⟩

/-- The cleanup of deleted clusters removes a reconciliation exactly when the cascade takes
its status: when the status's cluster entity is deleted and its runtime ID has an entity
created before the deadline. -/
theorem mem_removeDeletedClustersOlderThan (h : db.Schema) (deadline : Nat)
    (x : ReconciliationEntity) :
    x ∈ (db.removeDeletedClustersOlderThan deadline).repository.reconciliations ↔
      x ∈ db.repository.reconciliations ∧ db.inventory.KeepsStatusOf deadline x := by
  simp only [removeDeletedClustersOlderThan, deleteClusters, cascadeReconciliations,
    reconciliations_deleteReconciliations, List.mem_filter, Bool.not_not, List.any_eq_true,
    Bool.and_eq_true, decide_eq_true_eq, Bool.not_eq_eq_eq_not, Bool.not_true,
    spared_by_removeDeletedClustersOlderThan_iff]
  refine and_congr_right fun _ => ⟨?_, ?_⟩
  · rintro ⟨s, ⟨hs, c, ⟨-, cl, ⟨hcl, hspared⟩, hclr, hclv⟩, ⟨hcr, hcv⟩, -⟩, hid⟩
    exact ⟨s, hs, hid, cl, hcl, hclr.trans hcr, hclv.trans hcv, hspared⟩
  · rintro ⟨s, hs, hid, cl, hcl, hclr, hclv, hspared⟩
    -- the configuration of the status, by its foreign key
    obtain ⟨c, hc, hcr, hcv, hcver⟩ := h.status_config s hs
    exact ⟨s, ⟨hs, c, ⟨hc, cl, ⟨hcl, hspared⟩, hclr.trans hcr.symm, hclv.trans hcv.symm⟩,
      ⟨hcr, hcv⟩, hcver⟩, hid⟩

end Database

/-! ## A run of the cleaner -/

/-- Statuses removed from the inventory other than the one a reconciliation refers to leave
whether the cluster cleanup keeps that status. -/
theorem DefaultInventory.keepsStatusOf_filter_statuses {inv : DefaultInventory}
    {p : ClusterStatusEntity → Bool} {deadline : Nat} {x : ReconciliationEntity}
    (hp : ∀ s ∈ inv.statuses, s.id = x.clusterConfigStatus → p s = true) :
    ({ inv with statuses := inv.statuses.filter p } : DefaultInventory).KeepsStatusOf deadline x ↔
      inv.KeepsStatusOf deadline x := by
  simp only [DefaultInventory.KeepsStatusOf, List.mem_filter]
  constructor
  · rintro ⟨s, ⟨hs, -⟩, hid, hcluster⟩
    exact ⟨s, hs, hid, hcluster⟩
  · rintro ⟨s, hs, hid, hcluster⟩
    exact ⟨s, ⟨hs, hp s hs hid⟩, hid, hcluster⟩

namespace Cleaner

open PersistentReconciliationRepository Database

variable {db : Database} {config : CleanerConfig}

/-- A run of `purgeEntities` with a positive retain count, inventory age and batch size: it
leaves exactly the reconciliations that the retention rules keep and whose status the
cluster cleanup keeps, with their operations. -/
theorem exists_purgeEntities (h : db.Schema) (hN : 0 < config.retainReconciliationsCount)
    (hM : 0 < config.maxInventoryAgeDays) (hB : 0 < config.statusCleanupBatchSize) (now : Nat) :
    ∃ db', purgeEntities config now db = some db' ∧ Shrinks db.repository db'.repository ∧
      ∀ x, x ∈ db'.repository.reconciliations ↔
        x ∈ Retention.retained config.retainReconciliationsCount
            (daysBefore (beginningOfTheDay now) config.maxReconciliationsAgeDays)
            (db.repository.ofRuntime x.runtimeID) ∧
          db.inventory.KeepsStatusOf
            (daysBefore (beginningOfTheDay now) config.maxInventoryAgeDays) x := by
  -- the reconciliation passes
  have hshrink₁ : Shrinks db.repository (purgeReconciliationsNew config now db.repository) :=
    shrinks_purgeReconciliationsNew h.repository now
  set db₁ : Database := { db with repository := purgeReconciliationsNew config now db.repository }
    with hdb₁
  have hschema₁ : db₁.Schema := h.of_shrinks hshrink₁
  -- the status cleanup
  obtain ⟨db₂, hdb₂⟩ : ∃ db₂,
      db₁.removeStatusesWithoutReconciliations config.statusCleanupBatchSize = some db₂ :=
    exists_removeStatusesWithoutReconciliations hB
  obtain ⟨hrepo₂, hinv₂, hschema₂⟩ := removeStatusesWithoutReconciliations_eq hschema₁ hdb₂
  -- the cleanup of deleted clusters
  refine ⟨db₂.removeDeletedClustersOlderThan
    (daysBefore (beginningOfTheDay now) config.maxInventoryAgeDays), ?_, ?_, fun x => ?_⟩
  · simp only [purgeEntities, if_pos hN, clusterEntityCleanup, if_pos hM,
      cleanStatusesAndDeletedClustersOlderThan, ← hdb₁, hdb₂]
    rfl
  · have hshrink₃ : Shrinks db₂.repository
        (db₂.removeDeletedClustersOlderThan
          (daysBefore (beginningOfTheDay now) config.maxInventoryAgeDays)).repository :=
      shrinks_deleteReconciliations _
    rw [hrepo₂] at hshrink₃
    exact hshrink₁.trans hshrink₃
  · rw [mem_removeDeletedClustersOlderThan hschema₂, hrepo₂, hinv₂,
      ← mem_purgeReconciliationsNew h.repository hN now x]
    refine and_congr_right fun hx => DefaultInventory.keepsStatusOf_filter_statuses fun s _ hid => ?_
    -- the status of a reconciliation that stays is not in the view of the status cleanup
    have hnot : s.id ∉ (statusCleanup db₁).map (·.id) := fun hmem => by
      obtain ⟨s', hs', hid'⟩ := List.mem_map.mp hmem
      exact clusterConfigStatus_ne_of_mem_statusCleanup hs' hx (hid.symm.trans hid'.symm)
    simpa [List.contains_iff_mem] using hnot

/-- The retention rules of issue 668 after one `purgeEntities` run, with `N > 0`, an inventory
age and a batch size above zero, for a database with the keys of `configs/db/postgres`:
(a) every runtime keeps a reconciliation created last, and (b) any other reconciliation goes
exactly when it is older than `D` or past the `N` most recent survivors with the status
`Ready` or `Deleted`; both for a runtime whose statuses the cluster cleanup keeps.  The
cluster cleanup removes every reconciliation whose status it takes, most recent or not.
(c) An operation stays exactly with its reconciliation, and (d) the status cleanup removes
no reconciliation. -/
theorem purgeEntities_keeps_retention (db : Database) (hdb : db.Schema) (config : CleanerConfig)
    (now : Nat) (hN : 0 < config.retainReconciliationsCount) (hM : 0 < config.maxInventoryAgeDays)
    (hB : 0 < config.statusCleanupBatchSize) :
    ∃ db', purgeEntities config now db = some db' ∧
      db'.repository.reconciliations.Sublist db.repository.reconciliations ∧
      (∀ r, (∀ x ∈ db.repository.ofRuntime r, db.inventory.KeepsStatusOf
          (daysBefore (beginningOfTheDay now) config.maxInventoryAgeDays) x) →
        (∀ x ∈ db.repository.ofRuntime r, ∃ y ∈ db'.repository.ofRuntime r,
          ∀ z ∈ db.repository.ofRuntime r, z.created ≤ y.created) ∧
        ∀ x ∈ db.repository.ofRuntime r, Retention.mostRecent (db.repository.ofRuntime r) ≠ some x →
          (x ∉ db'.repository.reconciliations ↔
            x.created < daysBefore (beginningOfTheDay now) config.maxReconciliationsAgeDays ∨
              (x ∈ (orderByCreatedDesc (Retention.survivors
                  (daysBefore (beginningOfTheDay now) config.maxReconciliationsAgeDays)
                  (db.repository.ofRuntime r))).drop config.retainReconciliationsCount ∧
                (x.status = some .ready ∨ x.status = some .deleted)))) ∧
      (∀ x ∈ db.repository.reconciliations, ¬ db.inventory.KeepsStatusOf
          (daysBefore (beginningOfTheDay now) config.maxInventoryAgeDays) x →
        x ∉ db'.repository.reconciliations) ∧
      (∀ op, op ∈ db'.repository.operations ↔ op ∈ db.repository.operations ∧
        ∃ x ∈ db'.repository.reconciliations, x.schedulingID = op.schedulingID) ∧
      (∀ db₁ db₂ : Database, db₁.Schema →
        db₁.removeStatusesWithoutReconciliations config.statusCleanupBatchSize = some db₂ →
        db₂.repository = db₁.repository) := by
  obtain ⟨db', hrun, hshrink, hmem⟩ := exists_purgeEntities hdb hN hM hB now
  have hnodup : ∀ r, (db.repository.ofRuntime r).Nodup := fun r =>
    (List.Nodup.of_map _ hdb.repository.schedulingID_nodup).filter _
  refine ⟨db', hrun, hshrink.sublist, fun r hkeeps => ⟨?_, ?_⟩, ?_, hshrink.operations, ?_⟩
  · -- (a) the first survivor in `created DESC` order stays
    intro x hx
    obtain ⟨y, hy, hgreatest⟩ : ∃ y ∈ Retention.retained config.retainReconciliationsCount
        (daysBefore (beginningOfTheDay now) config.maxReconciliationsAgeDays)
        (db.repository.ofRuntime r), ∀ z ∈ db.repository.ofRuntime r, z.created ≤ y.created :=
      Retention.exists_greatest_mem_retained hN (hnodup r) hx
    have hyr : y.runtimeID = r := runtimeID_of_mem_ofRuntime (Retention.mem_of_mem_retained hy)
    have hkept : y ∈ db'.repository.reconciliations :=
      (hmem y).mpr ⟨hyr ▸ hy, hkeeps y (Retention.mem_of_mem_retained hy)⟩
    exact ⟨y, List.mem_filter.mpr ⟨hkept, by simp [hyr]⟩, hgreatest⟩
  · -- (b) the rules decide, since the status stays
    intro x hx hrecent
    rw [hmem, runtimeID_of_mem_ofRuntime hx, ← Retention.not_mem_retained_iff hx hrecent]
    simp [hkeeps x hx]
  · intro x _ hgone hkept
    exact hgone ((hmem x).mp hkept).2
  · intro db₁ db₂ hschema hremove
    exact (removeStatusesWithoutReconciliations_eq hschema hremove).1

/-- A configuration that the mothership's options accept: keep the last reconciliation, and
purge older reconciliations and deleted clusters after a day. -/
def mothershipCleanerConfig : CleanerConfig where
  purgeEntitiesOlderThan := 0
  retainReconciliationsCount := 1
  maxReconciliationsAgeDays := 1
  maxInventoryAgeDays := 1
  statusCleanupBatchSize := 200

/-- Ten days after the epoch. -/
def cleanerNow : Nat := 10 * secondsPerDay

/-- A runtime with two reconciliations, each with its status and an operation. -/
def reconciledDatabase : Database where
  inventory :=
    { clusters := [{ version := 1, runtimeID := "runtime" }]
      configs := [{ version := 1, runtimeID := "runtime", clusterVersion := 1 }]
      statuses :=
        [{ id := 1, runtimeID := "runtime", clusterVersion := 1, configVersion := 1,
           status := .ready },
         { id := 2, runtimeID := "runtime", clusterVersion := 1, configVersion := 1,
           status := .reconciling, created := 100 }] }
  repository :=
    { reconciliations :=
        [{ runtimeID := "runtime", clusterConfig := 1, clusterConfigStatus := 1,
           schedulingID := "runtime--1", finished := true, status := some .ready },
         { runtimeID := "runtime", clusterConfig := 1, clusterConfigStatus := 2,
           schedulingID := "runtime--2", created := 100, lock := "runtime" }]
      operations :=
        [{ schedulingID := "runtime--1", correlationID := "runtime--1--0", type := .reconcile,
           state := .done },
         { schedulingID := "runtime--2", correlationID := "runtime--2--0", type := .reconcile,
           state := .inProgress }] }

theorem reconciledDatabase_schema : reconciledDatabase.Schema where
  repository := ⟨by simp [reconciledDatabase], by simp [reconciledDatabase]⟩
  reconciliation_status := by simp [reconciledDatabase]
  status_config := by simp [reconciledDatabase]

theorem purgeEntities_keeps_retention_reconciledDatabase :
    reconciledDatabase.Schema ∧ 0 < mothershipCleanerConfig.retainReconciliationsCount ∧
      0 < mothershipCleanerConfig.maxInventoryAgeDays ∧
      0 < mothershipCleanerConfig.statusCleanupBatchSize ∧
      ∃ db', purgeEntities mothershipCleanerConfig cleanerNow reconciledDatabase = some db' ∧
        db'.repository.reconciliations.Sublist reconciledDatabase.repository.reconciliations := by
  obtain ⟨db', hrun, hsub, -⟩ := purgeEntities_keeps_retention reconciledDatabase
    reconciledDatabase_schema mothershipCleanerConfig cleanerNow (by decide) (by decide) (by decide)
  exact ⟨reconciledDatabase_schema, by decide, by decide, by decide, db', hrun, hsub⟩

/-- A runtime deleted long ago: `Delete` renamed its cluster entity, configuration and status
and marked them deleted, while its reconciliation keeps the runtime ID. -/
def deletedRuntimeDatabase : Database where
  inventory :=
    { clusters := [{ version := 1, runtimeID := "deleted_1_runtime", deleted := true }]
      configs :=
        [{ version := 1, runtimeID := "deleted_1_runtime", clusterVersion := 1, deleted := true }]
      statuses :=
        [{ id := 1, runtimeID := "deleted_1_runtime", clusterVersion := 1, configVersion := 1,
           status := .deleted, deleted := true }] }
  repository :=
    { reconciliations :=
        [{ runtimeID := "runtime", clusterConfig := 1, clusterConfigStatus := 1,
           schedulingID := "runtime--1", finished := true, status := some .deleted }]
      operations := [] }

theorem deletedRuntimeDatabase_schema : deletedRuntimeDatabase.Schema where
  repository := ⟨by simp [deletedRuntimeDatabase], by simp [deletedRuntimeDatabase]⟩
  reconciliation_status := by simp [deletedRuntimeDatabase]
  status_config := by simp [deletedRuntimeDatabase]

/-- The cluster cleanup takes the only, and so most recent, reconciliation of a runtime whose
deleted cluster entity is older than the inventory deadline. -/
theorem purgeEntities_removes_most_recent_of_deleted_runtime :
    ∃ db', purgeEntities mothershipCleanerConfig cleanerNow deletedRuntimeDatabase = some db' ∧
      (∃ x ∈ deletedRuntimeDatabase.repository.reconciliations, x.runtimeID = "runtime") ∧
      ∀ y ∈ db'.repository.reconciliations, y.runtimeID ≠ "runtime" := by
  obtain ⟨db', hrun, -, hmem⟩ : ∃ db', purgeEntities mothershipCleanerConfig cleanerNow
      deletedRuntimeDatabase = some db' ∧ _ :=
    exists_purgeEntities deletedRuntimeDatabase_schema (by decide) (by decide) (by decide) cleanerNow
  refine ⟨db', hrun, ⟨_, List.mem_singleton_self _, rfl⟩, fun y hy _ => ?_⟩
  obtain ⟨-, s, -, -, cl, hcl, -, -, hspared⟩ := (hmem y).mp hy
  -- the only cluster entity is deleted, and created before the inventory deadline
  simp only [deletedRuntimeDatabase, List.mem_singleton] at hcl
  subst hcl
  have hold := hspared rfl _ List.mem_cons_self rfl
  simp [cleanerNow, mothershipCleanerConfig, daysBefore, beginningOfTheDay, secondsPerDay] at hold

end Cleaner

end Reconciler
