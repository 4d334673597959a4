import Reconciler.Lib.Buckets
import Mathlib.Data.List.Sort
import Reconciler.Model.Entity

/-!
# Processable operations

`findProcessableOperations` (`pkg/scheduler/reconciliation/reconciliation.go`) decides which
operations the worker pool may hand to workers.  It groups the operations by reconciliation
and, inside a reconciliation, by priority; it walks the priority groups in ascending order
(descending for deletions), skips groups whose operations are all `Done`, and returns the
waiting operations of the first other group, unless that group holds an `Error` operation,
throttled to `maxParallelOpsPerRecon` running operations.

The two nested Go maps are `Buckets.groupBy` applied twice.  The reconciliations are visited
in order of first appearance where Go visits its map in an unspecified order; every statement
below is about membership, multiplicity or counts per reconciliation, none about that order.
-/

namespace Reconciler

open OperationState Buckets
open scoped List

/-! ## The group scan -/

/-- The loop of `findProcessableOperationsInGroup`: `none` where the loop returns early on an
operation in `Error`, otherwise the final `opsInProgress` and `processables`. -/
def scanGroup : List OperationEntity → Nat → List OperationEntity →
    Option (Nat × List OperationEntity)
  | [], opsInProgress, processables => some (opsInProgress, processables)
  | op :: ops, opsInProgress, processables =>
      if op.state = error then none
      else if op.state = done then scanGroup ops opsInProgress processables
      else if op.state = inProgress ∨ op.state = failed then
        scanGroup ops (opsInProgress + 1) processables
      else scanGroup ops opsInProgress (processables ++ [op])

/-- The throttle at the end of `findProcessableOperationsInGroup`. -/
def throttle (maxParallelOpsPerRecon : Int) (opsInProgress : Nat)
    (processables : List OperationEntity) : List OperationEntity :=
  if maxParallelOpsPerRecon > 0 then
    if (processables.length + opsInProgress : Int) > maxParallelOpsPerRecon then
      let freeCapacity := maxParallelOpsPerRecon - opsInProgress
      if freeCapacity ≤ 0 then [] else processables.take freeCapacity.toNat
    else processables
  else processables

/-- `findProcessableOperationsInGroup`: the processable operations of a group, and whether
the next group has to be evaluated. -/
def findProcessableOperationsInGroup (ops : List OperationEntity)
    (maxParallelOpsPerRecon : Int) : List OperationEntity × Bool :=
  match scanGroup ops 0 [] with
  | none => ([], false)
  | some (opsInProgress, processables) =>
      let processables := throttle maxParallelOpsPerRecon opsInProgress processables
      (processables, opsInProgress == 0 && processables.isEmpty)

/-! ## Walking the priority groups -/

/-- `prios`: the priorities of a reconciliation, ascending, descending when `reverse`.
`sort.Slice` is not stable, but the keys of a map are distinct, so every sort that orders
them returns this list. -/
def prios (opsByPrio : List (Int × List OperationEntity)) (reverse : Bool) : List Int :=
  if reverse then (keys opsByPrio).insertionSort (· ≥ ·)
  else (keys opsByPrio).insertionSort (· ≤ ·)

/-- `opGroupType`: the type of the first operation met in the map. -/
def opGroupType : List (Int × List OperationEntity) → OperationType
  | [] => .reconcile
  | (_, []) :: rest => opGroupType rest
  | (_, op :: _) :: _ => op.type

/-- The loop over the priority groups of one reconciliation: `continue` while a group
reports that the next one has to be checked, `break` with the first other group's result. -/
def processableInPrios (opsWithSamePrio : List (Int × List OperationEntity))
    (maxParallelOpsPerRecon : Int) : List Int → List OperationEntity
  | [] => []
  | prio :: rest =>
      let result := findProcessableOperationsInGroup (slice opsWithSamePrio prio)
        maxParallelOpsPerRecon
      if result.2 then processableInPrios opsWithSamePrio maxParallelOpsPerRecon rest
      else result.1

/-- The processable operations of one reconciliation. -/
def processableInRecon (maxParallelOpsPerRecon : Int) (recon : String × List OperationEntity) :
    List OperationEntity :=
  let opsWithSamePrio := groupBy (·.priority) recon.2
  let reverse := opGroupType opsWithSamePrio = .delete
  processableInPrios opsWithSamePrio maxParallelOpsPerRecon (prios opsWithSamePrio reverse)

/-- `findProcessableOperations`. -/
def findProcessableOperations (ops : List OperationEntity) (maxParallelOpsPerRecon : Int) :
    List OperationEntity :=
  (groupBy (·.schedulingID) ops).flatMap (processableInRecon maxParallelOpsPerRecon)

/-! ## One group -/

/-- The operations of a group that occupy a worker. -/
def busy (G : List OperationEntity) : List OperationEntity :=
  G.filter (fun op => op.state.IsBusy)

/-- The operations of a group that wait for a worker. -/
def waiting (G : List OperationEntity) : List OperationEntity :=
  G.filter (fun op => op.state.IsWaiting)

@[simp] theorem mem_waiting {G : List OperationEntity} {op : OperationEntity} :
    op ∈ waiting G ↔ op ∈ G ∧ op.state.IsWaiting := by
  simp [waiting]

/-- What the loop of `findProcessableOperationsInGroup` computes: it gives up on an `Error`
operation, otherwise it counts the busy operations and collects the waiting ones. -/
theorem scanGroup_eq (ops : List OperationEntity) (n : Nat) (acc : List OperationEntity) :
    scanGroup ops n acc =
      if ops.any (fun op => op.state = error) then none
      else some (n + (busy ops).length, acc ++ waiting ops) := by
  induction ops generalizing n acc with
  | nil => simp [scanGroup, busy, waiting]
  | cons op ops ih =>
      -- one case per state: the source tests `Error`, `Done`, then the two busy states
      cases hst : op.state with
      | error => simp [scanGroup, hst]
      | inProgress =>
          simp only [scanGroup, hst, ih]
          simp [busy, waiting, IsBusy, IsWaiting, hst, Nat.add_assoc, Nat.add_comm 1]
      | failed =>
          simp only [scanGroup, hst, ih]
          simp [busy, waiting, IsBusy, IsWaiting, hst, Nat.add_assoc, Nat.add_comm 1]
      | done => simp [scanGroup, hst, ih, busy, waiting, IsBusy, IsWaiting]
      | new => simp [scanGroup, hst, ih, busy, waiting, IsBusy, IsWaiting]
      | clientError => simp [scanGroup, hst, ih, busy, waiting, IsBusy, IsWaiting]
      | orphan => simp [scanGroup, hst, ih, busy, waiting, IsBusy, IsWaiting]

theorem throttle_sublist (max : Int) (n : Nat) (ps : List OperationEntity) :
    throttle max n ps <+ ps := by
  unfold throttle
  by_cases hpos : max > 0
  · rw [if_pos hpos]
    by_cases hover : (ps.length + n : Int) > max
    · rw [if_pos hover]
      dsimp only
      by_cases hfree : max - n ≤ 0
      · rw [if_pos hfree]
        exact List.nil_sublist _
      · rw [if_neg hfree]
        exact List.take_sublist _ _
    · rw [if_neg hover]
  · rw [if_neg hpos]

/-- With a positive bound the throttle leaves room for at most `max - n` new workers. -/
theorem length_throttle_le {max : Int} (hmax : 0 < max) (n : Nat) (ps : List OperationEntity) :
    (throttle max n ps).length ≤ (max - n).toNat := by
  unfold throttle
  rw [if_pos hmax]
  by_cases hover : (ps.length + n : Int) > max
  · rw [if_pos hover]
    dsimp only
    by_cases hfree : max - n ≤ 0
    · rw [if_pos hfree]
      simp
    · -- `processables[:freeCapacity]`
      rw [if_neg hfree, List.length_take]
      exact Nat.min_le_left _ _
  · -- the waiting and the busy operations fit together
    rw [if_neg hover]
    omega

/-- Without throttling every waiting operation is kept. -/
theorem throttle_of_fits {max : Int} {n : Nat} {ps : List OperationEntity}
    (h : max ≤ 0 ∨ (ps.length + n : Int) ≤ max) : throttle max n ps = ps := by
  unfold throttle
  by_cases hpos : max > 0
  · rw [if_pos hpos, if_neg (by omega)]
  · rw [if_neg hpos]

/-- When no operation is busy the throttle never empties a non-empty list. -/
theorem throttle_zero_eq_nil (max : Int) (ps : List OperationEntity) :
    throttle max 0 ps = [] ↔ ps = [] := by
  unfold throttle
  by_cases hpos : max > 0
  · rw [if_pos hpos]
    by_cases hover : (ps.length + (0 : Nat) : Int) > max
    · rw [if_pos hover]
      dsimp only
      rw [if_neg (by omega), List.take_eq_nil_iff]
      constructor
      · rintro (hcap | hnil)
        · omega
        · exact hnil
      · exact Or.inr
    · rw [if_neg hover]
  · rw [if_neg hpos]

theorem findProcessableOperationsInGroup_fst (G : List OperationEntity) (max : Int) :
    (findProcessableOperationsInGroup G max).1 =
      if G.any (fun op => op.state = error) then []
      else throttle max (busy G).length (waiting G) := by
  unfold findProcessableOperationsInGroup
  rw [scanGroup_eq]
  split_ifs <;> simp

/-- The next group is evaluated exactly when every operation of this one is `Done`. -/
theorem findProcessableOperationsInGroup_snd (G : List OperationEntity) (max : Int) :
    (findProcessableOperationsInGroup G max).2 = G.all (fun op => op.state = done) := by
  unfold findProcessableOperationsInGroup
  rw [scanGroup_eq]
  split_ifs with herr
  · -- an `Error` operation stops the reconciliation, and it is not `Done`
    obtain ⟨op, hop, hst⟩ := List.any_eq_true.1 herr
    symm
    rw [List.all_eq_false]
    exact ⟨op, hop, by simp_all⟩
  · have hcases : ∀ op ∈ G, op.state = done ∨ op.state.IsBusy ∨ op.state.IsWaiting := by
      intro op hop
      rcases cases_waiting op.state with h | h | h | h
      · exact Or.inl h
      · exact absurd (List.any_eq_true.2 ⟨op, hop, by simp [h]⟩) herr
      · exact Or.inr (Or.inl h)
      · exact Or.inr (Or.inr h)
    -- `opsInProgress == 0 && len(processables) == 0`: nothing busy and nothing waiting
    have hiff : ((busy G).length = 0 ∧ waiting G = []) ↔ ∀ op ∈ G, op.state = done := by
      rw [List.length_eq_zero_iff, busy, waiting, List.filter_eq_nil_iff, List.filter_eq_nil_iff]
      constructor
      · rintro ⟨hbusy, hwait⟩ op hop
        rcases hcases op hop with h | h | h
        · exact h
        · exact absurd (decide_eq_true h) (hbusy op hop)
        · exact absurd (decide_eq_true h) (hwait op hop)
      · intro hdone
        refine ⟨fun op hop h => ?_, fun op hop h => ?_⟩
        · simp [IsBusy, hdone op hop] at h
        · simp [IsWaiting, hdone op hop] at h
    dsimp only
    rw [Nat.zero_add, List.nil_append, Bool.eq_iff_iff, Bool.and_eq_true, beq_iff_eq,
      List.isEmpty_iff, List.all_eq_true]
    simp only [decide_eq_true_eq]
    rw [← hiff]
    constructor
    · rintro ⟨h0, hnil⟩
      rw [h0] at hnil
      exact ⟨h0, (throttle_zero_eq_nil max _).1 hnil⟩
    · rintro ⟨h0, hnil⟩
      rw [h0]
      exact ⟨rfl, (throttle_zero_eq_nil max _).2 hnil⟩

/-! ## The walk over the priorities -/

/-- The loop over the priorities stops at the first group that still holds an operation which
is not `Done`, and returns that group's processable operations. -/
theorem processableInPrios_eq (m : List (Int × List OperationEntity)) (max : Int) (P : List Int) :
    processableInPrios m max P =
      ((P.find? (fun p => !(slice m p).all (fun op => op.state = done))).map
        (fun p => (findProcessableOperationsInGroup (slice m p) max).1)).getD [] := by
  induction P with
  | nil => rfl
  | cons p P ih =>
      rw [processableInPrios, findProcessableOperationsInGroup_snd, List.find?_cons]
      by_cases hall : (slice m p).all (fun op => op.state = done) = true
      · simp [hall, ih]
      · simp [hall]

/-- Whatever the loop returns is taken from one slice of the map. -/
theorem processableInPrios_sublist_slice (m : List (Int × List OperationEntity)) (max : Int)
    (P : List Int) : ∃ p, processableInPrios m max P <+ slice m p := by
  rw [processableInPrios_eq]
  cases P.find? (fun p => !(slice m p).all (fun op => op.state = done)) with
  | none => exact ⟨0, List.nil_sublist _⟩
  | some p =>
      refine ⟨p, ?_⟩
      rw [Option.map_some, Option.getD_some, findProcessableOperationsInGroup_fst]
      split_ifs
      · exact List.nil_sublist _
      · exact (throttle_sublist _ _ _).trans List.filter_sublist

/-- The processable operations of a reconciliation are some of its operations. -/
theorem processableInRecon_sublist (max : Int) (recon : String × List OperationEntity) :
    processableInRecon max recon <+ recon.2 := by
  obtain ⟨p, hp⟩ := processableInPrios_sublist_slice (groupBy (·.priority) recon.2) max
    (prios (groupBy (·.priority) recon.2) (opGroupType (groupBy (·.priority) recon.2) = .delete))
  rw [slice_groupBy] at hp
  exact hp.trans List.filter_sublist

theorem processableInRecon_nil (max : Int) (s : String) : processableInRecon max (s, []) = [] :=
  rfl

/-- Filtering the result by one scheduling ID leaves exactly that reconciliation's part. -/
theorem filter_findProcessableOperations (ops : List OperationEntity) (max : Int) (s : String) :
    (findProcessableOperations ops max).filter (fun op => op.schedulingID = s) =
      processableInRecon max (s, ops.filter (fun op => op.schedulingID = s)) := by
  refine filter_flatMap_groupBy (processableInRecon max) s ?_ (processableInRecon_nil max s)
  intro e he x hx
  -- a returned operation sits in the slice of its own scheduling ID
  have hxe : x ∈ e.2 := (processableInRecon_sublist max e).subset hx
  rw [eq_filter_of_mem_groupBy (show (e.1, e.2) ∈ _ from he), List.mem_filter] at hxe
  exact of_decide_eq_true hxe.2

/-- The part of the result that belongs to one reconciliation comes out of it. -/
theorem findProcessableOperations_subperm (ops : List OperationEntity) (max : Int) :
    findProcessableOperations ops max <+~ ops :=
  flatMap_subperm _ fun e _ => processableInRecon_sublist max e

/-! ## The order of the priority groups -/

/-- `runsBefore t p q`: in a reconciliation of type `t` the group of priority `p` is walked
before the group of priority `q`, ascending for reconciling and descending for deleting. -/
def runsBefore : OperationType → Int → Int → Prop
  | .reconcile, p, q => p < q
  | .delete, p, q => q < p

instance : ∀ t p q, Decidable (runsBefore t p q)
  | .reconcile, p, q => inferInstanceAs (Decidable (p < q))
  | .delete, p, q => inferInstanceAs (Decidable (q < p))

instance (t : OperationType) : Std.Asymm (runsBefore t) where
  asymm p q := by cases t <;> simp only [runsBefore] <;> omega

instance (t : OperationType) : Std.Trichotomous (runsBefore t) where
  trichotomous p q := by cases t <;> simp only [runsBefore] <;> omega

theorem mem_prios {m : List (Int × List OperationEntity)} {reverse : Bool} {p : Int} :
    p ∈ prios m reverse ↔ p ∈ keys m := by
  unfold prios
  split <;> exact List.mem_insertionSort _

/-- `prios` walks the priorities in the order the operation type prescribes, each once. -/
theorem pairwise_prios {m : List (Int × List OperationEntity)} (hm : (keys m).Nodup)
    (t : OperationType) : (prios m (decide (t = .delete))).Pairwise (runsBefore t) := by
  cases t with
  | reconcile =>
      rw [prios, if_neg (by decide)]
      have hsorted := (List.pairwise_insertionSort (· ≤ ·) (keys m)).and
        ((List.perm_insertionSort (· ≤ ·) (keys m)).nodup_iff.2 hm)
      exact hsorted.imp fun ⟨hle, hne⟩ => lt_of_le_of_ne hle hne
  | delete =>
      rw [prios, if_pos (by decide)]
      have hsorted := (List.pairwise_insertionSort (· ≥ ·) (keys m)).and
        ((List.perm_insertionSort (· ≥ ·) (keys m)).nodup_iff.2 hm)
      exact hsorted.imp fun ⟨hge, hne⟩ => lt_of_le_of_ne hge (Ne.symm hne)

/-- `opGroupType` reads the type that every operation of the map has. -/
theorem opGroupType_eq {m : List (Int × List OperationEntity)} {t : OperationType}
    (hty : ∀ e ∈ m, ∀ op ∈ e.2, op.type = t) (hne : ∃ e ∈ m, e.2 ≠ []) :
    opGroupType m = t := by
  induction m with
  | nil =>
      obtain ⟨e, he, -⟩ := hne
      cases he
  | cons e m ih =>
      obtain ⟨k, _ | ⟨op, ops⟩⟩ := e
      · -- an empty slice is skipped
        rw [opGroupType]
        apply ih fun e he => hty e (List.mem_cons_of_mem _ he)
        obtain ⟨e', he', hne'⟩ := hne
        rcases List.mem_cons.1 he' with rfl | he'
        · exact absurd rfl hne'
        · exact ⟨e', he', hne'⟩
      · exact hty _ List.mem_cons_self op List.mem_cons_self

theorem opGroupType_groupBy {R : List OperationEntity} {t : OperationType}
    (hty : ∀ op ∈ R, op.type = t) (hR : R ≠ []) :
    opGroupType (groupBy (·.priority) R) = t := by
  apply opGroupType_eq
  · intro e he op hop
    rw [eq_filter_of_mem_groupBy (show (e.1, e.2) ∈ _ from he)] at hop
    exact hty op (List.mem_filter.1 hop).1
  · obtain ⟨x, hx⟩ := List.exists_mem_of_ne_nil R hR
    exact ⟨_, mem_groupBy_of_mem hx, ne_nil_of_mem_groupBy (mem_groupBy_of_mem hx)⟩

/-! ## The group a reconciliation works on -/

section Recon

variable {R : List OperationEntity} {t : OperationType}

/-- The walk passes a priority exactly when all operations of that priority are `Done`. -/
theorem open_slice_iff (p : Int) :
    (!(slice (groupBy (·.priority) R) p).all (fun op => op.state = done)) = true ↔
      ∃ op ∈ R, op.priority = p ∧ op.state ≠ done := by
  rw [slice_groupBy, Bool.not_eq_true', List.all_eq_false]
  constructor
  · rintro ⟨op, hop, hnd⟩
    rw [List.mem_filter] at hop
    exact ⟨op, hop.1, of_decide_eq_true hop.2, by simpa using hnd⟩
  · rintro ⟨op, hop, rfl, hnd⟩
    exact ⟨op, List.mem_filter.2 ⟨hop, by simp⟩, by simpa using hnd⟩

/-- For a reconciliation whose operations all have type `t`, the walk stops at the first
group, in the order of `t`, that still holds an operation not `Done`. -/
theorem processableInRecon_of_first_open (max : Int) (s : String) (hty : ∀ op ∈ R, op.type = t)
    {g : Int} (hopen : ∃ op ∈ R, op.priority = g ∧ op.state ≠ done)
    (hearlier : ∀ op ∈ R, runsBefore t op.priority g → op.state = done) :
    processableInRecon max (s, R) =
      (findProcessableOperationsInGroup (R.filter (fun op => op.priority = g)) max).1 := by
  obtain ⟨op₀, hop₀, hprio₀, hnd₀⟩ := hopen
  have hfind : (prios (groupBy (·.priority) R) (decide (t = .delete))).find?
      (fun p => !(slice (groupBy (·.priority) R) p).all (fun op => op.state = done)) = some g := by
    apply find?_eq_of_least (pairwise_prios (nodup_keys_groupBy _ R) t)
    · exact mem_prios.2 (mem_keys_groupBy.2 ⟨op₀, hop₀, hprio₀⟩)
    · exact (open_slice_iff g).2 ⟨op₀, hop₀, hprio₀, hnd₀⟩
    · -- every group walked before `g` is all `Done`
      intro p _ hp
      rw [Bool.eq_false_iff]
      intro h
      obtain ⟨op, hop, rfl, hnd⟩ := (open_slice_iff _).1 h
      exact hnd (hearlier op hop hp)
  simp only [processableInRecon]
  rw [opGroupType_groupBy hty (List.ne_nil_of_mem hop₀), processableInPrios_eq, hfind,
    Option.map_some, Option.getD_some, slice_groupBy]

/-- A reconciliation whose operations are all `Done` hands out nothing. -/
theorem processableInRecon_of_all_done (max : Int) (s : String)
    (hdone : ∀ op ∈ R, op.state = done) : processableInRecon max (s, R) = [] := by
  have hnone : ∀ P : List Int,
      P.find? (fun p => !(slice (groupBy (·.priority) R) p).all (fun op => op.state = done)) =
        none := by
    intro P
    refine List.find?_eq_none.2 fun p _ h => ?_
    obtain ⟨op, hop, -, hnd⟩ := (open_slice_iff p).1 h
    exact hnd (hdone op hop)
  simp only [processableInRecon]
  rw [processableInPrios_eq, hnone]
  rfl

/-- A reconciliation with an operation that is not `Done` has a first open group. -/
theorem exists_first_open (hnd : ∃ op ∈ R, op.state ≠ done) :
    ∃ g, (∃ op ∈ R, op.priority = g ∧ op.state ≠ done) ∧
      ∀ op ∈ R, runsBefore t op.priority g → op.state = done := by
  obtain ⟨op₀, hop₀, hnd₀⟩ := hnd
  have hsorted := pairwise_prios (nodup_keys_groupBy (·.priority) R) t
  -- the walk finds a group, since the priority of `op₀` passes its test
  obtain ⟨g, hg⟩ : ∃ g, (prios (groupBy (·.priority) R) (decide (t = .delete))).find?
      (fun p => !(slice (groupBy (·.priority) R) p).all (fun op => op.state = done)) = some g := by
    rw [← Option.isSome_iff_exists, List.find?_isSome]
    exact ⟨op₀.priority, mem_prios.2 (mem_keys_groupBy.2 ⟨op₀, hop₀, rfl⟩),
      (open_slice_iff _).2 ⟨op₀, hop₀, rfl, hnd₀⟩⟩
  have hpass_g := List.find?_some hg
  refine ⟨g, (open_slice_iff g).1 hpass_g, fun op hop hbefore => ?_⟩
  by_contra hnd
  have hpass := find?_least hsorted hg (mem_prios.2 (mem_keys_groupBy.2 ⟨op, hop, rfl⟩)) hbefore
  rw [(open_slice_iff _).2 ⟨op, hop, rfl, hnd⟩] at hpass
  exact Bool.noConfusion hpass

end Recon

/-! ## The contract

What the worker pool relies on: for every reconciliation, only waiting operations of the
first priority group that is not finished are handed out, an `Error` there blocks the
reconciliation, the bound on parallel operations holds, and nothing is handed out twice. -/

/-- Operations of one reconciliation share one type, as `CreateReconciliation` creates them. -/
def TypeConsistent (ops : List OperationEntity) : Prop :=
  ∀ a ∈ ops, ∀ b ∈ ops, a.schedulingID = b.schedulingID → a.type = b.type

instance (ops : List OperationEntity) : Decidable (TypeConsistent ops) :=
  inferInstanceAs (Decidable (∀ a ∈ ops, ∀ b ∈ ops, _))

/-- The operations of one reconciliation have one type. -/
theorem TypeConsistent.exists_type {ops : List OperationEntity} {s : String}
    (hty : TypeConsistent ops) (hsid : ∀ op ∈ ops, op.schedulingID = s) :
    ∃ t, ∀ op ∈ ops, op.type = t := by
  cases ops with
  | nil => exact ⟨.reconcile, fun _ h => absurd h List.not_mem_nil⟩
  | cons op₀ rest =>
      refine ⟨op₀.type, fun op hop => hty op hop op₀ List.mem_cons_self ?_⟩
      rw [hsid op hop, hsid op₀ List.mem_cons_self]

/-- The operations of reconciliation `s` with priority `g`. -/
def priorityGroup (ops : List OperationEntity) (s : String) (g : Int) : List OperationEntity :=
  ops.filter (fun op => op.schedulingID = s ∧ op.priority = g)

@[simp] theorem mem_priorityGroup {ops : List OperationEntity} {s : String} {g : Int}
    {op : OperationEntity} :
    op ∈ priorityGroup ops s g ↔ op ∈ ops ∧ op.schedulingID = s ∧ op.priority = g := by
  simp [priorityGroup]

theorem filter_filter_eq_priorityGroup (ops : List OperationEntity) (s : String) (g : Int) :
    (ops.filter (fun op => op.schedulingID = s)).filter (fun op => op.priority = g) =
      priorityGroup ops s g := by
  rw [List.filter_filter, priorityGroup]
  congr 1
  funext op
  simp [Bool.and_comm]

/-- `g` is the first priority group of reconciliation `s`, walked in the order of the
reconciliation's operation type, that holds an operation not in `Done`. -/
structure IsFirstOpenGroup (ops : List OperationEntity) (s : String) (g : Int) : Prop where
  open_op : ∃ op ∈ priorityGroup ops s g, op.state ≠ done
  earlier_done : ∀ op ∈ ops, op.schedulingID = s → runsBefore op.type op.priority g →
    op.state = done

instance (ops : List OperationEntity) (s : String) (g : Int) :
    Decidable (IsFirstOpenGroup ops s g) :=
  decidable_of_iff (_ ∧ _) ⟨fun ⟨h₁, h₂⟩ => ⟨h₁, h₂⟩, fun ⟨h₁, h₂⟩ => ⟨h₁, h₂⟩⟩

/-- The shape in which the priority-ordered execution keeps the operations of a
reconciliation: around some priority `g`, the groups walked before `g` are `Done` and the
groups walked after it are `New`. -/
def PriorityOrdered (ops : List OperationEntity) (g : Int) : Prop :=
  ∀ op ∈ ops, (runsBefore op.type op.priority g → op.state = done) ∧
    (runsBefore op.type g op.priority → op.state = new)

instance (ops : List OperationEntity) (g : Int) : Decidable (PriorityOrdered ops g) :=
  inferInstanceAs (Decidable (∀ op ∈ ops, _))

/-- In the ordered shape, an operation that is neither `Done` nor `New` sits in the first
open group. -/
theorem priority_eq_of_priorityOrdered {R : List OperationEntity} {t : OperationType}
    {g g' : Int} (hty : ∀ op ∈ R, op.type = t) (hord : PriorityOrdered R g)
    (hopen : ∃ op ∈ R, op.priority = g' ∧ op.state ≠ done)
    (hearlier : ∀ op ∈ R, runsBefore t op.priority g' → op.state = done)
    {op : OperationEntity} (hop : op ∈ R) (hnd : op.state ≠ done) (hnn : op.state ≠ new) :
    op.priority = g' := by
  have hordR : ∀ op ∈ R, (runsBefore t op.priority g → op.state = done) ∧
      (runsBefore t g op.priority → op.state = new) := by
    intro op hop
    rw [← hty op hop]
    exact hord op hop
  -- `op` is neither before nor after `g`, so it sits at `g`
  have hg : op.priority = g := by
    rcases trichotomous (r := runsBefore t) op.priority g with hlt | heq | hgt
    · exact absurd ((hordR op hop).1 hlt) hnd
    · exact heq
    · exact absurd ((hordR op hop).2 hgt) hnn
  -- the open operation of `g'` is not before `g`, and `op` is not before `g'`
  obtain ⟨op', hop', rfl, hnd'⟩ := hopen
  rcases trichotomous (r := runsBefore t) op'.priority g with hlt | heq | hgt
  · exact absurd ((hordR op' hop').1 hlt) hnd'
  · rw [hg, heq]
  · rw [← hg] at hgt
    exact absurd (hearlier op hop hgt) hnd

/-- What may be handed out of the group `G` a reconciliation works on. -/
structure ServesGroup (G : List OperationEntity) (max : Int) (ret : List OperationEntity) :
    Prop where
  /-- Only waiting operations of the group, each as often as the group holds it. -/
  sublist_waiting : ret <+ waiting G
  /-- An `Error` operation blocks the reconciliation. -/
  error_blocks : (∃ op ∈ G, op.state = error) → ret = []
  /-- With a positive bound, at most the capacity the busy operations leave. -/
  length_le : 0 < max → ret.length ≤ (max - (busy G).length).toNat
  /-- Without an `Error` and without throttling, every waiting operation. -/
  complete : (∀ op ∈ G, op.state ≠ error) →
    (max ≤ 0 ∨ ((waiting G).length + (busy G).length : Int) ≤ max) → ret = waiting G

/-- The contract of `findProcessableOperations` for the answer `ret` to the operations `ops`. -/
structure ProcessableSpec (ops : List OperationEntity) (max : Int) (ret : List OperationEntity) :
    Prop where
  /-- No operation is handed out more often than it is stored. -/
  subperm : ret <+~ ops
  /-- A reconciliation whose operations are all `Done` hands out nothing. -/
  all_done : ∀ s, (∀ op ∈ ops, op.schedulingID = s → op.state = done) →
    ret.filter (fun op => op.schedulingID = s) = []
  /-- Every other reconciliation is served out of its first open group. -/
  first_group : ∀ s g, IsFirstOpenGroup ops s g →
    ServesGroup (priorityGroup ops s g) max (ret.filter (fun op => op.schedulingID = s))

/-- One group: `findProcessableOperationsInGroup` serves the group it is given. -/
theorem servesGroup_findProcessableOperationsInGroup (G : List OperationEntity) (max : Int) :
    ServesGroup G max (findProcessableOperationsInGroup G max).1 := by
  rw [findProcessableOperationsInGroup_fst]
  by_cases herr : G.any (fun op => op.state = error)
  · -- the early return on an `Error` operation
    rw [if_pos herr]
    refine ⟨List.nil_sublist _, fun _ => rfl, fun _ => Nat.zero_le _, fun hnoerr _ => ?_⟩
    obtain ⟨op, hop, hst⟩ := List.any_eq_true.1 herr
    exact absurd (of_decide_eq_true hst) (hnoerr op hop)
  · rw [if_neg herr]
    refine ⟨throttle_sublist _ _ _, fun ⟨op, hop, hst⟩ => ?_, fun hmax => length_throttle_le hmax _ _,
      fun _ hfits => throttle_of_fits hfits⟩
    exact absurd (List.any_eq_true.2 ⟨op, hop, decide_eq_true hst⟩) herr

/-- `findProcessableOperations` keeps its contract on every list of operations in which the
operations of one reconciliation share one type, for every bound. -/
theorem findProcessableOperations_correct (ops : List OperationEntity) (max : Int)
    (hty : TypeConsistent ops) : ProcessableSpec ops max (findProcessableOperations ops max) where
  subperm := findProcessableOperations_subperm ops max
  all_done s hdone := by
    rw [filter_findProcessableOperations]
    apply processableInRecon_of_all_done
    intro op hop
    rw [List.mem_filter] at hop
    exact hdone op hop.1 (of_decide_eq_true hop.2)
  first_group s g hg := by
    obtain ⟨op₀, hop₀, hnd₀⟩ := hg.open_op
    obtain ⟨hin₀, hsid₀, hprio₀⟩ := mem_priorityGroup.1 hop₀
    -- the operations of `s` all have the type of `op₀`, which fixes the walking order
    have htyR : ∀ op ∈ ops.filter (fun op => op.schedulingID = s), op.type = op₀.type := by
      intro op hop
      rw [List.mem_filter] at hop
      exact hty op hop.1 op₀ hin₀ ((of_decide_eq_true hop.2).trans hsid₀.symm)
    have hopen : ∃ op ∈ ops.filter (fun op => op.schedulingID = s),
        op.priority = g ∧ op.state ≠ done :=
      ⟨op₀, List.mem_filter.2 ⟨hin₀, decide_eq_true hsid₀⟩, hprio₀, hnd₀⟩
    have hearlier : ∀ op ∈ ops.filter (fun op => op.schedulingID = s),
        runsBefore op₀.type op.priority g → op.state = done := by
      intro op hop hbefore
      apply hg.earlier_done op (List.mem_filter.1 hop).1 (of_decide_eq_true (List.mem_filter.1 hop).2)
      rwa [htyR op hop]
    rw [filter_findProcessableOperations, processableInRecon_of_first_open max s htyR hopen hearlier,
      filter_filter_eq_priorityGroup]
    exact servesGroup_findProcessableOperationsInGroup _ max

theorem findProcessableOperations_correct_three_ops :
    TypeConsistent
        [{ priority := 1, schedulingID := "s", correlationID := "c", type := .reconcile, state := .done },
         { priority := 2, schedulingID := "s", correlationID := "a", type := .reconcile, state := .new },
         { priority := 2, schedulingID := "s", correlationID := "b", type := .reconcile, state := .inProgress }] ∧
      ProcessableSpec
        [{ priority := 1, schedulingID := "s", correlationID := "c", type := .reconcile, state := .done },
         { priority := 2, schedulingID := "s", correlationID := "a", type := .reconcile, state := .new },
         { priority := 2, schedulingID := "s", correlationID := "b", type := .reconcile, state := .inProgress }] 1
        (findProcessableOperations
          [{ priority := 1, schedulingID := "s", correlationID := "c", type := .reconcile, state := .done },
           { priority := 2, schedulingID := "s", correlationID := "a", type := .reconcile, state := .new },
           { priority := 2, schedulingID := "s", correlationID := "b", type := .reconcile, state := .inProgress }] 1) :=
  ⟨by decide, findProcessableOperations_correct _ 1 (by decide)⟩

/-- Without the proviso that the group holds no `Error` operation, a waiting operation of the
first open group can be withheld although nothing throttles: the `Error` beside it blocks. -/
theorem findProcessableOperations_withholds_beside_error :
    ¬ ∀ (ops : List OperationEntity) (s : String) (g : Int), TypeConsistent ops →
      IsFirstOpenGroup ops s g → ∀ op ∈ priorityGroup ops s g, op.state.IsWaiting →
        op ∈ findProcessableOperations ops 0 := by
  intro h
  have hmem := h
    [{ priority := 1, schedulingID := "s", correlationID := "a", type := .reconcile, state := .error },
     { priority := 1, schedulingID := "s", correlationID := "b", type := .reconcile, state := .new }]
    "s" 1 (by decide) (by decide)
    { priority := 1, schedulingID := "s", correlationID := "b", type := .reconcile, state := .new }
    (by decide) (by decide)
  exact absurd hmem (by decide)

/-! ## What a handed-out operation may rely on -/

/-- The operations of reconciliation `s` that run, in the order of type `t`, before priority
`g` are all `Done`. -/
def EarlierDone (ops : List OperationEntity) (s : String) (t : OperationType) (g : Int) : Prop :=
  ∀ op ∈ ops, op.schedulingID = s → runsBefore t op.priority g → op.state = done

/-- `EarlierDone` carries over to operations whose members of reconciliation `s` each have a
counterpart of the same priority that is `Done` only if they are. -/
theorem EarlierDone.mono {ops ops' : List OperationEntity} {s : String} {t : OperationType}
    {g : Int} (h : EarlierDone ops s t g)
    (hsub : ∀ y ∈ ops', y.schedulingID = s → ∃ x ∈ ops, x.schedulingID = s ∧
      x.priority = y.priority ∧ (x.state = done → y.state = done)) :
    EarlierDone ops' s t g := by
  intro y hy hys hbefore
  obtain ⟨x, hx, hxs, hxp, hxd⟩ := hsub y hy hys
  exact hxd (h x hx hxs (hxp ▸ hbefore))

/-- An operation that `findProcessableOperations` hands out is one of the operations, and every
group of its reconciliation that runs before its own is `Done`. -/
theorem earlierDone_of_mem_findProcessableOperations {ops : List OperationEntity} {max : Int}
    {op : OperationEntity} (hty : TypeConsistent ops)
    (hop : op ∈ findProcessableOperations ops max) :
    op ∈ ops ∧ EarlierDone ops op.schedulingID op.type op.priority := by
  have hin : op ∈ ops := (findProcessableOperations_subperm ops max).subset hop
  refine ⟨hin, ?_⟩
  -- the reconciliation of `op`, whose operations all have its type
  have htyR : ∀ o ∈ ops.filter (fun o => o.schedulingID = op.schedulingID), o.type = op.type :=
    fun o ho => hty o (List.mem_filter.1 ho).1 op hin (of_decide_eq_true (List.mem_filter.1 ho).2)
  have hret : op ∈ processableInRecon max
      (op.schedulingID, ops.filter (fun o => o.schedulingID = op.schedulingID)) := by
    rw [← filter_findProcessableOperations]
    exact List.mem_filter.2 ⟨hop, decide_eq_true rfl⟩
  -- the reconciliation has an open group, or nothing of it would be handed out
  by_cases hall : ∀ o ∈ ops.filter (fun o => o.schedulingID = op.schedulingID), o.state = done
  · rw [processableInRecon_of_all_done max _ hall] at hret
    cases hret
  push Not at hall
  obtain ⟨g, hopen, hearlier⟩ := exists_first_open (t := op.type) hall
  rw [processableInRecon_of_first_open max _ htyR hopen hearlier] at hret
  -- `op` was handed out of that group
  have hg : op.priority = g := by
    have hw := (servesGroup_findProcessableOperationsInGroup _ max).sublist_waiting.subset hret
    exact of_decide_eq_true (List.mem_filter.1 (mem_waiting.1 hw).1).2
  intro o ho hsid hbefore
  rw [hg] at hbefore
  exact hearlier o (List.mem_filter.2 ⟨ho, decide_eq_true hsid⟩) hbefore

end Reconciler
