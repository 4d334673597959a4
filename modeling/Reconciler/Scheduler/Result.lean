import Reconciler.Scheduler.Processable

/-!
# The result of a reconciliation

`ReconciliationResult` (`pkg/scheduler/service/result.go`) is how the bookkeeper reads a
reconciliation: it files the operations into four buckets by state and derives the cluster
status from the sizes of the buckets.  A final status makes the bookkeeper finish the
reconciliation; any other keeps it running and waits for the worker pool.

The main result, `getResult_isFinal_iff_idle`, says that the two readers agree.  On every set
of operations the priority-ordered execution can produce, the bookkeeper calls a
reconciliation finished exactly when nothing runs and the worker pool would hand out nothing:
a reconciliation the bookkeeper keeps open always has work that moves.
-/

namespace Reconciler

open OperationState

namespace OperationState

/-- The states `AddOperation` files under `running`: all but `Done`, `Error`, `New` and
`Orphan`. -/
def IsRunning (o : OperationState) : Prop :=
  o = inProgress ∨ o = failed ∨ o = clientError

instance (o : OperationState) : Decidable o.IsRunning :=
  inferInstanceAs (Decidable (_ ∨ _))

theorem IsBusy.isRunning {o : OperationState} (h : o.IsBusy) : o.IsRunning := by
  rcases h with h | h <;> simp [IsRunning, h]

end OperationState

/-- `service.ReconciliationResult`, without its logger. -/
structure ReconciliationResult where
  reconEntity : ReconciliationEntity
  done : List OperationEntity
  error : List OperationEntity
  running : List OperationEntity
  new : List OperationEntity
  deriving DecidableEq, Repr

namespace ReconciliationResult

/-- `newReconciliationResult`. -/
def newReconciliationResult (reconEntity : ReconciliationEntity) : ReconciliationResult :=
  { reconEntity := reconEntity, done := [], error := [], running := [], new := [] }

/-- `ReconciliationResult.AddOperation`. -/
def addOperation (rs : ReconciliationResult) (op : OperationEntity) :
    Except String ReconciliationResult :=
  if op.schedulingID ≠ rs.reconEntity.schedulingID then
    .error ("cannot add operation with schedulingID '" ++ op.schedulingID ++
      "' to reconciliation status with schedulingID '" ++ rs.reconEntity.schedulingID ++ "'")
  else
    match op.state with
    | .done => .ok { rs with done := rs.done ++ [op] }
    | .error => .ok { rs with error := rs.error ++ [op] }
    | .new => .ok { rs with new := rs.new ++ [op] }
    -- orphans are treated like new operations
    | .orphan => .ok { rs with new := rs.new ++ [op] }
    | _ => .ok { rs with running := rs.running ++ [op] }

/-- `ReconciliationResult.AddOperations`: stops at the first operation that is refused. -/
def addOperations (rs : ReconciliationResult) : List OperationEntity →
    Except String ReconciliationResult
  | [] => .ok rs
  | op :: ops =>
      match rs.addOperation op with
      | .error err => .error ("failed to add operations to reconciliation result: " ++ err)
      | .ok rs' => rs'.addOperations ops

/-- `ReconciliationResult.GetOperations`. -/
def getOperations (rs : ReconciliationResult) : List OperationEntity :=
  rs.new ++ rs.running ++ rs.done ++ rs.error

/-- `ReconciliationResult.GetResult`. -/
def getResult (rs : ReconciliationResult) : Status :=
  let isDelete := rs.getOperations.all (fun op => op.type = .delete)
  -- an `Error` operation decides once nothing runs any more
  if rs.error.length > 0 ∧ rs.running.length = 0 then
    if isDelete then .deleteError else .reconcileError
  -- an unfinished operation keeps the cluster in progress
  else if rs.running.length > 0 ∨ rs.new.length > 0 then
    if isDelete then .deleting else .reconciling
  else if rs.done.length > 0 then
    if isDelete then .deleted else .ready
  -- not reached for a reconciliation with operations
  else .reconcileError

/-- `ReconciliationResult.GetOrphans` at the time `now`: the running operations whose last
update lies at least `timeout` back. -/
def getOrphans (rs : ReconciliationResult) (now : Nat) (timeout : Int) : List OperationEntity :=
  rs.running.filter (fun op => (now : Int) - op.updated ≥ timeout)

/-! ## Filing the operations -/

/-- `AddOperations` accepts the operations of its own reconciliation and files each by its
state. -/
theorem addOperations_eq (rs : ReconciliationResult) (ops : List OperationEntity)
    (hsid : ∀ op ∈ ops, op.schedulingID = rs.reconEntity.schedulingID) :
    rs.addOperations ops = .ok
      { rs with
        done := rs.done ++ ops.filter (fun op => op.state = .done)
        error := rs.error ++ ops.filter (fun op => op.state = .error)
        running := rs.running ++ ops.filter (fun op => op.state.IsRunning)
        new := rs.new ++ ops.filter (fun op => op.state = .new ∨ op.state = .orphan) } := by
  induction ops generalizing rs with
  | nil => simp [addOperations]
  | cons op ops ih =>
      have hop : op.schedulingID = rs.reconEntity.schedulingID := hsid op List.mem_cons_self
      have hrest : ∀ o ∈ ops, o.schedulingID = rs.reconEntity.schedulingID :=
        fun o ho => hsid o (List.mem_cons_of_mem _ ho)
      -- one case per branch of the `switch`, each filing `op` into one bucket
      cases hst : op.state <;>
        simp only [addOperations, addOperation, hop, hst, ne_eq, not_true_eq_false, if_false] <;>
        (rw [ih]; simp [hst, IsRunning]; exact hrest)

/-! ## The status the bookkeeper reads -/

/-- `GetResult` is final exactly when nothing runs and either an operation failed for good or
nothing waits. -/
theorem getResult_isFinal_iff (rs : ReconciliationResult) :
    rs.getResult.isFinal = true ↔ rs.running = [] ∧ (rs.error ≠ [] ∨ rs.new = []) := by
  unfold getResult
  by_cases herr : rs.error.length > 0 ∧ rs.running.length = 0
  · rw [if_pos herr]
    have hfin : rs.running = [] ∧ (rs.error ≠ [] ∨ rs.new = []) := by
      refine ⟨List.length_eq_zero_iff.1 herr.2, Or.inl ?_⟩
      exact List.ne_nil_of_length_pos herr.1
    split_ifs <;> simp [Status.isFinal, hfin]
  · rw [if_neg herr]
    by_cases hbusy : rs.running.length > 0 ∨ rs.new.length > 0
    · -- `Deleting` or `Reconciling`
      rw [if_pos hbusy]
      have hnot : ¬ (rs.running = [] ∧ (rs.error ≠ [] ∨ rs.new = [])) := by
        rintro ⟨hrun, herr' | hnew⟩
        · exact herr ⟨List.length_pos_iff.2 herr', by simp [hrun]⟩
        · simp [hrun, hnew] at hbusy
      split_ifs <;> simp [Status.isFinal, hnot]
    · rw [if_neg hbusy]
      have hfin : rs.running = [] ∧ (rs.error ≠ [] ∨ rs.new = []) := by
        simp only [not_or, not_lt, Nat.le_zero, List.length_eq_zero_iff] at hbusy
        exact ⟨hbusy.1, Or.inr hbusy.2⟩
      split_ifs <;> simp [Status.isFinal, hfin]

/-! ## The bookkeeper and the worker pool agree -/

/-- When nothing runs, seeing an `Error` or an empty wait list is the same as the worker pool
handing out nothing. -/
theorem idle_iff_nothing_processable {ops : List OperationEntity} (max : Int) (s : String)
    {t : OperationType} {g : Int} (hty : ∀ op ∈ ops, op.type = t) (hord : PriorityOrdered ops g)
    (hrun : ∀ op ∈ ops, ¬ op.state.IsRunning) :
    (ops.filter (fun op => op.state = .error) ≠ [] ∨
        ops.filter (fun op => op.state = .new ∨ op.state = .orphan) = []) ↔
      processableInRecon max (s, ops) = [] := by
  by_cases hall : ∀ op ∈ ops, op.state = .done
  · -- every group is done: nothing waits and nothing is handed out
    rw [processableInRecon_of_all_done max s hall]
    refine iff_of_true (Or.inr ?_) rfl
    refine List.filter_eq_nil_iff.2 fun op hop h => ?_
    simp [hall op hop] at h
  · push Not at hall
    obtain ⟨g', hopen, hearlier⟩ := exists_first_open (t := t) hall
    rw [processableInRecon_of_first_open max s hty hopen hearlier,
      findProcessableOperationsInGroup_fst]
    by_cases herr : (ops.filter (fun op => op.priority = g')).any (fun op => op.state = .error)
    · -- an `Error` in the first open group blocks it, and the bookkeeper sees that `Error`
      rw [if_pos herr]
      obtain ⟨op, hop, hst⟩ := List.any_eq_true.1 herr
      refine iff_of_true (Or.inl ?_) rfl
      exact List.ne_nil_of_mem (List.mem_filter.2 ⟨(List.mem_filter.1 hop).1, hst⟩)
    · rw [if_neg herr]
      obtain ⟨op₀, hop₀, hprio₀, hnd₀⟩ := hopen
      have hG₀ : op₀ ∈ ops.filter (fun op => op.priority = g') :=
        List.mem_filter.2 ⟨hop₀, decide_eq_true hprio₀⟩
      -- the open operation of the first open group waits
      have hwait₀ : op₀.state = .new ∨ op₀.state = .orphan := by
        have hnoerr₀ : op₀.state ≠ .error :=
          fun h => herr (List.any_eq_true.2 ⟨op₀, hG₀, decide_eq_true h⟩)
        have hrun₀ := hrun op₀ hop₀
        revert hnd₀ hnoerr₀ hrun₀
        cases op₀.state <;> simp [IsRunning]
      -- no operation is in `Error`: one would sit in the first open group
      have hnoerr : ∀ op ∈ ops, op.state ≠ .error := by
        intro op hop hst
        have hprio : op.priority = g' := priority_eq_of_priorityOrdered hty hord
          ⟨op₀, hop₀, hprio₀, hnd₀⟩ hearlier hop (by simp [hst]) (by simp [hst])
        exact herr (List.any_eq_true.2
          ⟨op, List.mem_filter.2 ⟨hop, decide_eq_true hprio⟩, decide_eq_true hst⟩)
      have hbusy : busy (ops.filter (fun op => op.priority = g')) = [] :=
        List.filter_eq_nil_iff.2 fun op hop h =>
          hrun op (List.mem_filter.1 hop).1 (of_decide_eq_true h).isRunning
      rw [hbusy, List.length_nil, throttle_zero_eq_nil]
      constructor
      · rintro (hne | hnil)
        · exact absurd (List.filter_eq_nil_iff.2 fun op hop h => hnoerr op hop (of_decide_eq_true h)) hne
        · exact absurd (decide_eq_true hwait₀) (List.filter_eq_nil_iff.1 hnil op₀ hop₀)
      · intro hnil
        have hmem : op₀ ∈ waiting (ops.filter (fun op => op.priority = g')) := by
          refine mem_waiting.2 ⟨hG₀, ?_⟩
          rcases hwait₀ with h | h <;> simp [IsWaiting, h]
        rw [hnil] at hmem
        exact absurd hmem List.not_mem_nil

/-- On every set of operations of one reconciliation that the priority-ordered execution can
produce, `GetResult` is final exactly when `findProcessableOperations` hands out nothing of the
reconciliation and no operation runs. -/
theorem getResult_isFinal_iff_idle (recon : ReconciliationEntity) (ops : List OperationEntity)
    (max g : Int) (hsid : ∀ op ∈ ops, op.schedulingID = recon.schedulingID)
    (hty : TypeConsistent ops) (hord : PriorityOrdered ops g) :
    ∃ rs, (newReconciliationResult recon).addOperations ops = .ok rs ∧
      (rs.getResult.isFinal = true ↔
        (findProcessableOperations ops max).filter
            (fun op => op.schedulingID = recon.schedulingID) = [] ∧
          ∀ op ∈ ops, ¬ op.state.IsRunning) := by
  refine ⟨_, addOperations_eq _ ops hsid, ?_⟩
  obtain ⟨t, htyt⟩ := hty.exists_type hsid
  have hrun_iff : ops.filter (fun op => op.state.IsRunning) = [] ↔
      ∀ op ∈ ops, ¬ op.state.IsRunning := by
    simp [List.filter_eq_nil_iff]
  rw [getResult_isFinal_iff, filter_findProcessableOperations,
    List.filter_eq_self.2 fun op hop => decide_eq_true (hsid op hop)]
  dsimp only [newReconciliationResult]
  rw [List.nil_append, List.nil_append, List.nil_append, hrun_iff]
  constructor
  · rintro ⟨hrun, hfin⟩
    exact ⟨(idle_iff_nothing_processable max _ htyt hord hrun).1 hfin, hrun⟩
  · rintro ⟨hnil, hrun⟩
    exact ⟨hrun, (idle_iff_nothing_processable max _ htyt hord hrun).2 hnil⟩

theorem getResult_isFinal_iff_idle_second_group :
    ∃ rs, (newReconciliationResult { schedulingID := "s" }).addOperations
        [{ priority := 1, schedulingID := "s", type := .reconcile, state := .done },
         { priority := 2, schedulingID := "s", type := .reconcile, state := .new }] = .ok rs ∧
      (rs.getResult.isFinal = true ↔
        (findProcessableOperations
            [{ priority := 1, schedulingID := "s", type := .reconcile, state := .done },
             { priority := 2, schedulingID := "s", type := .reconcile, state := .new }] 0).filter
            (fun op => op.schedulingID = "s") = [] ∧
          ∀ op ∈ [({ priority := 1, schedulingID := "s", type := .reconcile, state := .done } :
                    OperationEntity),
                  { priority := 2, schedulingID := "s", type := .reconcile, state := .new }],
            ¬ op.state.IsRunning) :=
  getResult_isFinal_iff_idle _ _ 0 2 (by decide) (by decide) (by decide)

end ReconciliationResult

end Reconciler
