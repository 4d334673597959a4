import Reconciler.Scheduler.Ordering
import Reconciler.Scheduler.Result
import Reconciler.Scheduler.Filter

/-!
# The bookkeeper

`bookkeeper.Run` (`pkg/scheduler/service/bookkeeper.go`) wakes up on every tick of its ticker,
reads the reconciliations that are not finished, and evaluates each one from its operations,
read again from the repository, into a `ReconciliationResult`.  It hands each result to its
tasks in order.  The mothership runs it with `markOrphanOperation`, which marks as `Orphan` the
running operations without an update for `OrphanOperationTimeout`, and `finishOperation`, which
finishes a reconciliation whose status is final (`bookkeepingtask.go`).

A tick is modelled on the in-memory repository at one instant `now`.  What it does to the
operations is `markOrphans`: an operation that runs, belongs to a reconciliation that is not
finished, and was last updated at least the timeout ago becomes an orphan updated at `now`, and
no other operation changes (`tick_operations`).  A tick is also a run of the mothership's actions
(`tick_refines`).  The bookkeeper only marks operations an invoker was called for, because a
running operation always was (`invoked_of_running`), so what is proved of `Mothership.Step` runs
holds with the bookkeeper's ticks among the steps.
-/

namespace Reconciler

open OperationState KeyValue Transition Relation InMemoryReconciliationRepository

namespace InMemoryReconciliationRepository

/-- Every operation is stored under its own IDs, as the repository's methods store it. -/
def KeyedByID (r : InMemoryReconciliationRepository) : Prop :=
  ∀ k op, r.operations.lookup k = some op → op.key = k

/-- A repository whose operations are those of a keyed one, each changed without its IDs, is
keyed too. -/
theorem KeyedByID.of_lookup_map {r r' : InMemoryReconciliationRepository} (hr : r.KeyedByID)
    {g : OperationEntity → OperationEntity} (hg : ∀ op, (g op).key = op.key)
    (h : ∀ k, r'.operations.lookup k = (r.operations.lookup k).map g) : r'.KeyedByID := by
  intro k op hk
  rw [h k] at hk
  obtain ⟨o, ho, rfl⟩ := Option.map_eq_some_iff.1 hk
  rw [hg o]
  exact hr k o ho

end InMemoryReconciliationRepository

namespace Bookkeeper

/-! ## The model -/

/-- `BookkeepingTask`, by what its `Apply` does to the repository: the errors it returns are
only logged. -/
structure BookkeepingTask where
  apply : ReconciliationResult → InMemoryReconciliationRepository →
    InMemoryReconciliationRepository

/-- `bookkeeper.newReconciliationResult`. -/
def newReconciliationResult (r : InMemoryReconciliationRepository)
    (recon : ReconciliationEntity) : Except String ReconciliationResult :=
  let ops := InMemoryReconciliationRepository.getOperations r.allOperations
    (some (OperationFilter.withSchedulingID recon.schedulingID))
  (ReconciliationResult.newReconciliationResult recon).addOperations ops

/-- `markOrphanOperation`, at the time `now` and with the `OrphanOperationTimeout` of the
configuration. -/
def markOrphanOperation (orphanOperationTimeout : Int) (now : Nat) : BookkeepingTask where
  apply reconResult r :=
    (reconResult.getOrphans now orphanOperationTimeout).foldl
      (fun r orphanOp =>
        -- operations already marked as orphan are not updated again
        if orphanOp.state = orphan then r
        else Mothership.commit r (r.updateOperationState orphanOp.schedulingID
          orphanOp.correlationID orphan false [] now))
      r

/-- `finishOperation`, on the reconciliation repository.  The status it finishes with is
decided from the result and the inventory (`FinishOperation.newClusterStatus`) and written to
the inventory by the transition first; `finished` gives the cluster status the inventory then
holds, or `none` when the status is not final or the inventory call failed. -/
def finishOperation (finished : ReconciliationResult → Option ClusterStatusEntity) (now : Nat) :
    BookkeepingTask where
  apply reconResult r :=
    match finished reconResult with
    | none => r
    | some status =>
        Mothership.commit r
          (r.finishReconciliation reconResult.reconEntity.schedulingID status now)

/-- The body of `Run`'s loop: one reconciliation evaluated and handed to the tasks. -/
def evaluateReconciliation (tasks : List BookkeepingTask) (r : InMemoryReconciliationRepository)
    (recon : ReconciliationEntity) : InMemoryReconciliationRepository :=
  match newReconciliationResult r recon with
  -- logged; the next reconciliation is evaluated
  | .error _ => r
  | .ok reconResult => tasks.foldl (fun r task => task.apply reconResult r) r

/-- One tick of `bookkeeper.Run`. -/
def tick (tasks : List BookkeepingTask) (r : InMemoryReconciliationRepository) :
    InMemoryReconciliationRepository :=
  (InMemoryReconciliationRepository.getReconciliations (values r.reconciliations)
    (some ReconciliationFilter.currentlyReconciling)).foldl (evaluateReconciliation tasks) r

/-- The tasks `RunRemote.Run` starts the bookkeeper with (`run.go`). -/
def bookkeepingTasks (orphanOperationTimeout : Int)
    (finished : ReconciliationResult → Option ClusterStatusEntity) (now : Nat) :
    List BookkeepingTask :=
  [markOrphanOperation orphanOperationTimeout now, finishOperation finished now]

/-! ## What a tick is for -/

/-- An orphan as `markOrphanOperation` writes it. -/
def markedOrphan (now : Nat) (op : OperationEntity) : OperationEntity :=
  { op with state := orphan, reason := "", updated := now }

/-- An operation the bookkeeper takes for an orphan, by the reconciliations `recons` stored when
the tick starts: it runs, its reconciliation is not finished, and its last update lies at least
`timeout` back. -/
def IsOrphan (recons : List ReconciliationEntity) (timeout : Int) (now : Nat)
    (op : OperationEntity) : Prop :=
  op.state.IsRunning ∧
    (∃ recon ∈ recons, recon.finished = false ∧ recon.schedulingID = op.schedulingID) ∧
    (now : Int) - op.updated ≥ timeout

instance (recons : List ReconciliationEntity) (timeout : Int) (now : Nat) (op : OperationEntity) :
    Decidable (IsOrphan recons timeout now op) :=
  inferInstanceAs (Decidable (_ ∧ _ ∧ _))

/-- What a tick makes of an operation. -/
def markOrphans (recons : List ReconciliationEntity) (timeout : Int) (now : Nat)
    (op : OperationEntity) : OperationEntity :=
  if IsOrphan recons timeout now op then markedOrphan now op else op

section Orphans

variable {recons P Q : List ReconciliationEntity} {timeout : Int} {now : Nat}
  {op : OperationEntity}

@[simp] theorem markedOrphan_key (op : OperationEntity) : (markedOrphan now op).key = op.key := rfl

theorem not_isOrphan_markedOrphan : ¬IsOrphan recons timeout now (markedOrphan now op) := by
  rintro ⟨hrun, -⟩
  simp [markedOrphan, IsRunning] at hrun

theorem isOrphan_append :
    IsOrphan (P ++ Q) timeout now op ↔ IsOrphan P timeout now op ∨ IsOrphan Q timeout now op := by
  simp only [IsOrphan, List.mem_append]
  constructor
  · rintro ⟨hrun, ⟨recon, hP | hQ, hrecon⟩, hstale⟩
    · exact .inl ⟨hrun, ⟨recon, hP, hrecon⟩, hstale⟩
    · exact .inr ⟨hrun, ⟨recon, hQ, hrecon⟩, hstale⟩
  · rintro (⟨hrun, ⟨recon, hP, hrecon⟩, hstale⟩ | ⟨hrun, ⟨recon, hQ, hrecon⟩, hstale⟩)
    · exact ⟨hrun, ⟨recon, .inl hP, hrecon⟩, hstale⟩
    · exact ⟨hrun, ⟨recon, .inr hQ, hrecon⟩, hstale⟩

@[simp] theorem markOrphans_nil : markOrphans [] timeout now = id := by
  funext op
  simp [markOrphans, IsOrphan]

@[simp] theorem markOrphans_key : (markOrphans recons timeout now op).key = op.key := by
  unfold markOrphans
  split_ifs <;> rfl

/-- Marking by `P` and then by `Q` is marking by both: an orphan is not marked twice. -/
theorem markOrphans_markOrphans :
    markOrphans Q timeout now (markOrphans P timeout now op) = markOrphans (P ++ Q) timeout now op := by
  by_cases hP : IsOrphan P timeout now op
  · have hPQ : IsOrphan (P ++ Q) timeout now op := isOrphan_append.2 (.inl hP)
    have hinner : markOrphans P timeout now op = markedOrphan now op := if_pos hP
    rw [hinner]
    unfold markOrphans
    rw [if_neg not_isOrphan_markedOrphan, if_pos hPQ]
  · have hiff : IsOrphan (P ++ Q) timeout now op ↔ IsOrphan Q timeout now op := by
      rw [isOrphan_append, or_iff_right hP]
    have hinner : markOrphans P timeout now op = op := if_neg hP
    rw [hinner]
    unfold markOrphans
    simp only [hiff]

/-- Only the reconciliations that are not finished decide. -/
theorem markOrphans_filter_finished :
    markOrphans (recons.filter (fun recon => !recon.finished)) timeout now op =
      markOrphans recons timeout now op := by
  have hiff : IsOrphan (recons.filter (fun recon => !recon.finished)) timeout now op ↔
      IsOrphan recons timeout now op := by
    simp only [IsOrphan, List.mem_filter, Bool.not_eq_true']
    constructor
    · rintro ⟨hrun, ⟨recon, ⟨hmem, -⟩, hrecon⟩, hstale⟩
      exact ⟨hrun, ⟨recon, hmem, hrecon⟩, hstale⟩
    · rintro ⟨hrun, ⟨recon, hmem, hfin, hsid⟩, hstale⟩
      exact ⟨hrun, ⟨recon, ⟨hmem, hfin⟩, hfin, hsid⟩, hstale⟩
  unfold markOrphans
  simp only [hiff]

end Orphans

/-! ## Spec lemmas -/

section Spec

variable {r : InMemoryReconciliationRepository} {recon : ReconciliationEntity}
  {rs : ReconciliationResult} {timeout : Int} {now : Nat}

theorem getOperations_withSchedulingID (ops : List OperationEntity) (schedulingID : String) :
    InMemoryReconciliationRepository.getOperations ops
        (some (OperationFilter.withSchedulingID schedulingID)) =
      ops.filter (fun op => op.schedulingID == schedulingID) :=
  keepByInstance_keepIf (fun _ => rfl) ops

theorem getReconciliations_currentlyReconciling (reconciliations : List ReconciliationEntity) :
    InMemoryReconciliationRepository.getReconciliations reconciliations
        (some ReconciliationFilter.currentlyReconciling) =
      reconciliations.filter (fun recon => !recon.finished) :=
  keepByInstance_keepIf (fun _ => rfl) reconciliations

/-- The in-memory repository always evaluates a reconciliation: it files the operations of its
scheduling ID by state. -/
theorem newReconciliationResult_eq (r : InMemoryReconciliationRepository)
    (recon : ReconciliationEntity) :
    newReconciliationResult r recon = .ok
      { reconEntity := recon
        done := (r.allOperations.filter (fun op => op.schedulingID == recon.schedulingID)).filter
          (fun op => op.state = .done)
        error := (r.allOperations.filter (fun op => op.schedulingID == recon.schedulingID)).filter
          (fun op => op.state = .error)
        running := (r.allOperations.filter (fun op => op.schedulingID == recon.schedulingID)).filter
          (fun op => op.state.IsRunning)
        new := (r.allOperations.filter (fun op => op.schedulingID == recon.schedulingID)).filter
          (fun op => op.state = .new ∨ op.state = .orphan) } := by
  unfold newReconciliationResult
  rw [getOperations_withSchedulingID, ReconciliationResult.addOperations_eq]
  · simp [ReconciliationResult.newReconciliationResult]
  · intro op hop
    simpa [ReconciliationResult.newReconciliationResult] using (List.mem_filter.1 hop).2

/-- The orphans of an evaluated reconciliation are its stored operations that run and were
last updated at least the timeout ago. -/
theorem mem_getOrphans (h : newReconciliationResult r recon = .ok rs) {op : OperationEntity} :
    op ∈ rs.getOrphans now timeout ↔ op ∈ r.allOperations ∧
      op.schedulingID = recon.schedulingID ∧ op.state.IsRunning ∧
      (now : Int) - op.updated ≥ timeout := by
  rw [newReconciliationResult_eq, Except.ok.injEq] at h
  subst h
  simp only [ReconciliationResult.getOrphans, List.mem_filter, beq_iff_eq, decide_eq_true_eq,
    and_assoc]

/-- What `UpdateOperationState` to `Orphan` makes of a stored operation: the call fails on a
final operation and on an orphan, and marks any other. -/
def orphanWrite (now : Nat) (op : OperationEntity) : OperationEntity :=
  if op.state.isFinal = true ∨ op.state = orphan then op else markedOrphan now op

theorem orphanWrite_orphanWrite (op : OperationEntity) :
    orphanWrite now (orphanWrite now op) = orphanWrite now op := by
  by_cases hop : op.state.isFinal = true ∨ op.state = orphan
  · have hkeep : orphanWrite now op = op := if_pos hop
    rw [hkeep, hkeep]
  · have hmark : orphanWrite now op = markedOrphan now op := if_neg hop
    rw [hmark]
    exact if_pos (.inr rfl)

theorem orphanWrite_of_isRunning {op : OperationEntity} (hrun : op.state.IsRunning) :
    orphanWrite now op = markedOrphan now op := by
  have hop : ¬(op.state.isFinal = true ∨ op.state = orphan) := by
    rcases hrun with h | h | h <;> simp [h]
  rw [orphanWrite, if_neg hop]

/-- One write of `markOrphanOperation`, under each key. -/
theorem lookup_commit_updateOperationState_orphan (r : InMemoryReconciliationRepository)
    (schedulingID correlationID : String) (now : Nat) (k : String × String) :
    (Mothership.commit r
        (r.updateOperationState schedulingID correlationID orphan false [] now)).operations.lookup k =
      if (schedulingID, correlationID) = k then (r.operations.lookup k).map (orphanWrite now)
      else r.operations.lookup k := by
  cases hl : r.operations.lookup (schedulingID, correlationID) with
  | none =>
    -- an unknown operation: the call fails
    have herr : r.updateOperationState schedulingID correlationID orphan false [] now =
        .error .entityNotFound := by
      rw [updateOperationState, hl]
    rw [herr]
    dsimp only [Mothership.commit]
    split_ifs with hk
    · rw [← hk, hl]
      rfl
    · rfl
  | some o =>
    by_cases hbad : o.state.isFinal = true ∨ o.state = orphan
    · -- the call fails and the stored operation is what `orphanWrite` keeps
      have herr : ∃ e, r.updateOperationState schedulingID correlationID orphan false [] now =
          .error e := by
        unfold updateOperationState
        rw [hl]
        dsimp only
        rcases hbad with hfin | horph
        · by_cases hin : o.state = orphan ∧ (!false) = true
          · exact ⟨_, if_pos hin⟩
          · rw [if_neg hin, if_pos hfin]
            exact ⟨_, rfl⟩
        · exact ⟨_, if_pos ⟨horph, rfl⟩⟩
      obtain ⟨e, he⟩ := herr
      rw [he]
      dsimp only [Mothership.commit]
      split_ifs with hk
      · rw [← hk, hl, Option.map_some, orphanWrite, if_pos hbad]
      · rfl
    · have hfin : o.state.isFinal = false := Bool.eq_false_iff.2 fun h => hbad (.inl h)
      have hok : r.updateOperationState schedulingID correlationID orphan false [] now =
          .ok (r.putOperation schedulingID correlationID (markedOrphan now o)) :=
        updateOperationState_of_lookup hl hfin (fun h => absurd (.inr h) hbad) rfl
      rw [hok]
      dsimp only [Mothership.commit]
      rw [lookup_putOperation]
      split_ifs with hk hk' hk'
      · rw [← hk', hl, Option.map_some, orphanWrite, if_neg hbad]
      · exact absurd hk.symm hk'
      · exact absurd hk'.symm hk
      · rfl

/-- What `markOrphanOperation` does under each key: it writes each orphan that is not one
already. -/
theorem lookup_markOrphanOperation (timeout : Int) (now : Nat) (rs : ReconciliationResult)
    (r : InMemoryReconciliationRepository) (k : String × String) :
    ((markOrphanOperation timeout now).apply rs r).operations.lookup k =
      if ∃ op ∈ rs.getOrphans now timeout, op.state ≠ orphan ∧ op.key = k then
        (r.operations.lookup k).map (orphanWrite now)
      else r.operations.lookup k := by
  refine lookup_foldl_write (fun r : InMemoryReconciliationRepository => r.operations.lookup)
    (orphanWrite now) orphanWrite_orphanWrite _ (fun (op : OperationEntity) k => op.state ≠ orphan ∧ op.key = k)
    (fun r op k => ?_) _ r k
  by_cases horph : op.state = orphan
  · simp [horph]
  · rw [if_neg horph, lookup_commit_updateOperationState_orphan]
    simp only [horph, ne_eq, not_false_eq_true, true_and]
    rfl

/-- **One reconciliation's orphans.** On a keyed repository, `markOrphanOperation` on a
reconciliation that is not finished marks its own operations by `markOrphans`. -/
theorem lookup_markOrphanOperation_of_keyedByID (hkey : r.KeyedByID)
    (h : newReconciliationResult r recon = .ok rs) (hfin : recon.finished = false)
    (k : String × String) :
    ((markOrphanOperation timeout now).apply rs r).operations.lookup k =
      (r.operations.lookup k).map (markOrphans [recon] timeout now) := by
  have hiff : ∀ o, IsOrphan [recon] timeout now o ↔ o.schedulingID = recon.schedulingID ∧
      o.state.IsRunning ∧ (now : Int) - o.updated ≥ timeout := by
    intro o
    simp only [IsOrphan, List.mem_singleton, exists_eq_left, hfin, true_and]
    constructor
    · rintro ⟨hrun, hsid, hstale⟩
      exact ⟨hsid.symm, hrun, hstale⟩
    · rintro ⟨hsid, hrun, hstale⟩
      exact ⟨hrun, hsid.symm, hstale⟩
  rw [lookup_markOrphanOperation]
  cases hl : r.operations.lookup k with
  | none => simp
  | some o =>
    rw [Option.map_some, Option.map_some, markOrphans]
    by_cases ho : IsOrphan [recon] timeout now o
    · -- the stored operation is one of the orphans read, under its own key
      obtain ⟨hsid, hrun, hstale⟩ := (hiff o).1 ho
      have hmem : o ∈ rs.getOrphans now timeout :=
        (mem_getOrphans h).2 ⟨mem_values.2 ⟨k, hl⟩, hsid, hrun, hstale⟩
      have hnot : o.state ≠ orphan := fun horph => absurd (horph ▸ hrun) (by decide)
      rw [if_pos ⟨o, hmem, hnot, hkey k o hl⟩, if_pos ho, orphanWrite_of_isRunning hrun]
    · -- an orphan read under `k` would be the stored operation
      have hnone : ¬∃ op ∈ rs.getOrphans now timeout, op.state ≠ orphan ∧ op.key = k := by
        rintro ⟨op, hop, -, rfl⟩
        obtain ⟨hvals, hsid, hrun, hstale⟩ := (mem_getOrphans h).1 hop
        obtain ⟨k', hk'⟩ := mem_values.1 hvals
        have hself : r.operations.lookup op.key = some op := by
          rw [hkey k' op hk']
          exact hk'
        rw [hl, Option.some.injEq] at hself
        subst hself
        exact ho ((hiff o).2 ⟨hsid, hrun, hstale⟩)
      rw [if_neg hnone, if_neg ho]

/-- `finishOperation` changes no operation. -/
theorem finishOperation_operations (finished : ReconciliationResult → Option ClusterStatusEntity)
    (now : Nat) (rs : ReconciliationResult) (r : InMemoryReconciliationRepository) :
    ((finishOperation finished now).apply rs r).operations = r.operations := by
  unfold finishOperation
  dsimp only
  split
  · rfl
  · rename_i status _
    cases hf : r.finishReconciliation rs.reconEntity.schedulingID status now with
    | error e => rfl
    | ok r' => exact finishReconciliation_operations hf

end Spec

end Bookkeeper

/-! ## Running operations were invoked -/

namespace InMemoryReconciliationRepository

section StateWrites

variable {r : InMemoryReconciliationRepository} {schedulingID correlationID : String}
  {k : String × String} {op : OperationEntity} {now : Nat}

/-- After `UpdateOperationState`, an operation is the one stored before, or the one written, in
the requested state. -/
theorem lookup_commit_updateOperationState {state : OperationState} {allowInState : Bool}
    {reasons : List String}
    (h : (Mothership.commit r (r.updateOperationState schedulingID correlationID state
      allowInState reasons now)).operations.lookup k = some op) :
    r.operations.lookup k = some op ∨ (k = (schedulingID, correlationID) ∧ op.state = state) := by
  cases hu : r.updateOperationState schedulingID correlationID state allowInState reasons now with
  | error e =>
    rw [hu] at h
    exact .inl h
  | ok r' =>
    obtain ⟨o, reason, -, -, -, -, rfl⟩ := updateOperationState_ok hu
    rw [hu] at h
    dsimp only [Mothership.commit] at h
    rw [lookup_putOperation] at h
    split_ifs at h with hk
    · cases h
      exact .inr ⟨hk, rfl⟩
    · exact .inl h

/-- `UpdateOperationRetryID` keeps every state. -/
theorem lookup_commit_updateOperationRetryID {retryID : String}
    (h : (Mothership.commit r (r.updateOperationRetryID schedulingID correlationID retryID
      now)).operations.lookup k = some op) :
    ∃ o, r.operations.lookup k = some o ∧ o.state = op.state := by
  cases hu : r.updateOperationRetryID schedulingID correlationID retryID now with
  | error e =>
    rw [hu] at h
    exact ⟨op, h, rfl⟩
  | ok r' =>
    obtain ⟨o, ho, rfl⟩ := updateOperationRetryID_ok hu
    rw [hu] at h
    dsimp only [Mothership.commit] at h
    rw [lookup_putOperation] at h
    by_cases hk : k = (schedulingID, correlationID)
    · rw [if_pos hk] at h
      cases h
      refine ⟨o, hk ▸ ho, ?_⟩
      by_cases hid : o.retryID ≠ retryID <;> simp [hid]
    · rw [if_neg hk] at h
      exact ⟨op, h, rfl⟩

/-- `UpdateOperationPickedUp` keeps every state. -/
theorem lookup_commit_updateOperationPickedUp
    (h : (Mothership.commit r (r.updateOperationPickedUp schedulingID correlationID
      now)).operations.lookup k = some op) :
    ∃ o, r.operations.lookup k = some o ∧ o.state = op.state := by
  cases hu : r.updateOperationPickedUp schedulingID correlationID now with
  | error e =>
    rw [hu] at h
    exact ⟨op, h, rfl⟩
  | ok r' =>
    obtain ⟨o, ho, rfl⟩ := updateOperationPickedUp_ok hu
    rw [hu] at h
    dsimp only [Mothership.commit] at h
    rw [lookup_putOperation] at h
    split_ifs at h with hk
    · cases h
      exact ⟨o, hk ▸ ho, rfl⟩
    · exact ⟨op, h, rfl⟩

end StateWrites

end InMemoryReconciliationRepository

namespace Mothership

variable {σ σ' : Mothership}

/-- Every running operation was handed to an invoker. -/
def RunningInvoked (σ : Mothership) : Prop :=
  ∀ k op, σ.repo.operations.lookup k = some op → op.state.IsRunning → k ∈ σ.invoked

/-- Operations are invoked for good. -/
theorem invoked_subset_step (h : Step σ σ') : σ.invoked ⊆ σ'.invoked := by
  cases h
  case invokeRemote => exact List.subset_cons_self _ _
  case invokeLocal => exact List.subset_cons_self _ _
  all_goals exact List.Subset.refl _

/-- Every action keeps `RunningInvoked`: an operation starts to run only by an invoker or by a
callback for an invoked operation, and the other writes set states that do not run or keep the
state. -/
theorem RunningInvoked.step (hσ : RunningInvoked σ) (h : Step σ σ') : RunningInvoked σ' := by
  intro k op hk hrun
  cases h with
  | create state cfg ids now r' recon cleaner' hok hids hfresh =>
    -- the operations of a new reconciliation are `New`
    obtain ⟨-, -, hops⟩ := InMemoryReconciliationRepository.createReconciliation_ok hok
    dsimp only at hk
    rw [hops] at hk
    rcases lookup_foldl_insert hk with ⟨hnew, -⟩ | hold
    · obtain ⟨p, c, i, rfl⟩ := mem_queueOperations hnew
      simp [newOperation, IsRunning] at hrun
    · exact hσ k op hold hrun
  | poll max => exact hσ k op hk hrun
  | exceedRetries o ho maxOperationRetries hmax now =>
    rcases lookup_commit_updateOperationState hk with hold | ⟨-, hst⟩
    · exact hσ k op hold hrun
    · simp [hst, IsRunning] at hrun
  | discard o ho reason now =>
    rcases lookup_commit_updateOperationState hk with hold | ⟨-, hst⟩
    · exact hσ k op hold hrun
    · simp [hst, IsRunning] at hrun
  | invokeRemote o ho hproc cur hcur hnot now r₁ h₁ =>
    -- the pickup keeps the state that the first write set under the invoked key
    obtain ⟨o₁, hk₁, hst⟩ := lookup_commit_updateOperationPickedUp hk
    obtain ⟨o', reason, -, -, -, -, rfl⟩ := updateOperationState_ok h₁
    rw [lookup_putOperation] at hk₁
    split_ifs at hk₁ with hkey
    · rw [hkey]
      exact List.mem_cons_self
    · exact List.mem_cons_of_mem _ (hσ k o₁ hk₁ (hst ▸ hrun))
  | invokeLocal o ho hproc => exact List.mem_cons_of_mem _ (hσ k op hk hrun)
  | callback k' hk' state hstate reasons now =>
    rcases lookup_commit_updateOperationState hk with hold | ⟨rfl, -⟩
    · exact hσ k op hold hrun
    · exact hk'
  | updateRetryID k' hk' retryID now =>
    obtain ⟨o, hold, hst⟩ := lookup_commit_updateOperationRetryID hk
    exact hσ k o hold (hst ▸ hrun)
  | markOrphan k' hk' now =>
    rcases lookup_commit_updateOperationState hk with hold | ⟨-, hst⟩
    · exact hσ k op hold hrun
    · simp [hst, IsRunning] at hrun
  | release o ho => exact hσ k op hk hrun
  | finish schedulingID status now =>
    cases hf : σ.repo.finishReconciliation schedulingID status now with
    | error e =>
      rw [hf] at hk
      exact hσ k op hk hrun
    | ok r' =>
      rw [hf] at hk
      dsimp only [commit] at hk
      rw [finishReconciliation_operations hf] at hk
      exact hσ k op hk hrun
  | removeBySchedulingIDs schedulingIDs =>
    exact hσ k op (lookup_removeReconciliationsBySchedulingID hk) hrun
  | removeByRuntimeID runtimeID => exact hσ k op (lookup_removeReconciliationByRuntimeID hk) hrun
  | removeBeforeDeadline runtimeID latestSchedulingID deadline =>
    exact hσ k op (lookup_removeReconciliationsBeforeDeadline hk) hrun

theorem runningInvoked_init : RunningInvoked init := by
  intro k op hk
  simp [init, InMemoryReconciliationRepository.empty] at hk

theorem runningInvoked_invariant : Invariant Step RunningInvoked :=
  fun _ _ hσ h => hσ.step h

theorem runningInvoked_of_reachable (h : Reachable Step init σ) : RunningInvoked σ :=
  runningInvoked_invariant.reachable runningInvoked_init h

/-- **Only invoked operations run.** In every state the mothership reaches, each stored
operation in a running state (`InProgress`, `Failed` or `ClientError`) is one an invoker was
called for. -/
theorem invoked_of_running (h : Reachable Step init σ) {op : OperationEntity}
    (hop : op ∈ σ.repo.allOperations) (hrun : op.state.IsRunning) : op.key ∈ σ.invoked :=
  runningInvoked_of_reachable h op.key op ((ordered_of_reachable h).lookup_self hop) hrun

/-! ### A run that leaves an operation running -/

/-- Distinct UUIDs. -/
def uuids (n : Nat) : String :=
  String.ofList (List.replicate n 'u')

theorem uuids_injective : Function.Injective uuids := by
  intro a b h
  have hlist := congrArg String.toList h
  simpa [uuids] using hlist

/-- A cluster of `runtime` with the one component `istio`, pending reconciliation. -/
def istioCluster : ClusterState where
  cluster := { runtimeID := "runtime" }
  configuration := { version := 1, runtimeID := "runtime", components := [{ component := "istio" }] }
  status := { id := 1, runtimeID := "runtime", status := .reconcilePending }

/-- A sequence configuration without pre-components. -/
def plainSequence : ReconciliationSequenceConfig where
  preComponents := []
  deleteStrategy := ""
  reconciliationStatus := .reconcilePending

/-- What `CreateReconciliation` returns for `istioCluster` at time `0`. -/
def istioCreation : InMemoryReconciliationRepository × ReconciliationEntity × List Configuration :=
  match init.repo.createReconciliation istioCluster plainSequence init.cleaner uuids 0 with
  | .ok created => created
  | .error _ => (init.repo, {}, [])

/-- The operation of the `CRDs` component, which the sequence puts in the first group. -/
def crdsOperation : OperationEntity :=
  { priority := 1, schedulingID := "runtime--", correlationID := "runtime--u", runtimeID := "runtime",
    clusterConfig := 1, component := "CRDs", type := .reconcile, state := new, retryID := "uu" }

/-- The reconciliation of `istioCluster` created. -/
def istioCreated : Mothership :=
  { init with
    repo := istioCreation.1
    cleaner := istioCreation.2.2
    schedulingIDs := istioCreation.2.1.schedulingID :: init.schedulingIDs }

/-- Its operations fetched by the worker pool. -/
def istioPolled : Mothership :=
  { istioCreated with pending := istioCreated.pending ++ istioCreated.repo.getProcessableOperations 1 }

/-- The `CRDs` operation handed to the local invoker. -/
def crdsInvoked : Mothership :=
  { istioPolled with invoked := crdsOperation.key :: istioPolled.invoked }

/-- Its component reconciler reporting `InProgress` at time `5`. -/
def crdsRunning : Mothership :=
  { crdsInvoked with
    repo := commit crdsInvoked.repo (crdsInvoked.repo.updateOperationState
      crdsOperation.schedulingID crdsOperation.correlationID inProgress true [] 5) }

theorem crdsRunning_reachable : Reachable Step init crdsRunning := by
  have hcreate : Step init istioCreated :=
    Step.create istioCluster plainSequence uuids 0 istioCreation.1 istioCreation.2.1
      istioCreation.2.2 rfl uuids_injective (by decide)
  have hpoll : Step istioCreated istioPolled := Step.poll 1
  have hinvoke : Step istioPolled crdsInvoked :=
    Step.invokeLocal crdsOperation (by decide) (by decide)
  have hcallback : Step crdsInvoked crdsRunning :=
    Step.callback crdsOperation.key (by decide) inProgress (by decide) [] 5
  exact (((ReflTransGen.single hcreate).tail hpoll).tail hinvoke).tail hcallback

/-- The `CRDs` operation as the callback left it. -/
def crdsInProgress : OperationEntity :=
  { crdsOperation with state := inProgress, updated := 5 }

theorem invoked_of_running_crdsInProgress :
    Reachable Step init crdsRunning ∧ crdsInProgress ∈ crdsRunning.repo.allOperations ∧
      crdsInProgress.state.IsRunning ∧ crdsInProgress.key ∈ crdsRunning.invoked :=
  have hmem : crdsInProgress ∈ crdsRunning.repo.allOperations := by decide
  have hrun : crdsInProgress.state.IsRunning := by decide
  ⟨crdsRunning_reachable, hmem, hrun, invoked_of_running crdsRunning_reachable hmem hrun⟩

end Mothership

namespace Bookkeeper

open Mothership

/-! ## What a tick does to the operations -/

/-- **The operations after a tick.** On a repository that stores each operation under its own
IDs, a tick of the mothership's bookkeeper marks as orphans, updated at `now`, exactly the
operations that run, belong to a reconciliation that is not finished, and were last updated at
least `OrphanOperationTimeout` ago; every other operation stays as it is. -/
theorem tick_operations {r : InMemoryReconciliationRepository} (hkey : r.KeyedByID)
    (orphanOperationTimeout : Int) (finished : ReconciliationResult → Option ClusterStatusEntity)
    (now : Nat) (k : String × String) :
    (tick (bookkeepingTasks orphanOperationTimeout finished now) r).operations.lookup k =
      (r.operations.lookup k).map
        (markOrphans (values r.reconciliations) orphanOperationTimeout now) := by
  -- the invariant of the loop: the reconciliations evaluated so far have marked their orphans
  have hloop := foldl_prefix_invariant
    (fun done (cur : InMemoryReconciliationRepository) => cur.KeyedByID ∧
      ∀ k, cur.operations.lookup k =
        (r.operations.lookup k).map (markOrphans done orphanOperationTimeout now))
    (evaluateReconciliation (bookkeepingTasks orphanOperationTimeout finished now))
    (InMemoryReconciliationRepository.getReconciliations (values r.reconciliations)
      (some ReconciliationFilter.currentlyReconciling))
    (fun done recon cur hrecon ⟨hcurkey, hcur⟩ => by
      have hfin : recon.finished = false := by
        rw [getReconciliations_currentlyReconciling, List.mem_filter] at hrecon
        simpa using hrecon.2
      have hstep : ∀ k, (evaluateReconciliation (bookkeepingTasks orphanOperationTimeout finished
          now) cur recon).operations.lookup k =
          (cur.operations.lookup k).map (markOrphans [recon] orphanOperationTimeout now) := by
        intro k
        rw [evaluateReconciliation, newReconciliationResult_eq]
        dsimp only [bookkeepingTasks, List.foldl_cons, List.foldl_nil]
        rw [finishOperation_operations]
        exact lookup_markOrphanOperation_of_keyedByID hcurkey (newReconciliationResult_eq _ _) hfin k
      refine ⟨hcurkey.of_lookup_map (fun _ => markOrphans_key) hstep, fun k => ?_⟩
      rw [hstep, hcur, Option.map_map]
      congr 1
      funext op
      exact markOrphans_markOrphans)
    (r := r) ⟨hkey, fun k => by simp⟩
  rw [tick, hloop.2 k, getReconciliations_currentlyReconciling]
  congr 1
  funext op
  exact markOrphans_filter_finished

theorem tick_operations_crdsRunning :
    crdsRunning.repo.KeyedByID ∧
      (tick (bookkeepingTasks 600 (fun _ => none) 700) crdsRunning.repo).operations.lookup
          crdsOperation.key =
        (crdsRunning.repo.operations.lookup crdsOperation.key).map
          (markOrphans (values crdsRunning.repo.reconciliations) 600 700) :=
  have hkey : crdsRunning.repo.KeyedByID := (ordered_of_reachable crdsRunning_reachable).stored_key
  ⟨hkey, tick_operations hkey 600 (fun _ => none) 700 crdsOperation.key⟩

/-- With the default timeout of ten minutes, the `CRDs` operation last updated at `5` is an
orphan at `700`. -/
example :
    (tick (bookkeepingTasks 600 (fun _ => none) 700) crdsRunning.repo).operations.lookup
      crdsOperation.key = some (markedOrphan 700 crdsInProgress) := by
  decide

/-! ## A tick is a run of the mothership -/

open Mothership

variable {σ : Mothership}

/-- `markOrphanOperation` on a result whose running operations were invoked is a run of
`markOrphan` actions. -/
theorem markOrphanOperation_run (σ : Mothership) {rs : ReconciliationResult}
    (hrs : ∀ op ∈ rs.running, op.key ∈ σ.invoked) (timeout : Int) (now : Nat) :
    ReflTransGen Step σ { σ with repo := (markOrphanOperation timeout now).apply rs σ.repo } := by
  dsimp only [markOrphanOperation]
  refine reflTransGen_foldl (fun _ => True) (fun _ _ _ _ => trivial)
    (fun r => { σ with repo := r }) _ _ (fun op hop r _ => ?_) trivial
  by_cases horph : op.state = orphan
  · -- an orphan already is skipped
    simp only [horph, if_true]
    exact ReflTransGen.refl
  · simp only [horph, if_false]
    exact ReflTransGen.single
      (@Step.markOrphan { σ with repo := r } op.key (hrs op (List.mem_filter.1 hop).1) now)

/-- `finishOperation` is a `finish` action, or none. -/
theorem finishOperation_run (σ : Mothership)
    (finished : ReconciliationResult → Option ClusterStatusEntity) (now : Nat)
    (rs : ReconciliationResult) :
    ReflTransGen Step σ { σ with repo := (finishOperation finished now).apply rs σ.repo } := by
  unfold finishOperation
  dsimp only
  split
  · exact ReflTransGen.refl
  · rename_i status _
    exact ReflTransGen.single (Step.finish rs.reconEntity.schedulingID status now)

/-- **A tick of the bookkeeper is a run of the mothership.** From every reachable state, the
mothership's bookkeeper ticks by `markOrphan` and `finish` actions, so the invariants of
`Mothership.Step` runs hold across its ticks. -/
theorem tick_refines (h : Reachable Step init σ) (orphanOperationTimeout : Int)
    (finished : ReconciliationResult → Option ClusterStatusEntity) (now : Nat) :
    ReflTransGen Step σ
      { σ with repo := tick (bookkeepingTasks orphanOperationTimeout finished now) σ.repo } := by
  refine reflTransGen_foldl (Reachable Step init)
    (fun _ _ hs hstep => Reachable.trans hs (ReflTransGen.single hstep))
    (fun r => { σ with repo := r }) _ _ (fun recon _ r hr => ?_) h
  -- the reconciliation is read from the repository as the earlier ones left it
  rw [evaluateReconciliation, newReconciliationResult_eq]
  dsimp only [bookkeepingTasks, List.foldl_cons, List.foldl_nil]
  -- what it reads as running is stored and running, so it was invoked
  have hinv : ∀ op ∈ (r.allOperations.filter (fun op => op.schedulingID == recon.schedulingID)).filter
      (fun op => op.state.IsRunning), op.key ∈ σ.invoked := by
    intro op hop
    rw [List.mem_filter, List.mem_filter] at hop
    exact runningInvoked_of_reachable hr op.key op ((ordered_of_reachable hr).lookup_self hop.1.1)
      (of_decide_eq_true hop.2)
  exact (markOrphanOperation_run { σ with repo := r } hinv orphanOperationTimeout now).trans
    (finishOperation_run _ finished now _)

theorem tick_refines_crdsRunning :
    Reachable Step init crdsRunning ∧
      ReflTransGen Step crdsRunning
        { crdsRunning with repo := tick (bookkeepingTasks 600 (fun _ => none) 700) crdsRunning.repo } :=
  ⟨crdsRunning_reachable, tick_refines crdsRunning_reachable 600 (fun _ => none) 700⟩

end Bookkeeper

end Reconciler
