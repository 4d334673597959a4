import Reconciler.Scheduler.Persistent
import Reconciler.Lib.Transition

/-!
# Two invokers racing for one operation

`RemoteReconcilerInvoker.Invoke` (`pkg/scheduler/invoker/remoteinvoker.go`) guards the dispatch
of an operation with two repository calls: `ensureOperationNotInProgress` reads the operation
and refuses one that is `InProgress`, then `updateOperationState` writes `InProgress` with
`allowInState = true`.  Each call is atomic, under the mutex of the in-memory repository or in
one transaction of the persistent one at any isolation level, but nothing holds between them.

`Invocation` is the progress of one call of `Invoke` on the operation, `Race` two such calls on
a shared repository, and `RaceStep` lets either of them make its next repository call.  The
repository enters through `OperationStore`, the three calls `Invoke` makes.
-/

namespace Reconciler

open OperationState Relation

/-- The repository calls of `Invoke`. -/
structure OperationStore (R : Type) where
  getOperation : R → String → String → Option OperationEntity
  updateOperationState : R → String → String → OperationState → Bool → List String → Nat →
    Except RepositoryError R
  updateOperationPickedUp : R → String → String → Nat → Except RepositoryError R

/-- The calls on the in-memory repository. -/
def inMemoryStore : OperationStore InMemoryReconciliationRepository where
  getOperation := InMemoryReconciliationRepository.getOperation
  updateOperationState := InMemoryReconciliationRepository.updateOperationState
  updateOperationPickedUp := InMemoryReconciliationRepository.updateOperationPickedUp

/-- The calls on the persistent repository; an error of `GetOperation` fails the check. -/
def persistentStore : OperationStore PersistentReconciliationRepository where
  getOperation r schedulingID correlationID := (r.getOperation schedulingID correlationID).toOption
  updateOperationState := PersistentReconciliationRepository.updateOperationState
  updateOperationPickedUp := PersistentReconciliationRepository.updateOperationPickedUp

/-- How far one call of `Invoke` got. -/
inductive Invocation
  /-- before `ensureOperationNotInProgress` -/
  | start
  /-- the operation was found not `InProgress` -/
  | checked
  /-- `updateOperationState` wrote `InProgress` -/
  | marked
  /-- `UpdateOperationPickedUp` succeeded -/
  | pickedUp
  /-- `sendHTTPRequest` dispatched the operation to the component reconciler -/
  | sent
  /-- `Invoke` returned an error before dispatching -/
  | failed
  deriving DecidableEq, Repr

section Race

variable {R : Type} (S : OperationStore R) (schedulingID correlationID : String)

/-- The next repository call of one `Invoke` of the operation, at time `now`. -/
def invokeStep (now : Nat) (r : R) : Invocation → R × Invocation
  | .start =>
      match S.getOperation r schedulingID correlationID with
      | some op => if op.state = inProgress then (r, .failed) else (r, .checked)
      | none => (r, .failed)
  | .checked =>
      match S.updateOperationState r schedulingID correlationID inProgress true [""] now with
      | .ok r' => (r', .marked)
      | .error _ => (r, .failed)
  | .marked =>
      match S.updateOperationPickedUp r schedulingID correlationID now with
      | .ok r' => (r', .pickedUp)
      | .error _ => (r, .failed)
  | .pickedUp => (r, .sent)
  | .sent => (r, .sent)
  | .failed => (r, .failed)

/-- Two calls of `Invoke` on one operation and the repository they share. -/
structure Race (R : Type) where
  repo : R
  first : Invocation
  second : Invocation

/-- One of the two calls makes its next repository call. -/
inductive RaceStep : Race R → Race R → Prop
  | first (ρ : Race R) (now : Nat) :
      RaceStep ρ { ρ with
        repo := (invokeStep S schedulingID correlationID now ρ.repo ρ.first).1
        first := (invokeStep S schedulingID correlationID now ρ.repo ρ.first).2 }
  | second (ρ : Race R) (now : Nat) :
      RaceStep ρ { ρ with
        repo := (invokeStep S schedulingID correlationID now ρ.repo ρ.second).1
        second := (invokeStep S schedulingID correlationID now ρ.repo ρ.second).2 }

variable {S schedulingID correlationID}

theorem RaceStep.of_first {ρ : Race R} {now : Nat} {r' : R} {i : Invocation}
    (h : invokeStep S schedulingID correlationID now ρ.repo ρ.first = (r', i)) :
    RaceStep S schedulingID correlationID ρ ⟨r', i, ρ.second⟩ := by
  have hstep : RaceStep S schedulingID correlationID ρ _ := RaceStep.first ρ now
  rwa [h] at hstep

theorem RaceStep.of_second {ρ : Race R} {now : Nat} {r' : R} {i : Invocation}
    (h : invokeStep S schedulingID correlationID now ρ.repo ρ.second = (r', i)) :
    RaceStep S schedulingID correlationID ρ ⟨r', ρ.first, i⟩ := by
  have hstep : RaceStep S schedulingID correlationID ρ _ := RaceStep.second ρ now
  rwa [h] at hstep

/-- Both calls pass the check before either writes, then both writes succeed: both calls
dispatch the operation. -/
theorem race_both_sent {r r₁ r₂ r₃ r₄ : R} {op : OperationEntity} {now : Nat}
    (hget : S.getOperation r schedulingID correlationID = some op) (hnot : op.state ≠ inProgress)
    (hmark₁ : S.updateOperationState r schedulingID correlationID inProgress true [""] now = .ok r₁)
    (hmark₂ : S.updateOperationState r₁ schedulingID correlationID inProgress true [""] now = .ok r₂)
    (hpick₁ : S.updateOperationPickedUp r₂ schedulingID correlationID now = .ok r₃)
    (hpick₂ : S.updateOperationPickedUp r₃ schedulingID correlationID now = .ok r₄) :
    ReflTransGen (RaceStep S schedulingID correlationID) ⟨r, .start, .start⟩ ⟨r₄, .sent, .sent⟩ := by
  have hcheck : invokeStep S schedulingID correlationID now r .start = (r, .checked) := by
    simp only [invokeStep, hget, hnot, if_false]
  -- both read the operation before either marks it
  have h₁ : RaceStep S schedulingID correlationID ⟨r, .start, .start⟩ ⟨r, .checked, .start⟩ :=
    RaceStep.of_first hcheck
  have h₂ : RaceStep S schedulingID correlationID ⟨r, .checked, .start⟩ ⟨r, .checked, .checked⟩ :=
    RaceStep.of_second hcheck
  -- the second write finds `InProgress`, which `allowInState` lets through
  have h₃ : RaceStep S schedulingID correlationID ⟨r, .checked, .checked⟩ ⟨r₁, .marked, .checked⟩ :=
    RaceStep.of_first (show invokeStep S schedulingID correlationID now r .checked = (r₁, .marked) by
      simp only [invokeStep, hmark₁])
  have h₄ : RaceStep S schedulingID correlationID ⟨r₁, .marked, .checked⟩ ⟨r₂, .marked, .marked⟩ :=
    RaceStep.of_second (show invokeStep S schedulingID correlationID now r₁ .checked = (r₂, .marked) by
      simp only [invokeStep, hmark₂])
  have h₅ : RaceStep S schedulingID correlationID ⟨r₂, .marked, .marked⟩ ⟨r₃, .pickedUp, .marked⟩ :=
    RaceStep.of_first (show invokeStep S schedulingID correlationID now r₂ .marked = (r₃, .pickedUp) by
      simp only [invokeStep, hpick₁])
  have h₆ : RaceStep S schedulingID correlationID ⟨r₃, .pickedUp, .marked⟩
      ⟨r₄, .pickedUp, .pickedUp⟩ :=
    RaceStep.of_second
      (show invokeStep S schedulingID correlationID now r₃ .marked = (r₄, .pickedUp) by
        simp only [invokeStep, hpick₂])
  have h₇ : RaceStep S schedulingID correlationID ⟨r₄, .pickedUp, .pickedUp⟩
      ⟨r₄, .sent, .pickedUp⟩ :=
    RaceStep.of_first (show invokeStep S schedulingID correlationID now r₄ .pickedUp = (r₄, .sent)
      from rfl)
  have h₈ : RaceStep S schedulingID correlationID ⟨r₄, .sent, .pickedUp⟩ ⟨r₄, .sent, .sent⟩ :=
    RaceStep.of_second (show invokeStep S schedulingID correlationID now r₄ .pickedUp = (r₄, .sent)
      from rfl)
  exact (((((((ReflTransGen.single h₁).tail h₂).tail h₃).tail h₄).tail h₅).tail h₆).tail h₇).tail h₈

end Race

open InMemoryReconciliationRepository PersistentReconciliationRepository in
/-- From every state in which the operation is stored, neither `InProgress` nor final, two calls
of `Invoke` both dispatch it in some interleaving, on either repository. -/
theorem remoteInvoke_race_dispatches_twice (schedulingID correlationID : String) :
    (∀ (r : InMemoryReconciliationRepository) (op : OperationEntity),
      r.getOperation schedulingID correlationID = some op → op.state ≠ inProgress →
      op.state.isFinal = false →
      ∃ r', ReflTransGen (RaceStep inMemoryStore schedulingID correlationID)
        ⟨r, .start, .start⟩ ⟨r', .sent, .sent⟩) ∧
    (∀ (p : PersistentReconciliationRepository) (op : OperationEntity),
      p.getOperation schedulingID correlationID = .ok op → op.state ≠ inProgress →
      op.state.isFinal = false →
      ∃ p', ReflTransGen (RaceStep persistentStore schedulingID correlationID)
        ⟨p, .start, .start⟩ ⟨p', .sent, .sent⟩) := by
  have hreason : concatStateReasons inProgress [""] = .ok "" := rfl
  constructor
  · intro r op hget hnot hfin
    have hk : r.operations.lookup (schedulingID, correlationID) = some op := hget
    -- after a write the operation is found under its IDs, with the written state
    have hfound : ∀ (r' : InMemoryReconciliationRepository) (o : OperationEntity),
        (r'.putOperation schedulingID correlationID o).operations.lookup
          (schedulingID, correlationID) = some o := by
      intro r' o
      rw [lookup_putOperation, if_pos rfl]
    have hmark₁ : r.updateOperationState schedulingID correlationID inProgress true [""] 0 =
        .ok (r.putOperation schedulingID correlationID
          { op with state := inProgress, reason := "", updated := 0 }) :=
      updateOperationState_of_lookup hk hfin (fun _ => rfl) hreason
    -- the second write finds the operation `InProgress` and is let through
    exact ⟨_, race_both_sent (S := inMemoryStore) hget hnot hmark₁
      (updateOperationState_of_lookup (hfound _ _) rfl (fun _ => rfl) hreason)
      (updateOperationPickedUp_of_lookup (hfound _ _))
      (updateOperationPickedUp_of_lookup (hfound _ _))⟩
  · intro p op hget hnot hfin
    obtain ⟨hsid, hcid⟩ := getOperation_ok hget
    have hmark₁ : p.updateOperationState schedulingID correlationID inProgress true [""] 0 =
        .ok (p.updateOperation { op with state := inProgress, reason := "", updated := 0 }) :=
      updateOperationState_of_getOperation hget hfin (fun _ => rfl) hreason
    have hget₁ : (p.updateOperation { op with state := inProgress, reason := "", updated := 0 }).getOperation
        schedulingID correlationID = .ok { op with state := inProgress, reason := "", updated := 0 } :=
      getOperation_updateOperation hget hsid hcid
    have hget₂ : ((p.updateOperation { op with state := inProgress, reason := "", updated := 0 }).updateOperation
        { op with state := inProgress, reason := "", updated := 0 }).getOperation schedulingID
          correlationID = .ok { op with state := inProgress, reason := "", updated := 0 } :=
      getOperation_updateOperation hget₁ hsid hcid
    obtain ⟨p₃, op₃, hpick₁, hget₃⟩ := updateOperationPickedUp_of_getOperation hget₂ 0
    obtain ⟨p₄, -, hpick₂, -⟩ := updateOperationPickedUp_of_getOperation hget₃ 0
    have hget' : persistentStore.getOperation p schedulingID correlationID = some op := by
      simp only [persistentStore, hget, Except.toOption]
    -- the second write finds the operation `InProgress` and is let through
    exact ⟨p₄, race_both_sent hget' hnot hmark₁
      (updateOperationState_of_getOperation hget₁ rfl (fun _ => rfl) hreason) hpick₁ hpick₂⟩

end Reconciler
