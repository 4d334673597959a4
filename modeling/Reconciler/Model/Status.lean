import Mathlib.Logic.Basic

/-!
# Operation states, operation types and cluster statuses

The three enumerations of `pkg/model` (`operationstate.go`, `operationtype.go`,
`clusterstatus.go`) together with the predicates the scheduler and the bookkeeper branch on.
The source types are string types; every value they take in the code is one of the named
constants, so each becomes an inductive type with one constructor per constant.
-/

namespace Reconciler

/-! ## Operation states -/

/-- `model.OperationState`. -/
inductive OperationState
  | new
  | inProgress
  | done
  | clientError
  | error
  | failed
  | orphan
  deriving DecidableEq, Repr

namespace OperationState

/-- `OperationState.IsError`. -/
def isError (o : OperationState) : Bool :=
  o == error || o == failed || o == clientError

/-- `OperationState.IsFinal`: only `Done` and `Error` end an operation. -/
def isFinal (o : OperationState) : Bool :=
  o == error || o == done

/-- `OperationState.IsTemporary`. -/
def isTemporary (o : OperationState) : Bool :=
  !o.isFinal

@[simp] theorem isFinal_iff (o : OperationState) : o.isFinal = true ↔ o = error ∨ o = done := by
  cases o <;> decide

@[simp] theorem isFinal_done : done.isFinal = true := rfl

@[simp] theorem isFinal_error : error.isFinal = true := rfl

/-- The states `findProcessableOperationsInGroup` hands to a worker: neither finished,
nor failed, nor running. -/
def IsWaiting (o : OperationState) : Prop :=
  o = new ∨ o = orphan ∨ o = clientError

instance (o : OperationState) : Decidable o.IsWaiting :=
  inferInstanceAs (Decidable (_ ∨ _))

/-- The states the scheduler counts as occupying a worker. -/
def IsBusy (o : OperationState) : Prop :=
  o = inProgress ∨ o = failed

instance (o : OperationState) : Decidable o.IsBusy :=
  inferInstanceAs (Decidable (_ ∨ _))

/-- Every state is finished, failed for good, busy, or waiting. -/
theorem cases_waiting (o : OperationState) :
    o = done ∨ o = error ∨ o.IsBusy ∨ o.IsWaiting := by
  cases o <;> simp [IsBusy, IsWaiting]

end OperationState

/-! ## Operation types -/

/-- `model.OperationType`. -/
inductive OperationType
  | reconcile
  | delete
  deriving DecidableEq, Repr

/-! ## Cluster statuses -/

/-- `model.Status`, the status of a cluster configuration. -/
inductive Status
  | deletePending
  | deleting
  | deleteError
  | deleteErrorRetryable
  | deleted
  | reconcilePending
  | reconcileDisabled
  | reconciling
  | reconcileError
  | reconcileErrorRetryable
  | ready
  deriving DecidableEq, Repr

namespace Status

/-- `Status.IsDeletionInProgress`. -/
def isDeletionInProgress (s : Status) : Bool :=
  s == deleting

/-- `Status.IsDeleteCandidate`. -/
def isDeleteCandidate (s : Status) : Bool :=
  s == deletePending || s == deleteErrorRetryable

/-- `Status.IsReconcileCandidate`. -/
def isReconcileCandidate (s : Status) : Bool :=
  s == reconcilePending || s == ready || s == reconcileErrorRetryable

/-- `Status.IsFinal`. -/
def isFinal (s : Status) : Bool :=
  s == ready || s == reconcileError || s == deleted || s == deleteError ||
    s == reconcileErrorRetryable || s == deleteErrorRetryable

/-- `Status.IsFinalStable`. -/
def isFinalStable (s : Status) : Bool :=
  s == ready || s == deleted

/-- `Status.IsInProgress`. -/
def isInProgress (s : Status) : Bool :=
  s == deleting || s == reconciling

/-- `Status.IsDisabled`. -/
def isDisabled (s : Status) : Bool :=
  s == reconcileDisabled

@[simp] theorem isDeletionInProgress_iff (s : Status) :
    s.isDeletionInProgress = true ↔ s = deleting := by
  cases s <;> decide

@[simp] theorem isInProgress_iff (s : Status) :
    s.isInProgress = true ↔ s = deleting ∨ s = reconciling := by
  cases s <;> decide

theorem isFinal_eq_false_of_isInProgress {s : Status} (h : s.isInProgress = true) :
    s.isFinal = false := by
  revert h
  cases s <;> decide

end Status

end Reconciler
