import Reconciler.Scheduler.Creation
import Reconciler.Lib.Transition

/-!
# The mothership's actors

The scheduler, the worker pool with its workers and invokers, the component callbacks and the
bookkeeper act on one reconciliation repository, here the in-memory one.  `Mothership.Step`
is one action of one of them: one repository call, atomic under the repository's mutex,
together with what the actor keeps for itself.

The worker pool (`pkg/scheduler/worker/workerpool.go`) keeps the operations it fetched with
`GetProcessableOperations`, and its workers work on these copies: `filterProcessableOpsByMaxRetries`
and `assignWorker` may set one to `Error`, a worker may call the invoker on it, and may call it
again after a failed attempt (`retry.Do`), until it lets the copy go.

The bookkeeper (`markOrphanOperation`) marks the operations that ran too long as orphans; which
ones those are depends on the clock, so the model lets it mark any operation an invoker was
called for.  The callbacks of the component reconcilers (`updateOperationState` of the
mothership's HTTP handlers and of `LocalReconcilerInvoker`) likewise may arrive for any
invoked operation, with any state they report.

Two fields record the past and are read by the proofs only: `schedulingIDs`, the scheduling IDs
drawn so far (UUIDs do not repeat), and `invoked`, the operations an invoker was called for.
-/

namespace Reconciler

open OperationState

/-- The state the mothership's actors share. -/
structure Mothership where
  repo : InMemoryReconciliationRepository
  /-- The configuration of the cleanup component, which `CreateReconciliation` extends. -/
  cleaner : List Configuration
  /-- The worker pool's copies of the operations it fetched and still works on. -/
  pending : List OperationEntity
  /-- Every scheduling ID a reconciliation was created with. -/
  schedulingIDs : List String
  /-- Every operation an invoker was called for. -/
  invoked : List (String × String)

namespace Mothership

/-- The mothership before its first reconciliation. -/
def init : Mothership :=
  { repo := .empty, cleaner := [], pending := [], schedulingIDs := [], invoked := [] }

/-- `worker.isProcessable`, read on the worker's copy. -/
def isProcessable (op : OperationEntity) : Bool :=
  op.state ≠ done ∧ op.state ≠ error ∧ op.state ≠ inProgress

/-- The reason `filterProcessableOpsByMaxRetries` records. -/
def maxRetriesReason (maxOperationRetries : Int) : String :=
  "operation exceeds max. operation retries limit (maxOperationRetries:" ++
    toString maxOperationRetries ++ ")"

/-- The states the invokers and the component callbacks write. -/
def callbackStates : List OperationState :=
  [inProgress, clientError, failed, done, error]

/-- The repository after a call: the new one, or the old one when the call failed. -/
def commit (r : InMemoryReconciliationRepository) :
    Except RepositoryError InMemoryReconciliationRepository → InMemoryReconciliationRepository
  | .ok r' => r'
  | .error _ => r

/-- One action of one actor. -/
inductive Step : Mothership → Mothership → Prop
  /-- The scheduler creates a reconciliation; the UUIDs of the call were not drawn before. -/
  | create {σ : Mothership} (state : ClusterState) (cfg : ReconciliationSequenceConfig)
      (ids : Nat → String) (now : Nat) (r' : InMemoryReconciliationRepository)
      (recon : ReconciliationEntity) (cleaner' : List Configuration)
      (hok : σ.repo.createReconciliation state cfg σ.cleaner ids now = .ok (r', recon, cleaner'))
      (hids : Function.Injective ids) (hfresh : recon.schedulingID ∉ σ.schedulingIDs) :
      Step σ { σ with
        repo := r'
        cleaner := cleaner'
        schedulingIDs := recon.schedulingID :: σ.schedulingIDs }
  /-- `invokeProcessableOps` fetches the processable operations for the workers. -/
  | poll {σ : Mothership} (maxParallelOperations : Int) :
      Step σ { σ with pending := σ.pending ++ σ.repo.getProcessableOperations maxParallelOperations }
  /-- `filterProcessableOpsByMaxRetries` gives up on an operation retried too often. -/
  | exceedRetries {σ : Mothership} (op : OperationEntity) (hop : op ∈ σ.pending)
      (maxOperationRetries : Int) (hmax : maxOperationRetries ≤ op.retries) (now : Nat) :
      Step σ { σ with
        repo := commit σ.repo (σ.repo.updateOperationState op.schedulingID op.correlationID error
          true [maxRetriesReason maxOperationRetries] now)
        pending := σ.pending.erase op }
  /-- `assignWorker` discards an operation whose cluster is gone. -/
  | discard {σ : Mothership} (op : OperationEntity) (hop : op ∈ σ.pending) (reason : String)
      (now : Nat) :
      Step σ { σ with
        repo := commit σ.repo (σ.repo.updateOperationState op.schedulingID op.correlationID error
          false [reason] now)
        pending := σ.pending.erase op }
  /-- `RemoteReconcilerInvoker.Invoke`: the operation is not `InProgress`, is marked so, gets its
  pickup time, and is sent to the component reconciler. -/
  | invokeRemote {σ : Mothership} (op : OperationEntity) (hop : op ∈ σ.pending)
      (hproc : isProcessable op = true) (cur : OperationEntity)
      (hcur : σ.repo.getOperation op.schedulingID op.correlationID = some cur)
      (hnot : cur.state ≠ inProgress) (now : Nat) (r₁ : InMemoryReconciliationRepository)
      (h₁ : σ.repo.updateOperationState op.schedulingID op.correlationID inProgress true [""] now =
        .ok r₁) :
      Step σ { σ with
        repo := commit r₁ (r₁.updateOperationPickedUp op.schedulingID op.correlationID now)
        invoked := op.key :: σ.invoked }
  /-- `LocalReconcilerInvoker.Invoke` starts the component reconciler in process. -/
  | invokeLocal {σ : Mothership} (op : OperationEntity) (hop : op ∈ σ.pending)
      (hproc : isProcessable op = true) :
      Step σ { σ with invoked := op.key :: σ.invoked }
  /-- An invoker or a component callback reports a state of an invoked operation. -/
  | callback {σ : Mothership} (k : String × String) (hk : k ∈ σ.invoked)
      (state : OperationState) (hstate : state ∈ callbackStates) (reasons : List String)
      (now : Nat) :
      Step σ { σ with repo := commit σ.repo (σ.repo.updateOperationState k.1 k.2 state true reasons now) }
  /-- A component callback reports the retry ID of an invoked operation. -/
  | updateRetryID {σ : Mothership} (k : String × String) (hk : k ∈ σ.invoked) (retryID : String)
      (now : Nat) :
      Step σ { σ with repo := commit σ.repo (σ.repo.updateOperationRetryID k.1 k.2 retryID now) }
  /-- `markOrphanOperation`. -/
  | markOrphan {σ : Mothership} (k : String × String) (hk : k ∈ σ.invoked) (now : Nat) :
      Step σ { σ with repo := commit σ.repo (σ.repo.updateOperationState k.1 k.2 orphan false [] now) }
  /-- A worker lets its copy go, or the pool had no capacity for it. -/
  | release {σ : Mothership} (op : OperationEntity) (hop : op ∈ σ.pending) :
      Step σ { σ with pending := σ.pending.erase op }
  /-- The bookkeeper finishes a reconciliation. -/
  | finish {σ : Mothership} (schedulingID : String) (status : ClusterStatusEntity) (now : Nat) :
      Step σ { σ with repo := commit σ.repo (σ.repo.finishReconciliation schedulingID status now) }
  /-- The cleaner removes reconciliations by scheduling ID. -/
  | removeBySchedulingIDs {σ : Mothership} (schedulingIDs : List String) :
      Step σ { σ with repo := σ.repo.removeReconciliationsBySchedulingID schedulingIDs }
  /-- A cluster is deleted with its reconciliation. -/
  | removeByRuntimeID {σ : Mothership} (runtimeID : String) :
      Step σ { σ with repo := σ.repo.removeReconciliationByRuntimeID runtimeID }
  /-- The cleaner removes old operations of a runtime. -/
  | removeBeforeDeadline {σ : Mothership} (runtimeID latestSchedulingID : String) (deadline : Nat) :
      Step σ { σ with
        repo := σ.repo.removeReconciliationsBeforeDeadline runtimeID latestSchedulingID deadline }

end Mothership

end Reconciler
