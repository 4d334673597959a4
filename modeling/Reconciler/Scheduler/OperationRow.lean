import Reconciler.Scheduler.Persistent
import Reconciler.Lib.Snapshot
import Reconciler.Db.Transaction

/-!
# Concurrent updates of one operation row

Four methods of `PersistentReconciliationRepository` write an operation row:
`UpdateOperationState`, `UpdateOperationRetryID`, `UpdateOperationPickedUp` and
`UpdateComponentOperationProcessingDuration`.  Each runs in a `db.Transaction` that reads the
row and writes it back whole with `Query.Update`.  The callback handler
`updateOperationStateAndRetryIDAndProcessingDuration` (`cmd/mothership/.../http.go`) runs three
of them in one transaction; `updateOperationState` and `updateOperationStateAndRetryID` of the
same file call them one transaction after the other.

`postgresConnection.Begin` asks for `REPEATABLE READ`.  On one row that is snapshot isolation
with first-updater-wins, `Snapshot.Step`, with the transaction of each call as the function
`RowCall.txn` from the row it read to the row it writes.  `RowCall.run_eq` connects it to the
repository: run on a repository, each call is its row transaction written back.

How often a call is run after a collision is `RowCall.attempts`.  `TransactionResult` retries
an error that says `could not serialize access`.  `UpdateOperationState` returns that error of
its `UPDATE`.  The other three methods check the row count first and replace it by their own
`no row was updated`, so they give up.  In the callback handler an inner collision rolls back
the shared transaction, and the outer `TransactionResult` gives up on the error of that
rollback, `already been committed or rolled back`.
-/

namespace Reconciler

open OperationState Snapshot Relation Transition

namespace OperationEntity

/-- The transaction of `UpdateOperationState` on the row it read: the row it writes back. -/
def updateOperationState (op : OperationEntity) (state : OperationState) (allowInState : Bool)
    (reasons : List String) (now : Nat) : Except RepositoryError (Option OperationEntity) :=
  if op.state = state ∧ !allowInState then .error (.alreadyInState op.component op.state)
  else if op.state.isFinal then .error (.finalState op.component state op.state)
  else
    match concatStateReasons state reasons with
    | .error e => .error e
    | .ok reason => .ok (some { op with state := state, reason := reason, updated := now })

/-- The transaction of `UpdateOperationRetryID`: nothing to write when the retry ID is set. -/
def updateOperationRetryID (op : OperationEntity) (retryID : String) (now : Nat) :
    Except RepositoryError (Option OperationEntity) :=
  if retryID = op.retryID then .ok none
  else .ok (some { op with retryID := retryID, retries := op.retries + 1, updated := now })

/-- The transaction of `UpdateOperationPickedUp`: only the first pickup is written. -/
def updateOperationPickedUp (op : OperationEntity) (now : Nat) :
    Except RepositoryError (Option OperationEntity) :=
  if op.pickedUp ≠ 0 then .ok none
  else .ok (some { op with pickedUp := now })

/-- The transaction of `UpdateComponentOperationProcessingDuration`. -/
def updateComponentOperationProcessingDuration (op : OperationEntity) (processingDuration : Int) :
    Except RepositoryError (Option OperationEntity) :=
  .ok (some { op with processingDuration := processingDuration })

section Leaves

variable {x y : OperationEntity}

theorem leaves_updateOperationState {state : OperationState} {allowInState : Bool}
    {reasons : List String} {now : Nat}
    (h : Leaves (fun op => op.updateOperationState state allowInState reasons now) x y) :
    x.state.isFinal = false ∧
      ∃ reason, y = { x with state := state, reason := reason, updated := now } := by
  unfold Leaves updateOperationState at h
  dsimp only at h
  split_ifs at h with hin hfin
  · rcases h with h | ⟨h, -⟩ <;> cases h
  · rcases h with h | ⟨h, -⟩ <;> cases h
  · refine ⟨Bool.eq_false_iff.2 hfin, ?_⟩
    split at h
    · rcases h with h | ⟨h, -⟩ <;> cases h
    · rename_i reason _
      rcases h with h | ⟨h, -⟩ <;> cases h
      exact ⟨reason, rfl⟩

theorem leaves_updateOperationRetryID {retryID : String} {now : Nat}
    (h : Leaves (fun op => op.updateOperationRetryID retryID now) x y) :
    ∃ retries updated, y = { x with retryID := retryID, retries := retries, updated := updated } := by
  unfold Leaves updateOperationRetryID at h
  dsimp only at h
  split_ifs at h with hid
  · -- the retry ID is already set: nothing is written
    rcases h with h | ⟨-, rfl⟩
    · cases h
    · exact ⟨y.retries, y.updated, by rw [hid]⟩
  · rcases h with h | ⟨h, -⟩ <;> cases h
    exact ⟨_, _, rfl⟩

/-- The retry count goes up by one exactly when the retry ID changes. -/
theorem retries_of_leaves_updateOperationRetryID {retryID : String} {now : Nat}
    (h : Leaves (fun op => op.updateOperationRetryID retryID now) x y) :
    y.retries = x.retries + if retryID = x.retryID then 0 else 1 := by
  unfold Leaves updateOperationRetryID at h
  dsimp only at h
  split_ifs at h with hid
  · rcases h with h | ⟨-, rfl⟩
    · cases h
    · rw [if_pos hid, Int.add_zero]
  · rcases h with h | ⟨h, -⟩ <;> cases h
    rw [if_neg hid]

theorem leaves_updateOperationPickedUp {now : Nat}
    (h : Leaves (fun op => op.updateOperationPickedUp now) x y) :
    y = { x with pickedUp := if x.pickedUp = 0 then now else x.pickedUp } := by
  unfold Leaves updateOperationPickedUp at h
  dsimp only at h
  split_ifs at h with hpick
  · rcases h with h | ⟨-, rfl⟩
    · cases h
    · rw [if_neg hpick]
  · rcases h with h | ⟨h, -⟩ <;> cases h
    rw [if_pos (not_not.1 hpick)]

theorem leaves_updateComponentOperationProcessingDuration {processingDuration : Int}
    (h : Leaves (fun op => op.updateComponentOperationProcessingDuration processingDuration) x y) :
    y = { x with processingDuration := processingDuration } := by
  rcases h with h | ⟨h, -⟩ <;> cases h
  rfl

end Leaves

end OperationEntity

/-- A call that writes one operation row, with its arguments: a method of the persistent
repository, or the callback handler's transaction around three of them. -/
inductive RowCall
  | updateOperationState (state : OperationState) (allowInState : Bool) (reasons : List String)
      (now : Nat)
  | updateOperationRetryID (retryID : String) (now : Nat)
  | updateOperationPickedUp (now : Nat)
  | updateComponentOperationProcessingDuration (processingDuration : Int)
  /-- `updateOperationStateAndRetryIDAndProcessingDuration`; the handler joins the reasons into
  one and allows the current state, and the three writes read the clock at one instant. -/
  | updateOperationStateAndRetryIDAndProcessingDuration (retryID : String)
      (state : OperationState) (processingDuration : Int) (reasons : List String) (now : Nat)
  deriving DecidableEq, Repr

namespace RowCall

/-- The transaction of a call on the row it read. -/
def txn : RowCall → OperationEntity → Except RepositoryError (Option OperationEntity)
  | updateOperationState state allowInState reasons now => fun op =>
      op.updateOperationState state allowInState reasons now
  | updateOperationRetryID retryID now => fun op => op.updateOperationRetryID retryID now
  | updateOperationPickedUp now => fun op => op.updateOperationPickedUp now
  | updateComponentOperationProcessingDuration processingDuration => fun op =>
      op.updateComponentOperationProcessingDuration processingDuration
  | updateOperationStateAndRetryIDAndProcessingDuration retryID state processingDuration
      reasons now =>
      seq (fun op => op.updateOperationRetryID retryID now)
        (seq (fun op => op.updateOperationState state true [", ".intercalate reasons] now)
          (fun op => op.updateComponentOperationProcessingDuration processingDuration))

/-- How many attempts `TransactionResult` gives a call whose write collides: only the error of
`UpdateOperationState` is recognised as a collision. -/
def attempts : RowCall → Nat
  | updateOperationState .. => txMaxRetries
  | _ => 1

/-- The state a call sets, if it sets one. -/
def setsState : RowCall → Option OperationState
  | updateOperationState state .. => some state
  | updateOperationStateAndRetryIDAndProcessingDuration _ state .. => some state
  | _ => none

/-- The retry ID a call sets, if it sets one. -/
def setsRetryID : RowCall → Option String
  | updateOperationRetryID retryID _ => some retryID
  | updateOperationStateAndRetryIDAndProcessingDuration retryID .. => some retryID
  | _ => none

/-- The processing duration a call sets, if it sets one. -/
def setsProcessingDuration : RowCall → Option Int
  | updateComponentOperationProcessingDuration processingDuration => some processingDuration
  | updateOperationStateAndRetryIDAndProcessingDuration _ _ processingDuration .. =>
      some processingDuration
  | _ => none

/-- The pickup time a call sets, if it sets one. -/
def setsPickedUp : RowCall → Option Nat
  | updateOperationPickedUp now => some now
  | _ => none

/-! ## What a call does to each column -/

section Columns

variable {c : RowCall} {x y : OperationEntity}

/-- The callback handler's transaction leaves what its three statements leave in turn. -/
theorem leaves_nested {retryID : String} {state : OperationState} {processingDuration : Int}
    {reasons : List String} {now : Nat}
    (h : Leaves (updateOperationStateAndRetryIDAndProcessingDuration retryID state
      processingDuration reasons now).txn x y) :
    ∃ y₁ y₂, Leaves (fun op => op.updateOperationRetryID retryID now) x y₁ ∧
      Leaves (fun op => op.updateOperationState state true [", ".intercalate reasons] now) y₁ y₂ ∧
      Leaves (fun op => op.updateComponentOperationProcessingDuration processingDuration) y₂ y := by
  obtain ⟨y₁, h₁, h₂₃⟩ := Leaves.of_seq h
  obtain ⟨y₂, h₂, h₃⟩ := Leaves.of_seq h₂₃
  exact ⟨y₁, y₂, h₁, h₂, h₃⟩

theorem leaves_state (h : Leaves c.txn x y) : y.state = c.setsState.getD x.state := by
  cases c with
  | updateOperationState =>
      obtain ⟨-, reason, rfl⟩ := OperationEntity.leaves_updateOperationState h
      rfl
  | updateOperationRetryID =>
      obtain ⟨_, _, rfl⟩ := OperationEntity.leaves_updateOperationRetryID h
      rfl
  | updateOperationPickedUp =>
      rw [OperationEntity.leaves_updateOperationPickedUp h]
      rfl
  | updateComponentOperationProcessingDuration =>
      rw [OperationEntity.leaves_updateComponentOperationProcessingDuration h]
      rfl
  | updateOperationStateAndRetryIDAndProcessingDuration =>
      obtain ⟨y₁, y₂, h₁, h₂, h₃⟩ := leaves_nested h
      obtain ⟨_, _, rfl⟩ := OperationEntity.leaves_updateOperationRetryID h₁
      obtain ⟨-, _, rfl⟩ := OperationEntity.leaves_updateOperationState h₂
      rw [OperationEntity.leaves_updateComponentOperationProcessingDuration h₃]
      rfl

theorem leaves_retryID (h : Leaves c.txn x y) : y.retryID = c.setsRetryID.getD x.retryID := by
  cases c with
  | updateOperationState =>
      obtain ⟨-, reason, rfl⟩ := OperationEntity.leaves_updateOperationState h
      rfl
  | updateOperationRetryID =>
      obtain ⟨_, _, rfl⟩ := OperationEntity.leaves_updateOperationRetryID h
      rfl
  | updateOperationPickedUp =>
      rw [OperationEntity.leaves_updateOperationPickedUp h]
      rfl
  | updateComponentOperationProcessingDuration =>
      rw [OperationEntity.leaves_updateComponentOperationProcessingDuration h]
      rfl
  | updateOperationStateAndRetryIDAndProcessingDuration =>
      obtain ⟨y₁, y₂, h₁, h₂, h₃⟩ := leaves_nested h
      obtain ⟨_, _, rfl⟩ := OperationEntity.leaves_updateOperationRetryID h₁
      obtain ⟨-, _, rfl⟩ := OperationEntity.leaves_updateOperationState h₂
      rw [OperationEntity.leaves_updateComponentOperationProcessingDuration h₃]
      rfl

theorem leaves_processingDuration (h : Leaves c.txn x y) :
    y.processingDuration = c.setsProcessingDuration.getD x.processingDuration := by
  cases c with
  | updateOperationState =>
      obtain ⟨-, reason, rfl⟩ := OperationEntity.leaves_updateOperationState h
      rfl
  | updateOperationRetryID =>
      obtain ⟨_, _, rfl⟩ := OperationEntity.leaves_updateOperationRetryID h
      rfl
  | updateOperationPickedUp =>
      rw [OperationEntity.leaves_updateOperationPickedUp h]
      rfl
  | updateComponentOperationProcessingDuration =>
      rw [OperationEntity.leaves_updateComponentOperationProcessingDuration h]
      rfl
  | updateOperationStateAndRetryIDAndProcessingDuration =>
      obtain ⟨y₁, y₂, h₁, h₂, h₃⟩ := leaves_nested h
      obtain ⟨_, _, rfl⟩ := OperationEntity.leaves_updateOperationRetryID h₁
      obtain ⟨-, _, rfl⟩ := OperationEntity.leaves_updateOperationState h₂
      rw [OperationEntity.leaves_updateComponentOperationProcessingDuration h₃]
      rfl

/-- Only a call that sets the retry ID counts a retry, and only when the ID changes. -/
theorem leaves_retries (h : Leaves c.txn x y) :
    y.retries = x.retries +
      (c.setsRetryID.map fun retryID => if retryID = x.retryID then 0 else 1).getD 0 := by
  cases c with
  | updateOperationState =>
      obtain ⟨-, reason, rfl⟩ := OperationEntity.leaves_updateOperationState h
      simp [setsRetryID]
  | updateOperationRetryID =>
      rw [OperationEntity.retries_of_leaves_updateOperationRetryID h]
      rfl
  | updateOperationPickedUp =>
      rw [OperationEntity.leaves_updateOperationPickedUp h]
      simp [setsRetryID]
  | updateComponentOperationProcessingDuration =>
      rw [OperationEntity.leaves_updateComponentOperationProcessingDuration h]
      simp [setsRetryID]
  | updateOperationStateAndRetryIDAndProcessingDuration =>
      -- the retry ID is written first; the state and the duration keep the count
      obtain ⟨y₁, y₂, h₁, h₂, h₃⟩ := leaves_nested h
      have hretries := OperationEntity.retries_of_leaves_updateOperationRetryID h₁
      obtain ⟨-, _, rfl⟩ := OperationEntity.leaves_updateOperationState h₂
      rw [OperationEntity.leaves_updateComponentOperationProcessingDuration h₃]
      exact hretries

/-- A pickup time, once set, stays. -/
theorem leaves_pickedUp (h : Leaves c.txn x y) (hx : x.pickedUp ≠ 0) : y.pickedUp = x.pickedUp := by
  cases c with
  | updateOperationState =>
      obtain ⟨-, reason, rfl⟩ := OperationEntity.leaves_updateOperationState h
      rfl
  | updateOperationRetryID =>
      obtain ⟨_, _, rfl⟩ := OperationEntity.leaves_updateOperationRetryID h
      rfl
  | updateOperationPickedUp =>
      rw [OperationEntity.leaves_updateOperationPickedUp h]
      exact if_neg hx
  | updateComponentOperationProcessingDuration =>
      rw [OperationEntity.leaves_updateComponentOperationProcessingDuration h]
  | updateOperationStateAndRetryIDAndProcessingDuration =>
      obtain ⟨y₁, y₂, h₁, h₂, h₃⟩ := leaves_nested h
      obtain ⟨_, _, rfl⟩ := OperationEntity.leaves_updateOperationRetryID h₁
      obtain ⟨-, _, rfl⟩ := OperationEntity.leaves_updateOperationState h₂
      rw [OperationEntity.leaves_updateComponentOperationProcessingDuration h₃]

/-- No call that returns nil sets the state of a row in a final state. -/
theorem leaves_final (h : Leaves c.txn x y) (hx : x.state.isFinal = true) : y.state = x.state := by
  rw [leaves_state h]
  cases c with
  | updateOperationState =>
      obtain ⟨hfin, -⟩ := OperationEntity.leaves_updateOperationState h
      rw [hfin] at hx
      cases hx
  | updateOperationStateAndRetryIDAndProcessingDuration =>
      obtain ⟨y₁, y₂, h₁, h₂, -⟩ := leaves_nested h
      obtain ⟨_, _, rfl⟩ := OperationEntity.leaves_updateOperationRetryID h₁
      obtain ⟨hfin, -⟩ := OperationEntity.leaves_updateOperationState h₂
      rw [hfin] at hx
      cases hx
  | _ => rfl

end Columns

end RowCall

/-! ## The row transactions are the repository's methods -/

namespace PersistentReconciliationRepository

/-- The repository after a row transaction: its write, by `Query.Update`, if it wrote. -/
def writeBack (r : PersistentReconciliationRepository) : Option OperationEntity →
    PersistentReconciliationRepository
  | none => r
  | some op => r.updateOperation op

/-- `updateOperationStateAndRetryIDAndProcessingDuration` of the callback handler: three
methods in one transaction, each reading what the one before wrote. -/
def updateOperationStateAndRetryIDAndProcessingDuration (r : PersistentReconciliationRepository)
    (schedulingID correlationID retryID : String) (state : OperationState)
    (processingDuration : Int) (reasons : List String) (now : Nat) :
    Except RepositoryError PersistentReconciliationRepository := do
  let r₁ ← r.updateOperationRetryID schedulingID correlationID retryID now
  let r₂ ← r₁.updateOperationState schedulingID correlationID state true
    [", ".intercalate reasons] now
  r₂.updateComponentOperationProcessingDuration schedulingID correlationID processingDuration

/-- A repository call is the row transaction `f` written back, on every repository with distinct
operation keys whose row `(schedulingID, correlationID)` is the one `f` reads. -/
def Implements (F : PersistentReconciliationRepository →
      Except RepositoryError PersistentReconciliationRepository)
    (f : OperationEntity → Except RepositoryError (Option OperationEntity))
    (schedulingID correlationID : String) : Prop :=
  ∀ r op, r.getOperation schedulingID correlationID = .ok op →
    (r.operations.map OperationEntity.key).Nodup → F r = (f op).map r.writeBack

/-- A row transaction that writes rows under the key it read. -/
def KeepsKey (f : OperationEntity → Except RepositoryError (Option OperationEntity)) : Prop :=
  ∀ op op', f op = .ok (some op') → op'.key = op.key

theorem KeepsKey.seq {f g : OperationEntity → Except RepositoryError (Option OperationEntity)}
    (hf : KeepsKey f) (hg : KeepsKey g) : KeepsKey (Snapshot.seq f g) := by
  intro op op' h
  unfold Snapshot.seq at h
  split at h
  · cases h
  · exact hg op op' h
  · rename_i op₁ h₁
    split at h
    · cases h
    · cases h
      exact hf op op' h₁
    · cases h
      rename_i h₂
      exact (hg _ _ h₂).trans (hf op op₁ h₁)

/-- Two calls in one transaction implement the two row transactions in sequence: the second
call finds the row the first wrote, under the same key. -/
theorem Implements.bind {schedulingID correlationID : String}
    {F G : PersistentReconciliationRepository →
      Except RepositoryError PersistentReconciliationRepository}
    {f g : OperationEntity → Except RepositoryError (Option OperationEntity)}
    (hF : Implements F f schedulingID correlationID) (hG : Implements G g schedulingID correlationID)
    (hf : KeepsKey f) (hg : KeepsKey g) :
    Implements (fun r => F r >>= G) (Snapshot.seq f g) schedulingID correlationID := by
  intro r op h hkeys
  obtain ⟨hsid, hcid⟩ := getOperation_ok h
  show F r >>= G = _
  rw [hF r op h hkeys]
  unfold Snapshot.seq
  cases hfo : f op with
  | error e => rfl
  | ok o =>
      cases o with
      | none => exact hG r op h hkeys
      | some op₁ =>
          -- the second call reads the row the first wrote
          have hkey₁ : op₁.key = op.key := hf op op₁ hfo
          have h₁ : (r.updateOperation op₁).getOperation schedulingID correlationID = .ok op₁ :=
            getOperation_updateOperation h (by rw [← hsid]; exact congrArg Prod.fst hkey₁)
              (by rw [← hcid]; exact congrArg Prod.snd hkey₁)
          have hG₁ := hG (r.updateOperation op₁) op₁ h₁ (by rw [updateOperation_keys]; exact hkeys)
          show G (r.updateOperation op₁) = _
          rw [hG₁]
          dsimp only
          cases hgo : g op₁ with
          | error e => rfl
          | ok o₂ =>
              cases o₂ with
              | none => rfl
              | some op₂ =>
                  show Except.ok ((r.updateOperation op₁).updateOperation op₂) = _
                  rw [updateOperation_updateOperation (hg op₁ op₂ hgo).symm]
                  rfl

end PersistentReconciliationRepository

namespace RowCall

open PersistentReconciliationRepository

/-- The call on the persistent repository, in one transaction. -/
def run (c : RowCall) (r : PersistentReconciliationRepository)
    (schedulingID correlationID : String) :
    Except RepositoryError PersistentReconciliationRepository :=
  match c with
  | updateOperationState state allowInState reasons now =>
      r.updateOperationState schedulingID correlationID state allowInState reasons now
  | updateOperationRetryID retryID now =>
      r.updateOperationRetryID schedulingID correlationID retryID now
  | updateOperationPickedUp now => r.updateOperationPickedUp schedulingID correlationID now
  | updateComponentOperationProcessingDuration processingDuration =>
      r.updateComponentOperationProcessingDuration schedulingID correlationID processingDuration
  | updateOperationStateAndRetryIDAndProcessingDuration retryID state processingDuration
      reasons now =>
      r.updateOperationStateAndRetryIDAndProcessingDuration schedulingID correlationID retryID
        state processingDuration reasons now

section Implements

variable {schedulingID correlationID : String}

theorem implements_updateOperationState (state : OperationState) (allowInState : Bool)
    (reasons : List String) (now : Nat) :
    Implements (fun r => r.updateOperationState schedulingID correlationID state allowInState
      reasons now) (fun op => op.updateOperationState state allowInState reasons now)
      schedulingID correlationID := by
  intro r op h _
  show PersistentReconciliationRepository.updateOperationState .. = _
  unfold PersistentReconciliationRepository.updateOperationState OperationEntity.updateOperationState
  rw [h]
  dsimp only
  split_ifs
  · rfl
  · rfl
  · cases concatStateReasons state reasons <;> rfl

theorem implements_updateOperationRetryID (retryID : String) (now : Nat) :
    Implements (fun r => r.updateOperationRetryID schedulingID correlationID retryID now)
      (fun op => op.updateOperationRetryID retryID now) schedulingID correlationID := by
  intro r op h _
  show PersistentReconciliationRepository.updateOperationRetryID .. = _
  unfold PersistentReconciliationRepository.updateOperationRetryID
    OperationEntity.updateOperationRetryID
  rw [h]
  dsimp only
  split_ifs <;> rfl

theorem implements_updateOperationPickedUp (now : Nat) :
    Implements (fun r => r.updateOperationPickedUp schedulingID correlationID now)
      (fun op => op.updateOperationPickedUp now) schedulingID correlationID := by
  intro r op h _
  show PersistentReconciliationRepository.updateOperationPickedUp .. = _
  unfold PersistentReconciliationRepository.updateOperationPickedUp
    OperationEntity.updateOperationPickedUp
  rw [h]
  dsimp only
  split_ifs <;> rfl

theorem implements_updateComponentOperationProcessingDuration (processingDuration : Int) :
    Implements (fun r => r.updateComponentOperationProcessingDuration schedulingID correlationID
      processingDuration) (fun op => op.updateComponentOperationProcessingDuration
      processingDuration) schedulingID correlationID := by
  intro r op h hkeys
  show PersistentReconciliationRepository.updateComponentOperationProcessingDuration .. = _
  unfold PersistentReconciliationRepository.updateComponentOperationProcessingDuration
  rw [filter_of_getOperation h hkeys]
  rfl

theorem keepsKey_updateOperationState (state : OperationState) (allowInState : Bool)
    (reasons : List String) (now : Nat) :
    KeepsKey (fun op => op.updateOperationState state allowInState reasons now) := by
  intro op op' h
  obtain ⟨-, _, rfl⟩ := OperationEntity.leaves_updateOperationState (.inl h)
  rfl

theorem keepsKey_updateComponentOperationProcessingDuration (processingDuration : Int) :
    KeepsKey (fun op => op.updateComponentOperationProcessingDuration processingDuration) := by
  intro op op' h
  rw [OperationEntity.leaves_updateComponentOperationProcessingDuration (.inl h)]
  rfl

theorem keepsKey_updateOperationRetryID (retryID : String) (now : Nat) :
    KeepsKey (fun op => op.updateOperationRetryID retryID now) := by
  intro op op' h
  obtain ⟨_, _, rfl⟩ := OperationEntity.leaves_updateOperationRetryID (.inl h)
  rfl

theorem keepsKey_updateOperationPickedUp (now : Nat) :
    KeepsKey (fun op => op.updateOperationPickedUp now) := by
  intro op op' h
  rw [OperationEntity.leaves_updateOperationPickedUp (.inl h)]
  rfl

/-- Every call writes the row under the key it read. -/
theorem keepsKey_txn (c : RowCall) : KeepsKey c.txn := by
  cases c with
  | updateOperationState state allowInState reasons now =>
      exact keepsKey_updateOperationState state allowInState reasons now
  | updateOperationRetryID retryID now => exact keepsKey_updateOperationRetryID retryID now
  | updateOperationPickedUp now => exact keepsKey_updateOperationPickedUp now
  | updateComponentOperationProcessingDuration processingDuration =>
      exact keepsKey_updateComponentOperationProcessingDuration processingDuration
  | updateOperationStateAndRetryIDAndProcessingDuration retryID state processingDuration
      reasons now =>
      exact KeepsKey.seq (keepsKey_updateOperationRetryID retryID now)
        (KeepsKey.seq (keepsKey_updateOperationState state true _ now)
          (keepsKey_updateComponentOperationProcessingDuration processingDuration))

/-- **Refinement.**  Every call, run on a repository with distinct operation keys, is its row
transaction on the row it reads, written back. -/
theorem run_eq (c : RowCall) :
    Implements (fun r => c.run r schedulingID correlationID) c.txn schedulingID correlationID := by
  cases c with
  | updateOperationState state allowInState reasons now =>
      exact implements_updateOperationState state allowInState reasons now
  | updateOperationRetryID retryID now => exact implements_updateOperationRetryID retryID now
  | updateOperationPickedUp now => exact implements_updateOperationPickedUp now
  | updateComponentOperationProcessingDuration processingDuration =>
      exact implements_updateComponentOperationProcessingDuration processingDuration
  | updateOperationStateAndRetryIDAndProcessingDuration retryID state processingDuration
      reasons now =>
      exact Implements.bind (implements_updateOperationRetryID retryID now)
        (Implements.bind (implements_updateOperationState state true _ now)
          (implements_updateComponentOperationProcessingDuration processingDuration)
          (keepsKey_updateOperationState state true _ now)
          (keepsKey_updateComponentOperationProcessingDuration processingDuration))
        (keepsKey_updateOperationRetryID retryID now)
        (KeepsKey.seq (keepsKey_updateOperationState state true _ now)
          (keepsKey_updateComponentOperationProcessingDuration processingDuration))

/-- The row transaction of calls made one after another: each reads what the one before wrote. -/
def serialTxn (calls : List RowCall) : OperationEntity → Except RepositoryError (Option OperationEntity) :=
  calls.foldr (fun c f => Snapshot.seq c.txn f) fun _ => .ok none

theorem keepsKey_serialTxn (calls : List RowCall) : KeepsKey (serialTxn calls) := by
  induction calls with
  | nil => intro op op' h; cases h
  | cons c calls ih => exact KeepsKey.seq (keepsKey_txn c) ih

/-- The run lemma of the refinement: calls made one after another, each in its own transaction,
are their row transactions in sequence. -/
theorem implements_serialTxn (calls : List RowCall) :
    Implements (fun r => calls.foldlM (fun r c => c.run r schedulingID correlationID) r)
      (serialTxn calls) schedulingID correlationID := by
  induction calls with
  | nil => intro r op _ _; rfl
  | cons c calls ih =>
      -- the first call, then the rest on the repository it leaves
      have hcons : (fun r => (c :: calls).foldlM (fun r c => c.run r schedulingID correlationID) r) =
          fun r => c.run r schedulingID correlationID >>=
            fun r' => calls.foldlM (fun r c => c.run r schedulingID correlationID) r' :=
        funext fun r => List.foldlM_cons ..
      rw [hcons]
      exact Implements.bind (run_eq c) ih (keepsKey_txn c) (keepsKey_serialTxn calls)

end Implements

end RowCall

/-! ## Every interleaving on one row -/

section Rows

variable {ι : Type*} [DecidableEq ι]

/-- Clients, each making one call on the row, under `REPEATABLE READ`, one step at a time. -/
def RowStep (calls : ι → RowCall) : State ι OperationEntity → State ι OperationEntity → Prop :=
  Snapshot.Step (fun i => (calls i).txn) (fun i => (calls i).attempts)

variable {calls : ι → RowCall} {op₀ : OperationEntity} {s : State ι OperationEntity}

theorem consistent_of_rowStep (hs : Reachable (RowStep calls) (init op₀) s) :
    Consistent (fun i => (calls i).txn) op₀ s :=
  consistent_of_reachable hs

/-- A column that every call sets to its argument or leaves alone holds, after a call that set
it returned nil, that call's argument or the argument of a call of the same kind serialized
after it. -/
theorem column_after {α : Type*} (f : OperationEntity → α) (g : RowCall → Option α)
    (hf : ∀ c x y, Leaves c.txn x y → f y = (g c).getD (f x))
    (hs : Reachable (RowStep calls) (init op₀) s) {i : ι} {a : α} (hi : s.Returned i)
    (ha : g (calls i) = some a) :
    f s.db = a ∨ ∃ p ∈ s.after i, g (calls p.1) = some (f s.db) := by
  obtain ⟨b, c, hleft, hser⟩ := (consistent_of_rowStep hs).returned hi
  have hc : f c = a := by
    rw [hf _ b c hleft, ha]
    rfl
  -- along the later writes the column is the fold of what each sets
  have hcol := hser.column f (fun j a => (g (calls j)).getD a)
    (fun j x y hw => hf (calls j) x y (.inl hw))
  rcases foldl_getD_eq_or (fun j => g (calls j)) ((s.after i).map Prod.fst) (f c) with
    h | ⟨j, hj, hg⟩
  · left
    rw [hcol, h, hc]
  · right
    obtain ⟨p, hp, rfl⟩ := List.mem_map.1 hj
    exact ⟨p, hp, by rw [hcol]; exact hg⟩

/-- After a call that set the retry ID returned nil, the retry count is the one its own write
left, its read count plus one if it changed the ID, or the one a call setting the retry ID
serialized after it left. -/
theorem retries_after (hs : Reachable (RowStep calls) (init op₀) s) {i : ι} {retryID : String}
    (hi : s.Returned i) (ha : (calls i).setsRetryID = some retryID) :
    ∃ b c, Leaves (calls i).txn b c ∧ c.retryID = retryID ∧
      c.retries = b.retries + (if retryID = b.retryID then 0 else 1) ∧
      (s.db.retries = c.retries ∨
        ∃ p ∈ s.after i, (calls p.1).setsRetryID.isSome ∧ s.db.retries = p.2.retries) := by
  obtain ⟨b, c, hleft, hser⟩ := (consistent_of_rowStep hs).returned hi
  have hretryID : c.retryID = retryID := by
    rw [RowCall.leaves_retryID hleft, ha]
    rfl
  have hretries : c.retries = b.retries + (if retryID = b.retryID then 0 else 1) := by
    rw [RowCall.leaves_retries hleft, ha]
    rfl
  -- along the later writes only those that set a retry ID touch the count
  have hlast := hser.last_writer OperationEntity.retries (fun j => (calls j).setsRetryID.isSome)
    (fun j x y hw hW => by
      rw [RowCall.leaves_retries (.inl hw), Option.not_isSome_iff_eq_none.1 hW]
      simp)
  exact ⟨b, c, hleft, hretryID, hretries, hlast⟩

/-- A final state stays along every run. -/
theorem state_of_final (hs : Reachable (RowStep calls) (init op₀) s)
    {s' : State ι OperationEntity} (h : ReflTransGen (RowStep calls) s s')
    (hfin : s.db.state.isFinal = true) : s'.db.state = s.db.state := by
  refine (consistent_of_rowStep hs).stable h (P := fun x => x.state = s.db.state) ?_ rfl
  intro i x y hx hw
  have hxfin : x.state.isFinal = true := by
    rw [hx]
    exact hfin
  exact (RowCall.leaves_final (.inl hw) hxfin).trans hx

/-- A pickup time, once set, stays along every run. -/
theorem pickedUp_of_ne_zero (hs : Reachable (RowStep calls) (init op₀) s)
    {s' : State ι OperationEntity} (h : ReflTransGen (RowStep calls) s s')
    (hpick : s.db.pickedUp ≠ 0) : s'.db.pickedUp = s.db.pickedUp := by
  refine (consistent_of_rowStep hs).stable h (P := fun x => x.pickedUp = s.db.pickedUp) ?_ rfl
  intro i x y hx hw
  have hx0 : x.pickedUp ≠ 0 := by
    rw [hx]
    exact hpick
  exact (RowCall.leaves_pickedUp (.inl hw) hx0).trans hx

/-- **No lost update on an operation row.**  In every interleaving of the calls on one row:
a final state is never left; the state, the retry ID and the processing duration that a call
set and returned nil for are its own, or those of a call of its kind serialized after it; so is
the retry count a call setting the retry ID wrote, its read count plus one for a new ID; a
pickup time, once set, never changes; and each call, run on a repository with distinct operation
keys, is its row transaction written back. -/
theorem operationRow_no_lost_update (calls : ι → RowCall) (op₀ : OperationEntity)
    (s : State ι OperationEntity) (hs : Reachable (RowStep calls) (init op₀) s) :
    (∀ s', ReflTransGen (RowStep calls) s s' → s.db.state.isFinal = true →
      s'.db.state = s.db.state) ∧
    (∀ i state, s.Returned i → (calls i).setsState = some state →
      s.db.state = state ∨ ∃ p ∈ s.after i, (calls p.1).setsState = some s.db.state) ∧
    (∀ i retryID, s.Returned i → (calls i).setsRetryID = some retryID →
      s.db.retryID = retryID ∨ ∃ p ∈ s.after i, (calls p.1).setsRetryID = some s.db.retryID) ∧
    (∀ i retryID, s.Returned i → (calls i).setsRetryID = some retryID →
      ∃ b c, Leaves (calls i).txn b c ∧ c.retryID = retryID ∧
        c.retries = b.retries + (if retryID = b.retryID then 0 else 1) ∧
        (s.db.retries = c.retries ∨
          ∃ p ∈ s.after i, (calls p.1).setsRetryID.isSome ∧ s.db.retries = p.2.retries)) ∧
    (∀ i processingDuration, s.Returned i →
      (calls i).setsProcessingDuration = some processingDuration →
      s.db.processingDuration = processingDuration ∨
        ∃ p ∈ s.after i, (calls p.1).setsProcessingDuration = some s.db.processingDuration) ∧
    (∀ s', ReflTransGen (RowStep calls) s s' → s.db.pickedUp ≠ 0 →
      s'.db.pickedUp = s.db.pickedUp) ∧
    (∀ i schedulingID correlationID (r : PersistentReconciliationRepository) op,
      r.getOperation schedulingID correlationID = .ok op →
      (r.operations.map OperationEntity.key).Nodup →
      (calls i).run r schedulingID correlationID = ((calls i).txn op).map r.writeBack) :=
  ⟨fun _ h hfin => state_of_final hs h hfin,
    fun _ _ hi ha => column_after OperationEntity.state RowCall.setsState
      (fun _ _ _ h => RowCall.leaves_state h) hs hi ha,
    fun _ _ hi ha => column_after OperationEntity.retryID RowCall.setsRetryID
      (fun _ _ _ h => RowCall.leaves_retryID h) hs hi ha,
    fun _ _ hi ha => retries_after hs hi ha,
    fun _ _ hi ha => column_after OperationEntity.processingDuration RowCall.setsProcessingDuration
      (fun _ _ _ h => RowCall.leaves_processingDuration h) hs hi ha,
    fun _ h hpick => pickedUp_of_ne_zero hs h hpick, fun i _ _ => RowCall.run_eq (calls i)⟩

end Rows

/-! ## Two pickups one after the other -/

/-- A new operation, not picked up yet. -/
def unpickedOperation : OperationEntity :=
  { type := .reconcile, state := .new }

/-- Two clients that pick the operation up, at times `1` and `2`. -/
def twoPickups : Fin 2 → RowCall
  | 0 => .updateOperationPickedUp 1
  | 1 => .updateOperationPickedUp 2

/-- The first pickup writes its time; the second begins after it and finds the row picked up. -/
def twoPickupsState : State (Fin 2) OperationEntity :=
  ((((init unpickedOperation).setPhase 0 (.running 0 unpickedOperation 0)).commitWrite 0
      { unpickedOperation with pickedUp := 1 }).setPhase 1
      (.running 0 { unpickedOperation with pickedUp := 1 } 1)).setPhase 1 (.readOnly 1)

theorem twoPickups_reachable : Reachable (RowStep twoPickups) (init unpickedOperation) twoPickupsState := by
  have h₁ : RowStep twoPickups (init unpickedOperation)
      ((init unpickedOperation).setPhase 0 (.running 0 unpickedOperation 0)) :=
    Step.begin rfl
  have h₂ : RowStep twoPickups ((init unpickedOperation).setPhase 0 (.running 0 unpickedOperation 0))
      (((init unpickedOperation).setPhase 0 (.running 0 unpickedOperation 0)).commitWrite 0
        { unpickedOperation with pickedUp := 1 }) :=
    Step.commit rfl rfl
  have h₃ : RowStep twoPickups
      (((init unpickedOperation).setPhase 0 (.running 0 unpickedOperation 0)).commitWrite 0
        { unpickedOperation with pickedUp := 1 })
      ((((init unpickedOperation).setPhase 0 (.running 0 unpickedOperation 0)).commitWrite 0
        { unpickedOperation with pickedUp := 1 }).setPhase 1
        (.running 0 { unpickedOperation with pickedUp := 1 } 1)) :=
    Step.begin rfl
  have h₄ : RowStep twoPickups
      ((((init unpickedOperation).setPhase 0 (.running 0 unpickedOperation 0)).commitWrite 0
        { unpickedOperation with pickedUp := 1 }).setPhase 1
        (.running 0 { unpickedOperation with pickedUp := 1 } 1)) twoPickupsState :=
    Step.readOnly rfl rfl
  exact .tail (.tail (.tail (.single h₁) h₂) h₃) h₄

/-- The second pickup returned nil, no call is serialized after it, and the row holds the first
pickup's time, not its own. -/
theorem operationRow_second_pickup_keeps_first :
    Reachable (RowStep twoPickups) (init unpickedOperation) twoPickupsState ∧
      twoPickupsState.Returned 1 ∧
      ¬(twoPickupsState.db.pickedUp = 2 ∨ ∃ p ∈ twoPickupsState.after 1,
        (twoPickups p.1).setsPickedUp = some twoPickupsState.db.pickedUp) := by
  refine ⟨twoPickups_reachable, .inr ⟨1, rfl⟩, ?_⟩
  rintro (h | ⟨p, hp, -⟩)
  · cases h
  · cases hp

theorem operationRow_no_lost_update_twoPickups :
    Reachable (RowStep twoPickups) (init unpickedOperation) twoPickupsState ∧
    twoPickupsState.db.pickedUp ≠ 0 ∧
    ∀ s', ReflTransGen (RowStep twoPickups) twoPickupsState s' →
      s'.db.pickedUp = twoPickupsState.db.pickedUp :=
  ⟨twoPickups_reachable, by decide, fun s' h =>
    (operationRow_no_lost_update twoPickups unpickedOperation twoPickupsState
      twoPickups_reachable).2.2.2.2.2.1 s' h (by decide)⟩

/-! ## The row model is the repository's -/

/-- **Calls one after another are their row transactions in sequence.**  On a repository with
distinct operation keys that holds the row, every sequence of calls made one after another, each
in its own transaction, fails with the first error of its row transactions run in sequence on
the row, each reading what the one before wrote, or leaves the repository with the row they
write, written back by `Query.Update`. -/
theorem rowCalls_refine_repository (schedulingID correlationID : String) (calls : List RowCall)
    (r : PersistentReconciliationRepository) (op : OperationEntity)
    (hop : r.getOperation schedulingID correlationID = .ok op)
    (hkeys : (r.operations.map OperationEntity.key).Nodup) :
    calls.foldlM (fun r c => c.run r schedulingID correlationID) r =
      (RowCall.serialTxn calls op).map r.writeBack :=
  RowCall.implements_serialTxn calls r op hop hkeys

/-- A repository that holds the new operation only. -/
def unpickedRepository : PersistentReconciliationRepository :=
  { reconciliations := [], operations := [unpickedOperation] }

/-- Two pickups one after the other on the repository: the row keeps the first time. -/
theorem rowCalls_refine_repository_twoPickups :
    unpickedRepository.getOperation "" "" = .ok unpickedOperation ∧
      (unpickedRepository.operations.map OperationEntity.key).Nodup ∧
      [RowCall.updateOperationPickedUp 1, .updateOperationPickedUp 2].foldlM
          (fun r c => c.run r "" "") unpickedRepository =
        .ok { unpickedRepository with operations := [{ unpickedOperation with pickedUp := 1 }] } := by
  have hop : unpickedRepository.getOperation "" "" = .ok unpickedOperation := rfl
  have hkeys : (unpickedRepository.operations.map OperationEntity.key).Nodup := by decide
  refine ⟨hop, hkeys, ?_⟩
  rw [rowCalls_refine_repository "" "" _ unpickedRepository unpickedOperation hop hkeys]
  rfl

end Reconciler
