import Reconciler.Db.Validator

/-!
# Nested transactions

`db.Transaction` runs a `dbOps` body in a transaction. When the body itself calls
`Transaction` with the `TxConnection` it was given, no new `sql.Tx` is begun: the
`TxConnection` counts the nesting level (`Begin` increments, `commit` decrements and
commits the `sql.Tx` at level 0) and `Rollback` only sets a flag and rolls the `sql.Tx`
back.

A body is a `DbOps` tree: it returns, or it calls `Transaction` on its own
`TxConnection` with a body of its own and goes on with the error that call returned.
A run appends its events (a `sql.Tx` begun, a body returned, a commit or a rollback called)
to a log, so that properties of the order of events can be stated.
-/

namespace Reconciler

/-- The state of a `sql.Tx`. Of `database/sql` we assume that `Commit` and `Rollback`
end the transaction. -/
inductive TxState
  | active
  | committed
  | rolledBack
  deriving DecidableEq, Repr, Inhabited

/-- `sql.ErrTxDone`. -/
def errTxDone : String := "sql: transaction has already been committed or rolled back"

namespace TxState

/-- `sql.Tx.Commit`. -/
def commit : TxState → TxState × Option String
  | .active => (.committed, none)
  | s => (s, some errTxDone)

/-- `sql.Tx.Rollback`. -/
def rollback : TxState → TxState × Option String
  | .active => (.rolledBack, none)
  | s => (s, some errTxDone)

@[simp] theorem commit_committed : committed.commit = (committed, some errTxDone) := rfl

@[simp] theorem rollback_active : active.rollback = (rolledBack, none) := rfl

@[simp] theorem rollback_rolledBack : rolledBack.rollback = (rolledBack, some errTxDone) := rfl

/-- A `sql.Tx` that is committed stays committed. -/
theorem commit_fst_of_committed {s : TxState} (h : s = committed) : s.commit.1 = committed := by
  subst h
  rfl

theorem rollback_fst_of_committed {s : TxState} (h : s = committed) : s.rollback.1 = committed := by
  subst h
  rfl

/-- A rollback of a `sql.Tx` that is not committed leaves it rolled back. -/
theorem rollback_fst_of_ne_committed {s : TxState} (h : s ≠ committed) :
    s.rollback.1 = rolledBack := by
  cases s <;> simp_all [rollback]

end TxState

/-- `db.TxConnection` without its logger, lock and connection: the nesting counter, the
flag that `commit` at level 0 and `Rollback` set, and the state of its `sql.Tx`. -/
structure TxConnection where
  counter : Nat
  committedOrRolledBack : Bool
  tx : TxState
  deriving DecidableEq, Repr, Inhabited

@[simp] theorem TxConnection.default_tx : (default : TxConnection).tx = .active := rfl

/-- What happens to the `sql.Tx` of the `TxConnection` at index `i`. -/
inductive TxEvent
  | begin (i : Nat)
  | returned (i : Nat) (err : Option String)
  | commit (i : Nat) (err : Option String)
  | rollback (i : Nat) (err : Option String)
  deriving DecidableEq, Repr

/-- The `TxConnection`s begun so far, by index, and the events so far. -/
structure TxWorld where
  conns : List TxConnection
  log : List TxEvent
  deriving DecidableEq, Repr

namespace TxWorld

/-- The `TxConnection` at index `i`. -/
def conn (w : TxWorld) (i : Nat) : TxConnection := w.conns.getD i default

def setConn (w : TxWorld) (i : Nat) (t : TxConnection) : TxWorld :=
  { w with conns := w.conns.set i t }

def record (w : TxWorld) (e : TxEvent) : TxWorld :=
  { w with log := w.log ++ [e] }

@[simp] theorem conns_setConn (w : TxWorld) (i : Nat) (t : TxConnection) :
    (w.setConn i t).conns = w.conns.set i t := rfl

@[simp] theorem log_setConn (w : TxWorld) (i : Nat) (t : TxConnection) :
    (w.setConn i t).log = w.log := rfl

@[simp] theorem conns_record (w : TxWorld) (e : TxEvent) : (w.record e).conns = w.conns := rfl

@[simp] theorem log_record (w : TxWorld) (e : TxEvent) : (w.record e).log = w.log ++ [e] := rfl

@[simp] theorem conn_record (w : TxWorld) (e : TxEvent) (i : Nat) :
    (w.record e).conn i = w.conn i := rfl

theorem conn_setConn (w : TxWorld) {i : Nat} (t : TxConnection) (h : i < w.conns.length) :
    (w.setConn i t).conn i = t := by
  simp [conn, List.getD_eq_getElem?_getD, h]

theorem conn_setConn_of_ne (w : TxWorld) {i j : Nat} (t : TxConnection) (h : j ≠ i) :
    (w.setConn i t).conn j = w.conn j := by
  simp [conn, List.getD_eq_getElem?_getD, List.getElem?_set_ne (Ne.symm h)]

/-- Setting a `TxConnection` back to what it was leaves the world as it was. -/
theorem setConn_conn (w : TxWorld) {i : Nat} (h : i < w.conns.length) : w.setConn i (w.conn i) = w := by
  cases w
  simp_all [setConn, conn, List.getD_eq_getElem?_getD]

@[simp] theorem setConn_setConn (w : TxWorld) (i : Nat) (t t' : TxConnection) :
    (w.setConn i t).setConn i t' = w.setConn i t' := by
  simp [setConn]

/-- The `TxConnection` just appended is the one at the old length. -/
theorem conn_append (conns : List TxConnection) (log : List TxEvent) (t : TxConnection) :
    (⟨conns ++ [t], log⟩ : TxWorld).conn conns.length = t := by
  simp [conn, List.getD_eq_getElem?_getD]

theorem conn_append_of_lt (w : TxWorld) (log : List TxEvent) (t : TxConnection) {j : Nat}
    (h : j < w.conns.length) : (⟨w.conns ++ [t], log⟩ : TxWorld).conn j = w.conn j := by
  simp [conn, List.getD_eq_getElem?_getD, List.getElem?_append_left h]

/-- Beyond the `TxConnection`s begun, `conn` is the default, whose `sql.Tx` is active. -/
theorem conn_of_le (w : TxWorld) {j : Nat} (h : w.conns.length ≤ j) : w.conn j = default := by
  simp [conn, List.getD_eq_getElem?_getD, List.getElem?_eq_none h]

theorem setConn_append (conns : List TxConnection) (log : List TxEvent) (t t' : TxConnection) :
    (⟨conns ++ [t], log⟩ : TxWorld).setConn conns.length t' = ⟨conns ++ [t'], log⟩ := by
  simp [setConn]

end TxWorld

/-- The `Connection` a transaction begins on: the database, or the `TxConnection` at an
index. -/
inductive TxConn
  | db
  | tx (i : Nat)
  deriving DecidableEq, Repr

/-- The id of the `TxConnection` at index `i`, in the texts of errors. -/
def txID (i : Nat) : String := toString i

/-- `Connection.Begin`. The database begins a new `sql.Tx` in a new `TxConnection` whose
counter `NewTxConnection` sets to 1; a `TxConnection` returns itself one level deeper
(`TxConnection.Begin`), or an error once it is committed or rolled back. -/
def beginTx : TxConn → TxWorld → TxWorld × Except String Nat
  | .db, w =>
    (⟨w.conns ++ [⟨1, false, .active⟩], w.log ++ [.begin w.conns.length]⟩, .ok w.conns.length)
  | .tx i, w =>
    if (w.conn i).committedOrRolledBack then
      (w, .error ("transaction (txID:" ++ txID i ++
        ") is already committed or rolled back and cannot be used anymore"))
    else (w.setConn i { w.conn i with counter := (w.conn i).counter + 1 }, .ok i)

theorem beginTx_tx_of_closed {w : TxWorld} {i : Nat}
    (h : (w.conn i).committedOrRolledBack = true) : ∃ err, beginTx (.tx i) w = (w, .error err) := by
  simp [beginTx, h]

theorem beginTx_tx_of_open {w : TxWorld} {i : Nat}
    (h : (w.conn i).committedOrRolledBack = false) :
    beginTx (.tx i) w = (w.setConn i { w.conn i with counter := (w.conn i).counter + 1 }, .ok i) := by
  simp [beginTx, h]

/-- `TxConnection.Rollback`: sets the flag and rolls the `sql.Tx` back, at any level. -/
def rollbackTx (i : Nat) (w : TxWorld) : TxWorld × Option String :=
  let r := (w.conn i).tx.rollback
  ((w.setConn i { w.conn i with committedOrRolledBack := true, tx := r.1 }).record
    (.rollback i r.2), r.2)

/-- `TxConnection.commit`: one level less, and at level 0 the flag is set and the `sql.Tx`
committed. The Go counter is a `uint`; a `commit` follows a `Begin` that counted up, so the
truncation of `Nat` subtraction is not met. -/
def commitTx (i : Nat) (w : TxWorld) : TxWorld × Option String :=
  let t := { w.conn i with counter := (w.conn i).counter - 1 }
  if t.counter = 0 then
    let r := t.tx.commit
    ((w.setConn i { t with committedOrRolledBack := true, tx := r.1 }).record (.commit i r.2),
      r.2)
  else (w.setConn i t, none)

/-- At level 1, `commit` sets the flag and calls `sql.Tx.Commit`. -/
theorem commitTx_of_counter_eq_one {w : TxWorld} {i : Nat} (h : (w.conn i).counter = 1) :
    commitTx i w =
      ((w.setConn i { w.conn i with
          counter := 0, committedOrRolledBack := true, tx := (w.conn i).tx.commit.1 }).record
        (.commit i (w.conn i).tx.commit.2), (w.conn i).tx.commit.2) := by
  simp [commitTx, h]

/-- Below level 0, `commit` only counts down. -/
theorem commitTx_of_two_le {w : TxWorld} {i : Nat} (h : 2 ≤ (w.conn i).counter) :
    commitTx i w = (w.setConn i { w.conn i with counter := (w.conn i).counter - 1 }, none) := by
  have hne : (w.conn i).counter - 1 ≠ 0 := by omega
  simp [commitTx, hne]

/-- `execTransaction`: begin, run the body, and roll back on its error (wrapping the error of
a failed rollback) or commit. -/
def execTransaction (conn : TxConn) (dbOps : Nat → TxWorld → TxWorld × Option String)
    (w : TxWorld) : TxWorld × Option String :=
  match beginTx conn w with
  | (w, .error err) => (w, some err)
  | (w, .ok i) =>
    match dbOps i w with
    | (w, some err) =>
      match rollbackTx i w with
      | (w, some rollbackErr) =>
        (w, some ("Rollback of DB transaction (txID:" ++ txID i ++ " ) failed: " ++
          rollbackErr ++ ": " ++ err))
      | (w, none) => (w, some err)
    | (w, none) => commitTx i w

section ExecTransaction

variable {conn : TxConn} {dbOps : Nat → TxWorld → TxWorld × Option String}
  {w w₁ w₂ : TxWorld} {i : Nat}

theorem execTransaction_of_beginTx_error {err : String} (h : beginTx conn w = (w₁, .error err)) :
    execTransaction conn dbOps w = (w₁, some err) := by
  simp [execTransaction, h]

theorem execTransaction_of_ok (h₁ : beginTx conn w = (w₁, .ok i)) (h₂ : dbOps i w₁ = (w₂, none)) :
    execTransaction conn dbOps w = commitTx i w₂ := by
  simp [execTransaction, h₁, h₂]

/-- On an error of the body, the world is the one `Rollback` leaves and the result an error. -/
theorem execTransaction_of_error {err : String} (h₁ : beginTx conn w = (w₁, .ok i))
    (h₂ : dbOps i w₁ = (w₂, some err)) :
    (execTransaction conn dbOps w).1 = (rollbackTx i w₂).1 ∧
      (execTransaction conn dbOps w).2.isSome := by
  rcases hr : rollbackTx i w₂ with ⟨w₃, _ | rollbackErr⟩ <;> simp [execTransaction, h₁, h₂, hr]

theorem execTransaction_of_error_of_rollback {err : String} (h₁ : beginTx conn w = (w₁, .ok i))
    (h₂ : dbOps i w₁ = (w₂, some err)) (h₃ : (rollbackTx i w₂).2 = none) :
    execTransaction conn dbOps w = ((rollbackTx i w₂).1, some err) := by
  rcases hr : rollbackTx i w₂ with ⟨w₃, _ | rollbackErr⟩
  · simp [execTransaction, h₁, h₂, hr]
  · simp [hr] at h₃

end ExecTransaction

/-- `txMaxRetries`. -/
def txMaxRetries : Nat := 5

/-- `isCollidingTxError`. -/
def isCollidingTxError (err : String) : Bool :=
  contains err "could not serialize access"

/-- `isAlreadyCommitedOrRolledBackError`. -/
def isAlreadyCommitedOrRolledBackError (err : String) : Bool :=
  contains err "already been committed or rolled back"

/-- How `TransactionResult` chains the error of an attempt to those before it:
`errors.Wrap(allErr, err.Error())` puts the newer error in front. -/
def chainTxErr : Option String → String → String
  | none, err => err
  | some allErr, err => err ++ ": " ++ allErr

/-- The loop of `TransactionResult` from attempt `retries` on, with the errors of the
earlier attempts chained in `allErr`; the jitter between attempts is left out. -/
def transactionLoop (attempt : Nat → TxWorld → TxWorld × Option String) (retries : Nat)
    (allErr : Option String) (w : TxWorld) : TxWorld × Option String :=
  if retries < txMaxRetries then
    match attempt retries w with
    | (w, none) => (w, none)
    | (w, some err) =>
      if isAlreadyCommitedOrRolledBackError err then (w, some (chainTxErr allErr err))
      else if isCollidingTxError err then
        transactionLoop attempt (retries + 1) (some (chainTxErr allErr err)) w
      else (w, some (chainTxErr allErr err))
  else (w, allErr)
termination_by txMaxRetries - retries

section TransactionLoop

variable {attempt : Nat → TxWorld → TxWorld × Option String} {retries : Nat}
  {allErr : Option String} {w w' : TxWorld}

theorem transactionLoop_of_le (h : txMaxRetries ≤ retries) :
    transactionLoop attempt retries allErr w = (w, allErr) := by
  rw [transactionLoop]
  simp [Nat.not_lt.2 h]

theorem transactionLoop_of_ok (h : retries < txMaxRetries) (ha : attempt retries w = (w', none)) :
    transactionLoop attempt retries allErr w = (w', none) := by
  rw [transactionLoop]
  simp [h, ha]

theorem transactionLoop_of_error {err : String} (h : retries < txMaxRetries)
    (ha : attempt retries w = (w', some err)) :
    transactionLoop attempt retries allErr w =
      if isAlreadyCommitedOrRolledBackError err then (w', some (chainTxErr allErr err))
      else if isCollidingTxError err then
        transactionLoop attempt (retries + 1) (some (chainTxErr allErr err)) w'
      else (w', some (chainTxErr allErr err)) := by
  rw [transactionLoop]
  simp [h, ha]

variable (attempt) in
/-- The rule of the retry loop: a set of worlds that every failed attempt keeps, a
postcondition that every successful attempt from it meets, and that every way of leaving
the loop with an error meets. -/
theorem transactionLoop_spec (S : TxWorld → Prop) (Q : TxWorld × Option String → Prop)
    (hok : ∀ r w, S w → (attempt r w).2 = none → Q (attempt r w))
    (herr : ∀ r w, S w → (attempt r w).2.isSome → S (attempt r w).1)
    (hdone : ∀ w a, S w → Q (w, a)) :
    ∀ retries allErr w, S w → Q (transactionLoop attempt retries allErr w) := by
  intro retries
  -- the loop counts its attempts up to txMaxRetries
  induction hn : txMaxRetries - retries generalizing retries with
  | zero =>
    intro allErr w hS
    rw [transactionLoop_of_le (by omega)]
    exact hdone w allErr hS
  | succ n ih =>
    intro allErr w hS
    have hlt : retries < txMaxRetries := by omega
    rcases ha : attempt retries w with ⟨w', _ | err⟩
    · rw [transactionLoop_of_ok hlt ha, ← ha]
      exact hok retries w hS (by simp [ha])
    · have hS' : S w' := by simpa [ha] using herr retries w hS (by simp [ha])
      rw [transactionLoop_of_error hlt ha]
      split_ifs
      · exact hdone _ _ hS'
      · exact ih (retries + 1) (by omega) _ _ hS'
      · exact hdone _ _ hS'

variable (attempt) in
/-- A set of worlds that every attempt keeps is kept by the loop. -/
theorem transactionLoop_invariant (S : TxWorld → Prop) (h : ∀ r w, S w → S (attempt r w).1)
    (retries : Nat) (allErr : Option String) (hw : S w) :
    S (transactionLoop attempt retries allErr w).1 :=
  transactionLoop_spec attempt S (fun r => S r.1) (fun r w hw _ => h r w hw)
    (fun r w hw _ => h r w hw) (fun _ _ hw => hw) retries allErr w hw

/-- A loop whose every attempt leaves the world as it is ends in that world. -/
theorem transactionLoop_of_stuck (h : ∀ r, (attempt r w).1 = w) :
    (transactionLoop attempt retries allErr w).1 = w := by
  apply transactionLoop_invariant attempt (· = w) _ retries allErr rfl
  intro r w' hw
  subst hw
  exact h r

end TransactionLoop

/-- `TransactionResult`, with its result left out: the body of each attempt may differ. -/
def transactionResult (conn : TxConn) (dbOps : Nat → Nat → TxWorld → TxWorld × Option String)
    (w : TxWorld) : TxWorld × Option String :=
  transactionLoop (fun retries => execTransaction conn (dbOps retries)) 0 none w

/-- A `dbOps` body by what it does with the `TxConnection` it is given: it returns its error,
or it calls `Transaction` on that `TxConnection` with the body `dbOps` (by attempt) and goes
on with `k` of the error that call returned. -/
inductive DbOps
  | ret (err : Option String)
  | transaction (dbOps : Nat → DbOps) (k : Option String → DbOps)

/-- Running a body on the `TxConnection` at index `i`. -/
def DbOps.run : DbOps → Nat → TxWorld → TxWorld × Option String
  | .ret err, i, w => (w.record (.returned i err), err)
  | .transaction dbOps k, i, w =>
    let r := transactionResult (.tx i) (fun attempt j => (dbOps attempt).run j) w
    (k r.2).run i r.1

/-- `db.Transaction`. -/
def transaction (conn : TxConn) (dbOps : Nat → DbOps) (w : TxWorld) : TxWorld × Option String :=
  transactionResult conn (fun attempt i => (dbOps attempt).run i) w

@[simp] theorem DbOps.run_ret (err : Option String) (i : Nat) (w : TxWorld) :
    (DbOps.ret err).run i w = (w.record (.returned i err), err) := rfl

theorem DbOps.run_transaction (dbOps : Nat → DbOps) (k : Option String → DbOps) (i : Nat)
    (w : TxWorld) :
    (DbOps.transaction dbOps k).run i w =
      let r := transactionResult (.tx i) (fun attempt j => (dbOps attempt).run j) w
      (k r.2).run i r.1 := rfl

/-- An outer body that calls `Transaction` on its `TxConnection` with a body that fails with
`e`, ignores the error and returns nil. The inner `Rollback` ends the `sql.Tx`, but the inner
level is never counted down, so the outer `commit` only takes the counter from 2 to 1 and
returns nil: the outermost call returns nil while its `sql.Tx` is rolled back and was never
committed. -/
theorem transaction_of_ignored_inner_error (e : String) (w : TxWorld) :
    transaction .db (fun _ => .transaction (fun _ => .ret (some e)) (fun _ => .ret none)) w =
      (⟨w.conns ++ [⟨1, true, .rolledBack⟩],
        w.log ++ [.begin w.conns.length, .returned w.conns.length (some e),
          .rollback w.conns.length none, .returned w.conns.length none]⟩, none) := by
  obtain ⟨conns, log⟩ := w
  -- the outer Begin puts a new sql.Tx at level 1
  let w₁ : TxWorld := ⟨conns ++ [⟨1, false, .active⟩], log ++ [.begin conns.length]⟩
  -- the inner Begin takes it to level 2; the inner body fails and Rollback ends the sql.Tx
  let w₃ : TxWorld := ⟨conns ++ [⟨2, true, .rolledBack⟩],
    log ++ [.begin conns.length, .returned conns.length (some e), .rollback conns.length none]⟩
  let inner : Nat → TxWorld → TxWorld × Option String :=
    fun _ => execTransaction (.tx conns.length) (fun j => (DbOps.ret (some e)).run j)
  have hfirst : inner 0 w₁ = (w₃, some e) := by
    have h₁ : beginTx (.tx conns.length) w₁ =
        (⟨conns ++ [⟨2, false, .active⟩], w₁.log⟩, .ok conns.length) := by
      rw [beginTx_tx_of_open (by simp [w₁, TxWorld.conn_append])]
      simp [w₁, TxWorld.conn_append, TxWorld.setConn_append]
    have h₂ : (DbOps.ret (some e)).run conns.length ⟨conns ++ [⟨2, false, .active⟩], w₁.log⟩ =
        (⟨conns ++ [⟨2, false, .active⟩], w₁.log ++ [.returned conns.length (some e)]⟩, some e) :=
      rfl
    show execTransaction _ _ w₁ = _
    rw [execTransaction_of_error_of_rollback h₁ h₂] <;>
      simp [rollbackTx, TxWorld.record, w₁, w₃, TxWorld.conn_append, TxWorld.setConn_append]
  -- every later attempt meets a TxConnection that is already rolled back
  have hclosed : ∀ r, (inner r w₃).1 = w₃ := by
    intro r
    obtain ⟨err, herr⟩ := beginTx_tx_of_closed (w := w₃) (i := conns.length)
      (by simp [w₃, TxWorld.conn_append])
    simp [inner, execTransaction_of_beginTx_error herr]
  have hinner : (transactionLoop inner 0 none w₁).1 = w₃ := by
    rw [transactionLoop_of_error (by decide) hfirst]
    split_ifs
    · rfl
    · exact transactionLoop_of_stuck hclosed
    · rfl
  -- the outer body ignores the error and returns nil
  have hbody : (DbOps.transaction (fun _ => .ret (some e)) (fun _ => .ret none)).run
      conns.length w₁ = (w₃.record (.returned conns.length none), none) := by
    rw [DbOps.run_transaction]
    show (DbOps.ret none).run _ (transactionLoop inner 0 none w₁).1 = _
    rw [hinner]
    rfl
  -- so commit counts down from 2 to 1, and does not commit
  have hcommit : commitTx conns.length (w₃.record (.returned conns.length none)) =
      (⟨conns ++ [⟨1, true, .rolledBack⟩], w₃.log ++ [.returned conns.length none]⟩, none) := by
    rw [commitTx_of_two_le (by simp [w₃, TxWorld.conn_append])]
    simp [TxWorld.record, w₃, TxWorld.conn_append, TxWorld.setConn_append]
  have hattempt : execTransaction .db
      (fun i => (DbOps.transaction (fun _ => .ret (some e)) (fun _ => .ret none)).run i)
      ⟨conns, log⟩ =
      (⟨conns ++ [⟨1, true, .rolledBack⟩], w₃.log ++ [.returned conns.length none]⟩, none) := by
    rw [execTransaction_of_ok rfl hbody, hcommit]
  rw [transaction, transactionResult, transactionLoop_of_ok (by decide) hattempt]
  simp [w₃]

/-! ## What a run below level 0 does -/

/-- The events a run below level 0 appends: returns and rollbacks of the `TxConnection` at
index `i`. -/
def TxEvent.InNestedRun (i : Nat) : TxEvent → Prop
  | .returned j _ | .rollback j _ => j = i
  | .begin _ | .commit _ _ => False

/-- A body returned an error on the `TxConnection` at index `i`. -/
def ErrorReturned (i : Nat) (evs : List TxEvent) : Prop :=
  ∃ e, TxEvent.returned i (some e) ∈ evs

theorem errorReturned_append {i : Nat} {evs₁ evs₂ : List TxEvent} :
    ErrorReturned i (evs₁ ++ evs₂) ↔ ErrorReturned i evs₁ ∨ ErrorReturned i evs₂ := by
  simp [ErrorReturned, exists_or]

/-- The `TxConnection` at index `i` is open below level 0: it exists, its level is at least 1,
and its `sql.Tx` is not committed. -/
structure TxOpen (i : Nat) (w : TxWorld) : Prop where
  lt_length : i < w.conns.length
  one_le_counter : 1 ≤ (w.conn i).counter
  not_committed : (w.conn i).tx ≠ .committed

/-- What a run on the `TxConnection` at index `i` below level 0 may do: change no other
`TxConnection`, leave the level no lower, keep the `sql.Tx` uncommitted and, once rolled back,
rolled back, and append `evs`, returns and rollbacks of `i`. -/
structure NestedStep (i : Nat) (w w' : TxWorld) (evs : List TxEvent) : Prop where
  length_eq : w'.conns.length = w.conns.length
  conn_ne : ∀ j ≠ i, w'.conn j = w.conn j
  counter_le : (w.conn i).counter ≤ (w'.conn i).counter
  not_committed : (w'.conn i).tx ≠ .committed
  rolledBack : (w.conn i).tx = .rolledBack → (w'.conn i).tx = .rolledBack
  log_eq : w'.log = w.log ++ evs
  events : ∀ ev ∈ evs, ev.InNestedRun i

namespace NestedStep

variable {i : Nat} {w w₁ w₂ : TxWorld} {evs evs₁ evs₂ : List TxEvent}

theorem refl (ho : TxOpen i w) : NestedStep i w w [] where
  length_eq := rfl
  conn_ne _ _ := rfl
  counter_le := le_rfl
  not_committed := ho.not_committed
  rolledBack h := h
  log_eq := by simp
  events _ h := by simp at h

theorem trans (h₁ : NestedStep i w w₁ evs₁) (h₂ : NestedStep i w₁ w₂ evs₂) :
    NestedStep i w w₂ (evs₁ ++ evs₂) where
  length_eq := h₂.length_eq.trans h₁.length_eq
  conn_ne j hj := (h₂.conn_ne j hj).trans (h₁.conn_ne j hj)
  counter_le := h₁.counter_le.trans h₂.counter_le
  not_committed := h₂.not_committed
  rolledBack h := h₂.rolledBack (h₁.rolledBack h)
  log_eq := by rw [h₂.log_eq, h₁.log_eq, List.append_assoc]
  events ev hev := by
    rcases List.mem_append.1 hev with h | h
    · exact h₁.events ev h
    · exact h₂.events ev h

theorem txOpen (h : NestedStep i w w₁ evs) (ho : TxOpen i w) : TxOpen i w₁ where
  lt_length := h.length_eq ▸ ho.lt_length
  one_le_counter := ho.one_le_counter.trans h.counter_le
  not_committed := h.not_committed

/-- Setting the `TxConnection` at index `i` after a nested step, to a level no lower than at
the start and to a `sql.Tx` that is not committed, and rolled back if it was. -/
theorem setConn (h : NestedStep i w w₁ evs) (ho : TxOpen i w) {t : TxConnection}
    (hc : (w.conn i).counter ≤ t.counter) (htx : t.tx ≠ .committed)
    (hrb : (w₁.conn i).tx = .rolledBack → t.tx = .rolledBack) :
    NestedStep i w (w₁.setConn i t) evs := by
  have hi : i < w₁.conns.length := (h.txOpen ho).lt_length
  exact {
    length_eq := by simp [h.length_eq]
    conn_ne := fun j hj => by rw [TxWorld.conn_setConn_of_ne _ _ hj, h.conn_ne j hj]
    counter_le := by rw [TxWorld.conn_setConn _ _ hi]; exact hc
    not_committed := by rw [TxWorld.conn_setConn _ _ hi]; exact htx
    rolledBack := fun hw => by rw [TxWorld.conn_setConn _ _ hi]; exact hrb (h.rolledBack hw)
    log_eq := h.log_eq
    events := h.events }

theorem record (h : NestedStep i w w₁ evs) {ev : TxEvent} (hev : ev.InNestedRun i) :
    NestedStep i w (w₁.record ev) (evs ++ [ev]) where
  length_eq := h.length_eq
  conn_ne := h.conn_ne
  counter_le := h.counter_le
  not_committed := h.not_committed
  rolledBack := h.rolledBack
  log_eq := by simp [h.log_eq]
  events ev' hev' := by
    rcases List.mem_append.1 hev' with h' | h'
    · exact h.events ev' h'
    · rw [List.mem_singleton.1 h']
      exact hev

end NestedStep

/-- A nested step after which every error returned on the way has rolled the `sql.Tx` back. -/
def RolledBackRun (i : Nat) (w w' : TxWorld) : Prop :=
  ∃ evs, NestedStep i w w' evs ∧ (ErrorReturned i evs → (w'.conn i).tx = .rolledBack)

/-- A run of a body below level 0: every error returned on the way has rolled the `sql.Tx`
back, or it is on its way out as the error the body returns. -/
def NestedRun (i : Nat) (w : TxWorld) (r : TxWorld × Option String) : Prop :=
  ∃ evs, NestedStep i w r.1 evs ∧ (ErrorReturned i evs → (r.1.conn i).tx = .rolledBack ∨ r.2.isSome)

namespace RolledBackRun

variable {i : Nat} {w w₁ w₂ : TxWorld}

theorem refl (ho : TxOpen i w) : RolledBackRun i w w :=
  ⟨[], NestedStep.refl ho, fun ⟨_, he⟩ => absurd he List.not_mem_nil⟩

theorem txOpen (h : RolledBackRun i w w₁) (ho : TxOpen i w) : TxOpen i w₁ :=
  h.choose_spec.1.txOpen ho

/-- An error returned before a nested step stays rolled back after it. -/
theorem nestedRun (h₁ : RolledBackRun i w w₁) {r : TxWorld × Option String}
    (h₂ : NestedRun i w₁ r) : NestedRun i w r := by
  obtain ⟨evs₁, hs₁, hrb₁⟩ := h₁
  obtain ⟨evs₂, hs₂, hrb₂⟩ := h₂
  refine ⟨evs₁ ++ evs₂, hs₁.trans hs₂, fun he => ?_⟩
  rcases errorReturned_append.1 he with he | he
  · exact .inl (hs₂.rolledBack (hrb₁ he))
  · exact hrb₂ he

theorem trans (h₁ : RolledBackRun i w w₁) (h₂ : RolledBackRun i w₁ w₂) : RolledBackRun i w w₂ := by
  obtain ⟨evs, hs, hrb⟩ := h₁.nestedRun (r := (w₂, none))
    (h₂.elim fun evs h => ⟨evs, h.1, fun he => .inl (h.2 he)⟩)
  refine ⟨evs, hs, fun he => ?_⟩
  simpa using hrb he

end RolledBackRun

/-- One attempt of a nested `Transaction` whose body runs below level 0: `Begin` goes one level
deeper, and an error of the body, returned at any depth, has rolled the `sql.Tx` back when the
attempt ends, since the level the body left is never the last. -/
theorem execTransaction_tx_nested {i : Nat} {w : TxWorld}
    {body : Nat → TxWorld → TxWorld × Option String}
    (hbody : ∀ w, TxOpen i w → NestedRun i w (body i w)) (ho : TxOpen i w) :
    RolledBackRun i w (execTransaction (.tx i) body w).1 := by
  cases hflag : (w.conn i).committedOrRolledBack with
  | true =>
    -- Begin refuses a TxConnection that is committed or rolled back
    obtain ⟨err, herr⟩ := beginTx_tx_of_closed hflag
    rw [execTransaction_of_beginTx_error herr]
    exact RolledBackRun.refl ho
  | false =>
    let w₁ := w.setConn i { w.conn i with counter := (w.conn i).counter + 1 }
    have hs₁ : NestedStep i w w₁ [] :=
      (NestedStep.refl ho).setConn ho (by simp) ho.not_committed id
    obtain ⟨evs, hs₂, herr⟩ := hbody w₁ (hs₁.txOpen ho)
    have hc : (w.conn i).counter + 1 ≤ ((body i w₁).1.conn i).counter := by
      have := hs₂.counter_le
      rwa [TxWorld.conn_setConn _ _ ho.lt_length] at this
    have hs := hs₁.trans hs₂
    rcases hr : body i w₁ with ⟨w₂, _ | e⟩ <;> simp only [hr] at hs hc herr
    · -- commit counts the level down, never to level 0
      have h₁ := ho.one_le_counter
      rw [execTransaction_of_ok (beginTx_tx_of_open hflag) hr, commitTx_of_two_le (by omega)]
      have hi : i < w₂.conns.length := (hs.txOpen ho).lt_length
      refine ⟨evs, hs.setConn ho (by simp; omega) hs.not_committed id, fun he => ?_⟩
      rw [TxWorld.conn_setConn _ _ hi]
      simpa using herr (by simpa using he)
    · -- Rollback ends the sql.Tx, which is not committed
      rw [(execTransaction_of_error (beginTx_tx_of_open hflag) hr).1]
      have hrb : (w₂.conn i).tx.rollback.1 = .rolledBack :=
        TxState.rollback_fst_of_ne_committed hs.not_committed
      let t : TxConnection :=
        { w₂.conn i with committedOrRolledBack := true, tx := (w₂.conn i).tx.rollback.1 }
      refine ⟨_, (hs.setConn ho (t := t) hs.counter_le (by simp [t, hrb])
        (by simp [t, hrb])).record rfl, fun _ => ?_⟩
      simp [rollbackTx, TxWorld.conn_setConn _ _ (hs.txOpen ho).lt_length, hrb]

/-- Every run of a body below level 0 is a nested run. By induction on the body; the retry
loop of a nested `Transaction` keeps a rolled back run, attempt by attempt. -/
theorem DbOps.run_nested (d : DbOps) (i : Nat) (w : TxWorld) (ho : TxOpen i w) :
    NestedRun i w (d.run i w) := by
  induction d generalizing w with
  | ret err =>
    refine ⟨[.returned i err], (NestedStep.refl ho).record rfl, ?_⟩
    rintro ⟨e, he⟩
    simp only [List.mem_singleton, TxEvent.returned.injEq] at he
    simp [← he.2]
  | transaction dbOps k ihd ihk =>
    have hloop : RolledBackRun i w
        (transactionResult (.tx i) (fun a j => (dbOps a).run j) w).1 := by
      apply transactionLoop_invariant _ (RolledBackRun i w) _ 0 none (RolledBackRun.refl ho)
      intro r w' hw'
      exact hw'.trans (execTransaction_tx_nested (fun w'' ho'' => ihd r w'' ho'') (hw'.txOpen ho))
    rw [DbOps.run_transaction]
    exact hloop.nestedRun (ihk _ _ (hloop.txOpen ho))

/-! ## What `Transaction` on the database does -/

/-- The index of the `TxConnection` an event is about. -/
def TxEvent.index : TxEvent → Nat
  | .begin i | .returned i _ | .commit i _ | .rollback i _ => i

theorem TxEvent.index_of_inNestedRun {i : Nat} {ev : TxEvent} (h : ev.InNestedRun i) :
    ev.index = i := by
  cases ev <;> simp_all [TxEvent.InNestedRun, TxEvent.index]

/-- What a run of `Transaction` on the database may do: append `TxConnection`s and change none
before them, append events `evs` about the new ones only, and leave the `sql.Tx` rolled back
wherever a body returned an error. -/
structure OuterStep (w w' : TxWorld) (evs : List TxEvent) : Prop where
  length_le : w.conns.length ≤ w'.conns.length
  conn_lt : ∀ j < w.conns.length, w'.conn j = w.conn j
  log_eq : w'.log = w.log ++ evs
  index_mem : ∀ ev ∈ evs, w.conns.length ≤ ev.index ∧ ev.index < w'.conns.length
  rolledBack : ∀ n, ErrorReturned n evs → (w'.conn n).tx = .rolledBack

namespace OuterStep

variable {w w₁ w₂ : TxWorld} {evs evs₁ evs₂ : List TxEvent}

theorem refl (w : TxWorld) : OuterStep w w [] where
  length_le := le_rfl
  conn_lt _ _ := rfl
  log_eq := by simp
  index_mem _ h := by simp at h
  rolledBack _ h := absurd h.choose_spec List.not_mem_nil

theorem trans (h₁ : OuterStep w w₁ evs₁) (h₂ : OuterStep w₁ w₂ evs₂) :
    OuterStep w w₂ (evs₁ ++ evs₂) where
  length_le := h₁.length_le.trans h₂.length_le
  conn_lt j hj := (h₂.conn_lt j (lt_of_lt_of_le hj h₁.length_le)).trans (h₁.conn_lt j hj)
  log_eq := by rw [h₂.log_eq, h₁.log_eq, List.append_assoc]
  index_mem ev hev := by
    rcases List.mem_append.1 hev with h | h
    · have := h₁.index_mem ev h
      have := h₂.length_le
      omega
    · have := h₂.index_mem ev h
      have := h₁.length_le
      omega
  rolledBack n hn := by
    rcases errorReturned_append.1 hn with ⟨e, he⟩ | he
    · -- an error on a TxConnection of the first run, which the second does not touch
      have hlt := (h₁.index_mem _ he).2
      rw [h₂.conn_lt n hlt]
      exact h₁.rolledBack n ⟨e, he⟩
    · exact h₂.rolledBack n he

end OuterStep

/-- The end of one attempt on the database: after `Begin` and a nested run of the body, the
new `TxConnection` is set to `t` and `tail` is recorded, a commit or a rollback of it. -/
theorem NestedStep.outerStep {w w₂ : TxWorld} {evs : List TxEvent} {t : TxConnection}
    (hs : NestedStep w.conns.length
      ⟨w.conns ++ [⟨1, false, .active⟩], w.log ++ [.begin w.conns.length]⟩ w₂ evs)
    (tail : List TxEvent)
    (htail : ∀ ev ∈ tail, ∃ x, ev = .commit w.conns.length x ∨ ev = .rollback w.conns.length x)
    (hrb : ErrorReturned w.conns.length evs → t.tx = .rolledBack) :
    OuterStep w ⟨w₂.conns.set w.conns.length t, w₂.log ++ tail⟩
      (.begin w.conns.length :: (evs ++ tail)) := by
  have hlen : w₂.conns.length = w.conns.length + 1 := by simp [hs.length_eq]
  have hlen' : (⟨w₂.conns.set w.conns.length t, w₂.log ++ tail⟩ : TxWorld).conns.length =
      w.conns.length + 1 := by simp [hlen]
  have hconn : (⟨w₂.conns.set w.conns.length t, w₂.log ++ tail⟩ : TxWorld).conn
      w.conns.length = t := w₂.conn_setConn t (by omega)
  -- the returns in evs are the only returns, all of them on the new TxConnection
  have herr : ∀ n, ErrorReturned n (.begin w.conns.length :: (evs ++ tail)) →
      n = w.conns.length ∧ ErrorReturned w.conns.length evs := by
    rintro n ⟨e, he⟩
    simp only [List.mem_cons, reduceCtorEq, List.mem_append, false_or] at he
    rcases he with he | he
    · have := hs.events _ he
      simp only [TxEvent.InNestedRun] at this
      subst this
      exact ⟨rfl, e, he⟩
    · obtain ⟨x, hx | hx⟩ := htail _ he <;> simp at hx
  exact {
    length_le := by omega
    conn_lt := fun j hj => by
      show (w₂.setConn w.conns.length t).conn j = w.conn j
      rw [w₂.conn_setConn_of_ne t (Nat.ne_of_lt hj), hs.conn_ne j (Nat.ne_of_lt hj)]
      exact TxWorld.conn_append_of_lt w _ _ hj
    log_eq := by simp [hs.log_eq]
    index_mem := fun ev hev => by
      rw [hlen']
      simp only [List.mem_cons, List.mem_append] at hev
      rcases hev with rfl | hev | hev
      · simp [TxEvent.index]
      · rw [TxEvent.index_of_inNestedRun (hs.events ev hev)]
        omega
      · obtain ⟨x, rfl | rfl⟩ := htail ev hev <;> simp [TxEvent.index]
    rolledBack := fun n hn => by
      obtain ⟨rfl, hevs⟩ := herr n hn
      rw [hconn]
      exact hrb hevs }

/-- One attempt of `Transaction` on the database whose body runs below level 0: it begins a new
`sql.Tx`, leaves it rolled back wherever a body returned an error, and commits it only when the
attempt returns nil. -/
theorem execTransaction_db_outer {body : Nat → TxWorld → TxWorld × Option String}
    (hbody : ∀ i w, TxOpen i w → NestedRun i w (body i w)) (w : TxWorld) :
    ∃ evs, OuterStep w (execTransaction .db body w).1 evs ∧
      (execTransaction .db body w).1.conns.length = w.conns.length + 1 ∧
      (((execTransaction .db body w).1.conn w.conns.length).tx = .committed →
        (execTransaction .db body w).2 = none) := by
  let w₁ : TxWorld := ⟨w.conns ++ [⟨1, false, .active⟩], w.log ++ [.begin w.conns.length]⟩
  have ho₁ : TxOpen w.conns.length w₁ :=
    ⟨by simp [w₁], by simp [w₁, TxWorld.conn_append], by simp [w₁, TxWorld.conn_append]⟩
  obtain ⟨evs, hs, herr⟩ := hbody _ w₁ ho₁
  have hi := (hs.txOpen ho₁).lt_length
  have hlen : (body w.conns.length w₁).1.conns.length = w.conns.length + 1 := by
    simp [hs.length_eq, w₁]
  have hbegin : beginTx .db w = (w₁, .ok w.conns.length) := rfl
  rcases hr : body w.conns.length w₁ with ⟨w₂, _ | e⟩ <;>
    simp only [hr] at hs herr hi hlen
  · rw [execTransaction_of_ok hbegin hr]
    by_cases hz : (w₂.conn w.conns.length).counter = 1
    · -- level 1: commit calls sql.Tx.Commit, which commits only an active sql.Tx
      rw [commitTx_of_counter_eq_one hz]
      cases htx : (w₂.conn w.conns.length).tx with
      | active =>
        have hnerr : ¬ ErrorReturned w.conns.length evs := fun he => by simpa [htx] using herr he
        refine ⟨_, hs.outerStep [.commit w.conns.length none] (by simp)
          (fun he => absurd he hnerr), by simp [TxWorld.record, hlen], fun _ => ?_⟩
        rfl
      | rolledBack =>
        refine ⟨_, hs.outerStep [.commit w.conns.length (some errTxDone)] (by simp)
          (fun _ => rfl), by simp [TxWorld.record, hlen], fun hc => ?_⟩
        simp [TxWorld.conn_setConn _ _ hi, TxState.commit] at hc
      | committed => exact absurd htx hs.not_committed
    · -- a deeper level: commit only counts down
      have hc := (hs.txOpen ho₁).one_le_counter
      rw [commitTx_of_two_le (by omega)]
      have hout := hs.outerStep [] (t := { w₂.conn w.conns.length with
        counter := (w₂.conn w.conns.length).counter - 1 }) (by simp) (fun he => by simpa using herr he)
      simp only [List.append_nil] at hout
      exact ⟨_, hout, by simp [hlen], fun _ => rfl⟩
  · -- an error: Rollback ends the sql.Tx, which is not committed
    rw [(execTransaction_of_error hbegin hr).1]
    have hrb : (w₂.conn w.conns.length).tx.rollback.1 = .rolledBack :=
      TxState.rollback_fst_of_ne_committed hs.not_committed
    refine ⟨_, hs.outerStep [.rollback w.conns.length _] (by simp) (fun _ => hrb),
      by simp [rollbackTx, TxWorld.record, hlen], fun hc => ?_⟩
    simp [rollbackTx, TxWorld.conn_setConn _ _ hi, hrb] at hc

/-- `Transaction` on the database, for every body and every world: it changes no
`TxConnection` begun before; wherever a body returned an error, at any depth and in any
attempt, the `sql.Tx` ends rolled back, and so is never committed; and a `sql.Tx` it began is
committed only if it returns nil. The converse fails: an outer body may ignore an inner error. -/
theorem transaction_db_outer (dbOps : Nat → DbOps) (w : TxWorld) :
    ∃ evs, OuterStep w (transaction .db dbOps w).1 evs ∧
      ∀ n, w.conns.length ≤ n → ((transaction .db dbOps w).1.conn n).tx = .committed →
        (transaction .db dbOps w).2 = none := by
  have hattempt := fun r => @execTransaction_db_outer (fun i => (dbOps r).run i)
    (fun i w ho => (dbOps r).run_nested i w ho)
  -- failed attempts leave their sql.Tx uncommitted
  refine transactionLoop_spec (fun r => execTransaction .db (fun i => (dbOps r).run i))
    (fun w' => ∃ evs, OuterStep w w' evs ∧ ∀ n, w.conns.length ≤ n → (w'.conn n).tx ≠ .committed)
    (fun r => ∃ evs, OuterStep w r.1 evs ∧
      ∀ n, w.conns.length ≤ n → (r.1.conn n).tx = .committed → r.2 = none)
    ?_ ?_ ?_ 0 none w ?_
  · rintro r w' ⟨evs, hs, -⟩ hnone
    obtain ⟨evs', hs', -, -⟩ := hattempt r w'
    exact ⟨_, hs.trans hs', fun _ _ _ => hnone⟩
  · rintro r w' ⟨evs, hs, hnc⟩ hsome
    obtain ⟨evs', hs', hlen, hcommit⟩ := hattempt r w'
    refine ⟨_, hs.trans hs', fun n hn hc => ?_⟩
    rcases lt_trichotomy n w'.conns.length with hlt | rfl | hgt
    · exact hnc n hn (by rwa [← hs'.conn_lt n hlt])
    · simp [hcommit hc] at hsome
    · rw [TxWorld.conn_of_le _ (by omega), TxConnection.default_tx] at hc
      cases hc
  · rintro w' a ⟨evs, hs, hnc⟩
    exact ⟨evs, hs, fun n hn hc => absurd hc (hnc n hn)⟩
  · refine ⟨[], OuterStep.refl w, fun n hn => ?_⟩
    rw [TxWorld.conn_of_le _ hn]
    simp

/-! ## Bodies that return nil -/

/-- A body in which every body, at every depth, returns nil on its first attempt. -/
inductive DbOps.Clean : DbOps → Prop
  | ret : DbOps.Clean (.ret none)
  | transaction {dbOps : Nat → DbOps} {k : Option String → DbOps} :
      (dbOps 0).Clean → (k none).Clean → DbOps.Clean (.transaction dbOps k)

/-- A clean body run below level 0 leaves every `TxConnection` as it was and appends only its
returns of nil: each nested level it opens, it counts back down. -/
theorem DbOps.Clean.run {d : DbOps} (hd : d.Clean) {i : Nat} {w : TxWorld}
    (hi : i < w.conns.length) (hc : 1 ≤ (w.conn i).counter)
    (hflag : (w.conn i).committedOrRolledBack = false) :
    ∃ evs, d.run i w = (⟨w.conns, w.log ++ evs⟩, none) ∧ ∀ ev ∈ evs, ev = .returned i none := by
  induction hd generalizing w with
  | ret => exact ⟨[.returned i none], rfl, by simp⟩
  | @transaction dbOps k _ _ ihd ihk =>
    let t₁ : TxConnection := { w.conn i with counter := (w.conn i).counter + 1 }
    have hw₁ : (w.setConn i t₁).conn i = t₁ := w.conn_setConn t₁ hi
    obtain ⟨evs₁, hrun₁, hevs₁⟩ := ihd (w := w.setConn i t₁) (by simpa using hi)
      (by rw [hw₁]; simp [t₁]) (by rw [hw₁]; exact hflag)
    -- the nested commit takes the level back to where it was
    let W : TxWorld := ⟨(w.setConn i t₁).conns, (w.setConn i t₁).log ++ evs₁⟩
    have hW : W.conn i = t₁ := hw₁
    have hcommit : commitTx i W = (⟨w.conns, w.log ++ evs₁⟩, none) := by
      have hback : ({ t₁ with counter := t₁.counter - 1 } : TxConnection) = w.conn i := by
        simp [t₁]
      rw [commitTx_of_two_le (by rw [hW]; simp [t₁]; omega), hW, hback]
      have hset := congrArg TxWorld.conns (w.setConn_conn hi)
      simp only [TxWorld.conns_setConn] at hset
      simp [W, TxWorld.setConn, hset]
    have hloop : transactionResult (.tx i) (fun a j => (dbOps a).run j) w =
        (⟨w.conns, w.log ++ evs₁⟩, none) := by
      apply transactionLoop_of_ok (by decide)
      rw [execTransaction_of_ok (beginTx_tx_of_open hflag) hrun₁, hcommit]
    obtain ⟨evs₂, hrun₂, hevs₂⟩ := ihk (w := ⟨w.conns, w.log ++ evs₁⟩) hi hc hflag
    refine ⟨evs₁ ++ evs₂, ?_, fun ev hev => ?_⟩
    · rw [DbOps.run_transaction]
      simp only [hloop]
      rw [hrun₂, List.append_assoc]
    · rcases List.mem_append.1 hev with h | h
      · exact hevs₁ ev h
      · exact hevs₂ ev h

/-- `Transaction` on the database with a clean body returns nil, after it begins one `sql.Tx`,
every body returns nil, and one commit commits that `sql.Tx`. -/
theorem transaction_db_of_clean {dbOps : Nat → DbOps} (hd : (dbOps 0).Clean) (w : TxWorld) :
    ∃ evs, transaction .db dbOps w =
      (⟨w.conns ++ [⟨0, true, .committed⟩],
        w.log ++ .begin w.conns.length :: (evs ++ [.commit w.conns.length none])⟩, none) ∧
      ∀ ev ∈ evs, ev = .returned w.conns.length none := by
  let w₁ : TxWorld := ⟨w.conns ++ [⟨1, false, .active⟩], w.log ++ [.begin w.conns.length]⟩
  have hw₁ : w₁.conn w.conns.length = ⟨1, false, .active⟩ := TxWorld.conn_append _ _ _
  obtain ⟨evs, hrun, hevs⟩ := hd.run (i := w.conns.length) (w := w₁) (by simp [w₁]) (by rw [hw₁])
    (by rw [hw₁])
  -- level 1: the commit of the outermost call commits the sql.Tx
  let W : TxWorld := ⟨w₁.conns, w₁.log ++ evs⟩
  have hW : W.conn w.conns.length = ⟨1, false, .active⟩ := hw₁
  have hcommit : commitTx w.conns.length W =
      (⟨w.conns ++ [⟨0, true, .committed⟩],
        w.log ++ .begin w.conns.length :: (evs ++ [.commit w.conns.length none])⟩, none) := by
    rw [commitTx_of_counter_eq_one (by rw [hW]), hW]
    simp [W, w₁, TxWorld.record, TxWorld.setConn_append, TxState.commit]
  refine ⟨evs, ?_, hevs⟩
  rw [transaction, transactionResult]
  apply transactionLoop_of_ok (by decide)
  rw [execTransaction_of_ok rfl hrun, hcommit]

/-- **What `Transaction` on the database guarantees.**  For every body and every world, it
changes no `TxConnection` begun before it, leaves the `sql.Tx` rolled back wherever a body
returned an error, at any depth and in any attempt, and commits a `sql.Tx` only when it returns
nil; and a body in which every body returns nil on its first attempt begins one `sql.Tx`,
commits it once, at the end, and returns nil. -/
theorem transaction_db_spec (dbOps : Nat → DbOps) (w : TxWorld) :
    (∃ evs, OuterStep w (transaction .db dbOps w).1 evs ∧
      ∀ n, w.conns.length ≤ n → ((transaction .db dbOps w).1.conn n).tx = .committed →
        (transaction .db dbOps w).2 = none) ∧
    ((dbOps 0).Clean → ∃ evs, transaction .db dbOps w =
      (⟨w.conns ++ [⟨0, true, .committed⟩],
        w.log ++ .begin w.conns.length :: (evs ++ [.commit w.conns.length none])⟩, none) ∧
      ∀ ev ∈ evs, ev = .returned w.conns.length none) :=
  ⟨transaction_db_outer dbOps w, fun hd => transaction_db_of_clean hd w⟩

end Reconciler
