import Mathlib.Data.List.Basic
import Reconciler.Lib.Transition

/-!
# The heartbeat sender and the runner

`runner.Run` (`pkg/reconciler/service/runner.go`) reconciles a component in up to `MaxRetries`
attempts with `retry.Do`, and reports its progress through a heartbeat `Sender`
(`pkg/reconciler/heartbeat/heartbeat.go`): `Running` before each attempt, `Failed` after an
attempt that fails, then `Success` or `Error`.  Each of these checks `statusChangeAllowed` and
calls `sendUpdate`, which first stops the goroutine of the previous call with a send on the
unbuffered channel `restartInterval` (`stopJob`), and then starts a goroutine that calls the
callback handler: once, or on every tick until it is stopped, until the context closes, or,
for the final statuses, until a call succeeds.

The runner, the goroutines and the parent context are one transition system (`System.Steps`).
A move is a statement of one party, or the send on `restartInterval` taken together with the
select that receives it.  Time is not modelled: a tick, an elapsed delay and a timer that gives
up may come at any moment, and each call of the callback returns, with `nil` or an error.

`retry.Do` belongs to `avast/retry-go`, not to the repository: what it decides around the
attempts is a parameter (`RetryDo`), of which `Run` relies on one thing, that with an attempt
and an open context it calls the function.  While it waits for its delay the context may end
the wait.

The conversions of the task, the status config map, the metrics, the logging and the error
texts that `Run` builds are left out; `Run` returns `nil` or an error (`Runner.returned`).
-/

namespace Reconciler

namespace Heartbeat

/-- `reconciler.Status`. -/
inductive Status
  | notstarted
  | running
  | failed
  | error
  | success
  deriving DecidableEq, Repr

/-- The string of a status. -/
def Status.toString : Status → String
  | .notstarted => "notstarted"
  | .running => "running"
  | .failed => "failed"
  | .error => "error"
  | .success => "success"

/-- The statuses after which the sender accepts no change. -/
def Status.isFinal (status : Status) : Bool :=
  status == .error || status == .success

/-- The parent context of `Run`: open, or closed by a cancellation or by its deadline. -/
inductive Ctx
  | open
  | canceled
  | deadlineExceeded
  deriving DecidableEq, Repr

/-- `ctx.Done()` is closed. -/
def Ctx.done (ctx : Ctx) : Bool :=
  ctx != .open

/-- The status a goroutine sends once the context has closed: `StatusError` after the
deadline, `StatusFailed` after a cancellation. -/
def Ctx.reconcilerStatus (ctx : Ctx) : Status :=
  if ctx = .deadlineExceeded then .error else .failed

/-! ## The goroutines of `sendUpdate` -/

/-- Where a goroutine started by `sendUpdate` is. -/
inductive Pc
  /-- before its first task -/
  | starting
  /-- in the select of the interval loop -/
  | selecting
  /-- took `ctx.Done()`, before `closeContext` -/
  | interrupted
  /-- about to send `reconcilerStatus` after `closeContext` -/
  | reporting (reconcilerStatus : Status)
  /-- in the loop of the ticker and `giveUp` -/
  | retrying (reconcilerStatus : Status)
  | exited
  deriving DecidableEq, Repr

/-- A goroutine of `sendUpdate`, the job that `stopJob` stops, with the arguments it was
started with. -/
structure Job where
  status : Status
  onlyOnce : Bool
  pc : Pc
  deriving DecidableEq, Repr

/-- A call of `callback.Callback`: the goroutine that made it, the status it sent, and whether
it returned `nil`. -/
structure Callback where
  goroutine : Nat
  status : Status
  delivered : Bool
  deriving DecidableEq, Repr

/-- The goroutine calls `task`: its first call, a call on a tick of a loop, or the call after
the context closed.  It returns on a delivered final call and goes on looping otherwise. -/
def Job.callback (h : Job) (delivered : Bool) : Option (Status × Job) :=
  match h.pc with
  | .starting | .selecting =>
    some (h.status, { h with pc := if delivered && h.onlyOnce then .exited else .selecting })
  | .reporting reconcilerStatus | .retrying reconcilerStatus =>
    some (reconcilerStatus,
      { h with pc := if delivered then .exited else .retrying reconcilerStatus })
  | .interrupted | .exited => none

/-! ## The sender -/

/-- The fields of `Sender` that change: `ctxClosed` and `status`. -/
structure Sender where
  ctxClosed : Bool
  status : Status
  deriving DecidableEq, Repr

/-- `statusChangeAllowed`. -/
def Sender.statusChangeAllowed (su : Sender) (status : Status) : Except String Unit :=
  if su.ctxClosed then
    .error ("Cannot change status to '" ++ status.toString ++
      "' because context of heartbeat sender is closed")
  else if su.status.isFinal then
    .error ("cannot switch in '" ++ status.toString ++
      "' status because we are already in final status '" ++ su.status.toString ++ "'")
  else .ok ()

/-- `stopJob` sends on `restartInterval` only after an interim status. -/
def Sender.stopJobSends (su : Sender) : Bool :=
  su.status == .running || su.status == .failed

/-! ## The runner -/

/-- The calls `Run` makes on the sender. -/
inductive SenderCall
  /-- `Running` in attempt `n` -/
  | running (n : Nat)
  /-- `Failed` after the reconciliation of attempt `n` failed -/
  | failed (n : Nat) (noSuchHost : Bool)
  | success
  | error
  deriving DecidableEq, Repr

/-- The status a call sends. -/
def SenderCall.status : SenderCall → Status
  | .running _ => .running
  | .failed _ _ => .failed
  | .success => .success
  | .error => .error

/-- Interim statuses are sent on every tick, final ones until a call succeeds. -/
def SenderCall.onlyOnce : SenderCall → Bool
  | .running _ | .failed _ _ => false
  | .success | .error => true

/-- Where `Run` is in a call on the sender. -/
inductive CallPos
  /-- `statusChangeAllowed` -/
  | checking
  /-- `stopJob`, testing the status -/
  | stopping
  /-- blocked in `su.restartInterval <- true` -/
  | restarting
  /-- `go func(...)` and `su.status = status` -/
  | starting
  deriving DecidableEq, Repr

/-- The outcome of `r.reconcile` in one attempt: `nil`, or an error, which `RetryIf` reads for
"no such host". -/
inductive ReconcileOutcome
  | ok
  | err (noSuchHost : Bool)
  deriving DecidableEq, Repr

/-- Where `Run` is. -/
inductive Runner
  /-- `retry.Do` tests the context -/
  | start
  | call (c : SenderCall) (pos : CallPos)
  | reconciling (n : Nat)
  /-- `retryable` of attempt `n` returned an error -/
  | attemptFailed (n : Nat) (noSuchHost : Bool)
  /-- the select of `retry.Do` on the delay and `ctx.Done()` -/
  | waiting (n : Nat)
  /-- `retry.Do` returned `nil` or an error -/
  | retried (ok : Bool)
  | returned (ok : Bool)
  deriving DecidableEq, Repr

/-- What `Run` does when a call on the sender returns `nil` (`ok`) or an error. -/
def SenderCall.next : SenderCall → Bool → Runner
  | .running n, true => .reconciling n
  -- the errors of `statusChangeAllowed` do not say "no such host"
  | .running n, false => .attemptFailed n false
  -- the error of the reconciliation, wrapped or not, is what `retryable` returns
  | .failed n noSuchHost, _ => .attemptFailed n noSuchHost
  | .success, ok => .returned ok
  | .error, _ => .returned false

/-- A call on the sender returns to no other call. -/
theorem SenderCall.next_ne_call (c : SenderCall) (ok : Bool) (c' : SenderCall) (pos : CallPos) :
    c.next ok ≠ .call c' pos := by
  cases c <;> cases ok <;> simp [SenderCall.next]

/-- What `retry.Do` decides around the attempts of `Run`, with `Attempts(attempts)` and the
`RetryIf` of `Run`. -/
structure RetryDo (attempts : Nat) where
  /-- whether `Do` makes its first attempt, in a context that is done or not -/
  attemptsFirst : Bool → Bool
  /-- whether `Do` waits for its delay and makes attempt `n + 1` after attempt `n` failed with an
  error that does or does not say "no such host" -/
  retriesAfter : Nat → Bool → Bool
  /-- with an attempt to make and an open context, `Do` calls the function -/
  attemptsFirst_open : 1 ≤ attempts → attemptsFirst false = true

/-- A `Do` that makes its attempts in turn: none in a context that is done, and no further one
after "no such host" or after the last attempt. -/
def RetryDo.inTurn (attempts : Nat) : RetryDo attempts where
  attemptsFirst done := !done && attempts != 0
  retriesAfter n noSuchHost := !noSuchHost && n + 1 != attempts
  attemptsFirst_open h := by simp; omega

/-- What `Run` is given: `MaxRetries`, the outcome of the reconciliation in each attempt, and
`retry.Do` with `MaxRetries` attempts. -/
structure RunConfig where
  maxRetries : Nat
  reconcile : Nat → ReconcileOutcome
  retryDo : RetryDo maxRetries

/-! ## The system -/

/-- The runner, the goroutines in the order `sendUpdate` started them, the sender, the
context, and the calls of the callback so far. -/
structure System where
  ctx : Ctx
  sender : Sender
  jobs : List Job
  runner : Runner
  log : List Callback
  deriving DecidableEq, Repr

/-- `Run` right after `NewHeartbeatSender`. -/
def System.init : System :=
  { ctx := .open, sender := ⟨false, .notstarted⟩, jobs := [], runner := .start, log := [] }

/-- The moves of the system. -/
inductive Move
  /-- the parent context is cancelled or reaches its deadline -/
  | closeCtx (deadline : Bool)
  /-- the runner's next statement; in the select of `retry.Do`, the delay elapsing -/
  | run
  /-- the select of `retry.Do` takes `ctx.Done()` -/
  | runCtxDone
  /-- the select of goroutine `i` takes the runner's send on `restartInterval` -/
  | restart (i : Nat)
  /-- goroutine `i` calls the callback: first, on a tick, or after the context closed -/
  | callback (i : Nat) (delivered : Bool)
  /-- the select of goroutine `i` takes `ctx.Done()` -/
  | ctxDone (i : Nat)
  | closeContext (i : Nat)
  /-- the timer `giveUp` of goroutine `i` fires -/
  | giveUp (i : Nat)
  deriving DecidableEq, Repr

namespace System

variable (cfg : RunConfig)

/-- The runner's next statement, where it needs no partner. -/
def runStep (s : System) : Option System :=
  match s.runner with
  | .start =>
    some { s with runner :=
      if cfg.retryDo.attemptsFirst s.ctx.done then .call (.running 0) .checking else .retried false }
  | .call c .checking =>
    match s.sender.statusChangeAllowed c.status with
    | .error _ => some { s with runner := c.next false }
    | .ok () => some { s with runner := .call c .stopping }
  | .call c .stopping =>
    some { s with runner := .call c (if s.sender.stopJobSends then .restarting else .starting) }
  | .call _ .restarting => none
  | .call c .starting =>
    some { s with
      jobs := s.jobs ++ [⟨c.status, c.onlyOnce, .starting⟩]
      sender := { s.sender with status := c.status }
      runner := c.next true }
  | .reconciling n =>
    match cfg.reconcile n with
    | .ok => some { s with runner := .retried true }
    | .err noSuchHost => some { s with runner := .call (.failed n noSuchHost) .checking }
  | .attemptFailed n noSuchHost =>
    some { s with runner :=
      if cfg.retryDo.retriesAfter n noSuchHost then .waiting n else .retried false }
  | .waiting n => some { s with runner := .call (.running (n + 1)) .checking }
  | .retried true => some { s with runner := .call .success .checking }
  | .retried false =>
    some { s with runner := if s.ctx.done then .returned false else .call .error .checking }
  | .returned _ => none

/-- One move. -/
def step (s : System) : Move → Option System
  | .closeCtx deadline =>
    if s.ctx = .open then
      some { s with ctx := if deadline then .deadlineExceeded else .canceled }
    else none
  | .run => runStep cfg s
  | .runCtxDone =>
    match s.runner with
    | .waiting _ => if s.ctx.done then some { s with runner := .retried false } else none
    | _ => none
  | .restart i =>
    match s.runner, s.jobs[i]? with
    | .call c .restarting, some h =>
      if h.pc = .selecting then
        some { s with
          jobs := s.jobs.set i { h with pc := .exited }
          runner := .call c .starting }
      else none
    | _, _ => none
  | .callback i delivered =>
    match s.jobs[i]? with
    | some h =>
      (h.callback delivered).map fun r =>
        { s with
          jobs := s.jobs.set i r.2
          log := s.log ++ [⟨i, r.1, delivered⟩] }
    | none => none
  | .ctxDone i =>
    match s.jobs[i]? with
    | some h =>
      if h.pc = .selecting && s.ctx.done then
        some { s with jobs := s.jobs.set i { h with pc := .interrupted } }
      else none
    | none => none
  | .closeContext i =>
    match s.jobs[i]? with
    | some h =>
      if h.pc = .interrupted then
        some { s with
          jobs := s.jobs.set i { h with pc := .reporting s.ctx.reconcilerStatus }
          sender := { s.sender with ctxClosed := true } }
      else none
    | none => none
  | .giveUp i =>
    match s.jobs[i]? with
    | some h =>
      match h.pc with
      | .retrying _ => some { s with jobs := s.jobs.set i { h with pc := .exited } }
      | _ => none
    | none => none

/-- The step relation of the system. -/
def Steps (s s' : System) : Prop :=
  ∃ m, s.step cfg m = some s'

/-! ## What each move can do -/

variable {cfg} {s s' : System}

/-- The runner moves to a position of a call only from the one before it: past the check when
`statusChangeAllowed` allows the change, to the send when `stopJob` sends, and past `stopJob`
when it does not. -/
structure RunnerMove (su : Sender) (r r' : Runner) : Prop where
  stopping : ∀ c, r' = .call c .stopping → r = .call c .checking ∧ su.statusChangeAllowed c.status = .ok ()
  restarting : ∀ c, r' = .call c .restarting → r = .call c .stopping ∧ su.stopJobSends
  starting : ∀ c, r' = .call c .starting → r = .call c .stopping ∧ ¬ su.stopJobSends

/-- A move of the runner to no position of a call past its check. -/
theorem RunnerMove.of_checking {su : Sender} {r r' : Runner}
    (h : ∀ c pos, r' = .call c pos → pos = .checking) : RunnerMove su r r' :=
  ⟨fun c hc => absurd (h c _ hc) (by decide), fun c hc => absurd (h c _ hc) (by decide),
    fun c hc => absurd (h c _ hc) (by decide)⟩

/-- The runner's statements: `go func(...)` with `su.status = status`, or a statement that
changes only the runner. -/
theorem runStep_cases (h : s.runStep cfg = some s') :
    (∃ c, s.runner = .call c .starting ∧
      s' = { s with
        jobs := s.jobs ++ [⟨c.status, c.onlyOnce, .starting⟩]
        sender := { s.sender with status := c.status }
        runner := c.next true }) ∨
    (s' = { s with runner := s'.runner } ∧ RunnerMove s.sender s.runner s'.runner) := by
  unfold runStep at h
  -- the statements that change only the runner, to no position past a check
  have plain : ∀ r r', (∀ c pos, r' = .call c pos → pos = .checking) →
      some { s with runner := r' } = some s' →
      s' = { s with runner := s'.runner } ∧ RunnerMove s.sender r s'.runner := by
    rintro r r' hr' ⟨⟩
    exact ⟨rfl, RunnerMove.of_checking hr'⟩
  have afterCall : ∀ (c : SenderCall) ok c' pos, c.next ok = .call c' pos → pos = .checking :=
    fun c ok c' pos hc => absurd hc (c.next_ne_call ok c' pos)
  cases hr : s.runner with
  | start =>
    simp only [hr] at h
    exact Or.inr (plain _ _ (fun c pos hc => by split at hc <;> cases hc; rfl) h)
  | call c pos =>
    cases pos with
    | checking =>
      simp only [hr] at h
      split at h
      · exact Or.inr (plain _ _ (afterCall c false) h)
      · rename_i hallowed
        cases h
        refine Or.inr ⟨rfl, ⟨fun c' hc => ?_, fun c' hc => ?_, fun c' hc => ?_⟩⟩ <;> cases hc
        exact ⟨rfl, hallowed⟩
    | stopping =>
      simp only [hr] at h
      cases h
      refine Or.inr ⟨rfl, ⟨fun c' hc => ?_, fun c' hc => ?_, fun c' hc => ?_⟩⟩ <;>
        dsimp only at hc <;> split at hc <;> cases hc
      · exact ⟨rfl, by assumption⟩
      · exact ⟨rfl, by assumption⟩
    | restarting => simp [hr] at h
    | starting =>
      simp only [hr] at h
      cases h
      exact Or.inl ⟨c, rfl, rfl⟩
  | reconciling n =>
    simp only [hr] at h
    split at h <;> exact Or.inr (plain _ _ (fun c pos hc => by cases hc <;> rfl) h)
  | attemptFailed n noSuchHost =>
    simp only [hr] at h
    exact Or.inr (plain _ _ (fun c pos hc => by split at hc <;> cases hc) h)
  | waiting n =>
    simp only [hr] at h
    exact Or.inr (plain _ _ (fun c pos hc => by cases hc; rfl) h)
  | retried ok =>
    cases ok with
    | true =>
      simp only [hr] at h
      exact Or.inr (plain _ _ (fun c pos hc => by cases hc; rfl) h)
    | false =>
      simp only [hr] at h
      exact Or.inr (plain _ _ (fun c pos hc => by split at hc <;> cases hc; rfl) h)
  | returned ok => simp [hr] at h

theorem step_closeCtx {deadline : Bool} (h : s.step cfg (.closeCtx deadline) = some s') :
    s.ctx = .open ∧ s' = { s with ctx := if deadline then .deadlineExceeded else .canceled } := by
  simp only [step] at h
  split at h
  · cases h
    exact ⟨by assumption, rfl⟩
  · cases h

theorem step_runCtxDone (h : s.step cfg .runCtxDone = some s') :
    ∃ n, s.runner = .waiting n ∧ s.ctx.done ∧ s' = { s with runner := .retried false } := by
  simp only [step] at h
  split at h
  · split at h
    · cases h
      exact ⟨_, by assumption, by assumption, rfl⟩
    · cases h
  · cases h

theorem step_restart {i : Nat} (h : s.step cfg (.restart i) = some s') :
    ∃ c j, s.runner = .call c .restarting ∧ s.jobs[i]? = some j ∧ j.pc = .selecting ∧
      s' = { s with jobs := s.jobs.set i { j with pc := .exited }, runner := .call c .starting } := by
  simp only [step] at h
  split at h
  · split at h
    · cases h
      exact ⟨_, _, by assumption, by assumption, by assumption, rfl⟩
    · cases h
  · cases h

theorem step_callback {i : Nat} {delivered : Bool} (h : s.step cfg (.callback i delivered) = some s') :
    ∃ j r, s.jobs[i]? = some j ∧ j.callback delivered = some r ∧
      s' = { s with jobs := s.jobs.set i r.2, log := s.log ++ [⟨i, r.1, delivered⟩] } := by
  simp only [step] at h
  split at h
  · obtain ⟨r, hr, rfl⟩ := Option.map_eq_some_iff.mp h
    exact ⟨_, r, by assumption, hr, rfl⟩
  · cases h

theorem step_ctxDone {i : Nat} (h : s.step cfg (.ctxDone i) = some s') :
    ∃ j, s.jobs[i]? = some j ∧ j.pc = .selecting ∧ s.ctx.done ∧
      s' = { s with jobs := s.jobs.set i { j with pc := .interrupted } } := by
  simp only [step] at h
  split at h
  · split at h
    · cases h
      rename_i hcond
      simp only [Bool.and_eq_true, decide_eq_true_eq] at hcond
      exact ⟨_, by assumption, hcond.1, hcond.2, rfl⟩
    · cases h
  · cases h

theorem step_closeContext {i : Nat} (h : s.step cfg (.closeContext i) = some s') :
    ∃ j, s.jobs[i]? = some j ∧ j.pc = .interrupted ∧
      s' = { s with
        jobs := s.jobs.set i { j with pc := .reporting s.ctx.reconcilerStatus }
        sender := { s.sender with ctxClosed := true } } := by
  simp only [step] at h
  split at h
  · split at h
    · cases h
      exact ⟨_, by assumption, by assumption, rfl⟩
    · cases h
  · cases h

theorem step_giveUp {i : Nat} (h : s.step cfg (.giveUp i) = some s') :
    ∃ j reconcilerStatus, s.jobs[i]? = some j ∧ j.pc = .retrying reconcilerStatus ∧
      s' = { s with jobs := s.jobs.set i { j with pc := .exited } } := by
  simp only [step] at h
  split at h
  · split at h
    · cases h
      exact ⟨_, _, by assumption, by assumption, rfl⟩
    · cases h
  · cases h

end System

end Heartbeat

end Reconciler
