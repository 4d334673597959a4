import Reconciler.Heartbeat.Run

/-!
# The phases of the heartbeat

What holds along every run of `Run` with its heartbeat (`System.Inv`): only the job that
`sendUpdate` started last may still run, since `stopJob` stops the previous one before a new
one starts; so the callbacks come in the order of the calls (`callbacks_in_call_order`), and
once a final status has been delivered no job runs and none is started, so no callback follows
(`no_callback_after_final`).

What does not hold is that `Run` returns.  A job that takes `ctx.Done()` leaves its select for
good, but `closeContext` runs only after it has done so.  A call that passed
`statusChangeAllowed` before that then sends on `restartInterval`, and no job will ever
receive it (`Stranded`, `run_blocks_in_stopJob`).
-/

namespace Reconciler

namespace Heartbeat

open Relation Transition

/-- A call of the callback that delivered a final status. -/
def Callback.deliveredFinal (e : Callback) : Bool :=
  e.delivered && e.status.isFinal

theorem SenderCall.onlyOnce_eq (c : SenderCall) : c.onlyOnce = c.status.isFinal := by
  cases c <;> rfl

/-- A job that delivers a final status returns. -/
theorem Job.callback_exited {j : Job} {delivered : Bool} {r : Status × Job}
    (hj : j.onlyOnce = j.status.isFinal) (h : j.callback delivered = some r)
    (hfinal : (⟨0, r.1, delivered⟩ : Callback).deliveredFinal) : r.2.pc = .exited := by
  simp only [Callback.deliveredFinal, Bool.and_eq_true] at hfinal
  obtain ⟨rfl, hstatus⟩ := hfinal
  unfold Job.callback at h
  split at h <;> cases h
  · have honce : j.onlyOnce = true := hj.trans (by simpa using hstatus)
    simp [honce]
  · have honce : j.onlyOnce = true := hj.trans (by simpa using hstatus)
    simp [honce]
  · rfl
  · rfl

/-- A job that calls the callback is running, and keeps its arguments. -/
theorem Job.callback_spec {j : Job} {delivered : Bool} {r : Status × Job}
    (h : j.callback delivered = some r) :
    j.pc ≠ .exited ∧ r.2.status = j.status ∧ r.2.onlyOnce = j.onlyOnce := by
  unfold Job.callback at h
  split at h <;> cases h <;> simp_all

/-- The jobs but the last have returned. -/
def OnlyLastRuns (jobs : List Job) : Prop :=
  ∀ i j, jobs[i]? = some j → j.pc ≠ .exited → i + 1 = jobs.length

/-- Setting the last job keeps the others returned. -/
theorem OnlyLastRuns.set {jobs : List Job} (h : OnlyLastRuns jobs) {i : Nat} (hi : i + 1 = jobs.length)
    (x : Job) : OnlyLastRuns (jobs.set i x) := by
  intro k y hy hpc
  rw [List.getElem?_set] at hy
  rw [List.length_set]
  split_ifs at hy with hik
  · exact hik ▸ hi
  · exact h k y hy hpc

/-- Beside a running job, every job has returned. -/
theorem OnlyLastRuns.exited_of_ne {jobs : List Job} (h : OnlyLastRuns jobs) {i : Nat} {j : Job}
    (hj : jobs[i]? = some j) (hpc : j.pc ≠ .exited) {k : Nat} {y : Job} (hy : jobs[k]? = some y)
    (hk : k ≠ i) : y.pc = .exited := by
  by_contra hy'
  have := h k y hy hy'
  have := h i j hj hpc
  omega

/-- A sender whose status is neither interim nor final has sent nothing yet. -/
theorem Sender.status_eq_notstarted {su : Sender} (hsends : su.stopJobSends = false)
    (hfinal : su.status.isFinal = false) : su.status = .notstarted := by
  obtain ⟨ctxClosed, status⟩ := su
  cases status <;> simp_all [Sender.stopJobSends, Status.isFinal]

namespace System

variable {cfg : RunConfig} {s s' : System}

/-- What holds along every run: the arguments of the jobs match, a job has run once a status was
sent, only the last job may run, a call past its check finds no final status, a call that
starts a job finds every job returned, and the log names started jobs in the order they
started, with nothing after a final status delivered. -/
structure Inv (s : System) : Prop where
  onlyOnce : ∀ j ∈ s.jobs, j.onlyOnce = j.status.isFinal
  notstarted : s.sender.status = .notstarted → s.jobs = []
  onlyLastRuns : OnlyLastRuns s.jobs
  checked : ∀ c pos, s.runner = .call c pos → pos ≠ .checking → s.sender.status.isFinal = false
  starting : ∀ c, s.runner = .call c .starting → ∀ j ∈ s.jobs, j.pc = .exited
  logIndex : ∀ e ∈ s.log, e.goroutine < s.jobs.length
  logSorted : (s.log.map Callback.goroutine).Pairwise (· ≤ ·)
  final : (∃ e ∈ s.log, e.deliveredFinal) →
    (∀ j ∈ s.jobs, j.pc = .exited) ∧ ∀ c, s.runner ≠ .call c .starting
  afterFinal : ∀ pre e post, s.log = pre ++ e :: post → e.deliveredFinal → post = []

theorem inv_init : Inv System.init where
  onlyOnce := by simp [System.init]
  notstarted := fun _ => rfl
  onlyLastRuns := by simp [OnlyLastRuns, System.init]
  checked := by simp [System.init]
  starting := by simp [System.init]
  logIndex := by simp [System.init]
  logSorted := by simp [System.init]
  final := by simp [System.init]
  afterFinal := by simp [System.init]

/-- A running job rules out a final status delivered, and a call starting a job. -/
theorem Inv.of_running (hs : Inv s) {i : Nat} {j : Job} (hj : s.jobs[i]? = some j)
    (hpc : j.pc ≠ .exited) :
    (¬ ∃ e ∈ s.log, e.deliveredFinal) ∧ ∀ c, s.runner ≠ .call c .starting := by
  have hmem : j ∈ s.jobs := List.mem_of_getElem? hj
  refine ⟨fun hfinal => hpc ((hs.final hfinal).1 j hmem), fun c hc => hpc (hs.starting c hc j hmem)⟩

/-- A move of a running job that changes only its position, and perhaps `ctxClosed`. -/
theorem Inv.setPc (hs : Inv s) {i : Nat} {j : Job} (hj : s.jobs[i]? = some j)
    (hpc : j.pc ≠ .exited) (p : Pc) (ctxClosed : Bool) :
    Inv { s with
      jobs := s.jobs.set i { j with pc := p }
      sender := { s.sender with ctxClosed := ctxClosed } } := by
  obtain ⟨hfinal, hstarting⟩ := hs.of_running hj hpc
  have hi := hs.onlyLastRuns i j hj hpc
  have hmem : ∀ y ∈ s.jobs.set i { j with pc := p }, y ∈ s.jobs ∨ y = { j with pc := p } :=
    fun y hy => List.mem_or_eq_of_mem_set hy
  refine ⟨fun y hy => ?_, fun h => ?_, hs.onlyLastRuns.set hi _, hs.checked,
    fun c hc => absurd hc (hstarting c), ?_, hs.logSorted, fun h => absurd h hfinal,
    hs.afterFinal⟩
  · rcases hmem y hy with hy | rfl
    · exact hs.onlyOnce y hy
    · exact hs.onlyOnce j (List.mem_of_getElem? hj)
  · simp [hs.notstarted h] at hj
  · simpa using hs.logIndex

/-- The runner's statements that change only the runner. -/
theorem Inv.runnerMove (hs : Inv s) {r : Runner} (hmove : RunnerMove s.sender s.runner r) :
    Inv { s with runner := r } := by
  -- a call moves past `stopJob` without a send only where no job was started
  have hnone : ∀ c, r = .call c .starting → s.jobs = [] := by
    intro c hc
    obtain ⟨hstop, hsends⟩ := hmove.starting c hc
    exact hs.notstarted (Sender.status_eq_notstarted (by simpa using hsends)
      (hs.checked c .stopping hstop (by decide)))
  refine ⟨hs.onlyOnce, hs.notstarted, hs.onlyLastRuns, fun c pos hc hpos => ?_,
    fun c hc => by simp [hnone c hc], hs.logIndex, hs.logSorted, fun h => ?_, hs.afterFinal⟩
  · cases pos with
    | checking => exact absurd rfl hpos
    | stopping =>
      obtain ⟨-, hallowed⟩ := hmove.stopping c hc
      unfold Sender.statusChangeAllowed at hallowed
      split_ifs at hallowed with hclosed hstatus
      simpa using hstatus
    | restarting => exact hs.checked c .stopping (hmove.restarting c hc).1 (by decide)
    | starting => exact hs.checked c .stopping (hmove.starting c hc).1 (by decide)
  · refine ⟨(hs.final h).1, fun c hc => ?_⟩
    -- a final status delivered names a started job
    obtain ⟨e, he, -⟩ := h
    have hlen := hs.logIndex e he
    simp [hnone c hc] at hlen

/-- `go func(...)` and `su.status = status`. -/
theorem Inv.spawn (hs : Inv s) {c : SenderCall} (hc : s.runner = .call c .starting) :
    Inv { s with
      jobs := s.jobs ++ [⟨c.status, c.onlyOnce, .starting⟩]
      sender := { s.sender with status := c.status }
      runner := c.next true } := by
  have hexited := hs.starting c hc
  refine ⟨fun j hj => ?_, fun h => ?_, fun i j hj hpc => ?_,
    fun c' pos hc' => absurd hc' (c.next_ne_call true c' pos), fun c' hc' => absurd hc' (c.next_ne_call true c' _),
    fun e he => ?_, hs.logSorted, fun h => absurd hc ((hs.final h).2 c), hs.afterFinal⟩
  · rcases List.mem_append.mp hj with hj | hj
    · exact hs.onlyOnce j hj
    · rw [List.mem_singleton.mp hj]
      exact c.onlyOnce_eq
  · cases c <;> cases h
  · -- the jobs started before have all returned, so only the new one runs
    rw [List.length_append, List.length_singleton]
    by_cases hi : i < s.jobs.length
    · rw [List.getElem?_append_left hi] at hj
      exact absurd (hexited j (List.mem_of_getElem? hj)) hpc
    · have := (List.getElem?_eq_some_iff.mp hj).1
      simp only [List.length_append, List.length_singleton] at this
      omega
  · have := hs.logIndex e he
    simp only [List.length_append, List.length_singleton]
    omega

/-- The runner's send meets the select of the last job. -/
theorem Inv.restart (hs : Inv s) {c : SenderCall} {i : Nat} {j : Job}
    (hr : s.runner = .call c .restarting) (hj : s.jobs[i]? = some j) (hpc : j.pc = .selecting) :
    Inv { s with jobs := s.jobs.set i { j with pc := .exited }, runner := .call c .starting } := by
  have hrun : j.pc ≠ .exited := by simp [hpc]
  have hset := hs.setPc hj hrun .exited s.sender.ctxClosed
  refine ⟨hset.onlyOnce, hset.notstarted, hset.onlyLastRuns, fun c' pos hc' _ => ?_,
    fun c' hc' y hy => ?_, hset.logIndex, hs.logSorted, fun h => absurd h (hs.of_running hj hrun).1,
    hs.afterFinal⟩
  · exact hs.checked c .restarting hr (by decide)
  · -- the stopped job has returned, and it was the only one running
    obtain ⟨k, hk, rfl⟩ := List.getElem_of_mem hy
    have hk₀ : k < s.jobs.length := by simpa using hk
    rw [List.getElem_set]
    split_ifs with hik
    · rfl
    · exact hs.onlyLastRuns.exited_of_ne hj hrun (List.getElem?_eq_getElem hk₀) (Ne.symm hik)

/-- A call of the callback by a running job. -/
theorem Inv.callback (hs : Inv s) {i : Nat} {j : Job} {delivered : Bool} {r : Status × Job}
    (hj : s.jobs[i]? = some j) (hr : j.callback delivered = some r) :
    Inv { s with jobs := s.jobs.set i r.2, log := s.log ++ [⟨i, r.1, delivered⟩] } := by
  obtain ⟨hrun, hstatus, honce⟩ := Job.callback_spec hr
  obtain ⟨hfinal, hstarting⟩ := hs.of_running hj hrun
  have hi := hs.onlyLastRuns i j hj hrun
  have hsetMem : ∀ y ∈ s.jobs.set i r.2, y ∈ s.jobs ∨ y = r.2 :=
    fun y hy => List.mem_or_eq_of_mem_set hy
  have hnotFinal : ∀ e ∈ s.log, e.deliveredFinal = false := by
    intro e he
    cases hd : e.deliveredFinal
    · rfl
    · exact absurd ⟨e, he, hd⟩ hfinal
  refine ⟨fun y hy => ?_, fun h => ?_, hs.onlyLastRuns.set hi _, hs.checked,
    fun c hc => absurd hc (hstarting c), fun e he => ?_, ?_, fun h => ?_, fun pre e post hlog he => ?_⟩
  · rcases hsetMem y hy with hy | rfl
    · exact hs.onlyOnce y hy
    · rw [hstatus, honce]
      exact hs.onlyOnce j (List.mem_of_getElem? hj)
  · simp [hs.notstarted h] at hj
  · rcases List.mem_append.mp he with he | he
    · simpa using hs.logIndex e he
    · rw [List.mem_singleton.mp he, List.length_set]
      show i < s.jobs.length
      omega
  · -- the new entry names the last job, which follows every job named before
    rw [List.map_append, List.pairwise_append]
    refine ⟨hs.logSorted, by simp, fun a ha b hb => ?_⟩
    obtain ⟨e, he, rfl⟩ := List.mem_map.mp ha
    rw [List.map_singleton, List.mem_singleton] at hb
    rw [hb]
    have := hs.logIndex e he
    show e.goroutine ≤ i
    omega
  · -- a final status delivered now stops the last job, and the others had returned
    obtain ⟨e, he, hd⟩ := h
    rcases List.mem_append.mp he with he | he
    · exact absurd ⟨e, he, hd⟩ hfinal
    · rw [List.mem_singleton.mp he] at hd
      have hexit : r.2.pc = .exited :=
        Job.callback_exited (hs.onlyOnce j (List.mem_of_getElem? hj)) hr
          (by simpa [Callback.deliveredFinal] using hd)
      refine ⟨fun y hy => ?_, hstarting⟩
      obtain ⟨k, hk, rfl⟩ := List.getElem_of_mem hy
      have hk₀ : k < s.jobs.length := by simpa using hk
      rw [List.getElem_set]
      split_ifs with hik
      · exact hexit
      · exact hs.onlyLastRuns.exited_of_ne hj hrun (List.getElem?_eq_getElem hk₀) (Ne.symm hik)
  · -- nothing in the log before was a final status delivered
    rcases List.eq_nil_or_concat post with rfl | ⟨post', x, rfl⟩
    · rfl
    · have hlog' : s.log = pre ++ e :: post' := by
        have hsplit : s.log ++ [⟨i, r.1, delivered⟩] = (pre ++ e :: post') ++ [x] := by
          simpa using hlog
        exact List.append_inj_left' hsplit rfl
      have he' : e ∈ s.log := by
        rw [hlog']
        simp
      rw [hnotFinal e he'] at he
      cases he

/-- **Every move keeps the invariant.** -/
theorem Inv.step (hs : Inv s) (h : Steps cfg s s') : Inv s' := by
  obtain ⟨m, h⟩ := h
  cases m with
  | closeCtx deadline =>
    obtain ⟨-, rfl⟩ := step_closeCtx h
    -- the invariant does not read the context
    exact ⟨hs.onlyOnce, hs.notstarted, hs.onlyLastRuns, hs.checked, hs.starting, hs.logIndex,
      hs.logSorted, hs.final, hs.afterFinal⟩
  | run =>
    rcases runStep_cases h with ⟨c, hc, rfl⟩ | ⟨hs', hmove⟩
    · exact hs.spawn hc
    · rw [hs']
      exact hs.runnerMove hmove
  | runCtxDone =>
    obtain ⟨n, hn, -, rfl⟩ := step_runCtxDone h
    exact hs.runnerMove (RunnerMove.of_checking fun c pos hc => by cases hc)
  | restart i =>
    obtain ⟨c, j, hc, hj, hpc, rfl⟩ := step_restart h
    exact hs.restart hc hj hpc
  | callback i delivered =>
    obtain ⟨j, r, hj, hr, rfl⟩ := step_callback h
    exact hs.callback hj hr
  | ctxDone i =>
    obtain ⟨j, hj, hpc, -, rfl⟩ := step_ctxDone h
    exact hs.setPc hj (by simp [hpc]) .interrupted s.sender.ctxClosed
  | closeContext i =>
    obtain ⟨j, hj, hpc, rfl⟩ := step_closeContext h
    exact hs.setPc hj (by simp [hpc]) _ true
  | giveUp i =>
    obtain ⟨j, st, hj, hpc, rfl⟩ := step_giveUp h
    exact hs.setPc hj (by simp [hpc]) .exited s.sender.ctxClosed

theorem inv_of_reachable (h : Reachable (Steps cfg) System.init s) : Inv s :=
  Invariant.reachable (fun _ _ hs hstep => hs.step hstep) inv_init h

/-- **The callbacks keep the phases of the calls apart.**  Along every run of `Run`: a job is
started only once every earlier one has returned; the log of the callback names the jobs in
the order `sendUpdate` started them, so a job calls nothing once a later one has started; and
after a final status has been delivered, no callback follows. -/
theorem callbacks_keep_phases_apart (h : Reachable (Steps cfg) System.init s) :
    (∀ c, s.runner = .call c .starting → ∀ j ∈ s.jobs, j.pc = .exited) ∧
      (s.log.map Callback.goroutine).Pairwise (· ≤ ·) ∧
      ∀ pre e post, s.log = pre ++ e :: post → e.delivered → e.status.isFinal → post = [] := by
  have hs := inv_of_reachable h
  refine ⟨hs.starting, hs.logSorted, fun pre e post hlog hd hfinal => ?_⟩
  exact hs.afterFinal pre e post hlog (by simp [Callback.deliveredFinal, hd, hfinal])

/-! ## A call that blocks for good -/

/-- A job past its select stays past it. -/
theorem Job.callback_past_select {j : Job} {delivered : Bool} {r : Status × Job}
    (h : j.callback delivered = some r) (hj : j.pc ≠ .starting ∧ j.pc ≠ .selecting) :
    r.2.pc ≠ .starting ∧ r.2.pc ≠ .selecting := by
  unfold Job.callback at h
  split at h
  · exact absurd ‹_› hj.1
  · exact absurd ‹_› hj.2
  all_goals cases h
  all_goals cases delivered <;> simp

/-- The runner blocked in `stopJob`, with no job left that will select: each job has returned,
or has taken `ctx.Done()`. -/
def Stranded (s : System) : Prop :=
  (∃ c, s.runner = .call c .restarting) ∧ ∀ j ∈ s.jobs, j.pc ≠ .starting ∧ j.pc ≠ .selecting

/-- **No move frees a stranded runner.** -/
theorem Stranded.step (hs : Stranded s) (h : Steps cfg s s') : Stranded s' := by
  obtain ⟨⟨c, hc⟩, hjobs⟩ := hs
  -- the jobs of a move that sets job `i` to `x` stay past their select if `x` is
  have hset : ∀ {i : Nat} {x : Job}, (x.pc ≠ .starting ∧ x.pc ≠ .selecting) →
      ∀ y ∈ s.jobs.set i x, y.pc ≠ .starting ∧ y.pc ≠ .selecting := by
    intro i x hx y hy
    rcases List.mem_or_eq_of_mem_set hy with hy | rfl
    · exact hjobs y hy
    · exact hx
  obtain ⟨m, h⟩ := h
  cases m with
  | closeCtx deadline =>
    obtain ⟨-, rfl⟩ := step_closeCtx h
    exact ⟨⟨c, hc⟩, hjobs⟩
  | run => simp [System.step, runStep, hc] at h
  | runCtxDone =>
    obtain ⟨n, hn, -⟩ := step_runCtxDone h
    rw [hc] at hn
    cases hn
  | restart i =>
    obtain ⟨c', j, -, hj, hpc, -⟩ := step_restart h
    exact absurd hpc (hjobs j (List.mem_of_getElem? hj)).2
  | callback i delivered =>
    obtain ⟨j, r, hj, hr, rfl⟩ := step_callback h
    exact ⟨⟨c, hc⟩, hset (Job.callback_past_select hr (hjobs j (List.mem_of_getElem? hj)))⟩
  | ctxDone i =>
    obtain ⟨j, hj, hpc, -, -⟩ := step_ctxDone h
    exact absurd hpc (hjobs j (List.mem_of_getElem? hj)).2
  | closeContext i =>
    obtain ⟨j, hj, -, rfl⟩ := step_closeContext h
    exact ⟨⟨c, hc⟩, hset (by simp)⟩
  | giveUp i =>
    obtain ⟨j, st, hj, -, rfl⟩ := step_giveUp h
    exact ⟨⟨c, hc⟩, hset (by simp)⟩

theorem Stranded.reflTransGen (hs : Stranded s) (h : ReflTransGen (Steps cfg) s s') :
    Stranded s' :=
  Invariant.reflTransGen (fun _ _ hs hstep => hs.step hstep) h hs

/-- The start of the first attempt: `Running` starts a job, which calls back and waits in its
select, and the reconciliation begins. -/
theorem reaches_first_callback (hretries : 1 ≤ cfg.maxRetries) :
    ReflTransGen (Steps cfg) System.init
      ⟨.open, ⟨false, .running⟩, [⟨.running, false, .selecting⟩], .reconciling 0,
        [⟨0, .running, true⟩]⟩ := by
  have hstart : Steps cfg System.init
      ⟨.open, ⟨false, .notstarted⟩, [], .call (.running 0) .checking, []⟩ := by
    refine ⟨.run, ?_⟩
    -- `retry.Do` makes its first attempt in the open context
    have hfirst := cfg.retryDo.attemptsFirst_open hretries
    simp [step, runStep, System.init, Ctx.done, hfirst]
  -- `statusChangeAllowed`, `stopJob` with nothing to stop, the job, and its first callback
  exact (((ReflTransGen.single hstart).tail ⟨.run, rfl⟩).tail ⟨.run, rfl⟩).tail ⟨.run, rfl⟩
    |>.tail ⟨.callback 0 true, rfl⟩

/-- After the first callback of a run with three attempts in turn: one job, started by the
first call, and the log names it. -/
theorem callbacks_keep_phases_apart_first_callback :
    (∀ c, Runner.reconciling 0 = .call c .starting →
        ∀ j ∈ [(⟨.running, false, .selecting⟩ : Job)], j.pc = .exited) ∧
      ([(⟨0, .running, true⟩ : Callback)].map Callback.goroutine).Pairwise (· ≤ ·) ∧
      ∀ pre e post, [(⟨0, .running, true⟩ : Callback)] = pre ++ e :: post → e.delivered →
        e.status.isFinal → post = [] :=
  callbacks_keep_phases_apart
    (@reaches_first_callback ⟨3, fun _ => .ok, .inTurn 3⟩ (by decide))

/-- The first attempt ends with the reconciliation; the runner is at the check of `Success` or
of `Failed`. -/
theorem reaches_second_call (hretries : 1 ≤ cfg.maxRetries) :
    ∃ c, ReflTransGen (Steps cfg) System.init
      ⟨.open, ⟨false, .running⟩, [⟨.running, false, .selecting⟩], .call c .checking,
        [⟨0, .running, true⟩]⟩ := by
  have hrunning := reaches_first_callback hretries
  cases hreconcile : cfg.reconcile 0 with
  | ok =>
    have hreconciled : Steps cfg
        ⟨.open, ⟨false, .running⟩, [⟨.running, false, .selecting⟩], .reconciling 0,
          [⟨0, .running, true⟩]⟩
        ⟨.open, ⟨false, .running⟩, [⟨.running, false, .selecting⟩], .retried true,
          [⟨0, .running, true⟩]⟩ :=
      ⟨.run, by simp [step, runStep, hreconcile]⟩
    exact ⟨.success, (hrunning.tail hreconciled).tail ⟨.run, rfl⟩⟩
  | err noSuchHost =>
    refine ⟨.failed 0 noSuchHost, hrunning.tail ⟨.run, ?_⟩⟩
    simp [step, runStep, hreconcile]

/-- **`Run` can block for good in `stopJob`.**  For every `MaxRetries` of at least one and
every outcome of the reconciliations, some run reaches a state from which `Run` stays blocked
in its send on `restartInterval`, whatever happens next: the call after the first attempt
passes `statusChangeAllowed`, the context closes, and the job takes `ctx.Done()` before the
runner's send. -/
theorem run_blocks_in_stopJob (cfg : RunConfig) (hretries : 1 ≤ cfg.maxRetries) :
    ∃ s, Reachable (Steps cfg) System.init s ∧
      ∀ s', ReflTransGen (Steps cfg) s s' → ∃ c, s'.runner = .call c .restarting := by
  obtain ⟨c, hcall⟩ := reaches_second_call hretries
  -- the check passes, the deadline passes, the job takes `ctx.Done()`, and `stopJob` sends
  have hstranded : ReflTransGen (Steps cfg) System.init
      ⟨.deadlineExceeded, ⟨false, .running⟩, [⟨.running, false, .interrupted⟩],
        .call c .restarting, [⟨0, .running, true⟩]⟩ :=
    (((hcall.tail ⟨.run, rfl⟩).tail ⟨.closeCtx true, rfl⟩).tail ⟨.ctxDone 0, rfl⟩).tail
      ⟨.run, rfl⟩
  refine ⟨_, hstranded, fun s' h => ((Stranded.reflTransGen ⟨⟨c, rfl⟩, ?_⟩ h).1)⟩
  simp

/-- With three attempts in turn and reconciliations that succeed, `Success` blocks for good. -/
theorem run_blocks_in_stopJob_on_success :
    ∃ s, Reachable (Steps ⟨3, fun _ => .ok, .inTurn 3⟩) System.init s ∧
      ∀ s', ReflTransGen (Steps ⟨3, fun _ => .ok, .inTurn 3⟩) s s' →
        ∃ c, s'.runner = .call c .restarting :=
  run_blocks_in_stopJob ⟨3, fun _ => .ok, .inTurn 3⟩ (by decide)

end System

end Heartbeat

end Reconciler
