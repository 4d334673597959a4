import Mathlib.Order.Basic

/-!
# A retry loop

A retry loop calls a function until a call succeeds or the attempts are used up, and then
returns `nil` or the errors of the attempts.  The function is given by what its `n`-th call
answers, `none` for success.  A run is the number of calls it made and, when none succeeded, the
errors of them all.

A loop such as `retry.Do` of `avast/retry-go` (with `LastErrorOnly(false)`, a background
context and every error retryable) is a parameter, `Loop`: its callers rely on one law, that a
run succeeds exactly when one of its attempts would.  `Loop.inTurn` is a loop that keeps that
law, calling the function once per attempt until a call succeeds.
-/

namespace Retry

/-- A retry loop, with the text of the error it returns. -/
structure Loop (ε : Type*) where
  /-- the calls made and, when none succeeded, the errors of the attempts -/
  run : (Nat → Option ε) → Nat → Nat × Option (List ε)
  /-- the text of the error of the attempts -/
  errorText : List ε → String
  /-- a run succeeds exactly when one of its attempts would -/
  run_snd_eq_none_iff :
    ∀ answer attempts, (run answer attempts).2 = none ↔ ∃ j < attempts, answer j = none

variable {ε : Type*} (answer : Nat → Option ε)

/-- The calls in turn from attempt `n` on, with `k` attempts left. -/
def attemptFrom (n : Nat) : Nat → Nat × Option (List ε)
  | 0 => (0, some [])
  | k + 1 =>
    match answer n with
    | none => (1, none)
    | some e =>
      let rest := attemptFrom (n + 1) k
      (rest.1 + 1, rest.2.map (e :: ·))

variable {answer}

theorem attemptFrom_snd_eq_none_iff (n k : Nat) :
    (attemptFrom answer n k).2 = none ↔ ∃ j < k, answer (n + j) = none := by
  induction k generalizing n with
  | zero => simp [attemptFrom]
  | succ k ih =>
    cases hn : answer n with
    | none => exact ⟨fun _ => ⟨0, Nat.succ_pos k, hn⟩, fun _ => by simp [attemptFrom, hn]⟩
    | some e =>
      simp only [attemptFrom, hn, Option.map_eq_none_iff, ih]
      -- a success after the first attempt is one of the loop from `n + 1` on
      constructor
      · rintro ⟨j, hj, hsucc⟩
        exact ⟨j + 1, by omega, by rwa [show n + (j + 1) = n + 1 + j by omega]⟩
      · rintro ⟨j, hj, hsucc⟩
        cases j with
        | zero => simp [hn] at hsucc
        | succ j => exact ⟨j, by omega, by rwa [show n + 1 + j = n + (j + 1) by omega]⟩

/-- The loop that calls in turn from the first attempt, with the given text of its error. -/
def Loop.inTurn (errorText : List ε → String) : Loop ε where
  run answer attempts := attemptFrom answer 0 attempts
  errorText := errorText
  run_snd_eq_none_iff answer attempts := by simp [attemptFrom_snd_eq_none_iff]

end Retry
