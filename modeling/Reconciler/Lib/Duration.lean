import Mathlib.Data.Nat.Digits.Defs

/-!
# Go durations and the seconds `%.0f` prints of them

A Go `time.Duration` is a count of nanoseconds.  `d.Seconds()` is its quotient by `10^9` as a
`float64`, and the verb `%.0f` prints that quotient rounded to an integer, halves to even, behind
a minus sign whenever the quotient is negative: a negative duration under half a second prints
as `-0`.  The quotient is taken exactly here; the `float64` sum `Seconds` computes rounds to the
same integer for every duration under `2^23` seconds.

Rounding is the floor of the quotient, raised by one when twice the remainder passes the
divisor or meets it on an odd floor.
-/

namespace GoTime

/-- The integer nearest to `n / m`, halves to even. -/
def roundHalfEven (n m : Int) : Int :=
  if m < 2 * (n % m) ∨ (2 * (n % m) = m ∧ n / m % 2 = 1) then n / m + 1 else n / m

section Rounding

variable {n m k : Int}

/-- Rounding lands on the floor of the quotient or one above it. -/
theorem roundHalfEven_cases (n m : Int) :
    roundHalfEven n m = n / m ∨ roundHalfEven n m = n / m + 1 := by
  unfold roundHalfEven
  split_ifs
  · exact .inr rfl
  · exact .inl rfl

/-- A multiple of the divisor rounds to its quotient. -/
theorem roundHalfEven_mul (hm : 0 < m) (k : Int) : roundHalfEven (k * m) m = k := by
  have hdiv : k * m / m = k := Int.mul_ediv_cancel k (Int.ne_of_gt hm)
  have hmod : k * m % m = 0 := Int.mul_emod_left k m
  unfold roundHalfEven
  rw [hdiv, hmod, if_neg (by omega)]

/-- Nothing at most `k` times the divisor rounds above `k`. -/
theorem roundHalfEven_le (hm : 0 < m) (h : n ≤ k * m) : roundHalfEven n m ≤ k := by
  have hq : n / m ≤ k := by
    have := Int.ediv_le_ediv hm h
    rwa [Int.mul_ediv_cancel k (Int.ne_of_gt hm)] at this
  -- the quotient is raised only with a positive remainder, which puts it below `k`
  have hrem : n = m * (n / m) + n % m := (Int.mul_ediv_add_emod n m).symm
  have hlt : 0 < n % m → n / m < k := by
    intro hpos
    by_contra hk
    have hmk : m * k ≤ m * (n / m) := Int.mul_le_mul_of_nonneg_left (by omega) (by omega)
    have hkm : k * m = m * k := Int.mul_comm k m
    omega
  unfold roundHalfEven
  split_ifs with hup
  · have := hlt (by omega)
    omega
  · exact hq

/-- Nothing at least `k` times the divisor rounds below `k`. -/
theorem le_roundHalfEven (hm : 0 < m) (h : k * m ≤ n) : k ≤ roundHalfEven n m := by
  have hq : k ≤ n / m := by
    have := Int.ediv_le_ediv hm h
    rwa [Int.mul_ediv_cancel k (Int.ne_of_gt hm)] at this
  rcases roundHalfEven_cases n m with h | h <;> omega

end Rounding

/-- `time.Duration`: a count of nanoseconds. -/
structure Duration where
  nanoseconds : Int
  deriving DecidableEq, Repr

namespace Duration

/-- `time.Second` in nanoseconds. -/
def second : Int := 1000000000

/-- A whole number of seconds. -/
def ofSeconds (k : Int) : Duration := ⟨k * second⟩

/-- The integer `%.0f` prints for `d.Seconds()`. -/
def roundSeconds (d : Duration) : Int := roundHalfEven d.nanoseconds second

/-- The text `%.0f` prints for `d.Seconds()`: the sign of the quotient and the digits of its
rounded magnitude. -/
def formatSeconds (d : Duration) : String :=
  (if d.nanoseconds < 0 then "-" else "") ++ toString d.roundSeconds.natAbs

theorem second_pos : 0 < second := by decide

/-- **Whole seconds print as themselves.** -/
@[simp] theorem roundSeconds_ofSeconds (k : Int) : (ofSeconds k).roundSeconds = k :=
  roundHalfEven_mul second_pos k

example : (⟨1500000000⟩ : Duration).roundSeconds = 2 ∧
    (⟨2500000000⟩ : Duration).roundSeconds = 2 ∧ (⟨-1⟩ : Duration).formatSeconds = "-0" := by
  decide

/-- A negative duration rounds to zero or below. -/
theorem roundSeconds_nonpos {d : Duration} (h : d.nanoseconds < 0) : d.roundSeconds ≤ 0 :=
  roundHalfEven_le second_pos (by rw [Int.zero_mul]; omega)

/-- A duration of no negative length rounds to zero or above. -/
theorem roundSeconds_nonneg {d : Duration} (h : 0 ≤ d.nanoseconds) : 0 ≤ d.roundSeconds :=
  le_roundHalfEven second_pos (by rw [Int.zero_mul]; exact h)

/-- The characters of the printed seconds: an optional minus sign and decimal digits. -/
theorem toList_formatSeconds (d : Duration) :
    d.formatSeconds.toList =
      (if d.nanoseconds < 0 then ['-'] else []) ++ Nat.toDigits 10 d.roundSeconds.natAbs := by
  unfold formatSeconds
  split_ifs <;> simp [Nat.repr_eq_ofList_toDigits, toString]

end Duration

end GoTime
