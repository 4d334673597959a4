import Mathlib.Data.List.Basic

/-!
# Counting in a bounded window

A scan over a history, newest first, counts the entries `err` picks out and stops at the first
entry `stop` ends it at (an `err` entry is counted even where `stop` holds).  When only the
newest entries are read, the count can miss old ones.  It misses none of the newest `n` when
no more than `k` entries that are neither counted nor stopping stand before each counted
entry (`Spaced k`): the window of `(k + 1) * n` entries then reaches the `n`-th counted one.

A retry loop that reads its count through such a window keeps a budget: each round adds at
most `k` quiet entries and then a counted or stopping one, and adds a retry only where the
count it read stayed below `max`.  Then at most `max` retries stand before the first stop
(`Budget.round`), and once there are `max` of them the count a round reads reaches `max`
(`Budget.max_le_countBefore_take`).
-/

namespace Window

variable {α : Type*} (err stop : α → Bool)

/-- The counted entries before the scan stops. -/
def countBefore : List α → Nat
  | [] => 0
  | a :: l => if err a then countBefore l + 1 else if stop a then 0 else countBefore l

/-- An entry that is neither counted nor stops the scan. -/
def Quiet (a : α) : Prop :=
  err a = false ∧ stop a = false

/-- Newest first: at most `k` quiet entries before each counted entry, up to a stop. -/
inductive Spaced (k : Nat) : List α → Prop
  | quiet {g : List α} : (∀ b ∈ g, Quiet err stop b) → Spaced k g
  | stop {g : List α} {a : α} {l : List α} :
      (∀ b ∈ g, Quiet err stop b) → err a = false → stop a = true → Spaced k (g ++ a :: l)
  | err {g : List α} {a : α} {l : List α} :
      g.length ≤ k → (∀ b ∈ g, Quiet err stop b) → err a = true → Spaced k l →
        Spaced k (g ++ a :: l)

variable {err stop}

@[simp] theorem countBefore_nil : countBefore err stop [] = 0 := rfl

theorem countBefore_cons (a : α) (l : List α) :
    countBefore err stop (a :: l) =
      if err a then countBefore err stop l + 1 else if stop a then 0 else countBefore err stop l :=
  rfl

theorem countBefore_quiet_append {g : List α} (hg : ∀ b ∈ g, Quiet err stop b) (l : List α) :
    countBefore err stop (g ++ l) = countBefore err stop l := by
  induction g with
  | nil => rfl
  | cons b g ih =>
    obtain ⟨hb, hb'⟩ := hg b List.mem_cons_self
    simp only [List.cons_append, countBefore_cons, hb, hb', Bool.false_eq_true, if_false]
    exact ih fun c hc => hg c (List.mem_cons_of_mem b hc)

/-- Reading more of the history never lowers the count. -/
theorem countBefore_take_le {m n : Nat} (hmn : m ≤ n) (l : List α) :
    countBefore err stop (l.take m) ≤ countBefore err stop (l.take n) := by
  induction l generalizing m n with
  | nil => simp
  | cons a l ih =>
    rcases m with _ | m
    · simp
    · obtain ⟨n, rfl⟩ : ∃ n', n = n' + 1 := ⟨n - 1, by omega⟩
      have hrest := ih (Nat.le_of_succ_le_succ hmn)
      simp only [List.take_succ_cons, countBefore_cons]
      split_ifs <;> omega

/-- Counting more kinds of entries never lowers the count. -/
theorem countBefore_mono {err' : α → Bool} (h : ∀ a, err a = true → err' a = true)
    (l : List α) : countBefore err stop l ≤ countBefore err' stop l := by
  induction l with
  | nil => simp
  | cons a l ih =>
    simp only [countBefore_cons]
    by_cases ha : err a = true
    · simp [ha, h a ha, ih]
    · simp only [ha, Bool.false_eq_true, if_false]
      split_ifs <;> omega

/-- Where no counted entry stops the scan, the count is that of the entries before the first
stop. -/
theorem countBefore_eq_countP_takeWhile (hne : ∀ a, err a = true → stop a = false)
    (l : List α) : countBefore err stop l = (l.takeWhile fun a => !stop a).countP err := by
  induction l with
  | nil => rfl
  | cons a l ih =>
    rw [countBefore_cons, List.takeWhile_cons]
    by_cases ha : err a = true
    · simp [ha, hne a ha, ih]
    · cases stop a <;> simp [ha, ih]

/-- A scan that counts something reads a counted entry. -/
theorem exists_of_countBefore_pos {l : List α} (h : 0 < countBefore err stop l) :
    ∃ a ∈ l, err a = true := by
  induction l with
  | nil => simp at h
  | cons a l ih =>
    rw [countBefore_cons] at h
    by_cases ha : err a = true
    · exact ⟨a, List.mem_cons_self, ha⟩
    · simp only [ha, Bool.false_eq_true, if_false] at h
      split_ifs at h
      · omega
      · obtain ⟨b, hb, hb'⟩ := ih h
        exact ⟨b, List.mem_cons_of_mem a hb, hb'⟩

/-- A scan that counts nothing reads quiet entries up to a stop, if any. -/
theorem countBefore_eq_zero {l : List α} (h : countBefore err stop l = 0) :
    (∀ b ∈ l, Quiet err stop b) ∨
      ∃ g a r, l = g ++ a :: r ∧ (∀ b ∈ g, Quiet err stop b) ∧ err a = false ∧
        stop a = true := by
  induction l with
  | nil => exact .inl fun _ h => nomatch h
  | cons a l ih =>
    simp only [countBefore_cons] at h
    cases ha : err a with
    | true => simp [ha] at h
    | false =>
      cases hs : stop a with
      | true => exact .inr ⟨[], a, l, rfl, by simp, ha, hs⟩
      | false =>
        simp only [ha, hs, Bool.false_eq_true, if_false] at h
        have hquiet : Quiet err stop a := ⟨ha, hs⟩
        rcases ih h with hl | ⟨g, b, r, rfl, hg, hb, hb'⟩
        · exact .inl (List.forall_mem_cons.2 ⟨hquiet, hl⟩)
        · exact .inr ⟨a :: g, b, r, rfl, List.forall_mem_cons.2 ⟨hquiet, hg⟩, hb, hb'⟩

namespace Spaced

variable {k : Nat}

/-- A counted entry starts a spaced history again. -/
theorem cons_err {a : α} {l : List α} (ha : err a = true) (h : Spaced err stop k l) :
    Spaced err stop k (a :: l) :=
  .err (g := []) (Nat.zero_le k) (fun _ h => nomatch h) ha h

/-- A history that counts nothing is spaced. -/
theorem of_countBefore_eq_zero {l : List α} (h : countBefore err stop l = 0) :
    Spaced err stop k l := by
  rcases countBefore_eq_zero h with hl | ⟨g, a, r, rfl, hg, ha, ha'⟩
  · exact .quiet hl
  · exact .stop hg ha ha'

/-- What follows a counted newest entry is spaced. -/
theorem tail_of_err {a : α} {l : List α} (ha : err a = true) (h : Spaced err stop k (a :: l)) :
    Spaced err stop k l := by
  -- the newest entry is counted, so it is neither in a quiet gap nor a stop
  have hnot : ¬ Quiet err stop a := fun hq => by simp [hq.1] at ha
  generalize hal : a :: l = al at h
  cases h with
  | quiet hg => exact absurd (hg a (hal ▸ List.mem_cons_self)) hnot
  | @stop g b r hg hb _ =>
    rcases g with _ | ⟨c, g⟩
    · obtain ⟨rfl, -⟩ := List.cons.inj hal
      simp [ha] at hb
    · obtain ⟨rfl, -⟩ := List.cons.inj hal
      exact absurd (hg a List.mem_cons_self) hnot
  | @err g b r _ hg _ hr =>
    rcases g with _ | ⟨c, g⟩
    · obtain ⟨-, rfl⟩ := List.cons.inj hal
      exact hr
    · obtain ⟨rfl, -⟩ := List.cons.inj hal
      exact absurd (hg a List.mem_cons_self) hnot

/-- Quiet entries in front keep a history spaced, when there are at most `k` of them and the
history starts with a counted entry or counts nothing. -/
theorem quiet_append {g l : List α} (h : Spaced err stop k l) (hg : ∀ b ∈ g, Quiet err stop b)
    (hlen : g.length ≤ k)
    (hstart : (∃ a l', l = a :: l' ∧ err a = true) ∨ countBefore err stop l = 0) :
    Spaced err stop k (g ++ l) := by
  rcases hstart with ⟨a, l', rfl, ha⟩ | hzero
  · exact .err hlen hg ha (h.tail_of_err ha)
  · rcases countBefore_eq_zero hzero with hl | ⟨g', a, r, rfl, hg', ha, ha'⟩
    · exact .quiet fun b hb => (List.mem_append.1 hb).elim (hg b) (hl b)
    · rw [← List.append_assoc]
      exact .stop (fun b hb => (List.mem_append.1 hb).elim (hg b) (hg' b)) ha ha'

end Spaced

/-- **A window of `(k + 1) * n` entries of a spaced history counts at least the `n` newest
counted entries**, or all of them when there are fewer. -/
theorem min_le_countBefore_take {k : Nat} {l : List α} (h : Spaced err stop k l) (n : Nat) :
    min n (countBefore err stop l) ≤ countBefore err stop (l.take ((k + 1) * n)) := by
  induction h generalizing n with
  | @quiet g hg =>
    have hzero : countBefore err stop g = 0 := by simpa using countBefore_quiet_append hg []
    simp [hzero]
  | stop hg ha ha' =>
    rw [countBefore_quiet_append hg]
    simp [countBefore_cons, ha, ha']
  | @err g a r _ hg ha _ ih =>
    rcases n with _ | n
    · simp
    -- the window holds the gap, the counted entry and `(k + 1) * n` entries after it
    obtain ⟨m, hm, hwin⟩ : ∃ m, (k + 1) * n ≤ m ∧ (k + 1) * (n + 1) = g.length + 1 + m :=
      ⟨(k + 1) * (n + 1) - g.length - 1, by rw [Nat.mul_succ]; omega,
        by rw [Nat.mul_succ]; omega⟩
    have htake : (g ++ a :: r).take (g.length + 1 + m) = g ++ a :: r.take m := by
      have hrest : g.length + 1 + m - g.length = m + 1 := by omega
      rw [List.take_append, List.take_of_length_le (by omega), hrest, List.take_succ_cons]
    calc min (n + 1) (countBefore err stop (g ++ a :: r))
        = min n (countBefore err stop r) + 1 := by
          rw [countBefore_quiet_append hg, countBefore_cons, if_pos ha]; omega
      _ ≤ countBefore err stop (r.take ((k + 1) * n)) + 1 := Nat.succ_le_succ (ih n)
      _ ≤ countBefore err stop (r.take m) + 1 := Nat.succ_le_succ (countBefore_take_le hm r)
      _ = countBefore err stop ((g ++ a :: r).take ((k + 1) * (n + 1))) := by
          rw [hwin, htake, countBefore_quiet_append hg, countBefore_cons, if_pos ha]

section Budget

variable (err stop) (retry : α → Bool) (k w max : Nat)

/-- Where a round may start: right after a counted entry, or with nothing counted. -/
def StartsAfter (h : List α) : Prop :=
  (∃ a l, h = a :: l ∧ err a = true) ∨ countBefore err stop h = 0

/-- One round of a retry loop over a history, newest first.  It adds quiet entries; or at most
`k` quiet entries and then a counted or stopping entry, which is a retry only where the count
read through the window of `w` entries stayed below `max`; or it clears the history. -/
inductive Round : List α → List α → Prop
  | quiet {q h : List α} : (∀ b ∈ q, Quiet err stop b) → Round h (q ++ h)
  | final {q h : List α} {f : α} : (∀ b ∈ q, Quiet err stop b) → q.length ≤ k →
      (err f = true ∨ stop f = true) →
      (retry f = true → countBefore err stop ((q ++ h).take w) < max) → Round h (f :: (q ++ h))
  | clear {h : List α} : Round h []

/-- The budget: spaced where a round may start, and at most `max` retries before a stop. -/
structure Budget (h : List α) : Prop where
  spaced : StartsAfter err stop h → Spaced err stop k h
  retries_le : countBefore retry stop h ≤ max

variable {err stop retry k w max}

/-- A round that adds one entry which is no retry. -/
theorem Round.cons {h : List α} {f : α} (hf : retry f = false) :
    Round err stop retry k w max h (f :: h) := by
  by_cases hfinal : err f = true ∨ stop f = true
  · exact .final (q := []) (fun _ h => nomatch h) (Nat.zero_le k) hfinal (by simp [hf])
  · simp only [not_or, Bool.not_eq_true] at hfinal
    exact .quiet (q := [f]) (List.forall_mem_singleton.2 hfinal)

/-- Retries are counted entries, so a quiet entry is no retry. -/
theorem quiet_retry (hretry : ∀ a, retry a = true → err a = true) {a : α}
    (ha : Quiet err stop a) : Quiet retry stop a := by
  refine ⟨?_, ha.2⟩
  cases h : retry a
  · rfl
  · simpa [ha.1] using hretry a h

/-- The quiet entries of a round and the history before them are spaced. -/
theorem Budget.spaced_quiet_append {q h : List α} (hb : Budget err stop retry k max h)
    (hs : StartsAfter err stop h) (hq : ∀ b ∈ q, Quiet err stop b) (hlen : q.length ≤ k) :
    Spaced err stop k (q ++ h) :=
  (hb.spaced hs).quiet_append hq hlen hs

/-- **Every round keeps the budget**, when the window holds `k + 1` entries per retry. -/
theorem Budget.round (hretry : ∀ a, retry a = true → err a = true) (hw : w = (k + 1) * max)
    {h h' : List α} (hb : Budget err stop retry k max h) (hs : StartsAfter err stop h)
    (hr : Round err stop retry k w max h h') : Budget err stop retry k max h' := by
  cases hr with
  | @quiet q _ hq =>
    rcases q with _ | ⟨b, q⟩
    · exact hb
    have hb' : Quiet err stop b := hq b List.mem_cons_self
    refine ⟨?_, ?_⟩
    -- a quiet newest entry leaves a round nothing to start after but an empty count
    · rintro (⟨a, l, heq, ha⟩ | hzero)
      · obtain ⟨rfl, -⟩ := List.cons.inj heq
        simp [hb'.1] at ha
      · exact Spaced.of_countBefore_eq_zero hzero
    · rw [countBefore_quiet_append (fun c hc => quiet_retry hretry (hq c hc))]
      exact hb.retries_le
  | @final q _ f hq hlen hf hcount =>
    have hspaced := hb.spaced_quiet_append hs hq hlen
    refine ⟨fun _ => ?_, ?_⟩
    · cases herr : err f
      · exact .stop (g := []) (fun _ h => nomatch h) herr (hf.resolve_left (by simp [herr]))
      · exact hspaced.cons_err herr
    · have hquiet : countBefore retry stop (q ++ h) = countBefore retry stop h :=
        countBefore_quiet_append (fun c hc => quiet_retry hretry (hq c hc)) h
      rw [countBefore_cons]
      split_ifs with hretryf hstopf
      -- a retry: the window read fewer than `max` counted entries, so there were fewer
      · have hwin := min_le_countBefore_take hspaced max
        have hmono : countBefore retry stop (q ++ h) ≤ countBefore err stop (q ++ h) :=
          countBefore_mono hretry (q ++ h)
        have hlt := hcount hretryf
        rw [hw] at hlt
        omega
      · exact Nat.zero_le _
      · rw [hquiet]
        exact hb.retries_le
  | clear => exact ⟨fun _ => .quiet (fun _ h => nomatch h), Nat.zero_le _⟩

/-- **Once `max` retries stand before the first stop, the count a round reads reaches
`max`.** -/
theorem Budget.max_le_countBefore_take (hretry : ∀ a, retry a = true → err a = true)
    {q h : List α} (hb : Budget err stop retry k max h) (hs : StartsAfter err stop h)
    (hq : ∀ b ∈ q, Quiet err stop b) (hlen : q.length ≤ k)
    (hused : countBefore retry stop h = max) :
    max ≤ countBefore err stop ((q ++ h).take ((k + 1) * max)) := by
  have hwin := min_le_countBefore_take (hb.spaced_quiet_append hs hq hlen) max
  have hmono : countBefore retry stop (q ++ h) ≤ countBefore err stop (q ++ h) :=
    countBefore_mono hretry (q ++ h)
  rw [countBefore_quiet_append (fun c hc => quiet_retry hretry (hq c hc))] at hmono
  omega

end Budget

end Window
