import Mathlib.Logic.Function.Basic
import Mathlib.Data.List.Nodup
import Reconciler.Lib.Transition

/-!
# Snapshot isolation with first-committer-wins

Clients run transactions on one shared state.  A transaction reads a snapshot at its first
statement and then fails with an error, commits without writing, or writes a new state.  A
write commits only if no other write committed since the snapshot was taken.  Otherwise the
transaction collides, and the client begins again on a new snapshot while it has attempts
left.  This is how Postgres `REPEATABLE READ` treats transactions that all read and write one
row: the first updater wins, and a later concurrent updater gets `could not serialize access`.

The committed writes are kept in a ghost log, oldest first.  `Serial` says that a log is a
serial execution: each write was computed from the state the writes before it left.
`Consistent` is the invariant of the step relation.  From it:

* `serial_of_reachable`: the log of every reachable state is a serial execution that ends in
  the committed state, so no committed write is lost;
* `Consistent.returned`: a client that returned without error sits at one point of that serial
  order, a read-only commit at the point of its snapshot;
* `Consistent.stable`: a property that every write keeps holds along every run.
-/

namespace Snapshot

open Relation Transition

/-- Where one client's transaction is. -/
inductive Phase (σ : Type*)
  /-- about to begin attempt number `attempt` -/
  | waiting (attempt : Nat)
  /-- attempt `attempt` read `snap`, the state after the first `version` logged writes -/
  | running (attempt : Nat) (snap : σ) (version : Nat)
  /-- committed without writing, on the snapshot of the first `version` logged writes -/
  | readOnly (version : Nat)
  /-- committed a write, which is in the log -/
  | wrote
  /-- gave up with an error -/
  | failed

/-- The committed state, the clients, and the committed writes, oldest first. -/
structure State (ι σ : Type*) where
  db : σ
  phase : ι → Phase σ
  log : List (ι × σ)

variable {ι σ ε : Type*}

/-- The statement `f` run on `x` returned without error and left `y`: it wrote `y`, or it
wrote nothing and `y = x`. -/
def Leaves (f : σ → Except ε (Option σ)) (x y : σ) : Prop :=
  f x = .ok (some y) ∨ (f x = .ok none ∧ y = x)

/-- Two statements of one transaction: the second reads what the first wrote, and the
transaction writes if either does. -/
def seq (f g : σ → Except ε (Option σ)) (x : σ) : Except ε (Option σ) :=
  match f x with
  | .error e => .error e
  | .ok none => g x
  | .ok (some y) =>
      match g y with
      | .error e => .error e
      | .ok none => .ok (some y)
      | .ok (some z) => .ok (some z)

/-- What two statements in sequence leave is what the second leaves of what the first left. -/
theorem Leaves.of_seq {f g : σ → Except ε (Option σ)} {x z : σ} (h : Leaves (seq f g) x z) :
    ∃ y, Leaves f x y ∧ Leaves g y z := by
  unfold Leaves seq at h
  split at h
  · rcases h with h | ⟨h, -⟩ <;> cases h
  · -- the first statement wrote nothing
    exact ⟨x, .inr ⟨‹_›, rfl⟩, h⟩
  · rename_i y hf
    refine ⟨y, .inl hf, ?_⟩
    split at h
    · rcases h with h | ⟨h, -⟩ <;> cases h
    · rcases h with h | ⟨h, -⟩
      · cases h
        exact .inr ⟨‹_›, rfl⟩
      · cases h
    · rcases h with h | ⟨h, -⟩
      · cases h
        exact .inl ‹_›
      · cases h

variable (txn : ι → σ → Except ε (Option σ)) (maxAttempts : ι → Nat)

/-- Every client about to begin, nothing committed. -/
def init (db : σ) : State ι σ :=
  { db := db, phase := fun _ => .waiting 0, log := [] }

/-- Where a client goes after attempt `a` collided: to the next attempt, while it has one. -/
def afterCollision (a : Nat) (i : ι) : Phase σ :=
  if a + 1 < maxAttempts i then .waiting (a + 1) else .failed

section Phase

variable [DecidableEq ι]

/-- The state with client `i` moved to phase `ph`. -/
def State.setPhase (s : State ι σ) (i : ι) (ph : Phase σ) : State ι σ :=
  { s with phase := Function.update s.phase i ph }

@[simp] theorem State.setPhase_db (s : State ι σ) (i : ι) (ph : Phase σ) :
    (s.setPhase i ph).db = s.db := rfl

@[simp] theorem State.setPhase_log (s : State ι σ) (i : ι) (ph : Phase σ) :
    (s.setPhase i ph).log = s.log := rfl

@[simp] theorem State.setPhase_phase (s : State ι σ) (i : ι) (ph : Phase σ) :
    (s.setPhase i ph).phase = Function.update s.phase i ph := rfl

/-- The state after client `i` committed the write `d`. -/
def State.commitWrite (s : State ι σ) (i : ι) (d : σ) : State ι σ where
  db := d
  phase := Function.update s.phase i .wrote
  log := s.log ++ [(i, d)]

@[simp] theorem State.commitWrite_db (s : State ι σ) (i : ι) (d : σ) :
    (s.commitWrite i d).db = d := rfl

@[simp] theorem State.commitWrite_phase (s : State ι σ) (i : ι) (d : σ) :
    (s.commitWrite i d).phase = Function.update s.phase i .wrote := rfl

@[simp] theorem State.commitWrite_log (s : State ι σ) (i : ι) (d : σ) :
    (s.commitWrite i d).log = s.log ++ [(i, d)] := rfl

/-- The client returned without error. -/
def State.Returned (s : State ι σ) (i : ι) : Prop :=
  s.phase i = .wrote ∨ ∃ v, s.phase i = .readOnly v

/-- The writes serialized after client `i`'s transaction: those after its own write, or after
the snapshot it committed on without writing. -/
def State.after (s : State ι σ) (i : ι) : List (ι × σ) :=
  match s.phase i with
  | .wrote => (s.log.dropWhile (fun p => p.1 ≠ i)).drop 1
  | .readOnly v => s.log.drop v
  | _ => []

end Phase

/-- One client takes one step. -/
inductive Step [DecidableEq ι] : State ι σ → State ι σ → Prop
  | begin {s : State ι σ} {i : ι} {a : Nat} (h : s.phase i = .waiting a) :
      Step s (s.setPhase i (.running a s.db s.log.length))
  | abort {s : State ι σ} {i : ι} {a : Nat} {snap : σ} {v : Nat} {e : ε}
      (h : s.phase i = .running a snap v) (he : txn i snap = .error e) :
      Step s (s.setPhase i .failed)
  | readOnly {s : State ι σ} {i : ι} {a : Nat} {snap : σ} {v : Nat}
      (h : s.phase i = .running a snap v) (hn : txn i snap = .ok none) :
      Step s (s.setPhase i (.readOnly v))
  | commit {s : State ι σ} {i : ι} {a : Nat} {snap d : σ}
      (h : s.phase i = .running a snap s.log.length) (hw : txn i snap = .ok (some d)) :
      Step s (s.commitWrite i d)
  | collide {s : State ι σ} {i : ι} {a : Nat} {snap d : σ} {v : Nat}
      (h : s.phase i = .running a snap v) (hw : txn i snap = .ok (some d))
      (hv : v ≠ s.log.length) :
      Step s (s.setPhase i (afterCollision maxAttempts a i))

/-- `log` is a serial execution from `d` to `e`: each write was computed from the state the
writes before it left. -/
def Serial : σ → List (ι × σ) → σ → Prop
  | d, [], e => d = e
  | d, (i, d') :: log, e => txn i d = .ok (some d') ∧ Serial d' log e

section Serial

variable {txn}

theorem serial_append {d e : σ} {l₁ l₂ : List (ι × σ)} :
    Serial txn d (l₁ ++ l₂) e ↔ ∃ m, Serial txn d l₁ m ∧ Serial txn m l₂ e := by
  induction l₁ generalizing d with
  | nil => simp [Serial]
  | cons p l₁ ih =>
      obtain ⟨i, d'⟩ := p
      simp only [List.cons_append, Serial, ih]
      constructor
      · rintro ⟨hw, m, h₁, h₂⟩
        exact ⟨m, ⟨hw, h₁⟩, h₂⟩
      · rintro ⟨m, ⟨hw, h₁⟩, h₂⟩
        exact ⟨hw, m, h₁, h₂⟩

/-- A log determines where its serial execution ends. -/
theorem Serial.unique {d e e' : σ} {log : List (ι × σ)} (h : Serial txn d log e)
    (h' : Serial txn d log e') : e = e' := by
  induction log generalizing d with
  | nil => exact h.symm.trans h'
  | cons p log ih => exact ih h.2 h'.2

theorem Serial.snoc {d e d' : σ} {log : List (ι × σ)} {i : ι} (h : Serial txn d log e)
    (hw : txn i e = .ok (some d')) : Serial txn d (log ++ [(i, d')]) d' :=
  serial_append.2 ⟨e, h, hw, rfl⟩

/-- A property that the logged writes keep holds after them. -/
theorem Serial.stable {P : σ → Prop} {d e : σ} {log : List (ι × σ)} (h : Serial txn d log e)
    (hP : ∀ p ∈ log, ∀ c, P c → txn p.1 c = .ok (some p.2) → P p.2) (hd : P d) : P e := by
  induction log generalizing d with
  | nil => exact h ▸ hd
  | cons p log ih =>
      obtain ⟨hw, h⟩ := h
      exact ih h (fun q hq => hP q (List.mem_cons_of_mem _ hq)) (hP p List.mem_cons_self d hd hw)

/-- A column that each client's writes change by its own function `u i` ends as the fold of
those functions over the logged writers. -/
theorem Serial.column {α : Type*} (f : σ → α) (u : ι → α → α)
    (hf : ∀ i x y, txn i x = .ok (some y) → f y = u i (f x)) {c e : σ} {log : List (ι × σ)}
    (h : Serial txn c log e) : f e = (log.map Prod.fst).foldl (fun a i => u i a) (f c) := by
  induction log generalizing c with
  | nil => exact congrArg f h.symm
  | cons p log ih =>
      obtain ⟨hw, h⟩ := h
      rw [ih h, hf p.1 c p.2 hw]
      rfl

/-- A column that only the writers `W` change ends with its first value, or with the value
that the row of one of those writers holds. -/
theorem Serial.last_writer {α : Type*} (f : σ → α) (W : ι → Prop)
    (hf : ∀ i x y, txn i x = .ok (some y) → ¬ W i → f y = f x) {c e : σ}
    {log : List (ι × σ)} (h : Serial txn c log e) :
    f e = f c ∨ ∃ p ∈ log, W p.1 ∧ f e = f p.2 := by
  induction log generalizing c with
  | nil => exact .inl (congrArg f h.symm)
  | cons p log ih =>
      obtain ⟨hw, h⟩ := h
      rcases ih h with he | ⟨q, hq, hW, he⟩
      · -- the column is the one `p` wrote: `p` set it, or it is still the first one
        by_cases hp : W p.1
        · exact .inr ⟨p, List.mem_cons_self, hp, he⟩
        · exact .inl (he.trans (hf p.1 c p.2 hw hp))
      · exact .inr ⟨q, List.mem_cons_of_mem _ hq, hW, he⟩

end Serial

/-- A column that each writer sets to its own value or leaves alone ends with its first value,
or with the value one of the writers set. -/
theorem foldl_getD_eq_or {α : Type*} (g : ι → Option α) (l : List ι) (a : α) :
    l.foldl (fun a i => (g i).getD a) a = a ∨
      ∃ i ∈ l, g i = some (l.foldl (fun a i => (g i).getD a) a) := by
  induction l generalizing a with
  | nil => exact .inl rfl
  | cons j l ih =>
      rw [List.foldl_cons]
      rcases ih ((g j).getD a) with h | ⟨i, hi, h⟩
      · cases hg : g j with
        | none =>
            left
            rw [hg] at h
            exact h
        | some b =>
            right
            rw [hg] at h
            exact ⟨j, List.mem_cons_self, by rw [hg, h]; rfl⟩
      · exact .inr ⟨i, List.mem_cons_of_mem _ hi, h⟩

/-- The invariant of the step relation from the initial state `d₀`. -/
structure Consistent (d₀ : σ) (s : State ι σ) : Prop where
  /-- The committed writes form a serial execution. -/
  serial : Serial txn d₀ s.log s.db
  /-- A snapshot is the state after a prefix of the log. -/
  running : ∀ i a snap v, s.phase i = .running a snap v →
    v ≤ s.log.length ∧ Serial txn d₀ (s.log.take v) snap
  /-- A read-only commit wrote nothing on the state after a prefix of the log. -/
  readOnly : ∀ i v, s.phase i = .readOnly v → v ≤ s.log.length ∧
    ∃ snap, Serial txn d₀ (s.log.take v) snap ∧ txn i snap = .ok none
  /-- A client has a logged write exactly when it committed one. -/
  logged : ∀ i, s.phase i = .wrote ↔ i ∈ s.log.map Prod.fst
  /-- Each client wrote at most once. -/
  nodup : (s.log.map Prod.fst).Nodup

theorem consistent_init (d₀ : σ) : Consistent txn d₀ (init d₀ : State ι σ) where
  serial := rfl
  running _ _ _ _ h := by cases h
  readOnly _ _ h := by cases h
  logged _ := by simp [init]
  nodup := List.nodup_nil

section Consistent

variable {txn maxAttempts} {d₀ : σ}

/-- A client that did not commit a write has no logged write. -/
theorem Consistent.not_logged {s : State ι σ} (hs : Consistent txn d₀ s) {i : ι}
    (hi : s.phase i ≠ .wrote) : i ∉ s.log.map Prod.fst :=
  fun h => hi ((hs.logged i).2 h)

variable [DecidableEq ι]

/-- A step that changes only the phase of a client that has no logged write keeps the
invariant, if the new phase is not a write and its snapshot, if it has one, is right. -/
theorem Consistent.update_phase {s : State ι σ} (hs : Consistent txn d₀ s) {i : ι}
    (hi : s.phase i ≠ .wrote) {ph : Phase σ} (hph : ph ≠ .wrote)
    (hrun : ∀ a snap v, ph = .running a snap v →
      v ≤ s.log.length ∧ Serial txn d₀ (s.log.take v) snap)
    (hro : ∀ v, ph = .readOnly v → v ≤ s.log.length ∧
      ∃ snap, Serial txn d₀ (s.log.take v) snap ∧ txn i snap = .ok none) :
    Consistent txn d₀ (s.setPhase i ph) where
  serial := hs.serial
  running j a snap v hj := by
    by_cases hji : j = i
    · subst hji
      rw [State.setPhase_phase, Function.update_self] at hj
      exact hrun a snap v hj
    · rw [State.setPhase_phase, Function.update_of_ne hji] at hj
      exact hs.running j a snap v hj
  readOnly j v hj := by
    by_cases hji : j = i
    · subst hji
      rw [State.setPhase_phase, Function.update_self] at hj
      exact hro v hj
    · rw [State.setPhase_phase, Function.update_of_ne hji] at hj
      exact hs.readOnly j v hj
  logged j := by
    by_cases hji : j = i
    · subst hji
      rw [State.setPhase_phase, Function.update_self]
      exact ⟨fun hc => absurd hc hph, fun hl => absurd hl (hs.not_logged hi)⟩
    · rw [State.setPhase_phase, Function.update_of_ne hji]
      exact hs.logged j
  nodup := hs.nodup

/-- A commit keeps the invariant: the snapshot it wrote from is the committed state, since no
write committed after it was taken, and the other snapshots are of prefixes of the old log. -/
theorem Consistent.commit {s : State ι σ} (hs : Consistent txn d₀ s) {i : ι} {a : Nat}
    {snap d : σ} (h : s.phase i = .running a snap s.log.length)
    (hw : txn i snap = .ok (some d)) : Consistent txn d₀ (s.commitWrite i d) := by
  have hsnap : snap = s.db := by
    have hpre := (hs.running i a snap _ h).2
    rw [List.take_length] at hpre
    exact hpre.unique hs.serial
  have hi : i ∉ s.log.map Prod.fst := hs.not_logged (by rw [h]; exact nofun)
  -- a prefix of the old log is a prefix of the new one
  have htake : ∀ v, v ≤ s.log.length → (s.log ++ [(i, d)]).take v = s.log.take v :=
    fun v hv => List.take_append_of_le_length hv
  refine ⟨hs.serial.snoc (hsnap ▸ hw), ?_, ?_, ?_, ?_⟩
  · intro j a' snap' v hj
    by_cases hji : j = i
    · subst hji
      rw [State.commitWrite_phase, Function.update_self] at hj
      cases hj
    · rw [State.commitWrite_phase, Function.update_of_ne hji] at hj
      obtain ⟨hv, hpre⟩ := hs.running j a' snap' v hj
      refine ⟨by simp; omega, ?_⟩
      rw [State.commitWrite_log, htake v hv]
      exact hpre
  · intro j v hj
    by_cases hji : j = i
    · subst hji
      rw [State.commitWrite_phase, Function.update_self] at hj
      cases hj
    · rw [State.commitWrite_phase, Function.update_of_ne hji] at hj
      obtain ⟨hv, hro⟩ := hs.readOnly j v hj
      refine ⟨by simp; omega, ?_⟩
      rw [State.commitWrite_log, htake v hv]
      exact hro
  · intro j
    by_cases hji : j = i
    · subst hji
      simp
    · rw [State.commitWrite_phase, Function.update_of_ne hji, hs.logged j]
      simp [hji]
  · rw [State.commitWrite_log, List.map_append, List.nodup_append]
    exact ⟨hs.nodup, List.nodup_singleton i, fun j hj k hk => by
      rw [List.mem_singleton.1 hk]; rintro rfl; exact hi hj⟩

/-- Every step keeps the invariant. -/
theorem Consistent.step {s s' : State ι σ} (hs : Consistent txn d₀ s)
    (h : Step txn maxAttempts s s') : Consistent txn d₀ s' := by
  cases h with
  | begin h =>
      refine hs.update_phase (by rw [h]; exact nofun) nofun ?_ (fun _ h => nomatch h)
      rintro a snap v ⟨⟩
      rw [List.take_length]
      exact ⟨Nat.le_refl _, hs.serial⟩
  | abort h =>
      exact hs.update_phase (by rw [h]; exact nofun) nofun (fun _ _ _ h => nomatch h)
        (fun _ h => nomatch h)
  | @readOnly i a snap v h hn =>
      refine hs.update_phase (by rw [h]; exact nofun) nofun (fun _ _ _ h => nomatch h) ?_
      rintro v ⟨⟩
      obtain ⟨hv, hpre⟩ := hs.running i a snap v h
      exact ⟨hv, snap, hpre, hn⟩
  | commit h hw => exact hs.commit h hw
  | @collide i a snap d v h =>
      -- a collision sends the client back to waiting, or makes it give up
      refine hs.update_phase (by rw [h]; exact nofun) ?_ ?_ ?_ <;>
        unfold afterCollision <;> split_ifs <;> simp

theorem consistent_invariant (d₀ : σ) :
    Invariant (Step txn maxAttempts) (Consistent txn d₀ (ι := ι)) :=
  fun _ _ hs h => hs.step h

theorem consistent_of_reachable {s : State ι σ}
    (h : Reachable (Step txn maxAttempts) (init d₀) s) : Consistent txn d₀ s :=
  (consistent_invariant d₀).reachable (consistent_init txn d₀) h

/-- **Serializability.**  In every reachable state the committed writes, in commit order, are a
serial execution that ends in the committed state. -/
theorem serial_of_reachable {s : State ι σ} (h : Reachable (Step txn maxAttempts) (init d₀) s) :
    Serial txn d₀ s.log s.db :=
  (consistent_of_reachable h).serial

/-- Steps only append to the log. -/
theorem Step.log_append {s s' : State ι σ} (h : Step txn maxAttempts s s') :
    ∃ l, s'.log = s.log ++ l := by
  cases h with
  | commit => exact ⟨_, rfl⟩
  | _ => exact ⟨[], (List.append_nil _).symm⟩

theorem log_append_of_reflTransGen {s s' : State ι σ}
    (h : ReflTransGen (Step txn maxAttempts) s s') : ∃ l, s'.log = s.log ++ l := by
  induction h with
  | refl => exact ⟨[], (List.append_nil _).symm⟩
  | tail _ hstep ih =>
      obtain ⟨l, hl⟩ := ih
      obtain ⟨l', hl'⟩ := hstep.log_append
      exact ⟨l ++ l', by rw [hl', hl, List.append_assoc]⟩

/-- A property that every write keeps holds along every run from a consistent state. -/
theorem Consistent.stable {s s' : State ι σ} (hs : Consistent txn d₀ s)
    (h : ReflTransGen (Step txn maxAttempts) s s') {P : σ → Prop}
    (hP : ∀ i x y, P x → txn i x = .ok (some y) → P y) (hd : P s.db) : P s'.db := by
  have hs' : Consistent txn d₀ s' := (consistent_invariant d₀).reflTransGen h hs
  obtain ⟨l, hl⟩ := log_append_of_reflTransGen h
  have hser := hs'.serial
  rw [hl, serial_append] at hser
  obtain ⟨m, hm, hrest⟩ := hser
  -- the serial execution of the old log ends where the old state is
  rw [← hm.unique hs.serial] at hd
  exact hrest.stable (fun p _ c hc hw => hP p.1 c p.2 hc hw) hd

theorem dropWhile_ne_append {i : ι} {c : σ} {l₁ l₂ : List (ι × σ)} (hi : i ∉ l₁.map Prod.fst) :
    (l₁ ++ (i, c) :: l₂).dropWhile (fun p => p.1 ≠ i) = (i, c) :: l₂ := by
  induction l₁ with
  | nil => simp
  | cons p l₁ ih =>
      have hp : p.1 ≠ i := fun h => hi (h ▸ List.mem_map_of_mem List.mem_cons_self)
      rw [List.cons_append, List.dropWhile_cons_of_pos (by simpa using hp)]
      exact ih (fun h => hi (List.mem_cons_of_mem _ h))

/-- The writes after a client's logged write, found by its name. -/
theorem after_of_log {s : State ι σ} {i : ι} {c : σ} {l₁ l₂ : List (ι × σ)}
    (hw : s.phase i = .wrote) (hlog : s.log = l₁ ++ (i, c) :: l₂) (hi : i ∉ l₁.map Prod.fst) :
    s.after i = l₂ := by
  unfold State.after
  rw [hw, hlog, dropWhile_ne_append hi]
  rfl

/-- **Where a returned transaction sits.**  A client that returned without error left some
state `c` of a snapshot `b`, and the writes serialized after it lead from `c` to the
committed state. -/
theorem Consistent.returned {s : State ι σ} (hs : Consistent txn d₀ s) {i : ι}
    (hi : s.Returned i) : ∃ b c, Leaves (txn i) b c ∧ Serial txn c (s.after i) s.db := by
  rcases hi with hw | ⟨v, hro⟩
  · -- a write: the entry of `i` splits the log
    obtain ⟨⟨j, c⟩, hmem, rfl⟩ := List.mem_map.1 ((hs.logged i).1 hw)
    obtain ⟨l₁, l₂, hlog⟩ := List.append_of_mem hmem
    have hnd := hs.nodup
    rw [hlog, List.map_append, List.map_cons, List.nodup_append] at hnd
    have hj : j ∉ l₁.map Prod.fst := fun h => hnd.2.2 j h j List.mem_cons_self rfl
    have hser := hs.serial
    rw [hlog, serial_append] at hser
    obtain ⟨b, -, hwrite, hrest⟩ := hser
    exact ⟨b, c, .inl hwrite, after_of_log hw hlog hj ▸ hrest⟩
  · -- a read-only commit: its snapshot splits the log
    obtain ⟨-, snap, hpre, hn⟩ := hs.readOnly i v hro
    have hser := hs.serial
    rw [← List.take_append_drop v s.log, serial_append] at hser
    obtain ⟨m, hm, hrest⟩ := hser
    have hafter : s.after i = s.log.drop v := by
      unfold State.after
      rw [hro]
    rw [hm.unique hpre] at hrest
    exact ⟨snap, snap, .inr ⟨hn, rfl⟩, hafter ▸ hrest⟩

end Consistent

end Snapshot
