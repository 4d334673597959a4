import Mathlib.Logic.Function.Basic
import Mathlib.Logic.Relation

/-!
# Transactions that read a snapshot and write at commit

Each client runs one transaction.  When it begins it reads a snapshot of the shared state and
decides its writes, as a function from the state the writes meet to the state they leave.
When it commits, the writes are applied to the state as it is then: they may fail there, and
the transaction is then rolled back.  Nothing makes two such transactions collide.  This is
`REPEATABLE READ` for transactions whose writes are inserts, which concurrent transactions
never see nor block: what a transaction decided from its snapshot is written however the
state changed since.

`Step.begin_commit` runs one client alone; `Step.interleave` runs a client around a run of
the others, which is how a stale snapshot reaches the state.
-/

namespace SnapshotWrites

open Relation

/-- Where one client's transaction is. -/
inductive Phase (σ : Type*)
  | idle
  /-- began on the snapshot `snap` -/
  | running (snap : σ)
  | committed
  | failed

/-- The committed state and the clients. -/
structure State (ι σ : Type*) where
  db : σ
  phase : ι → Phase σ

variable {ι σ ε : Type*} [DecidableEq ι]

/-- Every client idle. -/
def init (db : σ) : State ι σ :=
  { db := db, phase := fun _ => .idle }

/-- The state with client `i` moved to phase `ph`. -/
def State.setPhase (s : State ι σ) (i : ι) (ph : Phase σ) : State ι σ :=
  { s with phase := Function.update s.phase i ph }

@[simp] theorem State.setPhase_db (s : State ι σ) (i : ι) (ph : Phase σ) :
    (s.setPhase i ph).db = s.db := rfl

@[simp] theorem State.setPhase_phase (s : State ι σ) (i : ι) (ph : Phase σ) :
    (s.setPhase i ph).phase = Function.update s.phase i ph := rfl

variable (txn : ι → σ → Except ε (σ → Except ε σ))

/-- Client `i` takes one step. -/
inductive StepAt : ι → State ι σ → State ι σ → Prop
  | begin {s : State ι σ} {i : ι} (h : s.phase i = .idle) :
      StepAt i s (s.setPhase i (.running s.db))
  | abort {s : State ι σ} {i : ι} {snap : σ} {e : ε} (h : s.phase i = .running snap)
      (he : txn i snap = .error e) :
      StepAt i s (s.setPhase i .failed)
  | commit {s : State ι σ} {i : ι} {snap d : σ} {w : σ → Except ε σ}
      (h : s.phase i = .running snap) (hw : txn i snap = .ok w) (hd : w s.db = .ok d) :
      StepAt i s { db := d, phase := Function.update s.phase i .committed }
  | rollback {s : State ι σ} {i : ι} {snap : σ} {w : σ → Except ε σ} {e : ε}
      (h : s.phase i = .running snap) (hw : txn i snap = .ok w) (he : w s.db = .error e) :
      StepAt i s (s.setPhase i .failed)

/-- Some client takes one step. -/
def Step (s s' : State ι σ) : Prop :=
  ∃ i, StepAt txn i s s'

variable {txn}

/-- A step of one client leaves the phase of every other alone. -/
theorem StepAt.phase_of_ne {s s' : State ι σ} {i j : ι} (h : StepAt txn j s s') (hij : i ≠ j) :
    s'.phase i = s.phase i := by
  cases h <;> simp [Function.update_of_ne hij]

/-- A client that runs alone, beginning and committing at once, applies the writes it decided
on the state they meet. -/
theorem Step.begin_commit {s : State ι σ} {i : ι} {w : σ → Except ε σ} {d : σ}
    (h : s.phase i = .idle) (hw : txn i s.db = .ok w) (hd : w s.db = .ok d) :
    ReflTransGen (Step txn) s { db := d, phase := Function.update s.phase i .committed } := by
  have hbegin : StepAt txn i s (s.setPhase i (.running s.db)) := .begin h
  have hcommit : StepAt txn i (s.setPhase i (.running s.db))
      { db := d, phase := Function.update (s.setPhase i (.running s.db)).phase i .committed } :=
    .commit (by simp) hw hd
  have hphase : Function.update (s.setPhase i (.running s.db)).phase i .committed =
      Function.update s.phase i .committed := by
    simp
  exact .tail (.single ⟨i, hbegin⟩) ⟨i, hphase ▸ hcommit⟩

/-- **A stale snapshot.**  A client begins, the others run, and the client commits the writes
it decided on the state it began on, applied to the state the others left. -/
theorem Step.interleave {s s₁ : State ι σ} {i : ι} {w : σ → Except ε σ} {d : σ}
    (h : s.phase i = .idle) (hw : txn i s.db = .ok w)
    (hrun : ReflTransGen (Step txn) (s.setPhase i (.running s.db)) s₁)
    (hi : s₁.phase i = .running s.db) (hd : w s₁.db = .ok d) :
    ReflTransGen (Step txn) s { db := d, phase := Function.update s₁.phase i .committed } :=
  .tail (.head ⟨i, .begin h⟩ hrun) ⟨i, .commit hi hw hd⟩

end SnapshotWrites
