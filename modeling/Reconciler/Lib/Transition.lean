import Mathlib.Logic.Relation

/-!
# Invariants of transition systems

A system is a step relation on its states; a run is a chain of steps, `ReflTransGen step`.
`Invariant step I` says that every step keeps `I`, and then `I` holds along every run from a
state where it holds.  A property that steps keep only from states with an invariant is
carried along runs together with that invariant (`Invariant.and`).  A run ends in a `Halted`
state, and steps that lower a measure allow no infinite run (`wellFounded_of_measure`), so every
state then reaches a halted one (`exists_halted`).

A loop of the modelled code is a `List.foldl`; two loop rules carry facts through one: a loop
whose iterations are runs is a run (`reflTransGen_foldl`), and an invariant over the elements
processed so far holds at the end (`foldl_prefix_invariant`).
-/

namespace Transition

open Relation

variable {σ : Type*} {step : σ → σ → Prop}

/-- Every step keeps `I`. -/
def Invariant (step : σ → σ → Prop) (I : σ → Prop) : Prop :=
  ∀ ⦃s s' : σ⦄, I s → step s s' → I s'

/-- The states some run from `init` reaches. -/
def Reachable (step : σ → σ → Prop) (init : σ) (s : σ) : Prop :=
  ReflTransGen step init s

/-- An invariant holds along every run that starts where it holds. -/
theorem Invariant.reflTransGen {I : σ → Prop} (hI : Invariant step I) {s s' : σ}
    (h : ReflTransGen step s s') (hs : I s) : I s' := by
  induction h with
  | refl => exact hs
  | tail _ hstep ih => exact hI ih hstep

/-- An invariant that holds initially holds in every reachable state. -/
theorem Invariant.reachable {I : σ → Prop} (hI : Invariant step I) {init s : σ}
    (hinit : I init) (h : Reachable step init s) : I s :=
  hI.reflTransGen h hinit

/-- A property kept by the steps from states with the invariant `I` is, together with `I`,
an invariant. -/
theorem Invariant.and {I J : σ → Prop} (hI : Invariant step I)
    (hJ : ∀ ⦃s s' : σ⦄, I s → J s → step s s' → J s') :
    Invariant step (fun s => I s ∧ J s) :=
  fun _ _ hs hstep => ⟨hI hs.1 hstep, hJ hs.1 hs.2 hstep⟩

/-- A state reached from a reachable state is reachable. -/
theorem Reachable.trans {init s s' : σ} (h : Reachable step init s) (h' : ReflTransGen step s s') :
    Reachable step init s' :=
  ReflTransGen.trans h h'

/-- A state that no step leaves: where a maximal run ends. -/
def Halted (step : σ → σ → Prop) (s : σ) : Prop :=
  ∀ s', ¬ step s s'

/-- Steps that lower a measure allow no infinite run. -/
theorem wellFounded_of_measure (μ : σ → Nat) (h : ∀ ⦃s s' : σ⦄, step s s' → μ s' < μ s) :
    WellFounded (fun s' s => step s s') :=
  Subrelation.wf (fun hstep => h hstep) (measure μ).wf

/-- Without infinite runs, every state reaches a halted one. -/
theorem exists_halted (hwf : WellFounded (fun s' s => step s s')) (s : σ) :
    ∃ s', ReflTransGen step s s' ∧ Halted step s' := by
  induction s using hwf.induction with
  | _ s ih =>
    by_cases hs : Halted step s
    · exact ⟨s, ReflTransGen.refl, hs⟩
    · -- a step leaves `s`, and the state it leads to reaches a halted one
      obtain ⟨s₁, hstep⟩ : ∃ s₁, step s s₁ := by
        simpa [Halted] using hs
      obtain ⟨s', hrun, hhalt⟩ := ih s₁ hstep
      exact ⟨s', ReflTransGen.head hstep hrun, hhalt⟩

/-! ## Loops -/

section Loops

variable {ρ α : Type*}

/-- **Loop rule for runs.** A loop over `l` that changes one part `ρ` of the state, which
`view` puts back into the whole state, is a run when each of its iterations is a run from every
state with the invariant `I`. -/
theorem reflTransGen_foldl (I : σ → Prop) (hI : Invariant step I) (view : ρ → σ)
    (g : ρ → α → ρ) (l : List α)
    (hg : ∀ a ∈ l, ∀ r, I (view r) → ReflTransGen step (view r) (view (g r a)))
    {r : ρ} (hr : I (view r)) : ReflTransGen step (view r) (view (l.foldl g r)) := by
  induction l generalizing r with
  | nil => exact ReflTransGen.refl
  | cons a l ih =>
    -- the first iteration is a run, and the state it ends in still has the invariant
    have hfirst := hg a List.mem_cons_self r hr
    exact hfirst.trans
      (ih (fun b hb => hg b (List.mem_cons_of_mem a hb)) (hI.reflTransGen hfirst hr))

/-- **Loop rule over the processed prefix.** An invariant of the elements done so far and the
loop's state, kept by each iteration on an element of `l`, holds of all of `l` at the end. -/
theorem foldl_prefix_invariant (P : List α → ρ → Prop) (g : ρ → α → ρ) (l : List α)
    (hstep : ∀ done a r, a ∈ l → P done r → P (done ++ [a]) (g r a)) {r : ρ} (h0 : P [] r) :
    P l (l.foldl g r) := by
  -- the loop from any point on, with the elements before it done
  suffices h : ∀ rest done r, (∀ a ∈ rest, a ∈ l) → P done r → P (done ++ rest) (rest.foldl g r) by
    simpa using h l [] r (fun _ ha => ha) h0
  intro rest
  induction rest with
  | nil => simp
  | cons a rest ih =>
    intro done r hsub hdone
    have hnext := hstep done a r (hsub a List.mem_cons_self) hdone
    simpa using ih (done ++ [a]) (g r a) (fun b hb => hsub b (List.mem_cons_of_mem a hb)) hnext

end Loops

end Transition
