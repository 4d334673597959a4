import Reconciler.Scheduler.Mothership

/-!
# Priority-ordered execution

Over every run of the mothership, an operation is invoked, or leaves `New`, only when every
operation of an earlier priority group of its reconciliation is `Done`; and a `Done` or `Error`
operation keeps its state for good.

`Ordered` is the invariant.  Besides the ordering itself it says that the worker pool's copies
were handed out by `findProcessableOperations` and so had their earlier groups `Done`, which
stays true because a `Done` operation stays `Done`, and that every scheduling ID in use was
drawn, so that a new reconciliation does not mix with an old one.  Every action keeps it
(`Ordered.step`), from one lemma per kind of write: one operation rewritten (`Ordered.put`),
operations forgotten (`Ordered.shrink`), a reconciliation created (`Ordered.create`).

`KeyEffect` says what a step can do to the operation stored under one key; from it, `Kept`
carries a property of that operation's state along a run.
-/

namespace Reconciler

open OperationState KeyValue Transition Relation InMemoryReconciliationRepository

namespace Mothership

variable {σ σ' : Mothership}

/-- Every group of `op`'s reconciliation that runs before `op`'s own is `Done`. -/
def Cleared (σ : Mothership) (op : OperationEntity) : Prop :=
  EarlierDone σ.repo.allOperations op.schedulingID op.type op.priority

theorem cleared_congr {x y : OperationEntity} (hs : x.schedulingID = y.schedulingID)
    (ht : x.type = y.type) (hp : x.priority = y.priority) : Cleared σ x ↔ Cleared σ y := by
  unfold Cleared
  rw [hs, ht, hp]

/-- What holds in every state the mothership reaches. -/
structure Ordered (σ : Mothership) : Prop where
  /-- An operation is stored under its own IDs. -/
  stored_key : ∀ k op, σ.repo.operations.lookup k = some op → op.key = k
  /-- The operations of one reconciliation share their type. -/
  typed : TypeConsistent σ.repo.allOperations
  /-- The scheduling IDs in use were drawn. -/
  drawn : ∀ op ∈ σ.repo.allOperations, op.schedulingID ∈ σ.schedulingIDs
  pending_drawn : ∀ op ∈ σ.pending, op.schedulingID ∈ σ.schedulingIDs
  invoked_drawn : ∀ k ∈ σ.invoked, k.1 ∈ σ.schedulingIDs
  /-- An operation that was invoked or is not `New` has its earlier groups `Done`. -/
  started : ∀ op ∈ σ.repo.allOperations, (op.key ∈ σ.invoked ∨ op.state ≠ new) → Cleared σ op
  /-- So has every operation the worker pool holds a copy of, ... -/
  pending_cleared : ∀ op ∈ σ.pending, Cleared σ op
  /-- ... and the stored operation has the copy's priority and type. -/
  pending_copy : ∀ op ∈ σ.pending, ∀ cur, σ.repo.operations.lookup op.key = some cur →
    cur.priority = op.priority ∧ cur.type = op.type

theorem init_ordered : Ordered init where
  stored_key _ _ h := by simp [init, InMemoryReconciliationRepository.empty] at h
  typed _ h := by cases h
  drawn _ h := by cases h
  pending_drawn _ h := by cases h
  invoked_drawn _ h := by cases h
  started _ h := by cases h
  pending_cleared _ h := by cases h
  pending_copy _ h := by cases h

/-! ## Reading the invariant -/

section Reading

variable (hσ : Ordered σ)
include hσ

theorem Ordered.lookup_self {op : OperationEntity} (h : op ∈ σ.repo.allOperations) :
    σ.repo.operations.lookup op.key = some op := by
  obtain ⟨k, hk⟩ := mem_values.1 h
  rw [hσ.stored_key k op hk]
  exact hk

/-- The stored operation behind a copy the worker pool holds had its earlier groups `Done`. -/
theorem Ordered.cleared_of_pending {op o : OperationEntity} (hop : op ∈ σ.pending)
    (hk : σ.repo.operations.lookup op.key = some o) : Cleared σ o := by
  obtain ⟨hprio, htype⟩ := hσ.pending_copy op hop o hk
  have hsid : o.schedulingID = op.schedulingID := congrArg Prod.fst (hσ.stored_key _ o hk)
  rw [cleared_congr hsid htype hprio]
  exact hσ.pending_cleared op hop

theorem Ordered.cleared_of_invoked {k : String × String} {o : OperationEntity}
    (hk : k ∈ σ.invoked) (hlook : σ.repo.operations.lookup k = some o) : Cleared σ o := by
  have hkey := hσ.stored_key k o hlook
  exact hσ.started o (mem_values.2 ⟨k, hlook⟩) (.inl (hkey ▸ hk))

end Reading

/-! ## The kinds of writes -/

/-- A write of one operation that keeps its IDs, priority and type keeps the invariant, when a
`Done` operation stays `Done` and the written operation, unless `New`, had its earlier groups
`Done`. -/
theorem Ordered.put (hσ : Ordered σ) {k : String × String} {o o' : OperationEntity}
    (hk : σ.repo.operations.lookup k = some o) (hkey : o'.key = o.key)
    (hprio : o'.priority = o.priority) (htype : o'.type = o.type)
    (hdone : o.state = done → o'.state = done) (hstart : o'.state ≠ new → Cleared σ o) :
    Ordered { σ with repo := σ.repo.putOperation k.1 k.2 o' } := by
  have hko : o.key = k := hσ.stored_key k o hk
  have ho : o ∈ σ.repo.allOperations := mem_values.2 ⟨k, hk⟩
  have hsid : o'.schedulingID = o.schedulingID := congrArg Prod.fst hkey
  -- after the write: `o'`, and the operations stored under other keys
  have hmem : ∀ x ∈ (σ.repo.putOperation k.1 k.2 o').allOperations,
      x = o' ∨ x ∈ σ.repo.allOperations := by
    intro x hx
    rcases mem_values_insert.1 hx with rfl | ⟨k', -, hk'⟩
    · exact .inl rfl
    · exact .inr (mem_values.2 ⟨k', hk'⟩)
  -- what had its earlier groups `Done` still has, since `Done` stays `Done`
  have hclear : ∀ x, Cleared σ x → Cleared { σ with repo := σ.repo.putOperation k.1 k.2 o' } x := by
    intro x hx
    refine EarlierDone.mono hx fun y hy hys => ?_
    rcases hmem y hy with rfl | hy
    · exact ⟨o, ho, hsid ▸ hys, hprio.symm, hdone⟩
    · exact ⟨y, hy, hys, rfl, id⟩
  constructor
  · intro k' x hx
    rw [lookup_putOperation] at hx
    split_ifs at hx with hk'
    · cases hx
      rw [hkey, hko, hk']
    · exact hσ.stored_key k' x hx
  · intro x hx y hy hxy
    rcases hmem x hx with rfl | hx' <;> rcases hmem y hy with rfl | hy'
    · rfl
    · rw [htype]
      exact hσ.typed o ho y hy' (hsid ▸ hxy)
    · rw [htype]
      exact hσ.typed x hx' o ho (hxy.trans hsid)
    · exact hσ.typed x hx' y hy' hxy
  · intro x hx
    rcases hmem x hx with rfl | hx'
    · rw [hsid]
      exact hσ.drawn o ho
    · exact hσ.drawn x hx'
  · exact hσ.pending_drawn
  · exact hσ.invoked_drawn
  · intro x hx hst
    apply hclear
    rcases hmem x hx with rfl | hx'
    · rw [cleared_congr hsid htype hprio]
      rcases hst with hinv | hnew
      · exact hσ.started o ho (.inl (hkey ▸ hinv))
      · exact hstart hnew
    · exact hσ.started x hx' hst
  · exact fun p hp => hclear p (hσ.pending_cleared p hp)
  · intro p hp cur hcur
    rw [lookup_putOperation] at hcur
    split_ifs at hcur with hpk
    · cases hcur
      rw [hprio, htype]
      exact hσ.pending_copy p hp o (by rw [hpk]; exact hk)
    · exact hσ.pending_copy p hp cur hcur

/-- A write that keeps the state of the operation. -/
theorem Ordered.put_same_state (hσ : Ordered σ) {k : String × String} {o o' : OperationEntity}
    (hk : σ.repo.operations.lookup k = some o) (hkey : o'.key = o.key)
    (hprio : o'.priority = o.priority) (htype : o'.type = o.type) (hstate : o'.state = o.state) :
    Ordered { σ with repo := σ.repo.putOperation k.1 k.2 o' } :=
  hσ.put hk hkey hprio htype (fun h => hstate ▸ h)
    fun h => hσ.started o (mem_values.2 ⟨k, hk⟩) (.inr (hstate ▸ h))

/-- Forgetting operations keeps the invariant. -/
theorem Ordered.shrink (hσ : Ordered σ) {r' : InMemoryReconciliationRepository}
    (hsub : ∀ k op, r'.operations.lookup k = some op → σ.repo.operations.lookup k = some op) :
    Ordered { σ with repo := r' } := by
  have hmem : ∀ x ∈ r'.allOperations, x ∈ σ.repo.allOperations := by
    intro x hx
    obtain ⟨k, hk⟩ := mem_values.1 hx
    exact mem_values.2 ⟨k, hsub k x hk⟩
  have hclear : ∀ x, Cleared σ x → Cleared { σ with repo := r' } x :=
    fun x hx => EarlierDone.mono hx fun y hy hys => ⟨y, hmem y hy, hys, rfl, id⟩
  exact
    { stored_key := fun k x hx => hσ.stored_key k x (hsub k x hx)
      typed := fun x hx y hy => hσ.typed x (hmem x hx) y (hmem y hy)
      drawn := fun x hx => hσ.drawn x (hmem x hx)
      pending_drawn := hσ.pending_drawn
      invoked_drawn := hσ.invoked_drawn
      started := fun x hx hst => hclear x (hσ.started x (hmem x hx) hst)
      pending_cleared := fun p hp => hclear p (hσ.pending_cleared p hp)
      pending_copy := fun p hp cur hcur => hσ.pending_copy p hp cur (hsub _ cur hcur) }

/-- A new reconciliation under a scheduling ID not drawn before keeps the invariant: its
operations are `New`, and the old ones belong to other reconciliations. -/
theorem Ordered.create (hσ : Ordered σ) {state : ClusterState} {cfg : ReconciliationSequenceConfig}
    {ids : Nat → String} {now : Nat} {r' : InMemoryReconciliationRepository}
    {recon : ReconciliationEntity} {cleaner' : List Configuration}
    (hok : σ.repo.createReconciliation state cfg σ.cleaner ids now = .ok (r', recon, cleaner'))
    (hfresh : recon.schedulingID ∉ σ.schedulingIDs) :
    Ordered { σ with
      repo := r'
      cleaner := cleaner'
      schedulingIDs := recon.schedulingID :: σ.schedulingIDs } := by
  obtain ⟨-, -, hops⟩ := InMemoryReconciliationRepository.createReconciliation_ok hok
  -- an operation stored after the call is a new one, or was stored before
  have hlookup : ∀ k x, r'.operations.lookup k = some x →
      (x.schedulingID = recon.schedulingID ∧ x.state = new ∧
        x.type = opTypeOf state.status.status ∧ x.key = k) ∨
        σ.repo.operations.lookup k = some x := by
    intro k x hx
    rw [hops] at hx
    rcases lookup_foldl_insert hx with ⟨hx, hkey⟩ | hold
    · obtain ⟨p, c, i, rfl⟩ := mem_queueOperations hx
      exact .inl ⟨rfl, rfl, rfl, hkey⟩
    · exact .inr hold
  have hmem : ∀ x ∈ r'.allOperations, (x.schedulingID = recon.schedulingID ∧ x.state = new ∧
      x.type = opTypeOf state.status.status) ∨ x ∈ σ.repo.allOperations := by
    intro x hx
    obtain ⟨k, hk⟩ := mem_values.1 hx
    rcases hlookup k x hk with ⟨hs, hn, ht, -⟩ | hold
    · exact .inl ⟨hs, hn, ht⟩
    · exact .inr (mem_values.2 ⟨k, hold⟩)
  have hold : ∀ x ∈ σ.repo.allOperations, x.schedulingID ≠ recon.schedulingID :=
    fun x hx h => hfresh (h ▸ hσ.drawn x hx)
  -- an old reconciliation sees none of the new operations
  have hclear : ∀ x, x.schedulingID ∈ σ.schedulingIDs → Cleared σ x →
      Cleared { σ with
        repo := r'
        cleaner := cleaner'
        schedulingIDs := recon.schedulingID :: σ.schedulingIDs } x := by
    intro x hxs hx
    refine EarlierDone.mono hx fun y hy hys => ?_
    rcases hmem y hy with ⟨hs, -, -⟩ | hy'
    · exact absurd (by rw [← hs, hys]; exact hxs) hfresh
    · exact ⟨y, hy', hys, rfl, id⟩
  constructor
  · intro k x hx
    rcases hlookup k x hx with ⟨-, -, -, hkey⟩ | hold
    · exact hkey
    · exact hσ.stored_key k x hold
  · intro x hx y hy hxy
    rcases hmem x hx with ⟨hxs, -, hxt⟩ | hx' <;> rcases hmem y hy with ⟨hys, -, hyt⟩ | hy'
    · rw [hxt, hyt]
    · exact absurd (hxy.symm.trans hxs) (hold y hy')
    · exact absurd (hxy.trans hys) (hold x hx')
    · exact hσ.typed x hx' y hy' hxy
  · intro x hx
    rcases hmem x hx with ⟨hxs, -, -⟩ | hx'
    · rw [hxs]
      exact List.mem_cons_self
    · exact List.mem_cons_of_mem _ (hσ.drawn x hx')
  · exact fun p hp => List.mem_cons_of_mem _ (hσ.pending_drawn p hp)
  · exact fun k hk => List.mem_cons_of_mem _ (hσ.invoked_drawn k hk)
  · intro x hx hst
    rcases hmem x hx with ⟨hxs, hxn, -⟩ | hx'
    · -- a new operation was not invoked: its scheduling ID was not drawn
      rcases hst with hinv | hne
      · exact absurd (hxs ▸ hσ.invoked_drawn _ hinv) hfresh
      · exact absurd hxn hne
    · exact hclear x (hσ.drawn x hx') (hσ.started x hx' hst)
  · exact fun p hp => hclear p (hσ.pending_drawn p hp) (hσ.pending_cleared p hp)
  · intro p hp cur hcur
    rcases hlookup _ cur hcur with ⟨hs, -, -, hkey⟩ | hold
    · have hps : p.schedulingID = recon.schedulingID := (congrArg Prod.fst hkey).symm.trans hs
      exact absurd (hps ▸ hσ.pending_drawn p hp) hfresh
    · exact hσ.pending_copy p hp cur hold

/-! ## The actors keep the invariant -/

/-- The copies the worker pool fetches were handed out by `findProcessableOperations`. -/
theorem Ordered.poll (hσ : Ordered σ) (max : Int) :
    Ordered { σ with pending := σ.pending ++ σ.repo.getProcessableOperations max } := by
  have hnew : ∀ p ∈ σ.repo.getProcessableOperations max,
      p ∈ σ.repo.allOperations ∧ Cleared σ p :=
    fun p hp => earlierDone_of_mem_findProcessableOperations hσ.typed hp
  refine { hσ with pending_drawn := ?_, pending_cleared := ?_, pending_copy := ?_ }
  · intro p hp
    rcases List.mem_append.1 hp with hp | hp
    · exact hσ.pending_drawn p hp
    · exact hσ.drawn p (hnew p hp).1
  · intro p hp
    rcases List.mem_append.1 hp with hp | hp
    · exact hσ.pending_cleared p hp
    · exact (hnew p hp).2
  · intro p hp cur hcur
    rcases List.mem_append.1 hp with hp | hp
    · exact hσ.pending_copy p hp cur hcur
    · -- a fresh copy is the stored operation itself
      rw [hσ.lookup_self (hnew p hp).1] at hcur
      cases hcur
      exact ⟨rfl, rfl⟩

/-- An invoker is called only for a copy the worker pool holds. -/
theorem Ordered.invoke (hσ : Ordered σ) {op : OperationEntity} (hop : op ∈ σ.pending) :
    Ordered { σ with invoked := op.key :: σ.invoked } := by
  refine { hσ with invoked_drawn := ?_, started := ?_ }
  · intro k hk
    rcases List.mem_cons.1 hk with rfl | hk
    · exact hσ.pending_drawn op hop
    · exact hσ.invoked_drawn k hk
  · intro x hx hst
    rcases hst with hinv | hne
    · rcases List.mem_cons.1 hinv with hkey | hinv
      · exact hσ.cleared_of_pending hop (hkey ▸ hσ.lookup_self hx)
      · exact hσ.started x hx (.inl hinv)
    · exact hσ.started x hx (.inr hne)

theorem Ordered.release (hσ : Ordered σ) (op : OperationEntity) :
    Ordered { σ with pending := σ.pending.erase op } :=
  { hσ with
    pending_drawn := fun p hp => hσ.pending_drawn p (List.mem_of_mem_erase hp)
    pending_cleared := fun p hp => hσ.pending_cleared p (List.mem_of_mem_erase hp)
    pending_copy := fun p hp => hσ.pending_copy p (List.mem_of_mem_erase hp) }

/-- `UpdateOperationState` keeps the invariant when an operation it moves out of `New` had its
earlier groups `Done`. -/
theorem Ordered.updateOperationState (hσ : Ordered σ) (schedulingID correlationID : String)
    (state : OperationState) (allowInState : Bool) (reasons : List String) (now : Nat)
    (hcleared : state ≠ new → ∀ o,
      σ.repo.operations.lookup (schedulingID, correlationID) = some o → Cleared σ o) :
    Ordered { σ with repo := commit σ.repo (σ.repo.updateOperationState schedulingID correlationID
      state allowInState reasons now) } := by
  cases h : σ.repo.updateOperationState schedulingID correlationID state allowInState reasons now with
  | error e => exact hσ
  | ok r' =>
      obtain ⟨o, reason, hk, hfin, -, -, rfl⟩ := updateOperationState_ok h
      exact hσ.put hk rfl rfl rfl (fun hd => absurd hfin (by rw [hd]; decide))
        fun hst => hcleared hst o hk

theorem Ordered.updateOperationRetryID (hσ : Ordered σ) (schedulingID correlationID retryID : String)
    (now : Nat) :
    Ordered { σ with
      repo := commit σ.repo (σ.repo.updateOperationRetryID schedulingID correlationID retryID now) } := by
  cases h : σ.repo.updateOperationRetryID schedulingID correlationID retryID now with
  | error e => exact hσ
  | ok r' =>
      obtain ⟨o, hk, rfl⟩ := updateOperationRetryID_ok h
      apply hσ.put_same_state hk <;> split_ifs <;> rfl

theorem Ordered.updateOperationPickedUp (hσ : Ordered σ) (schedulingID correlationID : String)
    (now : Nat) :
    Ordered { σ with
      repo := commit σ.repo (σ.repo.updateOperationPickedUp schedulingID correlationID now) } := by
  cases h : σ.repo.updateOperationPickedUp schedulingID correlationID now with
  | error e => exact hσ
  | ok r' =>
      obtain ⟨o, hk, rfl⟩ := updateOperationPickedUp_ok h
      exact hσ.put_same_state hk rfl rfl rfl rfl

theorem Ordered.finish (hσ : Ordered σ) (schedulingID : String) (status : ClusterStatusEntity)
    (now : Nat) :
    Ordered { σ with
      repo := commit σ.repo (σ.repo.finishReconciliation schedulingID status now) } := by
  cases h : σ.repo.finishReconciliation schedulingID status now with
  | error e => exact hσ
  | ok r' =>
      refine hσ.shrink fun k op hk => ?_
      rw [← finishReconciliation_operations h]
      exact hk

/-- Every action keeps the invariant. -/
theorem Ordered.step (hσ : Ordered σ) (h : Step σ σ') : Ordered σ' := by
  cases h with
  | create state cfg ids now r' recon cleaner' hok hids hfresh => exact hσ.create hok hfresh
  | poll max => exact hσ.poll max
  | exceedRetries op hop maxOperationRetries hmax now =>
      exact (hσ.updateOperationState _ _ error true _ now
        fun _ _ hk => hσ.cleared_of_pending hop hk).release op
  | discard op hop reason now =>
      exact (hσ.updateOperationState _ _ error false _ now
        fun _ _ hk => hσ.cleared_of_pending hop hk).release op
  | invokeRemote op hop hproc cur hcur hnot now r₁ h₁ =>
      -- the copy is invoked, then marked `InProgress`, then gets its pickup time
      have hσ₁ := hσ.invoke hop
      have hσ₂ := hσ₁.updateOperationState op.schedulingID op.correlationID inProgress true [""] now
        fun _ _ hk => hσ₁.cleared_of_invoked List.mem_cons_self hk
      dsimp only at hσ₂
      rw [h₁] at hσ₂
      exact hσ₂.updateOperationPickedUp op.schedulingID op.correlationID now
  | invokeLocal op hop hproc => exact hσ.invoke hop
  | callback k hk state hstate reasons now =>
      exact hσ.updateOperationState k.1 k.2 state true reasons now
        fun _ _ hl => hσ.cleared_of_invoked hk hl
  | updateRetryID k hk retryID now => exact hσ.updateOperationRetryID k.1 k.2 retryID now
  | markOrphan k hk now =>
      exact hσ.updateOperationState k.1 k.2 orphan false [] now
        fun _ _ hl => hσ.cleared_of_invoked hk hl
  | release op hop => exact hσ.release op
  | finish schedulingID status now => exact hσ.finish schedulingID status now
  | removeBySchedulingIDs schedulingIDs =>
      exact hσ.shrink fun _ _ => lookup_removeReconciliationsBySchedulingID
  | removeByRuntimeID runtimeID => exact hσ.shrink fun _ _ => lookup_removeReconciliationByRuntimeID
  | removeBeforeDeadline runtimeID latestSchedulingID deadline =>
      exact hσ.shrink fun _ _ => lookup_removeReconciliationsBeforeDeadline

theorem ordered_invariant : Invariant Step Ordered :=
  fun _ _ hσ h => hσ.step h

theorem ordered_of_reachable (h : Reachable Step init σ) : Ordered σ :=
  ordered_invariant.reachable init_ordered h

/-! ## One stored operation along a run -/

/-- What a step may do to the operation stored under `k`: leave it, rewrite it keeping its
state or moving it from a state that is not final to one that is not `New`, remove it, or
create it under a scheduling ID not drawn before. -/
def KeyEffect (r r' : InMemoryReconciliationRepository) (drawn : List String)
    (k : String × String) : Prop :=
  r'.operations.lookup k = r.operations.lookup k ∨
    (∃ o o', r.operations.lookup k = some o ∧ r'.operations.lookup k = some o' ∧
      (o'.state = o.state ∨ (o.state.isFinal = false ∧ o'.state ≠ new))) ∨
    r'.operations.lookup k = none ∨
    (r.operations.lookup k = none ∧ k.1 ∉ drawn)

section KeyEffect

variable {r r' : InMemoryReconciliationRepository} {drawn : List String} {k : String × String}

theorem keyEffect_put {k₀ : String × String} {o o' : OperationEntity}
    (hk₀ : r.operations.lookup k₀ = some o)
    (hst : o'.state = o.state ∨ (o.state.isFinal = false ∧ o'.state ≠ new)) :
    KeyEffect r (r.putOperation k₀.1 k₀.2 o') drawn k := by
  by_cases hk : k = (k₀.1, k₀.2)
  · refine .inr (.inl ⟨o, o', ?_, ?_, hst⟩)
    · rw [hk]
      exact hk₀
    · rw [lookup_putOperation, if_pos hk]
  · left
    rw [lookup_putOperation, if_neg hk]

theorem keyEffect_shrink
    (hsub : ∀ k op, r'.operations.lookup k = some op → r.operations.lookup k = some op) :
    KeyEffect r r' drawn k := by
  unfold KeyEffect
  cases h : r'.operations.lookup k with
  | none => exact .inr (.inr (.inl rfl))
  | some x => exact .inl (hsub k x h).symm

theorem keyEffect_updateOperationState {schedulingID correlationID : String}
    {state : OperationState} {allowInState : Bool} {reasons : List String} {now : Nat}
    (hst : state ≠ new) :
    KeyEffect r (commit r (r.updateOperationState schedulingID correlationID state allowInState
      reasons now)) drawn k := by
  cases h : r.updateOperationState schedulingID correlationID state allowInState reasons now with
  | error e => exact .inl rfl
  | ok r' =>
      obtain ⟨o, reason, hk, hfin, -, -, rfl⟩ := updateOperationState_ok h
      exact keyEffect_put hk (.inr ⟨hfin, hst⟩)

theorem keyEffect_updateOperationRetryID {schedulingID correlationID retryID : String} {now : Nat} :
    KeyEffect r (commit r (r.updateOperationRetryID schedulingID correlationID retryID now))
      drawn k := by
  cases h : r.updateOperationRetryID schedulingID correlationID retryID now with
  | error e => exact .inl rfl
  | ok r' =>
      obtain ⟨o, hk, rfl⟩ := updateOperationRetryID_ok h
      exact keyEffect_put hk (.inl (by split_ifs <;> rfl))

end KeyEffect

/-- A stored operation under a drawn scheduling ID is not created again. -/
theorem Ordered.keyEffect_create (hσ : Ordered σ) {state : ClusterState}
    {cfg : ReconciliationSequenceConfig} {ids : Nat → String} {now : Nat}
    {r' : InMemoryReconciliationRepository} {recon : ReconciliationEntity}
    {cleaner' : List Configuration}
    (hok : σ.repo.createReconciliation state cfg σ.cleaner ids now = .ok (r', recon, cleaner'))
    (hfresh : recon.schedulingID ∉ σ.schedulingIDs) (k : String × String) :
    KeyEffect σ.repo r' σ.schedulingIDs k := by
  obtain ⟨-, -, hops⟩ := InMemoryReconciliationRepository.createReconciliation_ok hok
  unfold KeyEffect
  cases h : r'.operations.lookup k with
  | none => exact .inr (.inr (.inl rfl))
  | some x =>
      rw [hops] at h
      rcases lookup_foldl_insert h with ⟨hx, hkey⟩ | hold
      · -- a new operation: its key was free, under the new scheduling ID
        have hsid : k.1 = recon.schedulingID := by
          rw [← hkey]
          exact schedulingID_of_mem_queueOperations hx
        refine .inr (.inr (.inr ⟨?_, hsid ▸ hfresh⟩))
        cases hold : σ.repo.operations.lookup k with
        | none => rfl
        | some o =>
            have hdrawn := hσ.drawn o (mem_values.2 ⟨k, hold⟩)
            have hko : o.schedulingID = k.1 := congrArg Prod.fst (hσ.stored_key k o hold)
            rw [hko, hsid] at hdrawn
            exact absurd hdrawn hfresh
      · exact .inl hold.symm

theorem ne_new_of_mem_callbackStates {state : OperationState} (h : state ∈ callbackStates) :
    state ≠ new := by
  rintro rfl
  exact absurd h (by decide)

/-- What a step does to the operation stored under `k`. -/
theorem Ordered.keyEffect_step (hσ : Ordered σ) (h : Step σ σ') (k : String × String) :
    KeyEffect σ.repo σ'.repo σ.schedulingIDs k := by
  cases h with
  | create state cfg ids now r' recon cleaner' hok hids hfresh => exact hσ.keyEffect_create hok hfresh k
  | poll max => exact .inl rfl
  | exceedRetries op hop maxOperationRetries hmax now =>
      exact keyEffect_updateOperationState (by decide)
  | discard op hop reason now => exact keyEffect_updateOperationState (by decide)
  | invokeRemote op hop hproc cur hcur hnot now r₁ h₁ =>
      obtain ⟨o, reason, hk, hfin, -, -, rfl⟩ := updateOperationState_ok h₁
      -- the pickup rewrites the operation just marked `InProgress`
      cases h₂ : (σ.repo.putOperation op.schedulingID op.correlationID
          { o with state := inProgress, reason := reason, updated := now }).updateOperationPickedUp
          op.schedulingID op.correlationID now with
      | error e => exact keyEffect_put hk (.inr ⟨hfin, by simp⟩)
      | ok r₂ =>
          obtain ⟨o₂, hk₂, rfl⟩ := updateOperationPickedUp_ok h₂
          rw [lookup_putOperation, if_pos rfl] at hk₂
          cases hk₂
          dsimp only [commit]
          rw [putOperation_putOperation]
          exact keyEffect_put hk (.inr ⟨hfin, by simp⟩)
  | invokeLocal op hop hproc => exact .inl rfl
  | callback k' hk state hstate reasons now =>
      exact keyEffect_updateOperationState (ne_new_of_mem_callbackStates hstate)
  | updateRetryID k' hk retryID now => exact keyEffect_updateOperationRetryID
  | markOrphan k' hk now => exact keyEffect_updateOperationState (by decide)
  | release op hop => exact .inl rfl
  | finish schedulingID status now =>
      cases hf : σ.repo.finishReconciliation schedulingID status now with
      | error e => exact .inl rfl
      | ok r' =>
          refine keyEffect_shrink fun k op hk => ?_
          rw [← finishReconciliation_operations hf]
          exact hk
  | removeBySchedulingIDs schedulingIDs =>
      exact keyEffect_shrink fun _ _ => lookup_removeReconciliationsBySchedulingID
  | removeByRuntimeID runtimeID =>
      exact keyEffect_shrink fun _ _ => lookup_removeReconciliationByRuntimeID
  | removeBeforeDeadline runtimeID latestSchedulingID deadline =>
      exact keyEffect_shrink fun _ _ => lookup_removeReconciliationsBeforeDeadline

/-- Scheduling IDs, once drawn, stay drawn. -/
theorem schedulingIDs_subset_step (h : Step σ σ') : σ.schedulingIDs ⊆ σ'.schedulingIDs := by
  cases h
  case create => exact List.subset_cons_self _ _
  all_goals exact List.Subset.refl _

/-- The operation stored under `k` has a state with `P`, or is gone for good. -/
def Kept (P : OperationState → Prop) (k : String × String) (σ : Mothership) : Prop :=
  (∃ op, σ.repo.operations.lookup k = some op ∧ P op.state) ∨
    (σ.repo.operations.lookup k = none ∧ k.1 ∈ σ.schedulingIDs)

section Kept

variable {P : OperationState → Prop} {k : String × String}

/-- A property of the state that every move out of a state that is not final to one that is not
`New` keeps is kept by every step. -/
theorem Kept.step (hP : ∀ a b, P a → a.isFinal = false → b ≠ new → P b) (hσ : Ordered σ)
    (hkept : Kept P k σ) (h : Step σ σ') : Kept P k σ' := by
  have hsub := schedulingIDs_subset_step h
  rcases hσ.keyEffect_step h k with heq | ⟨o, o', ho, ho', hst⟩ | hnone | ⟨hnone, hfresh⟩
  · rcases hkept with ⟨o, ho, hPo⟩ | ⟨hnone, hk⟩
    · exact .inl ⟨o, heq.trans ho, hPo⟩
    · exact .inr ⟨heq.trans hnone, hsub hk⟩
  · rcases hkept with ⟨o₀, ho₀, hPo⟩ | ⟨hnone, -⟩
    · rw [ho] at ho₀
      cases ho₀
      refine .inl ⟨o', ho', ?_⟩
      rcases hst with hst | ⟨hfin, hne⟩
      · rwa [hst]
      · exact hP _ _ hPo hfin hne
    · rw [ho] at hnone
      cases hnone
  · -- a removed operation's scheduling ID was drawn
    refine .inr ⟨hnone, hsub ?_⟩
    rcases hkept with ⟨o, ho, -⟩ | ⟨-, hk⟩
    · rw [← hσ.stored_key k o ho]
      exact hσ.drawn o (mem_values.2 ⟨k, ho⟩)
    · exact hk
  · rcases hkept with ⟨o, ho, -⟩ | ⟨-, hk⟩
    · rw [hnone] at ho
      cases ho
    · exact absurd hk hfresh

theorem Kept.reflTransGen (hP : ∀ a b, P a → a.isFinal = false → b ≠ new → P b)
    (hσ : Ordered σ) (hkept : Kept P k σ) (h : ReflTransGen Step σ σ') : Kept P k σ' :=
  ((ordered_invariant.and fun _ _ hs hk hstep => hk.step hP hs hstep).reflTransGen h
    ⟨hσ, hkept⟩).2

end Kept

/-! ## Priority-ordered execution -/

/-- Over every run from the start: (a) an operation that has been invoked, or has left `New`,
finds every operation of an earlier group of its reconciliation `Done`; (b) a `Done` or `Error`
operation keeps its state. -/
theorem priorityOrdered_execution :
    (∀ (σ₀ σ : Mothership) (k : String × String) (op₀ op : OperationEntity),
      Reachable Step init σ₀ → ReflTransGen Step σ₀ σ →
      σ₀.repo.getOperation k.1 k.2 = some op₀ → σ.repo.getOperation k.1 k.2 = some op →
      (k ∈ σ.invoked ∨ op₀.state ≠ new) →
      ∀ op' ∈ σ.repo.allOperations, op'.schedulingID = op.schedulingID →
        runsBefore op.type op'.priority op.priority → op'.state = done) ∧
    (∀ (σ₀ σ : Mothership) (k : String × String) (op₀ op : OperationEntity),
      Reachable Step init σ₀ → ReflTransGen Step σ₀ σ →
      σ₀.repo.getOperation k.1 k.2 = some op₀ → op₀.state.isFinal = true →
      σ.repo.getOperation k.1 k.2 = some op → op.state = op₀.state) := by
  constructor
  · intro σ₀ σ k op₀ op h₀ hrun hk₀ hk hst
    have hσ₀ := ordered_of_reachable h₀
    have hσ := ordered_of_reachable (h₀.trans hrun)
    have hk' : σ.repo.operations.lookup k = some op := hk
    -- an operation that left `New` never returns to it
    have hnow : op.key ∈ σ.invoked ∨ op.state ≠ new := by
      rw [hσ.stored_key k op hk']
      rcases hst with hinv | hne
      · exact .inl hinv
      · have hkept := Kept.reflTransGen (P := (· ≠ new)) (fun _ _ _ _ hb => hb) hσ₀
          (.inl ⟨op₀, hk₀, hne⟩) hrun
        rcases hkept with ⟨o, ho, hno⟩ | ⟨hnone, -⟩
        · rw [hk'] at ho
          cases ho
          exact .inr hno
        · rw [hk'] at hnone
          cases hnone
    exact hσ.started op (mem_values.2 ⟨k, hk'⟩) hnow
  · intro σ₀ σ k op₀ op h₀ hrun hk₀ hfinal hk
    have hσ₀ := ordered_of_reachable h₀
    have hk' : σ.repo.operations.lookup k = some op := hk
    -- a final state is never left: moves start from states that are not final
    have hP : ∀ a b : OperationState, a = op₀.state → a.isFinal = false → b ≠ new →
        b = op₀.state := by
      intro a b ha hfin _
      rw [ha, hfinal] at hfin
      cases hfin
    rcases Kept.reflTransGen hP hσ₀ (.inl ⟨op₀, hk₀, rfl⟩) hrun with ⟨o, ho, hso⟩ | ⟨hnone, -⟩
    · rw [hk'] at ho
      cases ho
      exact hso
    · rw [hk'] at hnone
      cases hnone

end Mothership

end Reconciler
