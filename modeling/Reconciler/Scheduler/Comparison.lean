import Reconciler.Scheduler.Creation

/-!
# The two repositories side by side

`TestReconciliationRepository` runs one suite against both repositories, but they are written
apart.  The in-memory one stores a reconciliation under its runtime ID and `FinishReconciliation`
changes it in place, so the entry of a runtime stays until a removal: every later
`CreateReconciliation` of the runtime fails with `DuplicateClusterReconciliationError`.  The
persistent one refuses a reconciliation only while the runtime has an unfinished one, and
finishing renames the `UNIQUE` lock to `unlock-<schedulingID>`, which frees it.
-/

namespace Reconciler

open OperationState

theorem unlock_ne_runtimeID (runtimeID uuid : String) :
    "unlock-" ++ freshID runtimeID uuid ≠ runtimeID := by
  intro h
  have hlen := congrArg (fun s => s.toList.length) h
  simp [freshID, String.toList_append] at hlen
  omega

namespace PersistentReconciliationRepository

/-- The persistent repository creates a reconciliation whenever the runtime has no unfinished
one, the new scheduling ID and the lock of the runtime are free, and the UUIDs are distinct. -/
theorem createReconciliation_isOk {r : PersistentReconciliationRepository} {state : ClusterState}
    (cfg : ReconciliationSequenceConfig) (cleaner : List Configuration) {ids : Nat → String}
    (now : Nat) (hcomp : state.configuration.components ≠ []) (hids : Function.Injective ids)
    (hfinished : ∀ row ∈ r.reconciliations,
      row.runtimeID = state.cluster.runtimeID → row.finished = true)
    (hrows : ∀ row ∈ r.reconciliations, row.schedulingID ≠ freshID state.cluster.runtimeID (ids 0) ∧
      row.lock ≠ state.cluster.runtimeID)
    (hops : ∀ op ∈ r.operations, op.schedulingID ≠ freshID state.cluster.runtimeID (ids 0))
    (hkeys : (r.operations.map (·.key)).Nodup) :
    ∃ r' recon cleaner', r.createReconciliation state cfg cleaner ids now = .ok (r', recon, cleaner') := by
  -- the new operations have distinct keys, all under the new scheduling ID
  have hnodup : ((r.operations ++ queueOperations
      (newOperation state (freshID state.cluster.runtimeID (ids 0)) ids now)
      (state.configuration.getReconciliationSequence cfg cleaner).1.queue 1 1).map (·.key)).Nodup := by
    rw [List.map_append, List.nodup_append]
    refine ⟨hkeys, ?_, ?_⟩
    · refine List.Nodup.of_map Prod.snd ?_
      rw [List.map_map]
      exact queueOperations_correlationID_nodup hids _ 1 1
    · intro a ha b hb hkey
      obtain ⟨op, hop, rfl⟩ := List.mem_map.1 ha
      obtain ⟨op', hop', rfl⟩ := List.mem_map.1 hb
      exact hops op hop ((congrArg Prod.fst hkey).trans (schedulingID_of_mem_queueOperations hop'))
  have hnone : r.reconciliations.find?
      (fun recon => recon.runtimeID = state.cluster.runtimeID ∧ !recon.finished) = none := by
    refine List.find?_eq_none.2 fun row hrow hunf => ?_
    simp only [decide_eq_true_eq, Bool.not_eq_true'] at hunf
    simp [hfinished row hrow hunf.1] at hunf
  unfold createReconciliation
  rw [if_neg hcomp, hnone]
  dsimp only
  split_ifs with hsid hlock hdup
  · obtain ⟨row, hrow, heq⟩ := List.any_eq_true.1 hsid
    exact absurd (of_decide_eq_true heq) (hrows row hrow).1
  · obtain ⟨row, hrow, heq⟩ := List.any_eq_true.1 hlock
    exact absurd (of_decide_eq_true heq) (hrows row hrow).2
  · exact absurd hnodup (by simpa using hdup)
  · exact ⟨_, _, _, rfl⟩

end PersistentReconciliationRepository

open InMemoryReconciliationRepository PersistentReconciliationRepository in
/-- Create, finish, create again: the in-memory repository refuses the second reconciliation of
the runtime, from any state, while the persistent one accepts it, given fresh UUIDs. -/
theorem createReconciliation_after_finish_differs (state : ClusterState)
    (cfg : ReconciliationSequenceConfig) (cleaner : List Configuration) (ids ids' : Nat → String)
    (now₁ now₂ now₃ : Nat) (status : ClusterStatusEntity)
    (hids' : Function.Injective ids') (hfresh : ids' 0 ≠ ids 0)
    (r r₁ r₂ : InMemoryReconciliationRepository) (p p₁ p₂ : PersistentReconciliationRepository)
    (recon recon' : ReconciliationEntity) (c c' : List Configuration)
    (hr₁ : r.createReconciliation state cfg cleaner ids now₁ = .ok (r₁, recon, c))
    (hr₂ : r₁.finishReconciliation recon.schedulingID status now₂ = .ok r₂)
    (hp₁ : p.createReconciliation state cfg cleaner ids now₁ = .ok (p₁, recon', c'))
    (hp₂ : p₁.finishReconciliation recon'.schedulingID status now₂ = .ok p₂)
    (hrows : ∀ row ∈ p.reconciliations,
      row.schedulingID ≠ freshID state.cluster.runtimeID (ids' 0))
    (hops : ∀ op ∈ p.operations, op.schedulingID ≠ freshID state.cluster.runtimeID (ids' 0)) :
    (∃ e, r₂.createReconciliation state cfg cleaner ids' now₃ = .error e) ∧
      ∃ x, p₂.createReconciliation state cfg cleaner ids' now₃ = .ok x := by
  constructor
  · -- the runtime keeps its entry through the finish
    have hmem : state.cluster.runtimeID ∈ r₁.reconciliations := by
      rw [(InMemoryReconciliationRepository.createReconciliation_ok hr₁).2.1]
      exact (AList.mem_insert _).2 (.inl rfl)
    exact createReconciliation_of_mem cfg cleaner ids' now₃ (mem_finishReconciliation hr₂ hmem)
  · obtain ⟨hsid, hlock, hunf, hrecs, hops₁⟩ := PersistentReconciliationRepository.createReconciliation_ok hp₁
    obtain ⟨hcomp, hfin, hfree, hkeys⟩ := createReconciliation_guards hp₁
    have hne : freshID state.cluster.runtimeID (ids 0) ≠ freshID state.cluster.runtimeID (ids' 0) :=
      fun h => hfresh (freshID_injective _ h).symm
    -- a row after the finish is an old row, or the finished first reconciliation
    have hrow₂ : ∀ row ∈ p₂.reconciliations, (row ∈ p.reconciliations) ∨
        (row.schedulingID = recon'.schedulingID ∧ row.finished = true ∧
          row.lock = "unlock-" ++ recon'.schedulingID) := by
      intro row hrow
      rcases PersistentReconciliationRepository.mem_finishReconciliation hp₂ hrow with
        ⟨hrow₁, hnot⟩ | hdone
      · rw [hrecs, List.mem_append, List.mem_singleton] at hrow₁
        rcases hrow₁ with hrow₀ | rfl
        · exact .inl hrow₀
        · exact absurd ⟨rfl, hunf⟩ hnot
      · exact .inr hdone
    have hfin₂ : ∀ row ∈ p₂.reconciliations,
        row.runtimeID = state.cluster.runtimeID → row.finished = true := by
      intro row hrow hrt
      rcases hrow₂ row hrow with hrow₀ | ⟨-, hdone, -⟩
      · exact hfin row hrow₀ hrt
      · exact hdone
    have hfree₂ : ∀ row ∈ p₂.reconciliations,
        row.schedulingID ≠ freshID state.cluster.runtimeID (ids' 0) ∧
          row.lock ≠ state.cluster.runtimeID := by
      intro row hrow
      rcases hrow₂ row hrow with hrow₀ | ⟨hsid₂, -, hlock₂⟩
      · exact ⟨hrows row hrow₀, hlock ▸ (hfree row hrow₀).2⟩
      · rw [hsid₂, hlock₂, hsid]
        exact ⟨hne, unlock_ne_runtimeID _ _⟩
    have hops₂ : ∀ op ∈ p₂.operations,
        op.schedulingID ≠ freshID state.cluster.runtimeID (ids' 0) := by
      intro op hop
      rw [finishReconciliation_operations hp₂, hops₁, List.mem_append] at hop
      rcases hop with hop | hop
      · exact hops op hop
      · rw [schedulingID_of_mem_queueOperations hop, hsid]
        exact hne
    have hkeys₂ : (p₂.operations.map (·.key)).Nodup := by
      rw [finishReconciliation_operations hp₂]
      exact hkeys
    obtain ⟨p₃, recon₃, c₃, h⟩ :=
      createReconciliation_isOk cfg cleaner now₃ hcomp hids' hfin₂ hfree₂ hops₂ hkeys₂
    exact ⟨_, h⟩

/-- Create, finish and create again on one runtime, from the empty repositories. -/
theorem createReconciliation_after_finish_differs_from_empty :
    let state : ClusterState :=
      { cluster := { runtimeID := "rt" }, configuration := { components := [{ component := "a" }] },
        status := { status := .reconciling } }
    let cfg : ReconciliationSequenceConfig :=
      { preComponents := [], deleteStrategy := "", reconciliationStatus := .reconciling }
    let ids (n : Nat) := String.ofList (List.replicate n 'u')
    let ids' (n : Nat) := String.ofList (List.replicate (n + 1) 'v')
    ∃ r₁ r₂ p₁ p₂ recon recon' c c',
      InMemoryReconciliationRepository.empty.createReconciliation state cfg [] ids 0 =
        .ok (r₁, recon, c) ∧
      r₁.finishReconciliation recon.schedulingID { status := .ready } 0 = .ok r₂ ∧
      PersistentReconciliationRepository.empty.createReconciliation state cfg [] ids 0 =
        .ok (p₁, recon', c') ∧
      p₁.finishReconciliation recon'.schedulingID { status := .ready } 0 = .ok p₂ ∧
      (∃ e, r₂.createReconciliation state cfg [] ids' 0 = .error e) ∧
      ∃ x, p₂.createReconciliation state cfg [] ids' 0 = .ok x := by
  intro state cfg ids ids'
  have hids' : Function.Injective ids' := by
    intro m n h
    simpa [ids'] using congrArg String.length h
  refine ⟨_, _, _, _, _, _, _, _, rfl, rfl, rfl, rfl, ?_⟩
  exact createReconciliation_after_finish_differs state cfg [] ids ids' 0 0 0 _ hids' (by decide)
    InMemoryReconciliationRepository.empty _ _ PersistentReconciliationRepository.empty _ _ _ _ _ _
    rfl rfl rfl rfl (by simp [PersistentReconciliationRepository.empty])
    (by simp [PersistentReconciliationRepository.empty])

end Reconciler
