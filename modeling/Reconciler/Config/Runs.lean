import Reconciler.Config.Spec
import Reconciler.Lib.Transition

/-!
# What every run of the configuration store keeps

The writers of the store are the calls of `KvRepository` and `CacheRepository`, one `Step` each.
Two invariants hold in every store they reach from the empty one:

* every value in `config_values` is one its key version accepts: the bucket name matches
  `bucketPattern`, the data type is the key's and the key's validator holds of it
  (`valuesValid_of_reachable`).  `CreateValue` checks a value before it stores it, and
  `DeleteKey` takes the values of a key with its versions, so no value outlives its key;
* every dependency in `config_cachedeps` names a stored entry by its label, its runtime and its
  ID (`depsCoherent_of_reachable`).  `record.Exec` writes dependencies on the entry its
  transaction stored, and a delete of an entry cascades to the dependencies of its label and
  runtime; an invalidation by ID, which the entry's value changes trigger, relies on it.

Over both stands what the cache is for: along every run, an entry that stays in the cache keeps
its dependencies, and the latest values they name stay as they were
(`latestValue_of_kept_entry`).
-/

namespace Reconciler

namespace ConfigStore

open Transition CacheDependencyManager CacheRepository KvRepository

variable {evalBool : String → TypedValue → Except String Bool} {md5 : String → String}
variable {s s' : ConfigStore}

/-! ## Values are valid -/

/-- Every stored value has a valid bucket name and a key version that gives its data type and
validates it. -/
def ValuesValid (evalBool : String → TypedValue → Except String Bool) (s : ConfigStore) : Prop :=
  ∀ v ∈ s.values, validateBucketName v.bucket = .ok () ∧
    ∃ k ∈ s.keys, k.key = v.key ∧ k.version = v.keyVersion ∧ v.dataType = some k.dataType ∧
      k.validate evalBool v.value = .ok ()

/-- A write that keeps some of the values and every key keeps them valid. -/
theorem ValuesValid.of_subset (h : ValuesValid evalBool s) (hvalues : s'.values ⊆ s.values)
    (hkeys : s.keys ⊆ s'.keys) : ValuesValid evalBool s' := by
  intro v hv
  obtain ⟨hbucket, k, hk, hrest⟩ := h v (hvalues hv)
  exact ⟨hbucket, k, hkeys hk, hrest⟩

theorem ValuesValid.of_eq (h : ValuesValid evalBool s) (hvalues : s'.values = s.values)
    (hkeys : s'.keys = s.keys) : ValuesValid evalBool s' :=
  h.of_subset (hvalues ▸ List.Subset.refl _) (hkeys ▸ List.Subset.refl _)

theorem ValuesValid.createKey (h : ValuesValid evalBool s) (key : KeyEntity) :
    ValuesValid evalBool (createKey key s).1 := by
  obtain ⟨hvalues, -, -, -, hkeys⟩ := @createKey_frame s key
  exact h.of_subset (hvalues ▸ List.Subset.refl _) hkeys

/-- The values of the key go with its versions. -/
theorem ValuesValid.deleteKey (h : ValuesValid evalBool s) (key : String) :
    ValuesValid evalBool (deleteKey key s) := by
  intro v hv
  obtain ⟨hmem, hne⟩ := mem_deleteKey_values hv
  obtain ⟨hbucket, k, hk, hkey, hrest⟩ := h v hmem
  have hkept : k ∈ (KvRepository.deleteKey key s).keys := mem_deleteKey_keys.2 ⟨hk, hkey ▸ hne⟩
  exact ⟨hbucket, k, hkept, hkey, hrest⟩

/-- The value `CreateValue` stores is the one it checked. -/
theorem ValuesValid.createValue (h : ValuesValid evalBool s) (value : ValueEntity) (now : Nat) :
    ValuesValid evalBool (KvRepository.createValue evalBool value now s).1 := by
  rcases @createValue_cases s evalBool value now with hsame | ⟨value', s₁, v, hcheck, hinsert, hs'⟩
  · rw [hsame]
    exact h
  obtain ⟨rfl, hs₁, hbucket, -⟩ := insertValue_eq hinsert
  obtain ⟨-, -, -, -, k, hk, hkey⟩ := checkValue_eq hcheck
  rw [hs']
  intro w hw
  rw [CacheDependencyManager.invalidate_values, hs₁] at hw
  rw [CacheDependencyManager.invalidate_keys, hs₁]
  rcases List.mem_append.1 hw with hold | hnew
  · exact h w hold
  · -- the new row: its bucket passed the insert, its key version the check
    rw [List.mem_singleton.1 hnew]
    exact ⟨hbucket, k, hk, hkey⟩

theorem ValuesValid.deleteValues (h : ValuesValid evalBool s) (p : ValueEntity → Bool) :
    ValuesValid evalBool (s.deleteValues p) := by
  apply h.of_subset
  · intro v hv
    exact (List.mem_filter.1 hv).1
  · exact List.Subset.refl _

theorem ValuesValid.invalidate (h : ValuesValid evalBool s) (sel : Selector) :
    ValuesValid evalBool (CacheDependencyManager.invalidate sel s) :=
  h.of_eq CacheDependencyManager.invalidate_values CacheDependencyManager.invalidate_keys

theorem valuesValid_invariant : Invariant (Step evalBool md5) (ValuesValid evalBool) := by
  intro s s' h hstep
  cases hstep with
  | createKey key => exact h.createKey key
  | deleteKey key => exact h.deleteKey key
  | createValue value now => exact h.createValue value now
  | deleteValue key bucket => exact (h.invalidate _).deleteValues _
  | deleteBucket bucket => exact (h.invalidate _).deleteValues _
  | add cacheEntry cacheDeps =>
    obtain ⟨hvalues, hkeys⟩ := @add_values_keys md5 s cacheEntry cacheDeps
    exact h.of_eq hvalues hkeys
  | invalidate label runtimeID =>
    exact h.of_eq (CacheRepository.invalidate_values label runtimeID)
      (CacheRepository.invalidate_keys label runtimeID)
  | invalidateByID id => exact h.of_eq (invalidateByID_values id) (invalidateByID_keys id)

/-- Every value of a reachable store is in a valid bucket, of its key version's data type, and
accepted by that key version's validator. -/
theorem valuesValid_of_reachable (h : Reachable (Step evalBool md5) empty s) :
    ValuesValid evalBool s :=
  valuesValid_invariant.reachable (fun _ hv => absurd hv List.not_mem_nil) h

/-! ## Dependencies name stored entries -/

/-- Every dependency names a stored entry by its label, its runtime and its ID. -/
def DepsCoherent (s : ConfigStore) : Prop :=
  ∀ d ∈ s.cacheDeps, ∃ e ∈ s.cache, e.label = d.label ∧ e.runtimeID = d.runtimeID ∧ e.id = d.cacheID

/-- A write that keeps some of the dependencies and every entry keeps them coherent. -/
theorem DepsCoherent.of_subset (h : DepsCoherent s) (hdeps : s'.cacheDeps ⊆ s.cacheDeps)
    (hcache : s.cache ⊆ s'.cache) : DepsCoherent s' := by
  intro d hd
  obtain ⟨e, he, hsame⟩ := h d (hdeps hd)
  exact ⟨e, hcache he, hsame⟩

theorem DepsCoherent.of_eq (h : DepsCoherent s) (hdeps : s'.cacheDeps = s.cacheDeps)
    (hcache : s'.cache = s.cache) : DepsCoherent s' :=
  h.of_subset (hdeps ▸ List.Subset.refl _) (hcache ▸ List.Subset.refl _)

/-- The cascade takes the dependencies of every entry it deletes. -/
theorem DepsCoherent.deleteCacheEntries (h : DepsCoherent s) (p : CacheEntryEntity → Bool) :
    DepsCoherent (s.deleteCacheEntries p) := by
  intro d hd
  obtain ⟨hmem, hkept⟩ := mem_deleteCacheEntries_cacheDeps.1 hd
  obtain ⟨e, he, hlabel, hruntime, hid⟩ := h d hmem
  -- the entry the dependency names is not deleted, or the cascade would have taken it
  have hp : p e = false := by
    cases hpe : p e with
    | false => rfl
    | true => exact absurd ⟨hlabel, hruntime⟩ (hkept e he hpe)
  have he' : e ∈ (s.deleteCacheEntries p).cache := by
    rw [deleteCacheEntries_cache, List.mem_filter, hp]
    exact ⟨he, rfl⟩
  exact ⟨e, he', hlabel, hruntime, hid⟩

theorem DepsCoherent.deleteCacheDeps (h : DepsCoherent s) (p : CacheDependencyEntity → Bool) :
    DepsCoherent (s.deleteCacheDeps p) := by
  apply h.of_subset
  · intro d hd
    exact (List.mem_filter.1 hd).1
  · exact List.Subset.refl _

theorem DepsCoherent.invalidate (h : DepsCoherent s) (sel : Selector) :
    DepsCoherent (CacheDependencyManager.invalidate sel s) := by
  rw [invalidate_eq]
  exact (h.deleteCacheEntries _).deleteCacheDeps _

theorem DepsCoherent.invalidateByID (h : DepsCoherent s) (id : Int) :
    DepsCoherent (invalidateByID id s) :=
  (h.invalidate _).deleteCacheEntries _

/-- `record.Exec` writes dependencies on an entry that is stored. -/
theorem DepsCoherent.record (h : DepsCoherent s) {cacheEntry : CacheEntryEntity}
    (hentry : cacheEntry ∈ s.cache) {cacheDeps : List ValueEntity}
    (hrecord : record cacheEntry cacheDeps s = .ok s') : DepsCoherent s' := by
  obtain ⟨-, -, hcache, hdeps⟩ := record_eq hrecord
  intro d hd
  rw [hcache]
  rcases hdeps d hd with hold | ⟨hlabel, hruntime, hid⟩
  · exact h d hold
  · exact ⟨cacheEntry, hentry, hlabel.symm, hruntime.symm, hid.symm⟩

/-- The transaction of `Add` records its dependencies on the entry it stored. -/
theorem DepsCoherent.insertTx (h : DepsCoherent s) {cacheEntry entry : CacheEntryEntity}
    {cacheDeps : List ValueEntity} (htx : insertTx md5 cacheEntry cacheDeps s = .ok (s', entry)) :
    DepsCoherent s' := by
  obtain ⟨s₁, hinsert, hrecord⟩ := insertTx_eq htx
  obtain ⟨-, hs₁, -⟩ := insertCacheEntry_eq hinsert
  have h₁ : DepsCoherent s₁ := by
    apply h.of_subset <;> rw [hs₁]
    · exact List.Subset.refl _
    · exact List.subset_append_left _ _
  have hentry : entry ∈ s₁.cache := by
    rw [hs₁]
    exact List.mem_append_right _ (List.mem_singleton_self _)
  exact h₁.record hentry hrecord

theorem DepsCoherent.add (h : DepsCoherent s) (cacheEntry : CacheEntryEntity)
    (cacheDeps : List ValueEntity) : DepsCoherent (add md5 cacheEntry cacheDeps s).1 := by
  obtain ⟨s₀, hs₀, hadd⟩ := @add_cases md5 s cacheEntry cacheDeps
  have h₀ : DepsCoherent s₀ := by
    rcases hs₀ with rfl | ⟨id, rfl⟩
    · exact h
    · exact h.invalidateByID id
  rcases hadd with hsame | ⟨entry, htx⟩
  · rw [hsame]
    exact h₀
  · exact h₀.insertTx htx

theorem DepsCoherent.createKey (h : DepsCoherent s) (key : KeyEntity) :
    DepsCoherent (createKey key s).1 := by
  obtain ⟨-, hcache, hdeps, -, -⟩ := @createKey_frame s key
  exact h.of_eq hdeps hcache

theorem DepsCoherent.createValue (h : DepsCoherent s) (value : ValueEntity) (now : Nat) :
    DepsCoherent (KvRepository.createValue evalBool value now s).1 := by
  rcases @createValue_cases s evalBool value now with hsame | ⟨value', s₁, v, -, hinsert, hs'⟩
  · rw [hsame]
    exact h
  obtain ⟨-, hs₁, -⟩ := insertValue_eq hinsert
  have h₁ : DepsCoherent s₁ := h.of_eq (by rw [hs₁]) (by rw [hs₁])
  rw [hs']
  exact h₁.invalidate _

theorem depsCoherent_invariant : Invariant (Step evalBool md5) DepsCoherent := by
  intro s s' h hstep
  cases hstep with
  | createKey key => exact h.createKey key
  | deleteKey key =>
    -- the values and keys go after the entries that used them
    have hinv := h.invalidate { key := some key }
    exact hinv.of_eq rfl rfl
  | createValue value now => exact h.createValue value now
  | deleteValue key bucket => exact (h.invalidate _).of_eq rfl rfl
  | deleteBucket bucket => exact (h.invalidate _).of_eq rfl rfl
  | add cacheEntry cacheDeps => exact h.add cacheEntry cacheDeps
  | invalidate label runtimeID => exact (h.invalidate _).deleteCacheEntries _
  | invalidateByID id => exact h.invalidateByID id

/-- In every reachable store, each cache dependency names a stored entry by its label, its
runtime and its ID. -/
theorem depsCoherent_of_reachable (h : Reachable (Step evalBool md5) empty s) :
    DepsCoherent s :=
  depsCoherent_invariant.reachable (fun _ hd => absurd hd List.not_mem_nil) h

/-! ## Entries see the values they depend on

A cache entry holds what was computed from the values it depends on; `invalidate.Exec` takes
it as soon as one of them changes.  So a write that keeps an entry keeps the latest value of
every key and bucket a dependency of the entry names. -/

section Freshness

variable {key bucket : String}

/-- `LatestValue` reads the values of the key in the bucket only. -/
theorem latestValue_congr (h : (s'.values.filter fun v => v.key = key ∧ v.bucket = bucket) =
      s.values.filter fun v => v.key = key ∧ v.bucket = bucket) :
    latestValue s' bucket key = latestValue s bucket key := by
  unfold latestValue
  rw [h]

theorem latestValue_of_values_eq (h : s'.values = s.values) :
    latestValue s' bucket key = latestValue s bucket key :=
  latestValue_congr (by rw [h])

/-- A delete that spares the values of the key in the bucket keeps its latest value. -/
theorem latestValue_of_filter {q : ValueEntity → Bool}
    (hq : ∀ v ∈ s.values, v.key = key ∧ v.bucket = bucket → q v = true)
    (h : s'.values = s.values.filter q) :
    latestValue s' bucket key = latestValue s bucket key := by
  apply latestValue_congr
  rw [h, List.filter_filter]
  apply List.filter_congr
  intro v hv
  by_cases hsel : v.key = key ∧ v.bucket = bucket
  · simp [hsel, hq v hv hsel]
  · simp [hsel]

/-- An insert of a value of another key or bucket keeps the latest value. -/
theorem latestValue_of_append {v : ValueEntity} (hv : ¬(v.key = key ∧ v.bucket = bucket))
    (h : s'.values = s.values ++ [v]) :
    latestValue s' bucket key = latestValue s bucket key := by
  apply latestValue_congr
  rw [h, List.filter_append]
  simp [hv]

/-- An entry that survives an invalidation has no dependency the selector selects. -/
theorem matches_eq_false_of_mem_invalidate {sel : Selector} {e : CacheEntryEntity}
    {d : CacheDependencyEntity} (he : e ∈ (CacheDependencyManager.invalidate sel s).cache)
    (hd : d ∈ s.cacheDeps) (hid : d.cacheID = e.id) : sel.matches d = false := by
  have hspared := (mem_invalidate_cache.1 he).2 d hd
  cases hmatch : sel.matches d with
  | false => rfl
  | true => exact absurd hid (hspared hmatch)

/-- Every write of the store that keeps a cache entry keeps the latest value of the key and
bucket of each dependency of the entry: a value write invalidates the entries that depend on
it. -/
theorem latestValue_of_mem_cache (hstep : Step evalBool md5 s s') {e : CacheEntryEntity}
    (he : e ∈ s'.cache) {d : CacheDependencyEntity} (hd : d ∈ s.cacheDeps) (hid : d.cacheID = e.id) :
    latestValue s' d.bucket d.key = latestValue s d.bucket d.key := by
  cases hstep with
  | createKey key => exact latestValue_of_values_eq (@createKey_frame s key).1
  | deleteKey key =>
    let s₀ := CacheDependencyManager.invalidate { key := some key } s
    have he₀ : e ∈ s₀.cache := he
    have hkey : d.key ≠ key :=
      Ne.symm (by simpa [Selector.matches] using matches_eq_false_of_mem_invalidate he₀ hd hid)
    -- the values of the key go first, then those of its versions, which are of the key too
    let s₁ := s₀.deleteValues (·.key = key)
    have h₁ : latestValue s₁ d.bucket d.key = latestValue s₀ d.bucket d.key := by
      apply latestValue_of_filter _ rfl
      intro v _ hsel
      simp [hsel.1, hkey]
    have h₂ : latestValue (s₁.deleteKeys (·.key = key)) d.bucket d.key =
        latestValue s₁ d.bucket d.key := by
      apply latestValue_of_filter _ rfl
      intro v _ hsel
      simp only [List.any_filter, Bool.not_eq_true', List.any_eq_false, Bool.and_eq_true,
        decide_eq_true_eq, not_and]
      intro k _ hk hkv
      exact absurd (hk.symm.trans (hkv.trans hsel.1)) (Ne.symm hkey)
    exact h₂.trans (h₁.trans (latestValue_of_values_eq CacheDependencyManager.invalidate_values))
  | createValue value now =>
    rcases @createValue_cases s evalBool value now with hsame | ⟨value', s₁, v, -, hinsert, hs'⟩
    · rw [hsame]
    obtain ⟨-, hs₁, -⟩ := insertValue_eq hinsert
    rw [hs'] at he ⊢
    have hd₁ : d ∈ s₁.cacheDeps := by
      rw [hs₁]
      exact hd
    have hspared := matches_eq_false_of_mem_invalidate he hd₁ hid
    have hother : ¬(v.key = d.key ∧ v.bucket = d.bucket) := by
      rintro ⟨hkey, hbucket⟩
      simp [Selector.matches, hkey, hbucket] at hspared
    rw [latestValue_of_values_eq CacheDependencyManager.invalidate_values]
    exact latestValue_of_append hother (by rw [hs₁])
  | deleteValue key bucket =>
    let s₀ := CacheDependencyManager.invalidate { bucket := some bucket, key := some key } s
    have he₀ : e ∈ s₀.cache := he
    have hspared := matches_eq_false_of_mem_invalidate he₀ hd hid
    have hother : ¬(d.key = key ∧ d.bucket = bucket) := by
      rintro ⟨hkey, hbucket⟩
      simp [Selector.matches, hkey, hbucket] at hspared
    have h₁ : latestValue (deleteValue key bucket s) d.bucket d.key =
        latestValue s₀ d.bucket d.key := by
      apply latestValue_of_filter _ rfl
      intro v _ hsel
      simp only [hsel.1, hsel.2, Bool.not_eq_true', decide_eq_false_iff_not]
      exact hother
    exact h₁.trans (latestValue_of_values_eq CacheDependencyManager.invalidate_values)
  | deleteBucket bucket =>
    let s₀ := CacheDependencyManager.invalidate { bucket := some bucket } s
    have he₀ : e ∈ s₀.cache := he
    have hbucket : d.bucket ≠ bucket :=
      Ne.symm (by simpa [Selector.matches] using matches_eq_false_of_mem_invalidate he₀ hd hid)
    have h₁ : latestValue (deleteBucket bucket s) d.bucket d.key =
        latestValue s₀ d.bucket d.key := by
      apply latestValue_of_filter _ rfl
      intro v _ hsel
      simp [hsel.2, hbucket]
    exact h₁.trans (latestValue_of_values_eq CacheDependencyManager.invalidate_values)
  | add cacheEntry cacheDeps =>
    exact latestValue_of_values_eq (@add_values_keys md5 s cacheEntry cacheDeps).1
  | invalidate label runtimeID =>
    exact latestValue_of_values_eq (CacheRepository.invalidate_values label runtimeID)
  | invalidateByID id => exact latestValue_of_values_eq (invalidateByID_values id)

end Freshness

/-! ## Entries along a run

An entry that a run keeps is kept by each of its writes: an entry that comes back has a new ID,
since the serial is above every ID.  And a write that keeps an entry keeps its dependencies:
the cascade goes by label and runtime, the key of the cache, and an invalidation by ID would
have taken the entry too.  So each write of the run keeps the latest values the entry depends
on. -/

section Run

variable {e : CacheEntryEntity} {d : CacheDependencyEntity}

/-- `d` is a dependency of `e`, as `record.Exec` writes it. -/
def DependsOn (d : CacheDependencyEntity) (e : CacheEntryEntity) : Prop :=
  d.label = e.label ∧ d.runtimeID = e.runtimeID ∧ d.cacheID = e.id

/-- The label and the runtime are the key of the cache, and the serial is above every ID. -/
structure CacheKeyed (s : ConfigStore) : Prop where
  id_lt : ∀ e ∈ s.cache, e.id < s.cacheSeq
  unique : ∀ e₁ ∈ s.cache, ∀ e₂ ∈ s.cache, e₁.label = e₂.label → e₁.runtimeID = e₂.runtimeID →
    e₁ = e₂

/-- A write from a store with a keyed cache keeps it keyed, lets the serial grow, adds only
entries with IDs from the serial, and keeps the dependencies of every entry it keeps. -/
def CacheWrite (s s' : ConfigStore) : Prop :=
  CacheKeyed s → CacheKeyed s' ∧ s.cacheSeq ≤ s'.cacheSeq ∧
    (∀ e ∈ s'.cache, e ∈ s.cache ∨ s.cacheSeq ≤ e.id) ∧
    ∀ e ∈ s.cache, e ∈ s'.cache → ∀ d ∈ s.cacheDeps, DependsOn d e → d ∈ s'.cacheDeps

/-- An entry of the store before a write that the store after holds was held throughout. -/
theorem CacheKeyed.mem_of_write (h : CacheKeyed s) (hw : CacheWrite s s') (he : e ∈ s.cache)
    {s'' : ConfigStore} (hw' : CacheWrite s' s'') (he'' : e ∈ s''.cache) : e ∈ s'.cache := by
  obtain ⟨h', hseq, -, -⟩ := hw h
  rcases (hw' h').2.2.1 e he'' with he' | hid
  · exact he'
  · exact absurd (lt_of_lt_of_le (h.id_lt e he) hseq) (not_lt.2 hid)

theorem CacheWrite.trans {s₁ : ConfigStore} (hw₁ : CacheWrite s s₁) (hw₂ : CacheWrite s₁ s') :
    CacheWrite s s' := by
  intro h
  obtain ⟨h₁, hseq₁, hnew₁, hdeps₁⟩ := hw₁ h
  obtain ⟨h₂, hseq₂, hnew₂, hdeps₂⟩ := hw₂ h₁
  refine ⟨h₂, hseq₁.trans hseq₂, fun e he => ?_, fun e he he' d hd hdep => ?_⟩
  · rcases hnew₂ e he with he₁ | hid
    · exact hnew₁ e he₁
    · exact .inr (hseq₁.trans hid)
  · have he₁ : e ∈ s₁.cache := h.mem_of_write hw₁ he hw₂ he'
    exact hdeps₂ e he₁ he' d (hdeps₁ e he he₁ d hd hdep) hdep

theorem CacheKeyed.of_subset (h : CacheKeyed s) (hcache : s'.cache ⊆ s.cache)
    (hseq : s'.cacheSeq = s.cacheSeq) : CacheKeyed s' := by
  refine ⟨fun e he => ?_, fun e₁ h₁ e₂ h₂ => h.unique e₁ (hcache h₁) e₂ (hcache h₂)⟩
  rw [hseq]
  exact h.id_lt e (hcache he)

/-- A write that deletes entries only and keeps the dependencies. -/
theorem CacheWrite.of_subset (hcache : s'.cache ⊆ s.cache) (hseq : s'.cacheSeq = s.cacheSeq)
    (hdeps : s.cacheDeps ⊆ s'.cacheDeps) : CacheWrite s s' := fun h =>
  ⟨h.of_subset hcache hseq, hseq.ge, fun _ he => .inl (hcache he), fun _ _ _ _ hd _ => hdeps hd⟩

theorem CacheWrite.of_eq (hcache : s'.cache = s.cache) (hseq : s'.cacheSeq = s.cacheSeq)
    (hdeps : s'.cacheDeps = s.cacheDeps) : CacheWrite s s' :=
  .of_subset (hcache ▸ List.Subset.refl _) hseq (hdeps ▸ List.Subset.refl _)

/-- A delete of entries keeps the dependencies of an entry it keeps: the cascade goes by label
and runtime, which no other entry has. -/
theorem cacheWrite_deleteCacheEntries (p : CacheEntryEntity → Bool) :
    CacheWrite s (s.deleteCacheEntries p) := by
  intro h
  have hcache : (s.deleteCacheEntries p).cache ⊆ s.cache := by
    intro e he
    exact (List.mem_filter.1 he).1
  have hseq : (s.deleteCacheEntries p).cacheSeq = s.cacheSeq := deleteCacheEntries_cacheSeq p
  refine ⟨h.of_subset hcache hseq, hseq.ge, fun e he => .inl (hcache he),
    fun e he he' d hd hdep => ?_⟩
  have hp : p e = false := by
    rw [deleteCacheEntries_cache, List.mem_filter] at he'
    simpa using he'.2
  refine mem_deleteCacheEntries_cacheDeps.2 ⟨hd, fun e'' he'' hpe'' hsame => ?_⟩
  have hsame' : e'' = e := h.unique e'' he'' e he (hsame.1.trans hdep.1) (hsame.2.trans hdep.2.1)
  rw [hsame', hp] at hpe''
  cases hpe''

/-- An invalidation keeps the dependencies of an entry it keeps: it deletes the dependencies
by the IDs of the entries it deletes. -/
theorem cacheWrite_invalidate (sel : Selector) :
    CacheWrite s (CacheDependencyManager.invalidate sel s) := by
  intro h
  have hcache : (CacheDependencyManager.invalidate sel s).cache ⊆ s.cache := by
    intro e he
    exact (mem_invalidate_cache.1 he).1
  have hseq : (CacheDependencyManager.invalidate sel s).cacheSeq = s.cacheSeq :=
    CacheDependencyManager.invalidate_cacheSeq
  refine ⟨h.of_subset hcache hseq, hseq.ge, fun e he => .inl (hcache he),
    fun e he he' d hd hdep => ?_⟩
  obtain ⟨-, hspared⟩ := mem_invalidate_cache.1 he'
  have hkept : e ∈ (s.deleteCacheEntries fun e =>
      e.id ∈ cacheIDsCSV (s.cacheDeps.filter sel.matches)).cache := by
    rw [deleteCacheEntries_cache, List.mem_filter]
    refine ⟨he, ?_⟩
    simp only [Bool.not_eq_true', decide_eq_false_iff_not, mem_cacheIDsCSV, List.mem_filter]
    rintro ⟨d', ⟨hd', hmatch⟩, hid⟩
    exact hspared d' hd' hmatch hid
  refine mem_invalidate_cacheDeps.2 ⟨?_, fun d' hd' hmatch => ?_⟩
  · exact (cacheWrite_deleteCacheEntries _ h).2.2.2 e he hkept d hd hdep
  · rw [hdep.2.2]
    exact hspared d' hd' hmatch

/-- A stored entry takes its ID from the serial. -/
theorem cacheWrite_insertCacheEntry {cacheEntry entry : CacheEntryEntity}
    (hinsert : s.insertCacheEntry md5 cacheEntry = .ok (s', entry)) : CacheWrite s s' := by
  obtain ⟨rfl, rfl, hfresh⟩ := insertCacheEntry_eq hinsert
  intro h
  refine ⟨⟨fun e he => ?_, fun e₁ h₁ e₂ h₂ hlabel hruntime => ?_⟩, by dsimp only; omega,
    fun e he => ?_, fun _ _ _ d hd _ => hd⟩
  · dsimp only
    rcases List.mem_append.1 he with hold | hnew
    · have hlt := h.id_lt e hold
      omega
    · rw [List.mem_singleton.1 hnew]
      dsimp only
      omega
  · -- the primary key refuses a second entry of a label and runtime
    rcases List.mem_append.1 h₁ with h₁ | h₁ <;> rcases List.mem_append.1 h₂ with h₂ | h₂
    · exact h.unique e₁ h₁ e₂ h₂ hlabel hruntime
    · rw [List.mem_singleton.1 h₂] at hlabel hruntime
      exact absurd ⟨hlabel, hruntime⟩ (hfresh e₁ h₁)
    · rw [List.mem_singleton.1 h₁] at hlabel hruntime
      exact absurd ⟨hlabel.symm, hruntime.symm⟩ (hfresh e₂ h₂)
    · rw [List.mem_singleton.1 h₁, List.mem_singleton.1 h₂]
  · rcases List.mem_append.1 he with hold | hnew
    · exact .inl hold
    · rw [List.mem_singleton.1 hnew]
      exact .inr le_rfl

theorem cacheWrite_insertTx {cacheEntry entry : CacheEntryEntity} {cacheDeps : List ValueEntity}
    (htx : insertTx md5 cacheEntry cacheDeps s = .ok (s', entry)) : CacheWrite s s' := by
  obtain ⟨s₁, hinsert, hrecord⟩ := insertTx_eq htx
  obtain ⟨-, -, hcache, -⟩ := record_eq hrecord
  obtain ⟨hseq, hdeps⟩ := record_frame hrecord
  exact (cacheWrite_insertCacheEntry hinsert).trans (.of_subset (hcache ▸ List.Subset.refl _) hseq hdeps)

theorem cacheWrite_add (cacheEntry : CacheEntryEntity) (cacheDeps : List ValueEntity) :
    CacheWrite s (add md5 cacheEntry cacheDeps s).1 := by
  obtain ⟨s₀, hs₀, hadd⟩ := @add_cases md5 s cacheEntry cacheDeps
  have hw₀ : CacheWrite s s₀ := by
    rcases hs₀ with rfl | ⟨id, rfl⟩
    · exact .of_eq rfl rfl rfl
    · exact (cacheWrite_invalidate _).trans (cacheWrite_deleteCacheEntries _)
  rcases hadd with hsame | ⟨entry, htx⟩
  · rw [hsame]
    exact hw₀
  · exact hw₀.trans (cacheWrite_insertTx htx)

theorem cacheWrite_step (hstep : Step evalBool md5 s s') : CacheWrite s s' := by
  cases hstep with
  | createKey key =>
    obtain ⟨-, hcache, hdeps, hseq, -⟩ := @createKey_frame s key
    exact .of_eq hcache hseq hdeps
  | deleteKey key => exact (cacheWrite_invalidate _).trans (.of_eq rfl rfl rfl)
  | createValue value now =>
    rcases @createValue_cases s evalBool value now with hsame | ⟨value', s₁, v, -, hinsert, hs'⟩
    · rw [hsame]
      exact .of_eq rfl rfl rfl
    obtain ⟨-, hs₁, -⟩ := insertValue_eq hinsert
    rw [hs']
    exact (CacheWrite.of_eq (by rw [hs₁]) (by rw [hs₁]) (by rw [hs₁])).trans (cacheWrite_invalidate _)
  | deleteValue key bucket => exact (cacheWrite_invalidate _).trans (.of_eq rfl rfl rfl)
  | deleteBucket bucket => exact (cacheWrite_invalidate _).trans (.of_eq rfl rfl rfl)
  | add cacheEntry cacheDeps => exact cacheWrite_add cacheEntry cacheDeps
  | invalidate label runtimeID =>
    exact (cacheWrite_invalidate _).trans (cacheWrite_deleteCacheEntries _)
  | invalidateByID id => exact (cacheWrite_invalidate _).trans (cacheWrite_deleteCacheEntries _)

theorem cacheWrite_run (hrun : Relation.ReflTransGen (Step evalBool md5) s s') :
    CacheWrite s s' := by
  induction hrun with
  | refl => exact .of_eq rfl rfl rfl
  | tail _ hstep ih => exact ih.trans (cacheWrite_step hstep)

theorem cacheKeyed_of_reachable (hreach : Reachable (Step evalBool md5) empty s) :
    CacheKeyed s :=
  (cacheWrite_run hreach ⟨fun _ he => absurd he List.not_mem_nil,
    fun _ he => absurd he List.not_mem_nil⟩).1

/-- Along every run from a reachable store that keeps a cache entry, every dependency of the
entry stays, and the latest value of its key in its bucket stays as it was when the entry was
there: the cache never holds an entry computed from a value that has changed since. -/
theorem latestValue_of_kept_entry (hreach : Reachable (Step evalBool md5) empty s)
    (hrun : Relation.ReflTransGen (Step evalBool md5) s s') (he : e ∈ s.cache)
    (he' : e ∈ s'.cache) (hd : d ∈ s.cacheDeps) (hdep : DependsOn d e) :
    latestValue s' d.bucket d.key = latestValue s d.bucket d.key := by
  have h := cacheKeyed_of_reachable hreach
  -- induction on the run; the dependency stays along it, so each write keeps the latest value
  suffices hkeep : d ∈ s'.cacheDeps ∧ latestValue s' d.bucket d.key = latestValue s d.bucket d.key from
    hkeep.2
  induction hrun with
  | refl => exact ⟨hd, rfl⟩
  | @tail s₁ s₂ hrun₁ hstep ih =>
    have he₁ : e ∈ s₁.cache := h.mem_of_write (cacheWrite_run hrun₁) he (cacheWrite_step hstep) he'
    obtain ⟨hd₁, hlatest⟩ := ih he₁
    have h₁ : CacheKeyed s₁ := ((cacheWrite_run hrun₁) h).1
    have hd₂ : d ∈ s₂.cacheDeps := ((cacheWrite_step hstep) h₁).2.2.2 e he₁ he' d hd₁ hdep
    exact ⟨hd₂, (latestValue_of_mem_cache hstep he' hd₁ hdep.2.2).trans hlatest⟩

end Run

/-! ## A run that fills the store -/

/-- A validator interpreter that accepts every value. -/
def acceptAll : String → TypedValue → Except String Bool := fun _ _ => .ok true

/-- An integer key. -/
def sampleKey : KeyEntity := { key := "replicas", dataType := .integer, username := "admin" }

/-- A value of the first version of `sampleKey`, in the default bucket. -/
def sampleValue : ValueEntity :=
  { key := "replicas", keyVersion := 1, bucket := defaultBucket, value := "3", username := "admin" }

/-- A cache entry of a component of a runtime. -/
def sampleEntry : CacheEntryEntity := { label := "istio", runtimeID := "runtime", data := "3" }

/-- The store once the key, its value and an entry that uses the value are stored. -/
def cached : ConfigStore :=
  let keyed := (KvRepository.createKey sampleKey empty).1
  let valued := (KvRepository.createValue acceptAll sampleValue 0 keyed).1
  (CacheRepository.add id sampleEntry valued.values valued).1

theorem cached_reachable : Reachable (Step acceptAll id) empty cached := by
  let keyed := (KvRepository.createKey sampleKey empty).1
  let valued := (KvRepository.createValue acceptAll sampleValue 0 keyed).1
  have hkey : Step acceptAll id empty keyed := .createKey empty sampleKey
  have hvalue : Step acceptAll id keyed valued := .createValue keyed sampleValue 0
  have hadd : Step acceptAll id valued cached := .add valued sampleEntry valued.values
  exact ((Relation.ReflTransGen.single hkey).tail hvalue).tail hadd

-- the run stores the value and the entry's dependency on it
example : cached.values.length = 1 ∧ cached.cacheDeps.length = 1 := by decide

theorem valuesValid_of_reachable_cached :
    Reachable (Step acceptAll id) empty cached ∧ ValuesValid acceptAll cached :=
  ⟨cached_reachable, valuesValid_of_reachable cached_reachable⟩

theorem depsCoherent_of_reachable_cached :
    Reachable (Step acceptAll id) empty cached ∧ DepsCoherent cached :=
  ⟨cached_reachable, depsCoherent_of_reachable cached_reachable⟩

/-- The entry `Add` stored in `cached`, with its ID and checksum. -/
def cachedEntry : CacheEntryEntity := { sampleEntry with id := 1, checksum := "3" }

/-- The dependency of `cachedEntry` on the value of `sampleKey` in the default bucket. -/
def cachedDep : CacheDependencyEntity :=
  { bucket := defaultBucket, key := "replicas", label := "istio", runtimeID := "runtime", cacheID := 1 }

/-- A value of `sampleKey` in another bucket. -/
def prodValue : ValueEntity :=
  { key := "replicas", keyVersion := 1, bucket := "prod-eu", value := "5", username := "admin" }

/-- From `cached`: a value of the key in another bucket is stored, then deleted. -/
def prodRun : ConfigStore :=
  KvRepository.deleteValue "replicas" "prod-eu" (KvRepository.createValue acceptAll prodValue 1 cached).1

theorem latestValue_of_kept_entry_cached :
    cachedEntry ∈ cached.cache ∧ cachedEntry ∈ prodRun.cache ∧ cachedDep ∈ cached.cacheDeps ∧
      DependsOn cachedDep cachedEntry ∧
      latestValue prodRun cachedDep.bucket cachedDep.key =
        latestValue cached cachedDep.bucket cachedDep.key := by
  have he : cachedEntry ∈ cached.cache := by decide
  have he' : cachedEntry ∈ prodRun.cache := by decide
  have hd : cachedDep ∈ cached.cacheDeps := by decide
  have hdep : DependsOn cachedDep cachedEntry := ⟨rfl, rfl, rfl⟩
  have hrun : Relation.ReflTransGen (Step acceptAll id) cached prodRun :=
    (Relation.ReflTransGen.single (.createValue cached prodValue 1)).tail (.deleteValue _ _ _)
  exact ⟨he, he', hd, hdep, latestValue_of_kept_entry cached_reachable hrun he he' hd hdep⟩

end ConfigStore

end Reconciler
