import Reconciler.Config.Store
import Mathlib.Data.List.Dedup

/-!
# What the calls of the configuration store write

One lemma for each statement and each call of `Reconciler.Config.Store` says all it can write:
an insert appends the row it names with the next serial, after the checks it passed; a delete
keeps a part of each table; an invalidation takes every entry that a selected dependency names,
with its dependencies, and nothing else.  The invariants of the runs are proved from these
lemmas alone.
-/

namespace Reconciler

namespace ConfigStore

open DefaultInventory

variable {s s' : ConfigStore}

/-! ## Inserts -/

theorem insertKey_eq {key k : KeyEntity} (h : s.insertKey key = .ok (s', k)) :
    k = { key with version := s.keySeq } ∧
      s' = { s with keys := s.keys ++ [k], keySeq := s.keySeq + 1 } := by
  unfold insertKey at h
  split at h
  · cases h
    exact ⟨rfl, rfl⟩
  · cases h

/-- A value is stored with the next version, once its bucket name, its `notNull` columns and
its key version passed. -/
theorem insertValue_eq {value v : ValueEntity} {now : Nat}
    (h : s.insertValue value now = .ok (s', v)) :
    v = { value with version := s.valueSeq, created := now } ∧
      s' = { s with values := s.values ++ [v], valueSeq := s.valueSeq + 1 } ∧
      validateBucketName value.bucket = .ok () ∧
      ∃ k ∈ s.keys, k.key = value.key ∧ k.version = value.keyVersion := by
  unfold insertValue at h
  dsimp only at h
  split at h
  case isFalse hempty =>
    -- the bucket is a `notNull` column: an empty one fails the marshaller's check
    have hfields : value.undefinedFields ≠ [] := by
      simp [ValueEntity.undefinedFields, undefinedColumns, not_not.mp hempty]
    split at h
    · contradiction
    · cases h
  case isTrue hne =>
    cases hv : validateBucketName value.bucket with
    | error e =>
      rw [hv] at h
      cases h
    | ok u =>
      rw [hv] at h
      split at h
      · split at h
        · cases h
        · rename_i hany
          cases h
          exact ⟨rfl, rfl, rfl, by simpa using hany⟩
      · cases h

/-- An entry is stored with the next ID and the checksum of its data, for a label and runtime
without one. -/
theorem insertCacheEntry_eq {md5 : String → String} {cacheEntry e : CacheEntryEntity}
    (h : s.insertCacheEntry md5 cacheEntry = .ok (s', e)) :
    e = { cacheEntry with id := s.cacheSeq, checksum := md5 cacheEntry.data } ∧
      s' = { s with cache := s.cache ++ [e], cacheSeq := s.cacheSeq + 1 } ∧
      ∀ c ∈ s.cache, ¬(c.label = e.label ∧ c.runtimeID = e.runtimeID) := by
  unfold insertCacheEntry at h
  dsimp only at h
  split at h
  · split at h
    · cases h
    · rename_i hany
      cases h
      refine ⟨rfl, rfl, fun c hc hsame => hany ?_⟩
      simpa using ⟨c, hc, hsame⟩
  · cases h

theorem insertCacheDep_eq {d : CacheDependencyEntity} (h : s.insertCacheDep d = .ok s') :
    s' = { s with cacheDeps := s.cacheDeps ++ [d] } := by
  unfold insertCacheDep at h
  split at h
  · split at h
    · cases h
    · split at h
      · cases h
      · cases h
        rfl
  · cases h

/-! ## Deletes -/

@[simp] theorem deleteCacheEntries_cache (p : CacheEntryEntity → Bool) :
    (s.deleteCacheEntries p).cache = s.cache.filter fun e => !p e := rfl

@[simp] theorem deleteCacheEntries_values (p : CacheEntryEntity → Bool) :
    (s.deleteCacheEntries p).values = s.values := rfl

@[simp] theorem deleteCacheEntries_keys (p : CacheEntryEntity → Bool) :
    (s.deleteCacheEntries p).keys = s.keys := rfl

@[simp] theorem deleteCacheEntries_cacheSeq (p : CacheEntryEntity → Bool) :
    (s.deleteCacheEntries p).cacheSeq = s.cacheSeq := rfl

@[simp] theorem deleteCacheDeps_cache (p : CacheDependencyEntity → Bool) :
    (s.deleteCacheDeps p).cache = s.cache := rfl

@[simp] theorem deleteCacheDeps_values (p : CacheDependencyEntity → Bool) :
    (s.deleteCacheDeps p).values = s.values := rfl

@[simp] theorem deleteCacheDeps_keys (p : CacheDependencyEntity → Bool) :
    (s.deleteCacheDeps p).keys = s.keys := rfl

@[simp] theorem deleteCacheDeps_cacheSeq (p : CacheDependencyEntity → Bool) :
    (s.deleteCacheDeps p).cacheSeq = s.cacheSeq := rfl

@[simp] theorem deleteValues_values (p : ValueEntity → Bool) :
    (s.deleteValues p).values = s.values.filter fun v => !p v := rfl

@[simp] theorem deleteValues_cache (p : ValueEntity → Bool) :
    (s.deleteValues p).cache = s.cache := rfl

@[simp] theorem deleteValues_cacheDeps (p : ValueEntity → Bool) :
    (s.deleteValues p).cacheDeps = s.cacheDeps := rfl

@[simp] theorem deleteValues_keys (p : ValueEntity → Bool) :
    (s.deleteValues p).keys = s.keys := rfl

@[simp] theorem deleteValues_cacheSeq (p : ValueEntity → Bool) :
    (s.deleteValues p).cacheSeq = s.cacheSeq := rfl

@[simp] theorem deleteKeys_keys (p : KeyEntity → Bool) :
    (s.deleteKeys p).keys = s.keys.filter fun k => !p k := rfl

@[simp] theorem deleteKeys_cache (p : KeyEntity → Bool) : (s.deleteKeys p).cache = s.cache := rfl

@[simp] theorem deleteKeys_cacheDeps (p : KeyEntity → Bool) :
    (s.deleteKeys p).cacheDeps = s.cacheDeps := rfl

@[simp] theorem deleteKeys_cacheSeq (p : KeyEntity → Bool) :
    (s.deleteKeys p).cacheSeq = s.cacheSeq := rfl

/-- A dependency the cascade of a cache delete keeps names no entry it deleted. -/
theorem mem_deleteCacheEntries_cacheDeps {p : CacheEntryEntity → Bool}
    {d : CacheDependencyEntity} :
    d ∈ (s.deleteCacheEntries p).cacheDeps ↔
      d ∈ s.cacheDeps ∧ ∀ e ∈ s.cache, p e = true → ¬(e.label = d.label ∧ e.runtimeID = d.runtimeID) := by
  simp [deleteCacheEntries]

end ConfigStore

/-! ## Invalidation -/

namespace CacheDependencyManager

open ConfigStore DefaultInventory

variable {s : ConfigStore} {sel : Selector}

/-- An invalidation takes the entries whose ID a selected dependency holds, their dependencies
by the cascade, and the dependencies that hold such an ID. -/
theorem invalidate_eq (sel : Selector) (s : ConfigStore) :
    invalidate sel s =
      let ids := cacheIDsCSV (s.cacheDeps.filter sel.matches)
      (s.deleteCacheEntries fun e => e.id ∈ ids).deleteCacheDeps fun d => d.cacheID ∈ ids := by
  unfold invalidate
  dsimp only
  split
  · rename_i hnone
    -- with no selected dependency there is no ID to delete
    cases s
    simp [hnone, cacheIDsCSV, deleteCacheEntries, deleteCacheDeps]
  · rfl

@[simp] theorem invalidate_values : (invalidate sel s).values = s.values := by
  simp [invalidate_eq]

@[simp] theorem invalidate_keys : (invalidate sel s).keys = s.keys := by
  simp [invalidate_eq]

@[simp] theorem invalidate_cacheSeq : (invalidate sel s).cacheSeq = s.cacheSeq := by
  simp [invalidate_eq]

@[simp] theorem invalidate_keySeq : (invalidate sel s).keySeq = s.keySeq := by
  simp [invalidate_eq, deleteCacheEntries, deleteCacheDeps]

@[simp] theorem invalidate_valueSeq : (invalidate sel s).valueSeq = s.valueSeq := by
  simp [invalidate_eq, deleteCacheEntries, deleteCacheDeps]

theorem mem_cacheIDsCSV {deps : List CacheDependencyEntity} {id : Int} :
    id ∈ cacheIDsCSV deps ↔ ∃ d ∈ deps, d.cacheID = id := by
  rw [cacheIDsCSV, List.mem_dedup, List.mem_map]

theorem mem_invalidate_cache {e : CacheEntryEntity} :
    e ∈ (invalidate sel s).cache ↔
      e ∈ s.cache ∧ ∀ d ∈ s.cacheDeps, sel.matches d = true → d.cacheID ≠ e.id := by
  simp only [invalidate_eq, deleteCacheDeps_cache, deleteCacheEntries_cache, List.mem_filter,
    Bool.not_eq_true', decide_eq_false_iff_not, mem_cacheIDsCSV]
  simp

theorem mem_invalidate_cacheDeps {d : CacheDependencyEntity} :
    d ∈ (invalidate sel s).cacheDeps ↔
      d ∈ (s.deleteCacheEntries fun e => e.id ∈ cacheIDsCSV (s.cacheDeps.filter sel.matches)
        ).cacheDeps ∧ ∀ d' ∈ s.cacheDeps, sel.matches d' = true → d'.cacheID ≠ d.cacheID := by
  rw [invalidate_eq]
  simp [deleteCacheDeps, mem_cacheIDsCSV]

/-- `record.Exec` adds dependencies on the entry it is given, and writes nothing else. -/
theorem record_eq {cacheEntry : CacheEntryEntity} {cacheDeps : List ValueEntity} {s' : ConfigStore}
    (h : record cacheEntry cacheDeps s = .ok s') :
    s'.values = s.values ∧ s'.keys = s.keys ∧ s'.cache = s.cache ∧
      ∀ d ∈ s'.cacheDeps, d ∈ s.cacheDeps ∨
        d.label = cacheEntry.label ∧ d.runtimeID = cacheEntry.runtimeID ∧
          d.cacheID = cacheEntry.id := by
  unfold record at h
  split at h
  · cases h
  -- the loop inserts one dependency on the entry for each value; induction on the values left
  induction cacheDeps generalizing s with
  | nil =>
    cases h
    exact ⟨rfl, rfl, rfl, fun d hd => .inl hd⟩
  | cons value values ih =>
    rw [List.foldlM_cons] at h
    obtain ⟨s₁, hinsert, hrest⟩ := bind_eq_ok h
    obtain ⟨hvalues, hkeys, hcache, hdeps⟩ := ih hrest
    have hs₁ := insertCacheDep_eq hinsert
    subst hs₁
    refine ⟨hvalues, hkeys, hcache, fun d hd => ?_⟩
    rcases hdeps d hd with hmem | hsame
    · rcases List.mem_append.1 hmem with hold | hnew
      · exact .inl hold
      · rw [List.mem_singleton.1 hnew]
        exact .inr ⟨rfl, rfl, rfl⟩
    · exact .inr hsame

/-- `record.Exec` keeps the dependencies there are and the serial of the cache. -/
theorem record_frame {cacheEntry : CacheEntryEntity} {cacheDeps : List ValueEntity}
    {s' : ConfigStore} (h : record cacheEntry cacheDeps s = .ok s') :
    s'.cacheSeq = s.cacheSeq ∧ s.cacheDeps ⊆ s'.cacheDeps := by
  unfold record at h
  split at h
  · cases h
  -- induction on the values left, as in `record_eq`
  induction cacheDeps generalizing s with
  | nil =>
    cases h
    exact ⟨rfl, List.Subset.refl _⟩
  | cons value values ih =>
    rw [List.foldlM_cons] at h
    obtain ⟨s₁, hinsert, hrest⟩ := bind_eq_ok h
    obtain ⟨hseq, hdeps⟩ := ih hrest
    have hs₁ := insertCacheDep_eq hinsert
    subst hs₁
    exact ⟨hseq, List.Subset.trans (List.subset_append_left _ _) hdeps⟩

end CacheDependencyManager

namespace CacheRepository

open ConfigStore CacheDependencyManager DefaultInventory

variable {md5 : String → String} {s s' : ConfigStore}

@[simp] theorem invalidate_values (label runtimeID : String) :
    (invalidate label runtimeID s).values = s.values := by
  simp [invalidate]

@[simp] theorem invalidate_keys (label runtimeID : String) :
    (invalidate label runtimeID s).keys = s.keys := by
  simp [invalidate]

@[simp] theorem invalidateByID_values (id : Int) : (invalidateByID id s).values = s.values := by
  simp [invalidateByID]

@[simp] theorem invalidateByID_keys (id : Int) : (invalidateByID id s).keys = s.keys := by
  simp [invalidateByID]

/-- The transaction of `Add` stores the entry, then its dependencies. -/
theorem insertTx_eq {cacheEntry entry : CacheEntryEntity} {cacheDeps : List ValueEntity}
    (h : insertTx md5 cacheEntry cacheDeps s = .ok (s', entry)) :
    ∃ s₁, s.insertCacheEntry md5 cacheEntry = .ok (s₁, entry) ∧
      record entry cacheDeps s₁ = .ok s' := by
  unfold insertTx at h
  obtain ⟨⟨s₁, entry₁⟩, hinsert, h⟩ := bind_eq_ok h
  obtain ⟨s₂, hrecord, h⟩ := bind_eq_ok h
  cases h
  exact ⟨s₁, hinsert, hrecord⟩

theorem insertTx_values_keys {cacheEntry entry : CacheEntryEntity} {cacheDeps : List ValueEntity}
    (h : insertTx md5 cacheEntry cacheDeps s = .ok (s', entry)) :
    s'.values = s.values ∧ s'.keys = s.keys := by
  obtain ⟨s₁, hinsert, hrecord⟩ := insertTx_eq h
  obtain ⟨-, hs₁, -⟩ := insertCacheEntry_eq hinsert
  obtain ⟨hvalues, hkeys, -⟩ := record_eq hrecord
  subst hs₁
  exact ⟨hvalues, hkeys⟩

/-- `Add` commits its transaction, or not, on the store or on the store without the outdated
entry, which an invalidation of its own has already deleted. -/
theorem add_cases (cacheEntry : CacheEntryEntity) (cacheDeps : List ValueEntity) :
    ∃ s₀, (s₀ = s ∨ ∃ id, s₀ = invalidateByID id s) ∧
      ((add md5 cacheEntry cacheDeps s).1 = s₀ ∨
        ∃ entry, insertTx md5 cacheEntry cacheDeps s₀ =
          .ok ((add md5 cacheEntry cacheDeps s).1, entry)) := by
  unfold add
  dsimp only
  split
  case h_1 inCache _ =>
    split
    case isTrue => exact ⟨s, .inl rfl, .inl rfl⟩
    case isFalse =>
      -- the outdated entry is invalidated whether or not the new one is stored
      cases htx : insertTx md5 cacheEntry cacheDeps (invalidateByID inCache.id s) with
      | ok r => exact ⟨_, .inr ⟨_, rfl⟩, .inr ⟨r.2, htx⟩⟩
      | error e => exact ⟨_, .inr ⟨_, rfl⟩, .inl rfl⟩
  case h_2 =>
    cases htx : insertTx md5 cacheEntry cacheDeps s with
    | ok r => exact ⟨s, .inl rfl, .inr ⟨r.2, htx⟩⟩
    | error e => exact ⟨s, .inl rfl, .inl rfl⟩

/-- `Add` writes the cache only. -/
theorem add_values_keys (cacheEntry : CacheEntryEntity) (cacheDeps : List ValueEntity) :
    (add md5 cacheEntry cacheDeps s).1.values = s.values ∧
      (add md5 cacheEntry cacheDeps s).1.keys = s.keys := by
  obtain ⟨s₀, hs₀, hadd⟩ := @add_cases md5 s cacheEntry cacheDeps
  -- the outdated entry's invalidation writes the cache only, too
  have hvalues₀ : s₀.values = s.values ∧ s₀.keys = s.keys := by
    rcases hs₀ with rfl | ⟨id, rfl⟩
    · exact ⟨rfl, rfl⟩
    · exact ⟨invalidateByID_values id, invalidateByID_keys id⟩
  rcases hadd with hsame | ⟨entry, htx⟩
  · rw [hsame]
    exact hvalues₀
  · obtain ⟨hvalues, hkeys⟩ := insertTx_values_keys htx
    exact ⟨hvalues.trans hvalues₀.1, hkeys.trans hvalues₀.2⟩

end CacheRepository

/-! ## The calls of the key-value repository -/

namespace KvRepository

open ConfigStore DefaultInventory

variable {s s' : ConfigStore}

theorem key_eq {name : String} {version : Int} {k : KeyEntity}
    (h : key s name version = .ok k) : k ∈ s.keys ∧ k.key = name ∧ k.version = version := by
  unfold key at h
  split at h
  case h_1 k' hfind =>
    cases h
    have hmatch := List.find?_some hfind
    simp only [Bool.decide_and, Bool.and_eq_true, decide_eq_true_eq] at hmatch
    exact ⟨List.mem_of_find?_eq_some hfind, hmatch⟩
  case h_2 => cases h

/-- What `CreateValue` checks: the value it stores is the one it was given, with the data type
of its key version, which validates it. -/
theorem checkValue_eq {evalBool : String → TypedValue → Except String Bool}
    {value value' : ValueEntity} (h : checkValue evalBool value s = .ok value') :
    value'.key = value.key ∧ value'.keyVersion = value.keyVersion ∧ value'.bucket = value.bucket ∧
      value'.value = value.value ∧
      ∃ k ∈ s.keys, k.key = value'.key ∧ k.version = value'.keyVersion ∧
        value'.dataType = some k.dataType ∧ k.validate evalBool value'.value = .ok () := by
  unfold checkValue at h
  obtain ⟨k, hkey, h⟩ := bind_eq_ok h
  obtain ⟨hk, hname, hversion⟩ := key_eq hkey
  -- the validation of the value, once its data type is known
  have hvalidated : ∀ typed : ValueEntity,
      ((k.validate evalBool typed.value).mapError ConfigError.invalidValue >>= fun _ => pure typed) =
        .ok value' → value' = typed ∧ k.validate evalBool typed.value = .ok () := by
    intro typed htyped
    obtain ⟨u, hvalid, hpure⟩ := bind_eq_ok htyped
    cases hpure
    cases hv : k.validate evalBool value'.value with
    | error e =>
      rw [hv] at hvalid
      cases hvalid
    | ok u => exact ⟨rfl, rfl⟩
  dsimp only at h
  split at h
  case h_1 =>
    obtain ⟨rfl, hvalidate⟩ := hvalidated { value with dataType := some k.dataType } h
    exact ⟨rfl, rfl, rfl, rfl, k, hk, hname, hversion, rfl, hvalidate⟩
  case h_2 dataType hdt =>
    split at h
    case isTrue => cases h
    case isFalse hne =>
      obtain ⟨rfl, hvalidate⟩ := hvalidated value h
      exact ⟨rfl, rfl, rfl, rfl, k, hk, hname, hversion, by rw [hdt, not_not.mp hne], hvalidate⟩

theorem insertValueTx_eq {value v : ValueEntity} {now : Nat}
    (h : insertValueTx value now s = .ok (s', v)) :
    ∃ s₁, s.insertValue value now = .ok (s₁, v) ∧
      s' = CacheDependencyManager.invalidate { bucket := some v.bucket, key := some v.key } s₁ := by
  unfold insertValueTx at h
  obtain ⟨⟨s₁, v₁⟩, hinsert, h⟩ := bind_eq_ok h
  cases h
  exact ⟨s₁, hinsert, rfl⟩

/-- `CreateKey` stores the key, or leaves the store as it is. -/
theorem createKey_cases (key : KeyEntity) :
    (createKey key s).1 = s ∨ ∃ k, s.insertKey key = .ok ((createKey key s).1, k) := by
  unfold createKey
  dsimp only
  -- an equal latest key keeps the store; otherwise `store` commits the insert or keeps it
  split
  case h_1 =>
    split
    case isTrue => exact .inl rfl
    case isFalse =>
      cases hinsert : s.insertKey key with
      | ok r => exact .inr ⟨r.2, rfl⟩
      | error e => exact .inl rfl
  case h_2 =>
    cases hinsert : s.insertKey key with
    | ok r => exact .inr ⟨r.2, rfl⟩
    | error e => exact .inl rfl

/-- `CreateKey` writes the keys only, and keeps each one there is. -/
theorem createKey_frame (key : KeyEntity) :
    (createKey key s).1.values = s.values ∧ (createKey key s).1.cache = s.cache ∧
      (createKey key s).1.cacheDeps = s.cacheDeps ∧ (createKey key s).1.cacheSeq = s.cacheSeq ∧
      s.keys ⊆ (createKey key s).1.keys := by
  rcases createKey_cases key with hsame | ⟨k, hinsert⟩
  · rw [hsame]
    exact ⟨rfl, rfl, rfl, rfl, List.Subset.refl _⟩
  · obtain ⟨-, hs'⟩ := insertKey_eq hinsert
    rw [hs']
    exact ⟨rfl, rfl, rfl, rfl, List.subset_append_left _ _⟩

/-- `CreateValue` stores a checked value and invalidates the entries that used the old one, or
leaves the store as it is. -/
theorem createValue_cases (evalBool : String → TypedValue → Except String Bool)
    (value : ValueEntity) (now : Nat) :
    (createValue evalBool value now s).1 = s ∨
      ∃ value' s₁ v, checkValue evalBool value s = .ok value' ∧
        s.insertValue value' now = .ok (s₁, v) ∧
        (createValue evalBool value now s).1 =
          CacheDependencyManager.invalidate { bucket := some v.bucket, key := some v.key } s₁ := by
  unfold createValue
  dsimp only
  -- an equal latest value keeps the store; otherwise `store` commits the transaction or not
  split
  case h_1 =>
    split
    case isTrue => exact .inl rfl
    case isFalse =>
      cases htx : (checkValue evalBool value s >>= fun value => insertValueTx value now s) with
      | ok r =>
        obtain ⟨value', hcheck, htx'⟩ := bind_eq_ok htx
        obtain ⟨s₁, hinsert, hs'⟩ := insertValueTx_eq htx'
        exact .inr ⟨value', s₁, r.2, hcheck, hinsert, hs'⟩
      | error e => exact .inl rfl
  case h_2 =>
    cases htx : (checkValue evalBool value s >>= fun value => insertValueTx value now s) with
    | ok r =>
      obtain ⟨value', hcheck, htx'⟩ := bind_eq_ok htx
      obtain ⟨s₁, hinsert, hs'⟩ := insertValueTx_eq htx'
      exact .inr ⟨value', s₁, r.2, hcheck, hinsert, hs'⟩
    | error e => exact .inl rfl

theorem mem_deleteKey_keys {name : String} {k : KeyEntity} :
    k ∈ (deleteKey name s).keys ↔ k ∈ s.keys ∧ k.key ≠ name := by
  simp [deleteKey]

theorem mem_deleteKey_values {name : String} {v : ValueEntity}
    (h : v ∈ (deleteKey name s).values) : v ∈ s.values ∧ v.key ≠ name := by
  simp only [deleteKey, deleteKeys, deleteValues_values, CacheDependencyManager.invalidate_values,
    List.mem_filter] at h
  simp_all

/-- After `DeleteKey` the key has no version, no value in any bucket, no cache dependency, and
no entry that depended on one of its values is left. -/
theorem deleteKey_removes (key : String) (s : ConfigStore) :
    (∀ k ∈ (deleteKey key s).keys, k.key ≠ key) ∧
      (∀ bucket, latestValue (deleteKey key s) bucket key = .error (.notFound "config_values")) ∧
      (∀ d ∈ (deleteKey key s).cacheDeps, d.key ≠ key) ∧
      ∀ d ∈ s.cacheDeps, d.key = key → ∀ e ∈ (deleteKey key s).cache, e.id ≠ d.cacheID := by
  -- the cache is written by the invalidation only
  have hcache : (deleteKey key s).cache =
      (CacheDependencyManager.invalidate { key := some key } s).cache := rfl
  have hdeps : (deleteKey key s).cacheDeps =
      (CacheDependencyManager.invalidate { key := some key } s).cacheDeps := rfl
  refine ⟨fun k hk => (mem_deleteKey_keys.1 hk).2, fun bucket => ?_, fun d hd hkey => ?_,
    fun d hd hkey e he hid => ?_⟩
  · have hnone : ((deleteKey key s).values.filter fun v => v.key = key ∧ v.bucket = bucket) = [] := by
      rw [List.filter_eq_nil_iff]
      intro v hv hsel
      exact (mem_deleteKey_values hv).2 (of_decide_eq_true hsel).1
    unfold latestValue
    rw [hnone]
    rfl
  · -- a dependency on the key is selected, so its own ID takes it
    rw [hdeps, CacheDependencyManager.mem_invalidate_cacheDeps] at hd
    obtain ⟨hkept, hspared⟩ := hd
    have hd' : d ∈ s.cacheDeps := (mem_deleteCacheEntries_cacheDeps.1 hkept).1
    exact hspared d hd' (by simp [Selector.matches, hkey]) rfl
  · rw [hcache, CacheDependencyManager.mem_invalidate_cache] at he
    exact he.2 d hd (by simp [Selector.matches, hkey]) hid.symm

end KvRepository

end Reconciler
