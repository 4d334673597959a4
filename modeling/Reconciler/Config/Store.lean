import Reconciler.Config.Entity
import Reconciler.Cluster.Selection
import Reconciler.Lib.Transition

/-!
# The configuration store

`kv.Repository` (`pkg/kv/repository.go`) keeps versioned configuration keys and the values of
keys in buckets; `cache.Repository` (`pkg/cache/repository.go`) keeps cache entries computed
from values, and the `cacheDependencyManager` (`pkg/repository/cachedep.go`) records which values
an entry was computed from.  A write of a value invalidates the entries that depend on it.

The four tables are those of `configs/db/postgres`: a `SERIAL` gives every key and value its
version and every cache entry its ID; a value refers to its key version, and a dependency to its
entry by label and runtime, both `ON DELETE CASCADE`; `(label, runtime_id)` is the key of the
cache, and `(bucket, key, label, runtime_id)` that of the dependencies.  Each call runs its
statements in one transaction: it writes all of them or, on an error, none.  The queries
themselves do not fail, and `ORDER BY` on a text column orders by code points.
-/

namespace Reconciler

/-- The tables `config_keys`, `config_values`, `config_cache` and `config_cachedeps`, with the
next value of each `SERIAL`. -/
structure ConfigStore where
  keys : List KeyEntity
  values : List ValueEntity
  cache : List CacheEntryEntity
  cacheDeps : List CacheDependencyEntity
  keySeq : Int
  valueSeq : Int
  cacheSeq : Int

/-- The columns an invalidation or a lookup of dependencies selects on: `With*` sets one, and
`none` is a column left out. -/
structure Selector where
  bucket : Option String := none
  key : Option String := none
  label : Option String := none
  runtimeID : Option String := none
  cacheID : Option Int := none

/-- `Where(selector)` on a dependency; the empty selector selects every row. -/
def Selector.matches (sel : Selector) (d : CacheDependencyEntity) : Bool :=
  sel.bucket.all (· = d.bucket) && sel.key.all (· = d.key) && sel.label.all (· = d.label) &&
    sel.runtimeID.all (· = d.runtimeID) && sel.cacheID.all (· = d.cacheID)

/-! ## The `notNull` columns -/

/-- `ColumnHandler.Validate`: the names of the `notNull` columns whose value is undefined. -/
def undefinedColumns (columns : List (String × Bool)) : List String :=
  columns.filterMap fun column => if column.2 then some column.1 else none

/-- The `notNull` columns of a key. -/
def KeyEntity.undefinedFields (k : KeyEntity) : List String :=
  undefinedColumns [("Key", k.key == ""), ("Username", k.username == "")]

/-- The `notNull` columns of a value. -/
def ValueEntity.undefinedFields (v : ValueEntity) : List String :=
  undefinedColumns [("Key", v.key == ""), ("KeyVersion", v.keyVersion == 0),
    ("Bucket", v.bucket == ""), ("Value", v.value == ""), ("DataType", v.dataType.isNone),
    ("Username", v.username == "")]

/-- The `notNull` columns of a cache entry. -/
def CacheEntryEntity.undefinedFields (e : CacheEntryEntity) : List String :=
  undefinedColumns [("Label", e.label == ""), ("RuntimeID", e.runtimeID == ""),
    ("Data", e.data == ""), ("Checksum", e.checksum == "")]

/-- The `notNull` columns of a dependency. -/
def CacheDependencyEntity.undefinedFields (d : CacheDependencyEntity) : List String :=
  undefinedColumns [("Bucket", d.bucket == ""), ("Key", d.key == ""), ("Label", d.label == ""),
    ("RuntimeID", d.runtimeID == ""), ("CacheID", d.cacheID == 0)]

namespace ConfigStore

/-- The empty tables. -/
def empty : ConfigStore := ⟨[], [], [], [], 1, 1, 1⟩

/-! ## Statements -/

/-- An `INSERT` into `config_keys`: the serial gives the version. -/
def insertKey (s : ConfigStore) (key : KeyEntity) : Except ConfigError (ConfigStore × KeyEntity) :=
  match key.undefinedFields with
  | [] =>
    let key := { key with version := s.keySeq }
    .ok ({ s with keys := s.keys ++ [key], keySeq := s.keySeq + 1 }, key)
  | fields => .error (.undefinedFields fields)

/-- An `INSERT` into `config_values`: the marshaller checks the bucket name, the serial gives
the version, and the key version has to exist. -/
def insertValue (s : ConfigStore) (value : ValueEntity) (now : Nat) :
    Except ConfigError (ConfigStore × ValueEntity) := do
  if value.bucket ≠ "" then
    (validateBucketName value.bucket).mapError .invalidValue
  match value.undefinedFields with
  | [] => pure ()
  | fields => throw (.undefinedFields fields)
  if !s.keys.any fun k => k.key = value.key ∧ k.version = value.keyVersion then
    throw (.constraintViolation "config_values_key_fkey")
  let value := { value with version := s.valueSeq, created := now }
  pure ({ s with values := s.values ++ [value], valueSeq := s.valueSeq + 1 }, value)

/-- An `INSERT` into `config_cache`: the serial gives the ID and the marshaller the checksum. -/
def insertCacheEntry (md5 : String → String) (s : ConfigStore) (cacheEntry : CacheEntryEntity) :
    Except ConfigError (ConfigStore × CacheEntryEntity) :=
  let entry := { cacheEntry with id := s.cacheSeq, checksum := md5 cacheEntry.data }
  match entry.undefinedFields with
  | [] =>
    if s.cache.any fun e => e.label = entry.label ∧ e.runtimeID = entry.runtimeID then
      .error (.constraintViolation "config_cache_pk")
    else .ok ({ s with cache := s.cache ++ [entry], cacheSeq := s.cacheSeq + 1 }, entry)
  | fields => .error (.undefinedFields fields)

/-- An `INSERT` into `config_cachedeps`, under its key and its foreign key to the cache. -/
def insertCacheDep (s : ConfigStore) (d : CacheDependencyEntity) : Except ConfigError ConfigStore :=
  match d.undefinedFields with
  | [] =>
    if s.cacheDeps.any fun d' => d'.bucket = d.bucket ∧ d'.key = d.key ∧ d'.label = d.label ∧
        d'.runtimeID = d.runtimeID then
      .error (.constraintViolation "config_cachedep_pk")
    else if !s.cache.any fun e => e.label = d.label ∧ e.runtimeID = d.runtimeID then
      .error (.constraintViolation "config_cachedeps_label_cluster_fkey")
    else .ok { s with cacheDeps := s.cacheDeps ++ [d] }
  | fields => .error (.undefinedFields fields)

/-- A `DELETE` on `config_cache`, which takes the dependencies of the entries it deletes. -/
def deleteCacheEntries (s : ConfigStore) (p : CacheEntryEntity → Bool) : ConfigStore :=
  let removed := s.cache.filter p
  { s with
    cache := s.cache.filter fun e => !p e
    cacheDeps := s.cacheDeps.filter fun d =>
      !removed.any fun e => e.label = d.label ∧ e.runtimeID = d.runtimeID }

/-- A `DELETE` on `config_cachedeps`. -/
def deleteCacheDeps (s : ConfigStore) (p : CacheDependencyEntity → Bool) : ConfigStore :=
  { s with cacheDeps := s.cacheDeps.filter fun d => !p d }

/-- A `DELETE` on `config_values`. -/
def deleteValues (s : ConfigStore) (p : ValueEntity → Bool) : ConfigStore :=
  { s with values := s.values.filter fun v => !p v }

/-- A `DELETE` on `config_keys`, which takes the values of the key versions it deletes. -/
def deleteKeys (s : ConfigStore) (p : KeyEntity → Bool) : ConfigStore :=
  let removed := s.keys.filter p
  { s with
    keys := s.keys.filter fun k => !p k
    values := s.values.filter fun v =>
      !removed.any fun k => k.key = v.key ∧ k.version = v.keyVersion }

end ConfigStore

/-! ## Reads -/

section Reads

open DefaultInventory

variable {α γ : Type} [DecidableEq γ]

/-- `WHERE version IN (SELECT MAX(version) FROM … WHERE p GROUP BY group)`: the rows whose
version is the greatest of a group of the rows that `p` selects. -/
def latestIn (version : α → Int) (group : α → γ) (p : α → Bool) (rows : List α) : List α :=
  let selected := rows.filter p
  let maxVersions := (selected.map group).dedup.filterMap fun g =>
    (newest version (selected.filter fun x => group x = g)).map version
  rows.filter fun x => version x ∈ maxVersions

end Reads

namespace KvRepository

open ConfigStore DefaultInventory

/-- `Keys`: the latest version of every key, ordered by key. -/
def keys (s : ConfigStore) : List KeyEntity :=
  (latestIn (·.version) (·.key) (fun _ => true) s.keys).insertionSort fun a b => a.key ≤ b.key

/-- `KeyHistory`: the versions of a key, oldest first. -/
def keyHistory (s : ConfigStore) (key : String) : List KeyEntity :=
  (s.keys.filter (·.key = key)).insertionSort fun a b => a.version ≤ b.version

/-- `LatestKey`. -/
def latestKey (s : ConfigStore) (key : String) : Except ConfigError KeyEntity :=
  match newest (·.version) (s.keys.filter (·.key = key)) with
  | some k => .ok k
  | none => .error (.notFound "config_keys")

/-- `KeyByVersion`. -/
def keyByVersion (s : ConfigStore) (version : Int) : Except ConfigError KeyEntity :=
  match s.keys.find? (·.version = version) with
  | some k => .ok k
  | none => .error (.notFound "config_keys")

/-- `Key`. -/
def key (s : ConfigStore) (key : String) (version : Int) : Except ConfigError KeyEntity :=
  match s.keys.find? fun k => k.key = key ∧ k.version = version with
  | some k => .ok k
  | none => .error (.notFound "config_keys")

/-- `ValuesByBucket`: the latest value of every key in the bucket, ordered by key. -/
def valuesByBucket (s : ConfigStore) (bucket : String) : List ValueEntity :=
  (latestIn (·.version) (·.key) (·.bucket = bucket) s.values).insertionSort
    fun a b => a.key ≤ b.key

/-- `ValuesByKey`: the latest value of the key version in every bucket, ordered by bucket. -/
def valuesByKey (s : ConfigStore) (key : KeyEntity) : List ValueEntity :=
  (latestIn (·.version) (fun v => (v.key, v.bucket))
      (fun v => v.key = key.key ∧ v.keyVersion = key.version) s.values).insertionSort
    fun a b => a.bucket ≤ b.bucket

/-- `ValueHistory`: the values of a key in a bucket, oldest first. -/
def valueHistory (s : ConfigStore) (bucket key : String) : List ValueEntity :=
  (s.values.filter fun v => v.bucket = bucket ∧ v.key = key).insertionSort
    fun a b => a.version ≤ b.version

/-- `LatestValue`. -/
def latestValue (s : ConfigStore) (bucket key : String) : Except ConfigError ValueEntity :=
  match newest (·.version) (s.values.filter fun v => v.key = key ∧ v.bucket = bucket) with
  | some v => .ok v
  | none => .error (.notFound "config_values")

/-- `Value`. -/
def value (s : ConfigStore) (bucket key : String) (version : Int) : Except ConfigError ValueEntity :=
  match s.values.find? fun v => v.bucket = bucket ∧ v.key = key ∧ v.version = version with
  | some v => .ok v
  | none => .error (.notFound "config_values")

/-- `model.BucketEntity`: a row of `config_values` read for its bucket. -/
structure BucketEntity where
  bucket : String
  created : Nat
  username : String
  deriving DecidableEq, Repr

/-- `bucketNames`: the buckets of the values, ordered. -/
def bucketNames (s : ConfigStore) : List String :=
  (s.values.map (·.bucket)).dedup.insertionSort fun a b => a ≤ b

/-- `Buckets`: for each bucket, its value created first. -/
def buckets (s : ConfigStore) : List BucketEntity :=
  bucketNames s |>.filterMap fun bucketName =>
    ((s.values.filter (·.bucket = bucketName)).insertionSort
        fun a b => a.created ≤ b.created).head?.map
      fun v => { bucket := v.bucket, created := v.created, username := v.username }

end KvRepository

namespace CacheDependencyManager

open ConfigStore

/-- `cacheIDsCSV`: the cache IDs of the dependencies, each once. -/
def cacheIDsCSV (deps : List CacheDependencyEntity) : List Int :=
  (deps.map (·.cacheID)).dedup

/-- `invalidate.Exec`: the entries that a selected dependency names, with their dependencies. -/
def invalidate (sel : Selector) (s : ConfigStore) : ConfigStore :=
  let deps := s.cacheDeps.filter sel.matches
  if deps = [] then s
  else
    let ids := cacheIDsCSV deps
    (s.deleteCacheEntries fun e => e.id ∈ ids).deleteCacheDeps fun d => d.cacheID ∈ ids

/-- `record.Exec`: one dependency of the stored entry on each value. -/
def record (cacheEntry : CacheEntryEntity) (cacheDeps : List ValueEntity) (s : ConfigStore) :
    Except ConfigError ConfigStore :=
  if cacheEntry.id ≤ 0 then .error (.notPersisted cacheEntry)
  else
    cacheDeps.foldlM (fun s value => s.insertCacheDep
      { bucket := value.bucket, key := value.key, label := cacheEntry.label,
        runtimeID := cacheEntry.runtimeID, cacheID := cacheEntry.id }) s

/-- `get.Exec`. -/
def get (sel : Selector) (s : ConfigStore) : List CacheDependencyEntity :=
  s.cacheDeps.filter sel.matches

end CacheDependencyManager

namespace CacheRepository

open ConfigStore

variable (md5 : String → String)

/-- `All`. -/
def all (s : ConfigStore) : List CacheEntryEntity := s.cache

/-- `Get`. -/
def get (s : ConfigStore) (label runtimeID : String) : Except ConfigError CacheEntryEntity :=
  match s.cache.find? fun e => e.label = label ∧ e.runtimeID = runtimeID with
  | some e => .ok e
  | none => .error (.notFound "config_cache")

/-- `GetByID`. -/
def getByID (s : ConfigStore) (id : Int) : Except ConfigError CacheEntryEntity :=
  match s.cache.find? (·.id = id) with
  | some e => .ok e
  | none => .error (.notFound "config_cache")

/-- `Invalidate`: the entries that depend on the label and runtime, then the entry itself. -/
def invalidate (label runtimeID : String) (s : ConfigStore) : ConfigStore :=
  (CacheDependencyManager.invalidate { label := some label, runtimeID := some runtimeID } s
    ).deleteCacheEntries fun e => e.label = label ∧ e.runtimeID = runtimeID

/-- `InvalidateByID`. -/
def invalidateByID (id : Int) (s : ConfigStore) : ConfigStore :=
  (CacheDependencyManager.invalidate { cacheID := some id } s).deleteCacheEntries (·.id = id)

/-- The transaction of `Add`: the entry and the record of its dependencies. -/
def insertTx (cacheEntry : CacheEntryEntity) (cacheDeps : List ValueEntity) (s : ConfigStore) :
    Except ConfigError (ConfigStore × CacheEntryEntity) := do
  let (s, entry) ← s.insertCacheEntry md5 cacheEntry
  let s ← CacheDependencyManager.record entry cacheDeps s
  pure (s, entry)

/-- `Add`: an equal entry stays; an outdated one is invalidated in a transaction of its own
before the new one is stored. -/
def add (cacheEntry : CacheEntryEntity) (cacheDeps : List ValueEntity) (s : ConfigStore) :
    ConfigStore × Except ConfigError CacheEntryEntity :=
  let store (s : ConfigStore) : ConfigStore × Except ConfigError CacheEntryEntity :=
    match insertTx md5 cacheEntry cacheDeps s with
    | .ok (s', entry) => (s', .ok entry)
    | .error e => (s, .error e)
  match get s cacheEntry.label cacheEntry.runtimeID with
  | .ok inCache =>
    if inCache.equal md5 cacheEntry then (s, .ok inCache)
    else store (invalidateByID inCache.id s)
  | .error _ => store s

end CacheRepository

namespace KvRepository

open ConfigStore

/-- `CreateKey`: a key equal to its latest version is not stored again. -/
def createKey (key : KeyEntity) (s : ConfigStore) : ConfigStore × Except ConfigError KeyEntity :=
  let store : ConfigStore × Except ConfigError KeyEntity :=
    match s.insertKey key with
    | .ok (s', key) => (s', .ok key)
    | .error e => (s, .error e)
  match latestKey s key.key with
  | .ok existingKey => if existingKey.equal key then (s, .ok existingKey) else store
  | .error _ => store

/-- `DeleteKey`: the entries that use a value of the key, its values and its versions. -/
def deleteKey (key : String) (s : ConfigStore) : ConfigStore :=
  ((CacheDependencyManager.invalidate { key := some key } s).deleteValues (·.key = key)
    ).deleteKeys (·.key = key)

/-- What `CreateValue` checks before it stores a value: the key version exists, the data type
is the key's or given by it, and the key validates the value. -/
def checkValue (evalBool : String → TypedValue → Except String Bool) (value : ValueEntity)
    (s : ConfigStore) : Except ConfigError ValueEntity := do
  let key ← KvRepository.key s value.key value.keyVersion
  let value ← match value.dataType with
    | none => pure { value with dataType := some key.dataType }
    | some dataType =>
      if dataType ≠ key.dataType then throw (.invalidDataType key dataType) else pure value
  (key.validate evalBool value.value).mapError .invalidValue
  pure value

/-- The transaction of `CreateValue`: the value, and the invalidation of the entries that used
the old one. -/
def insertValueTx (value : ValueEntity) (now : Nat) (s : ConfigStore) :
    Except ConfigError (ConfigStore × ValueEntity) := do
  let (s, value) ← s.insertValue value now
  pure (CacheDependencyManager.invalidate
    { bucket := some value.bucket, key := some value.key } s, value)

/-- `CreateValue`: a value equal to the latest one is not stored again. -/
def createValue (evalBool : String → TypedValue → Except String Bool) (value : ValueEntity)
    (now : Nat) (s : ConfigStore) : ConfigStore × Except ConfigError ValueEntity :=
  let store : ConfigStore × Except ConfigError ValueEntity :=
    match checkValue evalBool value s >>= fun value => insertValueTx value now s with
    | .ok (s', value) => (s', .ok value)
    | .error e => (s, .error e)
  match latestValue s value.bucket value.key with
  | .ok existingValue => if existingValue.equal value then (s, .ok existingValue) else store
  | .error _ => store

/-- `DeleteValue`: the entries that use a value of the key in the bucket, and those values. -/
def deleteValue (key bucket : String) (s : ConfigStore) : ConfigStore :=
  (CacheDependencyManager.invalidate { bucket := some bucket, key := some key } s).deleteValues
    fun v => v.key = key ∧ v.bucket = bucket

/-- `DeleteBucket`: the entries that use a value of the bucket, and its values (the table of
`BucketEntity` is `config_values`). -/
def deleteBucket (bucket : String) (s : ConfigStore) : ConfigStore :=
  (CacheDependencyManager.invalidate { bucket := some bucket } s).deleteValues (·.bucket = bucket)

end KvRepository

/-! ## Runs -/

namespace ConfigStore

/-- One call of a writer of the store, with the validators run by `evalBool` and the checksum
`md5`. -/
inductive Step (evalBool : String → TypedValue → Except String Bool) (md5 : String → String) :
    ConfigStore → ConfigStore → Prop
  | createKey (s : ConfigStore) (key : KeyEntity) :
      Step evalBool md5 s (KvRepository.createKey key s).1
  | deleteKey (s : ConfigStore) (key : String) : Step evalBool md5 s (KvRepository.deleteKey key s)
  | createValue (s : ConfigStore) (value : ValueEntity) (now : Nat) :
      Step evalBool md5 s (KvRepository.createValue evalBool value now s).1
  | deleteValue (s : ConfigStore) (key bucket : String) :
      Step evalBool md5 s (KvRepository.deleteValue key bucket s)
  | deleteBucket (s : ConfigStore) (bucket : String) :
      Step evalBool md5 s (KvRepository.deleteBucket bucket s)
  | add (s : ConfigStore) (cacheEntry : CacheEntryEntity) (cacheDeps : List ValueEntity) :
      Step evalBool md5 s (CacheRepository.add md5 cacheEntry cacheDeps s).1
  | invalidate (s : ConfigStore) (label runtimeID : String) :
      Step evalBool md5 s (CacheRepository.invalidate label runtimeID s)
  | invalidateByID (s : ConfigStore) (id : Int) :
      Step evalBool md5 s (CacheRepository.invalidateByID id s)

end ConfigStore

end Reconciler
