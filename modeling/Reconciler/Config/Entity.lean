import Reconciler.Lib.Regex
import Reconciler.Kubernetes.Resource
import Mathlib.Algebra.Group.Int.Defs

/-!
# The entities of the configuration store

The rows of the tables `config_keys`, `config_values`, `config_cache` and `config_cachedeps`
(`pkg/model`), and what the store checks of them: a value is read through the data type of its
key (`DataType.Get`, with `strconv.ParseBool` and `strconv.ParseInt`), a key validates a value
by its data type and its validator (`KeyEntity.Validate`), a bucket name has to match
`bucketPattern`, and an insert refuses a row whose `notNull` fields are undefined
(`ColumnHandler.Validate`).

A validator is Go source that `yaegi` evaluates with the typed value bound to `it` and `value`;
the interpreter is a parameter `evalBool`.  The MD5 sum of a cache entry's data is a parameter
`md5`.  `strings.ToLower` is `toLower`, on the letters of ASCII: the only ones a lowered text
needs to be one of the names `NewDataType` or the texts `strconv.ParseBool` accepts.
-/

namespace Reconciler

/-! ## Data types -/

/-- `model.DataType`. -/
inductive DataType
  | string
  | integer
  | boolean
  deriving DecidableEq, Repr

/-- The value `DataType.Get` returns: the text, an `int64` or a `bool`. -/
inductive TypedValue
  | string (s : String)
  | integer (i : Int)
  | boolean (b : Bool)
  deriving DecidableEq, Repr

/-- `strconv.ParseBool`. -/
def parseBool (str : String) : Option Bool :=
  match str with
  | "1" | "t" | "T" | "TRUE" | "true" | "True" => some true
  | "0" | "f" | "F" | "FALSE" | "false" | "False" => some false
  | _ => none

/-- The digits of a decimal number, most significant first. -/
def decimalValue (digits : List Char) : Nat :=
  digits.foldl (fun n c => 10 * n + (c.toNat - '0'.toNat)) 0

/-- `strconv.ParseInt(s, 10, 64)`: a sign, then decimal digits, in the range of `int64`. -/
def parseInt (s : String) : Option Int :=
  let (neg, digits) : Bool × List Char :=
    match s.toList with
    | '+' :: digits => (false, digits)
    | '-' :: digits => (true, digits)
    | digits => (false, digits)
  if digits = [] ∨ !digits.all Char.isDigit then none
  else
    let n : Int := decimalValue digits
    let v := if neg then -n else n
    if -2 ^ 63 ≤ v ∧ v < 2 ^ 63 then some v else none

namespace DataType

/-- The text of a data type. -/
def toString : DataType → String
  | .string => "string"
  | .integer => "integer"
  | .boolean => "boolean"

/-- `NewDataType`: the name of a data type, in any case. -/
def new (dataType : String) : Except String DataType :=
  match toLower dataType with
  | "string" => .ok .string
  | "integer" => .ok .integer
  | "boolean" => .ok .boolean
  | _ => .error ("DataType '" ++ dataType ++ "' is not supported")

/-- `fireParseError`. -/
def fireParseError (dt : DataType) (value : String) : String :=
  "Value '" ++ value ++ "' is not compatible with DataType '" ++ dt.toString ++ "'"

/-- `DataType.Get`: the value read as the data type. -/
def get (dt : DataType) (value : String) : Except String TypedValue :=
  match dt with
  | .boolean =>
    match parseBool (toLower value) with
    | some b => .ok (.boolean b)
    | none => .error (dt.fireParseError value)
  | .integer =>
    match parseInt value with
    | some i => .ok (.integer i)
    | none => .error (dt.fireParseError value)
  | .string => .ok (.string value)

end DataType

/-! ## Keys and values -/

/-- `model.KeyEntity`, without the creation time. -/
structure KeyEntity where
  key : String
  version : Int := 0
  dataType : DataType
  encrypted : Bool := false
  username : String
  validator : String := ""
  trigger : String := ""
  deriving DecidableEq, Repr

namespace KeyEntity

/-- `KeyEntity.Equal`: the version and the user are not compared. -/
def equal (ke other : KeyEntity) : Bool :=
  ke.key == other.key && ke.dataType == other.dataType && ke.encrypted == other.encrypted &&
    ke.validator == other.validator && ke.trigger == other.trigger

/-- `KeyEntity.Validate`: the value has to be of the key's data type, and the validator, if
the key has one, has to hold of it. -/
def validate (evalBool : String → TypedValue → Except String Bool) (ke : KeyEntity)
    (value : String) : Except String Unit := do
  let typedValue ← ke.dataType.get value
  if ke.validator ≠ "" then
    let result ← evalBool ke.validator typedValue
    if !result then
      throw ("Validation defined in key '" ++ ke.key ++ "' failed for value '" ++ value ++
        "':\n" ++ ke.validator ++ " = false")
  pure ()

end KeyEntity

/-- `model.ValueEntity`, with its creation time; `none` is the empty data type, which
`CreateValue` replaces by the key's. -/
structure ValueEntity where
  key : String
  keyVersion : Int
  version : Int := 0
  bucket : String
  value : String
  dataType : Option DataType := none
  created : Nat := 0
  username : String
  deriving DecidableEq, Repr

/-- `ValueEntity.Equal`: bucket, key, key version and value. -/
def ValueEntity.equal (ve other : ValueEntity) : Bool :=
  ve.bucket == other.bucket && ve.key == other.key && ve.keyVersion == other.keyVersion &&
    ve.value == other.value

/-- `DefaultBucket`. -/
def defaultBucket : String := "default"

/-- A lowercase letter or a digit. -/
def isLowerAlnum (c : Char) : Bool := c.isLower || c.isDigit

/-- `bucketPattern`: `^(default|([a-z0-9]+(-[a-z0-9]+)+))$`. -/
def bucketPattern : Regex Char :=
  .alt (.word defaultBucket.toList)
    (.seq (.plus (.atom isLowerAlnum)) (.plus (.seq (.char '-') (.plus (.atom isLowerAlnum)))))

/-- `ValidateBucketName`. -/
def validateBucketName (bucket : String) : Except String Unit :=
  if bucketPattern.accepts bucket.toList then .ok ()
  else .error ("Bucket name '" ++ bucket ++
    "' is invalid: bucket name has to match the pattern '^(default|([a-z0-9]+(-[a-z0-9]+)+))$'")

/-! ## The cache -/

/-- `model.CacheEntryEntity`, without the creation time. -/
structure CacheEntryEntity where
  id : Int := 0
  label : String
  runtimeID : String
  data : String
  checksum : String := ""
  deriving DecidableEq, Repr

/-- `CacheEntryEntity.NewChecksum`: the checksum, or the MD5 sum of the data while there is
none. -/
def CacheEntryEntity.newChecksum (md5 : String → String) (ce : CacheEntryEntity) : String :=
  if ce.checksum = "" ∧ ce.data ≠ "" then md5 ce.data else ce.checksum

/-- `CacheEntryEntity.Equal`: label, runtime and checksum. -/
def CacheEntryEntity.equal (md5 : String → String) (ce other : CacheEntryEntity) : Bool :=
  ce.label == other.label && ce.runtimeID == other.runtimeID &&
    ce.newChecksum md5 == other.newChecksum md5

/-- `model.CacheDependencyEntity`, without the creation time. -/
structure CacheDependencyEntity where
  bucket : String
  key : String
  label : String
  runtimeID : String
  cacheID : Int
  deriving DecidableEq, Repr

/-! ## Errors -/

/-- The errors of the configuration store. -/
inductive ConfigError
  /-- `EntityNotFoundError` of a read of the table. -/
  | notFound (table : String)
  /-- `InvalidDataTypeError`. -/
  | invalidDataType (key : KeyEntity) (invalidDataType : DataType)
  /-- A value the key refuses, or a bucket name the pattern refuses, with Go's text. -/
  | invalidValue (message : String)
  /-- `ColumnHandler.Validate`: the `notNull` fields of a row that are undefined. -/
  | undefinedFields (fields : List String)
  /-- `record.Exec` of an entry that was not stored. -/
  | notPersisted (cacheEntry : CacheEntryEntity)
  /-- An insert that a key or a foreign key of the schema refuses. -/
  | constraintViolation (constraint : String)
  deriving DecidableEq, Repr

end Reconciler
