import Mathlib.Data.List.Basic

/-!
# The encryptor of database columns

`Encryptor` (`pkg/db/encrypt.go`) writes an encrypted column as the first fifteen hex digits of
the MD5 sum of the key, then the hex digits of the nonce and of the sealed text.  `Decrypt`
checks the prefix, hex-decodes what follows it and cuts the bytes at the nonce size.

Go strings are byte sequences, and so are the strings here.  The cipher is a parameter, with
the one law the code relies on: `Open` gives back what `Seal` sealed under the same nonce.

`decrypt_encrypt` shows that the codec is correct.  The cut `enc[:nonceSize]` runs without a
check of the length, so a stored value with the prefix and fewer hex-coded bytes than a nonce
makes `Decrypt` panic (`decrypt_eq_none_iff`), and with it `ColumnHandler.Unmarshal`
(`unmarshal_panics_on_short_value`).
-/

namespace Reconciler

/-- A Go string: its bytes. -/
abbrev GoString := List UInt8

namespace Hex

/-- The byte of the lower-case hex digit of a value below sixteen. -/
def digit (n : Nat) : UInt8 :=
  UInt8.ofNat (if n < 10 then 48 + n else 87 + n)

/-- `reverseHexTable`: the value of a hex digit of either case. -/
def fromHexChar (c : UInt8) : Option Nat :=
  if 48 ≤ c.toNat ∧ c.toNat ≤ 57 then some (c.toNat - 48)
  else if 97 ≤ c.toNat ∧ c.toNat ≤ 102 then some (c.toNat - 87)
  else if 65 ≤ c.toNat ∧ c.toNat ≤ 70 then some (c.toNat - 55)
  else none

/-- `hex.EncodeToString`, and `%x` of a byte slice or array: two lower-case digits per byte,
the high half first. -/
def encode (bs : List UInt8) : GoString :=
  bs.flatMap fun b => [digit (b.toNat / 16), digit (b.toNat % 16)]

/-- `hex.DecodeString`: two digits per byte; an odd length or a byte that is no hex digit
fails. -/
def decode : GoString → Option (List UInt8)
  | [] => some []
  | [_] => none
  | p :: q :: rest => do
    let a ← fromHexChar p
    let b ← fromHexChar q
    let tail ← decode rest
    pure (UInt8.ofNat (a * 16 + b) :: tail)

/-- The errors of `hex.Decode`. -/
inductive DecodeError
  /-- `InvalidByteError`: a byte that is no hex digit. -/
  | invalidByte (b : UInt8)
  /-- `ErrLength`: an odd number of digits. -/
  | length
  deriving DecidableEq, Repr

/-- `hex.DecodeString` with its error: each pair is checked first byte first, and of an odd
length the last byte is checked before `ErrLength` is reported. -/
def decodeString : GoString → Except DecodeError (List UInt8)
  | [] => .ok []
  | [p] => if (fromHexChar p).isNone then .error (.invalidByte p) else .error .length
  | p :: q :: rest =>
    match fromHexChar p, fromHexChar q with
    | none, _ => .error (.invalidByte p)
    | some _, none => .error (.invalidByte q)
    | some a, some b => (decodeString rest).map (UInt8.ofNat (a * 16 + b) :: ·)

/-- `strconv.IsPrint` of a rune below `0x100`: from space to tilde, and from the inverted
exclamation mark on but the soft hyphen. -/
def isPrint (b : UInt8) : Bool :=
  (0x20 ≤ b.toNat && b.toNat ≤ 0x7E) || (0xA1 ≤ b.toNat && b.toNat != 0xAD)

/-- The upper-case hex digit of a value below sixteen. -/
def upperDigit (n : Nat) : Char :=
  Char.ofNat (if n < 10 then 48 + n else 55 + n)

/-- `%#U` of `rune(b)`: `U+`, four upper-case hex digits and, for a printable rune, a blank and
the rune in single quotes. -/
def formatUnicode (b : UInt8) : String :=
  "U+00" ++ String.ofList [upperDigit (b.toNat / 16), upperDigit (b.toNat % 16)] ++
    if isPrint b then " '" ++ String.singleton (Char.ofNat b.toNat) ++ "'" else ""

/-- The texts of the errors. -/
def DecodeError.error : DecodeError → String
  | .invalidByte b => "encoding/hex: invalid byte: " ++ formatUnicode b
  | .length => "encoding/hex: odd length hex string"

example : (decodeString [0x7a, 0x7a]).mapError DecodeError.error =
      .error "encoding/hex: invalid byte: U+007A 'z'" ∧
    (decodeString [0x61, 0x0a]).mapError DecodeError.error =
      .error "encoding/hex: invalid byte: U+000A" ∧
    (decodeString [0x61, 0x62, 0x63]).mapError DecodeError.error =
      .error "encoding/hex: odd length hex string" := by
  decide

theorem fromHexChar_digit {n : Nat} (hn : n < 16) : fromHexChar (digit n) = some n := by
  -- sixteen values, each read back by the range its digit falls in
  revert n
  decide

@[simp] theorem encode_nil : encode [] = [] := rfl

@[simp] theorem encode_cons (b : UInt8) (bs : List UInt8) :
    encode (b :: bs) = digit (b.toNat / 16) :: digit (b.toNat % 16) :: encode bs := rfl

@[simp] theorem length_encode (bs : List UInt8) : (encode bs).length = 2 * bs.length := by
  induction bs with
  | nil => rfl
  | cons b bs ih =>
    rw [encode_cons, List.length_cons, List.length_cons, ih, List.length_cons]
    omega

/-- What the encoder writes, the decoder reads back. -/
theorem decode_encode (bs : List UInt8) : decode (encode bs) = some bs := by
  induction bs with
  | nil => rfl
  | cons b bs ih =>
    have hb := b.toNat_lt
    have hhigh : b.toNat / 16 < 16 := by omega
    have hlow : b.toNat % 16 < 16 := Nat.mod_lt _ (by decide)
    -- a byte is its high half times sixteen plus its low half
    have hbyte : UInt8.ofNat (b.toNat / 16) * 16 + UInt8.ofNat (b.toNat % 16) = b := by
      apply UInt8.toNat_inj.mp
      simp [UInt8.toNat_add, UInt8.toNat_mul]
      omega
    simp [decode, fromHexChar_digit hhigh, fromHexChar_digit hlow, hbyte, ih]

/-- `decode` is `hex.DecodeString` with its error forgotten. -/
theorem decode_eq_toOption (s : GoString) : decode s = (decodeString s).toOption := by
  induction s using decode.induct with
  | case1 => rfl
  | case2 p =>
    simp only [decode, decodeString]
    split_ifs <;> rfl
  | case3 p q rest ih =>
    simp only [decode, decodeString]
    cases fromHexChar p with
    | none => rfl
    | some a =>
      cases fromHexChar q with
      | none => rfl
      | some b =>
        -- both digits read: the rest decides, in either form
        simp only [ih]
        cases decodeString rest <;> rfl

end Hex

/-- `cipher.AEAD` as the encryptor uses it: `Seal(dst, nonce, p, nil)` appends `seal nonce p`
to `dst`, and `Open` fails on a text it cannot authenticate. -/
structure AEAD where
  nonceSize : Nat
  «seal» : List UInt8 → List UInt8 → List UInt8
  «open» : List UInt8 → List UInt8 → Option (List UInt8)

/-- The law of the cipher: under the same nonce, `Open` gives back what `Seal` sealed. -/
def AEAD.Correct (a : AEAD) : Prop :=
  ∀ nonce p, nonce.length = a.nonceSize → a.open nonce (a.seal nonce p) = some p

/-- `keyIDLength`. -/
def keyIDLength : Nat := 15

/-- `Encryptor`: the MD5 sum of the key, sixteen bytes, and the AEAD of the key. -/
structure Encryptor where
  keyID : List UInt8
  keyID_length : keyID.length = 16
  aead : AEAD

/-- `NewEncryptor` over the MD5 sum and the GCM of AES, given as functions of the key.
`aes.NewCipher` takes keys of 16, 24 and 32 bytes only; its `KeySizeError` names the length. -/
def newEncryptor (md5Sum : GoString → List UInt8) (hmd5 : ∀ key, (md5Sum key).length = 16)
    (newGCM : List UInt8 → AEAD) (key : GoString) : Except String Encryptor :=
  if key.length = 0 then
    .error "cannot create new encryptor instance because encryption key was an empty string"
  else
    match Hex.decodeString key with
    -- `errors.Wrap(err, "key is not a HEX string")`
    | .error err => .error ("key is not a HEX string: " ++ err.error)
    | .ok keyBytes =>
      if keyBytes.length = 16 ∨ keyBytes.length = 24 ∨ keyBytes.length = 32 then
        .ok ⟨md5Sum key, hmd5 key, newGCM keyBytes⟩
      else .error ("crypto/aes: invalid key size " ++ toString keyBytes.length)

namespace Encryptor

variable (e : Encryptor)

/-- `KeyID`: the first fifteen hex digits of the MD5 sum. -/
def keyIDString : GoString :=
  (Hex.encode e.keyID).take keyIDLength

/-- `Decryptable`: the data starts with the key id. -/
def decryptable (encData : GoString) : Bool :=
  e.keyIDString.isPrefixOf encData

/-- `Encrypt`, with the nonce that `io.ReadFull(rand.Reader, nonce)` read. -/
def encrypt (nonce data : GoString) : GoString :=
  e.keyIDString ++ Hex.encode (nonce ++ e.aead.seal nonce data)

/-- `Decrypt`; `none` is the runtime panic of `enc[:nonceSize]` on fewer bytes than a nonce. -/
def decrypt (encData : GoString) : Option (Except String GoString) :=
  if !e.decryptable encData then
    some (.error "data cannot be decrypted because encryption key does not match")
  else
    match Hex.decode (encData.drop e.keyIDString.length) with
    | none => some (.error "failed to decode HEX string to bytes")
    | some enc =>
      if enc.length < e.aead.nonceSize then none
      else
        match e.aead.open (enc.take e.aead.nonceSize) (enc.drop e.aead.nonceSize) with
        | none => some (.error "cipher: message authentication failed")
        | some data => some (.ok data)

@[simp] theorem length_keyIDString : e.keyIDString.length = keyIDLength := by
  simp [keyIDString, e.keyID_length, keyIDLength]

theorem decryptable_append (rest : GoString) : e.decryptable (e.keyIDString ++ rest) = true := by
  simp [decryptable, List.isPrefixOf_iff_prefix]

variable {e}

/-- **The codec is correct**: under a cipher that opens what it sealed, decrypting an
encrypted string gives it back. -/
theorem decrypt_encrypt (hlaw : e.aead.Correct) {nonce : GoString}
    (hnonce : nonce.length = e.aead.nonceSize) (data : GoString) :
    e.decrypt (e.encrypt nonce data) = some (.ok data) := by
  have hdrop : (e.encrypt nonce data).drop e.keyIDString.length =
      Hex.encode (nonce ++ e.aead.seal nonce data) := by
    simp [encrypt]
  have hlen : ¬ (nonce ++ e.aead.seal nonce data).length < e.aead.nonceSize := by
    simp [hnonce]
  rw [decrypt, encrypt, decryptable_append, ← encrypt, hdrop, Hex.decode_encode]
  simp only [Bool.not_true, Bool.false_eq_true, if_false, hlen]
  rw [← hnonce, List.take_left, List.drop_left, hlaw nonce data hnonce]

theorem decrypt_of_not_decryptable {encData : GoString} (h : e.decryptable encData = false) :
    e.decrypt encData =
      some (.error "data cannot be decrypted because encryption key does not match") := by
  simp [decrypt, h]

/-- **`Decrypt` panics exactly on a value with the key id whose remainder hex-decodes to fewer
bytes than a nonce.**  Every other value gives a result or an error. -/
theorem decrypt_eq_none_iff (encData : GoString) :
    e.decrypt encData = none ↔ e.decryptable encData = true ∧
      ∃ enc, Hex.decode (encData.drop e.keyIDString.length) = some enc ∧
        enc.length < e.aead.nonceSize := by
  unfold decrypt
  cases hd : e.decryptable encData
  · simp
  · simp only [Bool.not_true, Bool.false_eq_true, if_false, true_and]
    cases hdec : Hex.decode (encData.drop e.keyIDString.length) with
    | none => simp
    | some enc =>
      simp only [Option.some.injEq, exists_eq_left']
      split_ifs with hshort
      · simp [hshort]
      · constructor
        · intro h
          split at h <;> cases h
        · exact fun h => absurd h hshort

end Encryptor

/-! ## `ColumnHandler.Unmarshal` -/

/-- A column as `Unmarshal` reads it: the entity field, the column name, whether it is
encrypted and not null, and `fmt.Sprintf("%v", col.value)` of what the row scanned into it. -/
structure ScannedColumn where
  field : String
  name : String
  encrypt : Bool
  notNull : Bool
  value : GoString

/-- The loop of `ColumnHandler.Unmarshal` that fills the entity data, field by field.  An
encrypted column takes its decrypted value; one that does not decrypt keeps the stored value,
or fails when it is not null.  `none` is a panic of `Decrypt`. -/
def unmarshalColumns (e : Encryptor) :
    List ScannedColumn → Option (Except String (List (String × GoString)))
  | [] => some (.ok [])
  | col :: cols =>
    let rest := (unmarshalColumns e cols).map (Except.map ((col.field, col.value) :: ·))
    if col.encrypt then
      match e.decrypt col.value with
      | none => none
      | some (.ok decValue) =>
        (unmarshalColumns e cols).map (Except.map ((col.field, decValue) :: ·))
      | some (.error err) =>
        if col.notNull then
          some (.error ("Field '" ++ col.name ++
            "' is encrypted and marked as notNull but value could not be decrypted: " ++ err))
        else rest
    else rest

/-- **`Unmarshal` panics on an encrypted column that holds the key id and fewer hex-coded bytes
than a nonce**, whatever the other columns hold and whether or not the column is nullable. -/
theorem unmarshal_panics_on_short_value (e : Encryptor) (col : ScannedColumn)
    (cols : List ScannedColumn) (hcol : col.encrypt = true) (enc : List UInt8)
    (hvalue : col.value = e.keyIDString ++ Hex.encode enc) (hshort : enc.length < e.aead.nonceSize) :
    e.decrypt col.value = none ∧ unmarshalColumns e (col :: cols) = none := by
  have hpanic : e.decrypt col.value = none := by
    rw [Encryptor.decrypt_eq_none_iff, hvalue, e.decryptable_append]
    exact ⟨rfl, enc, by simp [Hex.decode_encode], hshort⟩
  refine ⟨hpanic, ?_⟩
  simp [unmarshalColumns, hcol, hpanic]

/-- An encryptor with the twelve-byte nonces of `cipher.NewGCM`.  Which cipher it holds does not
matter to the panic: `Decrypt` panics before it opens anything. -/
def gcmEncryptor : Encryptor :=
  { keyID := List.replicate 16 0, keyID_length := by simp,
    aead := { nonceSize := 12, «seal» := fun _ p => p, «open» := fun _ c => some c } }

/-- A nullable encrypted column that holds the key id and the two hex digits of one byte. -/
theorem unmarshal_panics_on_key_id_and_one_byte :
    gcmEncryptor.decrypt (gcmEncryptor.keyIDString ++ Hex.encode [0]) = none ∧
      unmarshalColumns gcmEncryptor
        [⟨"Value", "value", true, false, gcmEncryptor.keyIDString ++ Hex.encode [0]⟩] = none :=
  unmarshal_panics_on_short_value gcmEncryptor
    ⟨"Value", "value", true, false, gcmEncryptor.keyIDString ++ Hex.encode [0]⟩ [] rfl [0] rfl
    (by decide)

end Reconciler
