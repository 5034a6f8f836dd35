import CredentialVault.Credential.Id
import CredentialVault.Crypto.Gcm
import CredentialVault.Crypto.Keys

/-!
# Stored records

A vault is stored as a record: its id, the credential that opens it, the salt, the sealed content
and the public key. `toJson` writes the stored text of a record and `ofJson` reads one, refusing a
record that does not meet `validate`.
-/

namespace CredentialVault

/-- A sealed content: the initialisation vector and the ciphertext with its tag. -/
structure Envelope where
  /-- The initialisation vector, fresh for each sealing. -/
  iv : Bytes
  /-- The ciphertext with its tag. -/
  ciphertext : Bytes
deriving DecidableEq, Repr

namespace Envelope

/-- The JSON form of an envelope. -/
def toJson (envelope : Envelope) : Json.Value :=
  .object [("iv", .text (Base64Url.encode envelope.iv)),
    ("ciphertext", .text (Base64Url.encode envelope.ciphertext))]

/-- The fields of an envelope that were read so far. -/
structure Draft where
  /-- The initialisation vector. -/
  iv : Option Bytes
  /-- The ciphertext with its tag. -/
  ciphertext : Option Bytes

/-- The fields of an envelope. -/
def fields : Json.Fields Draft where
  name := "struct CipherEnvelope"
  empty := ⟨none, none⟩
  fields := [
    ⟨"iv", (·.iv.isSome), false, fun draft => do
      return { draft with iv := some (← Json.Reader.bytes) }⟩,
    ⟨"ciphertext", (·.ciphertext.isSome), false, fun draft => do
      return { draft with ciphertext := some (← Json.Reader.bytes) }⟩]

/-- The envelope of a draft that has all fields. -/
def Draft.finish (draft : Draft) : Envelope :=
  ⟨draft.iv.getD [], draft.ciphertext.getD []⟩

/-- Reads the JSON form of an envelope. -/
def reader : Json.Reader Envelope := do
  return (← fields.read).finish

end Envelope

/-- The stored form of a vault. -/
structure VaultRecord where
  /-- The id of the vault. -/
  id : String
  /-- The version of the form. -/
  version : UInt32
  /-- The credential that opens the vault. -/
  credentialId : CredentialId
  /-- The salt of the credential's secret and of the sealing key. -/
  salt : Bytes
  /-- The sealed content. -/
  envelope : Envelope
  /-- The public key, as text. -/
  publicKeyHex : String
  /-- When the record was made, in milliseconds of Unix time. -/
  createdAtMs : Int64
  /-- When the record was changed last, in milliseconds of Unix time. -/
  updatedAtMs : Int64
deriving DecidableEq, Repr

namespace VaultRecord

/-- The version of the form of records. -/
def currentVersion : UInt32 := 1

/-- The vault id that is meant when none is given. -/
def defaultId : String := "default"

/-- Refuses a record of another version, with a salt or initialisation vector of the wrong size, or
without an id; the first of these that applies is reported. -/
def validate (record : VaultRecord) : Except VaultError Unit :=
  if record.version ≠ currentVersion then
    .error (.unsupportedSchema
      s!"record version {record.version.toNat} is not supported (expected {currentVersion.toNat})")
  else if record.salt.length ≠ Keys.saltSize then
    .error (.unsupportedSchema
      s!"salt must be {Keys.saltSize} bytes, got {record.salt.length}")
  else if record.envelope.iv.length ≠ Gcm.ivSize then
    .error (.unsupportedSchema
      s!"iv must be {Gcm.ivSize} bytes, got {record.envelope.iv.length}")
  else if record.id = "" then .error (.unsupportedSchema "record has an empty id")
  else .ok ()

/-- The JSON form of a record. -/
def toJson (record : VaultRecord) : Json.Value :=
  .object [
    ("id", .text record.id),
    ("version", .integer record.version.toNat),
    ("credentialId", record.credentialId.toJson),
    ("prfSalt", .text (Base64Url.encode record.salt)),
    ("cipher", record.envelope.toJson),
    ("publicKeyHex", .text record.publicKeyHex),
    ("createdAtMs", .integer record.createdAtMs.toInt),
    ("updatedAtMs", .integer record.updatedAtMs.toInt)]

/-- The stored text of a record. -/
def toStored (record : VaultRecord) : String :=
  record.toJson.compact

/-- The fields of a record that were read so far. -/
structure Draft where
  /-- The id. -/
  id : Option String
  /-- The version. -/
  version : Option UInt32
  /-- The credential. -/
  credentialId : Option CredentialId
  /-- The salt. -/
  salt : Option Bytes
  /-- The sealed content. -/
  envelope : Option Envelope
  /-- The public key. -/
  publicKeyHex : Option String
  /-- The time of making. -/
  createdAtMs : Option Int64
  /-- The time of the last change. -/
  updatedAtMs : Option Int64

/-- The fields of a record. -/
def fields : Json.Fields Draft where
  name := "struct VaultRecord"
  empty := ⟨none, none, none, none, none, none, none, none⟩
  fields := [
    ⟨"id", (·.id.isSome), false, fun draft => do
      return { draft with id := some (← Json.Reader.text) }⟩,
    ⟨"version", (·.version.isSome), false, fun draft => do
      return { draft with version := some (← Json.Reader.natural32) }⟩,
    ⟨"credentialId", (·.credentialId.isSome), false, fun draft => do
      return { draft with credentialId := some (← CredentialId.reader) }⟩,
    ⟨"prfSalt", (·.salt.isSome), false, fun draft => do
      return { draft with salt := some (← Json.Reader.bytes) }⟩,
    ⟨"cipher", (·.envelope.isSome), false, fun draft => do
      return { draft with envelope := some (← Envelope.reader) }⟩,
    ⟨"publicKeyHex", (·.publicKeyHex.isSome), false, fun draft => do
      return { draft with publicKeyHex := some (← Json.Reader.text) }⟩,
    ⟨"createdAtMs", (·.createdAtMs.isSome), false, fun draft => do
      return { draft with createdAtMs := some (← Json.Reader.integer64) }⟩,
    ⟨"updatedAtMs", (·.updatedAtMs.isSome), false, fun draft => do
      return { draft with updatedAtMs := some (← Json.Reader.integer64) }⟩]

/-- The record of a draft that has all fields. -/
def Draft.finish (draft : Draft) : VaultRecord where
  id := draft.id.getD ""
  version := draft.version.getD 0
  credentialId := draft.credentialId.getD ⟨[]⟩
  salt := draft.salt.getD []
  envelope := draft.envelope.getD ⟨[], []⟩
  publicKeyHex := draft.publicKeyHex.getD ""
  createdAtMs := draft.createdAtMs.getD 0
  updatedAtMs := draft.updatedAtMs.getD 0

/-- Reads the JSON form of a record. -/
def reader : Json.Reader VaultRecord := do
  return (← fields.read).finish

/-- The record of a stored text, which must be valid. -/
def ofStored (text : String) : Except VaultError VaultRecord :=
  match reader.run (Bytes.ofText text) with
  | .error e => .error (.unsupportedSchema ("vault record JSON: " ++ e.message))
  | .ok record => record.validate.map fun _ => record

end VaultRecord

end CredentialVault
