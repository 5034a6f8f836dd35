import CredentialVault.Crypto.Aead
import CredentialVault.Vault.Record

/-!
# Secret bundles

The content of a vault is a bundle of two private keys. Its plaintext is a JSON text; `sealFor`
encrypts it bound to the id of a vault, and `openFor` decrypts and reads it.
-/

namespace CredentialVault

/-- The content of a vault. -/
structure SecretBundle where
  /-- The private key that signs. -/
  primaryKey : Keys.PrivateKey
  /-- Key material for a companion system. -/
  secondaryKey : Keys.PrivateKey
deriving DecidableEq, Repr

namespace SecretBundle

/-- The version of the form of bundles. -/
def currentVersion : UInt32 := 1

/-- The public key of the bundle, as text. -/
def publicKeyHex (bundle : SecretBundle) : String :=
  bundle.primaryKey.publicKeyHex

/-- How a bundle is shown: without its keys. -/
def redacted : String :=
  "SecretBundle \x7b version: " ++ toString currentVersion.toNat ++
    ", primary_key: \"[REDACTED]\", secondary_key: \"[REDACTED]\" \x7d"

/-- The text that is encrypted. -/
def plaintext (bundle : SecretBundle) : String :=
  (Json.Value.object [
    ("version", .integer currentVersion.toNat),
    ("primaryKey", .text (Base64Url.encode bundle.primaryKey.bytes)),
    ("secondaryKey", .text (Base64Url.encode bundle.secondaryKey.bytes))]).compact

/-- The fields of a bundle's text that were read so far. -/
structure Draft where
  /-- The version. -/
  version : Option UInt32
  /-- The text of the first key. -/
  primaryKey : Option String
  /-- The text of the second key. -/
  secondaryKey : Option String

/-- The fields of a bundle's text. -/
def fields : Json.Fields Draft where
  name := "a bundle"
  empty := ⟨none, none, none⟩
  fields := [
    ⟨"version", (·.version.isSome), false, fun draft => do
      return { draft with version := some (← Json.Reader.natural32) }⟩,
    ⟨"primaryKey", (·.primaryKey.isSome), false, fun draft => do
      return { draft with primaryKey := some (← Json.Reader.text) }⟩,
    ⟨"secondaryKey", (·.secondaryKey.isSome), false, fun draft => do
      return { draft with secondaryKey := some (← Json.Reader.text) }⟩]

/-- The key of a base64 text of exactly 32 bytes; `name` tells which key it is. -/
def readKey (name text : String) : Except VaultError Keys.PrivateKey :=
  match (Base64Url.decode text).toOption.bind Keys.PrivateKey.ofBytes? with
  | some key => .ok key
  | none => .error (.unsupportedSchema s!"malformed {name} key")

/-- The bundle of a decrypted plaintext. -/
def ofPlaintext (bytes : Bytes) : Except VaultError SecretBundle := do
  match fields.read.run bytes with
  | .error _ => throw (.unsupportedSchema "decrypted bundle is not valid JSON")
  | .ok draft =>
    let version := draft.version.getD 0
    if version ≠ currentVersion then
      throw (.unsupportedSchema
        s!"bundle version {version.toNat} is not supported (expected {currentVersion.toNat})")
    return ⟨← readKey "primary" (draft.primaryKey.getD ""),
      ← readKey "secondary" (draft.secondaryKey.getD "")⟩

/-- The text that binds a ciphertext to the id of its vault and the version of its content. -/
def associatedText (vaultId : String) : String :=
  "passkey-vault:" ++ vaultId ++ ":v" ++ toString currentVersion.toNat

/-- The associated data of a vault's ciphertext. -/
def associatedData (vaultId : String) : Bytes :=
  Bytes.ofText (associatedText vaultId)

/-- The envelope of a bundle for a vault, under a sealing key. -/
def sealFor (bundle : SecretBundle) (key : Bytes) (vaultId : String) (random : RandomStream) :
    Except VaultError Envelope × RandomStream :=
  let (result, random) :=
    Aead.encrypt key (associatedData vaultId) (Bytes.ofText bundle.plaintext) random
  (result.map fun (iv, ciphertext) => ⟨iv, ciphertext⟩, random)

/-- The bundle of an envelope that was sealed for the vault under the key. -/
def openFor (key : Bytes) (vaultId : String) (envelope : Envelope) :
    Except VaultError SecretBundle := do
  ofPlaintext (← Aead.decrypt key (associatedData vaultId) envelope.iv envelope.ciphertext)

end SecretBundle

end CredentialVault
