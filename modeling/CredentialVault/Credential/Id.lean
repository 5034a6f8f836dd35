import CredentialVault.Base64Url
import CredentialVault.Json.Printer
import CredentialVault.Json.Reader

/-!
# Identifiers of credentials

A credential is named by a byte string that its authenticator chose. Its text, in files and
messages, is the URL-safe base64 of the bytes.
-/

namespace CredentialVault

/-- The name of a credential. -/
structure CredentialId where
  /-- The bytes of the name. -/
  bytes : Bytes
deriving DecidableEq, Repr, Inhabited

namespace CredentialId

/-- The text of the name. -/
def text (id : CredentialId) : String :=
  Base64Url.encode id.bytes

/-- The name that a text stands for. -/
def ofText (text : String) : Except VaultError CredentialId :=
  (Base64Url.decode text).map CredentialId.mk

/-- The name as diagnostics show it. -/
def debugText (id : CredentialId) : String :=
  "CredentialId(" ++ id.text ++ ")"

/-- The JSON form of the name. -/
def toJson (id : CredentialId) : Json.Value :=
  .text id.text

end CredentialId

/-- Reads a string of JSON that is the base64 text of bytes. -/
def Json.Reader.bytes : Json.Reader Bytes := do
  let text ← Json.Reader.text
  match Base64Url.decode text with
  | .ok bytes => return bytes
  | .error e => throw (.invalidText e.message)

/-- Reads the JSON form of a credential's name. -/
def CredentialId.reader : Json.Reader CredentialId := do
  return ⟨← Json.Reader.bytes⟩

end CredentialVault
