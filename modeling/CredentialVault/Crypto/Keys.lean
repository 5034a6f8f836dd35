import CredentialVault.Crypto.Ed25519
import CredentialVault.Crypto.Hmac
import CredentialVault.Error
import CredentialVault.Hex
import CredentialVault.Random

/-!
# Keys of a vault

A vault has a salt, a private key that signs, and a key under which its content is sealed. The last
one is derived from the secret of a credential and the salt, and is never stored.
-/

namespace CredentialVault.Keys

/-- The size of a salt. -/
def saltSize : Nat := 32

/-- The size of a private key. -/
def privateKeySize : Nat := 32

/-- A private key: the seed of a signing key. -/
structure PrivateKey where
  /-- The bytes of the key. -/
  bytes : Bytes
  /-- A key has its fixed size. -/
  length_bytes : bytes.length = privateKeySize
deriving DecidableEq, Repr

/-- The private key of the given bytes, if they have its size. -/
def PrivateKey.ofBytes? (bytes : Bytes) : Option PrivateKey :=
  if h : bytes.length = privateKeySize then some ⟨bytes, h⟩ else none

/-- A fresh private key. -/
def PrivateKey.draw (random : RandomStream) : PrivateKey × RandomStream :=
  (⟨(random.draw privateKeySize).1, random.length_draw privateKeySize⟩,
    (random.draw privateKeySize).2)

/-- The purpose for which sealing keys are derived. -/
def purpose : Bytes := Bytes.ofText "passkey-vault/aead-key/v1"

/-- The sealing key of a vault with the given salt, derived from the secret of its credential. -/
def sealingKey (secret salt : Bytes) : Except VaultError Bytes :=
  if secret = [] then .error (.keyDerivationFailed "credential secret is empty")
  else .ok (Hmac.expand (Hmac.extract salt secret) purpose)

/-- How a sealing key is shown: not at all. -/
def redactedKey : String := "VaultKey([REDACTED])"

/-- The public key of a private key, as text; it identifies a vault in public. -/
def PrivateKey.publicKeyHex (key : PrivateKey) : String :=
  Hex.encode (Ed25519.publicKey key.bytes)

end CredentialVault.Keys
