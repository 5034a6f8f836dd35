import CredentialVault.Crypto.Gcm
import CredentialVault.Error
import CredentialVault.Random

/-!
# Sealed texts

`encrypt` seals a plaintext under a key of 32 bytes with a freshly drawn initialisation vector, and
`decrypt` opens it again. Whatever is wrong with a sealed text, its key or its associated data,
`decrypt` reports as one error.
-/

namespace CredentialVault.Aead

/-- The size of a key. -/
def keySize : Nat := 32

/-- The sealed form of a plaintext: the initialisation vector drawn for it, and the ciphertext with
its tag. A key of another size draws nothing. -/
def encrypt (key aad plaintext : Bytes) (random : RandomStream) :
    Except VaultError (Bytes × Bytes) × RandomStream :=
  if key.length = keySize then
    let (iv, random) := random.draw Gcm.ivSize
    (.ok (iv, Gcm.encrypt key iv aad plaintext), random)
  else (.error (.encryptionFailed "invalid key length: Invalid Length"), random)

/-- The plaintext of a sealed text. -/
def decrypt (key aad iv sealed : Bytes) : Except VaultError Bytes :=
  if iv.length = Gcm.ivSize ∧ key.length = keySize then
    match Gcm.decrypt? key iv aad sealed with
    | some plaintext => .ok plaintext
    | none => .error .integrity
  else .error .integrity

end CredentialVault.Aead
