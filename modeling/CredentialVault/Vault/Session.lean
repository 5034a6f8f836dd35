import CredentialVault.Instant
import CredentialVault.Text.Quoted
import CredentialVault.Vault.Bundle

/-!
# Sessions

While a vault is unlocked, its decrypted keys are held in a session. `Session.sign` signs with the
primary key.
-/

namespace CredentialVault

/-- The decrypted content of an unlocked vault. -/
structure Session where
  /-- The id of the vault. -/
  vaultId : String
  /-- The credential that opened it. -/
  credentialId : CredentialId
  /-- When it was opened. -/
  unlockedAt : Instant
  /-- The private key that signs. -/
  primaryKey : Keys.PrivateKey
  /-- Key material for a companion system. -/
  secondaryKey : Keys.PrivateKey
  /-- The public key, as text. -/
  publicKeyHex : String
deriving DecidableEq, Repr

namespace Session

/-- The session of a bundle that was opened at an instant. -/
def ofBundle (vaultId : String) (credentialId : CredentialId) (bundle : SecretBundle)
    (now : Instant) : Session where
  vaultId
  credentialId
  unlockedAt := now
  primaryKey := bundle.primaryKey
  secondaryKey := bundle.secondaryKey
  publicKeyHex := bundle.publicKeyHex

/-- The signature of a message under the primary key. -/
def sign (session : Session) (message : Bytes) : Bytes :=
  Ed25519.sign session.primaryKey.bytes message

/-- Whether the text is a signature of the message under the primary key. -/
def isSignature (session : Session) (message signature : Bytes) : Bool :=
  Ed25519.isSignature (Ed25519.publicKey session.primaryKey.bytes) message signature

/-- The session as diagnostics show it: without its keys. -/
def debugText (session : Session) : String :=
  "UnlockedVaultSession \x7b vault_id: " ++ Text.quoted session.vaultId ++
    ", credential_id: " ++ session.credentialId.debugText ++
    ", unlocked_at: " ++ session.unlockedAt.debugText ++
    ", public_key_hex: " ++ Text.quoted session.publicKeyHex ++
    ", keys: \"[REDACTED]\" \x7d"

end Session

end CredentialVault
