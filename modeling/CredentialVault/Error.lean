/-!
# Errors of the vault

Every operation that can fail does so with a `VaultError`: a cause, with the text that tells it
apart from others of its kind. `kind` is the short label that the audit log stores, and `message`
is the wording that the user sees.
-/

namespace CredentialVault

/-- Why an operation of the vault failed. -/
inductive VaultError where
  /-- The platform has no authenticator that can be used. -/
  | platformUnsupported (reason : String)
  /-- The authenticator, or its user, declined. -/
  | credentialRejected (reason : String)
  /-- No mechanism of the authenticator yields a secret bound to the credential. -/
  | secretUnavailable
  /-- The cipher refused its input. -/
  | encryptionFailed (reason : String)
  /-- The ciphertext, its vault id or the key is not the one that was sealed. -/
  | integrity
  /-- No key can be derived from the secret. -/
  | keyDerivationFailed (reason : String)
  /-- There is no vault of this id. -/
  | vaultNotFound (id : String)
  /-- There is already a vault of this id. -/
  | vaultExists (id : String)
  /-- Stored or decrypted data has a form that this version does not know. -/
  | unsupportedSchema (reason : String)
  /-- The stored legacy key cannot be read. -/
  | invalidLegacyKey (reason : String)
  /-- The store cannot be used at all. -/
  | storageUnavailable (reason : String)
  /-- One operation of the store failed. -/
  | storage (reason : String)
  /-- A file could not be read or written. -/
  | fileAccess (reason : String)
  /-- A text is not the encoding of a value. -/
  | serialization (reason : String)
  /-- The settings file is not usable. -/
  | configuration (reason : String)
  /-- A command cannot be carried out as given. -/
  | commandFailed (reason : String)
  /-- The user cancelled. -/
  | cancelled
  /-- The audit log cannot be used. -/
  | audit (reason : String)
deriving DecidableEq, Repr, Inhabited

namespace VaultError

/-- The label of the cause, as the audit log stores it. -/
def kind : VaultError → String
  | platformUnsupported _ => "platform-unsupported"
  | credentialRejected _ => "credential-rejected"
  | secretUnavailable => "prf-unavailable"
  | encryptionFailed _ => "encryption-failed"
  | integrity => "integrity"
  | keyDerivationFailed _ => "key-derivation"
  | vaultNotFound _ => "vault-not-found"
  | vaultExists _ => "vault-exists"
  | unsupportedSchema _ => "schema"
  | invalidLegacyKey _ => "invalid-legacy-key"
  | storageUnavailable _ => "storage-unavailable"
  | storage _ => "storage"
  | fileAccess _ => "io"
  | serialization _ => "serialization"
  | configuration _ => "config"
  | commandFailed _ => "command-failed"
  | cancelled => "cancelled"
  | audit _ => "audit"

/-- The wording of the error. -/
def message : VaultError → String
  | platformUnsupported reason => "Platform does not support passkey credentials: " ++ reason
  | credentialRejected reason => "Authenticator declined the request: " ++ reason
  | secretUnavailable =>
    "Authenticator cannot produce a credential-bound secret (no PRF, hmac-secret or " ++
      "large-blob support)"
  | encryptionFailed reason => "Encryption failed: " ++ reason
  | integrity =>
    "Integrity check failed: wrong credential, tampered vault, or mismatched vault id"
  | keyDerivationFailed reason => "Key derivation failed: " ++ reason
  | vaultNotFound id => "Vault '" ++ id ++ "' not found"
  | vaultExists id => "Vault '" ++ id ++ "' already exists (delete it first)"
  | unsupportedSchema reason => "Unsupported vault schema: " ++ reason
  | invalidLegacyKey reason => "Legacy key is invalid: " ++ reason
  | storageUnavailable reason => "Vault storage unavailable: " ++ reason
  | storage reason => "Storage error: " ++ reason
  | fileAccess reason => "IO error: " ++ reason
  | serialization reason => "Serialization error: " ++ reason
  | configuration reason => "Config file error: " ++ reason
  | commandFailed reason => "Command failed: " ++ reason
  | cancelled => "User cancelled operation"
  | audit reason => "Audit error: " ++ reason

end VaultError

end CredentialVault
