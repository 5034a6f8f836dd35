import CredentialVault.Credential.Id

/-!
# Ceremonies

A ceremony is one interaction with an authenticator, in which its user takes part. This module holds
what goes into ceremonies and what comes out: the mechanisms that yield a secret, the ways in which
a ceremony fails, and the party and user for whom a credential is made.
-/

namespace CredentialVault

/-- A mechanism that yields a secret bound to a credential. -/
inductive SecretMethod where
  /-- The extension for a pseudo-random function. -/
  | prf
  /-- The extension for a keyed hash. -/
  | hmacSecret
  /-- A random seed in the storage that belongs to the credential. -/
  | largeBlob
deriving DecidableEq, Repr

namespace SecretMethod

/-- The name of a mechanism. -/
def name : SecretMethod → String
  | prf => "prf"
  | hmacSecret => "hmac-secret"
  | largeBlob => "large-blob"

/-- The name of a mechanism in diagnostics. -/
def debugText : SecretMethod → String
  | prf => "Prf"
  | hmacSecret => "HmacSecret"
  | largeBlob => "LargeBlob"

end SecretMethod

/-- A secret bound to a credential, with the mechanism that yielded it. -/
structure DerivedSecret where
  /-- The mechanism. -/
  method : SecretMethod
  /-- The secret. -/
  bytes : Bytes
deriving DecidableEq, Repr

/-- The secret as diagnostics show it: without its bytes. -/
def DerivedSecret.debugText (secret : DerivedSecret) : String :=
  "DerivedSecret \x7b method: " ++ secret.method.debugText ++ ", bytes: \"[REDACTED]\" \x7d"

/-- Why a ceremony failed. -/
inductive CeremonyError where
  /-- The authenticator does not have the mechanism. Only this failure lets another mechanism be
  tried. -/
  | extensionUnsupported (method : SecretMethod)
  /-- The user or the platform declined. -/
  | notAllowed (reason : String)
  /-- The platform has no credentials at all. -/
  | unavailable (reason : String)
  /-- Anything else. -/
  | failed (reason : String)
deriving DecidableEq, Repr

/-- The error of the vault for a failed ceremony. -/
def CeremonyError.toVaultError : CeremonyError → VaultError
  | extensionUnsupported _ => .secretUnavailable
  | notAllowed reason | failed reason => .credentialRejected reason
  | unavailable reason => .platformUnsupported reason

/-- The party that relies on credentials, and the user for whom they are made. -/
structure RelyingParty where
  /-- The id of the party. -/
  id : String
  /-- The name of the party. -/
  name : String
  /-- The name of the user. -/
  userName : String
deriving DecidableEq, Repr

/-- The party that is meant when none is configured. -/
def RelyingParty.default : RelyingParty := ⟨"localhost", "Passkey Vault", "vault"⟩

/-- What is asked of an authenticator that makes a credential. -/
structure CreationOptions where
  /-- The id of the relying party. -/
  rpId : String
  /-- The name of the relying party. -/
  rpName : String
  /-- The opaque id of the user. -/
  userId : Bytes
  /-- The name of the user. -/
  userName : String
  /-- Whether the authenticator has to store the credential. -/
  residentKey : Bool
  /-- Whether the user has to be verified. -/
  userVerification : Bool
  /-- The mechanisms that are asked for. -/
  requested : List SecretMethod
deriving DecidableEq, Repr

/-- The options of a vault's credential: stored, verified, and with every mechanism. -/
def CreationOptions.forVault (rp : RelyingParty) (userId : Bytes) : CreationOptions where
  rpId := rp.id
  rpName := rp.name
  userId
  userName := rp.userName
  residentKey := true
  userVerification := true
  requested := [.prf, .hmacSecret, .largeBlob]

/-- Why a secret is wanted. -/
inductive CeremonyPurpose where
  /-- For a new credential: a seed is written. -/
  | enrollment
  /-- For a known credential: the seed is read. -/
  | unlock
deriving DecidableEq, Repr

/-- The purpose as diagnostics show it. -/
def CeremonyPurpose.debugText : CeremonyPurpose → String
  | enrollment => "Enrollment"
  | unlock => "Unlock"

/-- How a secret is derived. -/
structure DeriveOptions where
  /-- Why the secret is wanted. -/
  purpose : CeremonyPurpose
  /-- Whether a stored seed may be used when there is no other mechanism. -/
  allowsLargeBlob : Bool
deriving DecidableEq, Repr

namespace DeriveOptions

/-- The options for a new credential. -/
def enrollment : DeriveOptions := ⟨.enrollment, true⟩

/-- The options for a known credential. -/
def unlock : DeriveOptions := ⟨.unlock, true⟩

/-- The options with a stored seed allowed or not. -/
def withLargeBlob (options : DeriveOptions) (allows : Bool) : DeriveOptions :=
  { options with allowsLargeBlob := allows }

end DeriveOptions

end CredentialVault
