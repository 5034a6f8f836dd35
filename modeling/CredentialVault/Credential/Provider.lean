import CredentialVault.Credential.Platform

/-!
# Secrets from a platform

A vault needs two things of a platform: a new credential, and the secret of a credential for a salt.
`deriveSecret` tries the mechanisms in a fixed order (the pseudo-random function, the keyed hash,
the stored seed) and goes on to the next only when the platform does not have one.
-/

namespace CredentialVault

/-- Uses a device, or fails. -/
abbrev DeviceM := ExceptT VaultError (StateM Device)

namespace DeviceM

/-- The outcome of a ceremony, of which no failure is raised. -/
def outcome {α : Type} (ceremony : CeremonyM α) : DeviceM (Except CeremonyError α) :=
  ExceptT.mk fun device =>
    let (result, after) := ceremony device
    (.ok result, after)

/-- Raises a failure. -/
def ofExcept {α : Type} : Except VaultError α → DeviceM α
  | .ok value => pure value
  | .error e => throw e

/-- Draws random bytes. -/
def drawBytes (count : Nat) : DeviceM Bytes :=
  modifyGet fun device =>
    let (bytes, random) := device.host.random.draw count
    (bytes, { device with host := { device.host with random } })

/-- Draws a private key. -/
def drawPrivateKey : DeviceM Keys.PrivateKey :=
  modifyGet fun device =>
    let (key, random) := Keys.PrivateKey.draw device.host.random
    (key, { device with host := { device.host with random } })

end DeviceM

namespace RelyingParty

/-- The size of the opaque id of a user. -/
def userIdSize : Nat := 16

/-- The size of a stored seed. -/
def seedSize : Nat := 32

/-- Makes a credential for the party. -/
def enroll (rp : RelyingParty) : DeviceM CredentialId := do
  if !(← get).platform.isAvailable then
    throw (.platformUnsupported "no platform authenticator is available")
  let userId ← DeviceM.drawBytes userIdSize
  match ← DeviceM.outcome (Platform.create (.forVault rp userId)) with
  | .ok credential => return credential
  | .error e => throw e.toVaultError

/-- The secret that a mechanism yields; none if the platform does not have it. -/
def attempt (method : SecretMethod) (ceremony : CeremonyM Bytes) :
    DeviceM (Option DerivedSecret) := do
  match ← DeviceM.outcome ceremony with
  | .ok bytes => return some ⟨method, bytes⟩
  | .error (.extensionUnsupported _) => return none
  | .error e => throw e.toVaultError

/-- The stored seed of a credential. -/
def readSeed (rp : RelyingParty) (credential : CredentialId) : DeviceM Bytes := do
  match ← DeviceM.outcome (Platform.readBlob rp.id credential) with
  | .ok (some seed) => if seed = [] then throw .secretUnavailable else return seed
  | .ok none => throw .secretUnavailable
  | .error e => throw e.toVaultError

/-- Stores a new seed with a credential, and reads it back to be sure that it is there. -/
def writeSeed (rp : RelyingParty) (credential : CredentialId) : DeviceM Bytes := do
  let seed ← DeviceM.drawBytes seedSize
  match ← DeviceM.outcome (Platform.writeBlob rp.id credential seed) with
  | .ok () =>
    if (← readSeed rp credential) = seed then return seed else throw .secretUnavailable
  | .error e => throw e.toVaultError

/-- The secret of a credential for a salt. -/
def deriveSecret (rp : RelyingParty) (credential : CredentialId) (salt : Bytes)
    (options : DeriveOptions) : DeviceM DerivedSecret := do
  if let some secret ← attempt .prf (Platform.evaluatePrf rp.id credential salt) then
    return secret
  if let some secret ← attempt .hmacSecret (Platform.evaluateHmac rp.id credential salt) then
    return secret
  if !options.allowsLargeBlob then throw .secretUnavailable
  match options.purpose with
  | .enrollment => return ⟨.largeBlob, ← writeSeed rp credential⟩
  | .unlock => return ⟨.largeBlob, ← readSeed rp credential⟩

end RelyingParty

end CredentialVault
