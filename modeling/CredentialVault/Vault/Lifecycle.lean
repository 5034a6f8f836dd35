import CredentialVault.Vault.Migration

/-!
# The lifecycle of a vault

A vault is absent, locked or unlocked. `Vault.create` makes it and leaves it unlocked, `Vault.lock`
and `Vault.unlock` go to and fro, and `Vault.delete` removes it from any state. The decrypted keys
are only in the cache; the store sees the sealed record and public flags.

The flags describe one vault at a time. A vault takes them when it is created, unless another stored
vault has them, and gives them up when it is deleted.
-/

namespace CredentialVault

/-- A vault, as its user names and configures it. -/
structure Vault where
  /-- The id of the vault. -/
  id : String
  /-- The party for which its credential is made. -/
  rp : RelyingParty
  /-- Whether its secret may be a stored seed. -/
  allowsLargeBlob : Bool
  /-- What is reset for a new key. -/
  counters : Counters

/-- Whether there is a vault, and whether it is open. -/
inductive VaultState where
  /-- There is no vault. -/
  | absent
  /-- There is a vault, which is locked. -/
  | locked
  /-- The keys of the vault are in the cache. -/
  | unlocked
deriving DecidableEq, Repr

/-- The name of a state. -/
def VaultState.text : VaultState → String
  | absent => "no vault"
  | locked => "locked"
  | unlocked => "unlocked"

/-- What the making of a vault yields. -/
structure CreatedVault where
  /-- The session of the new vault. -/
  session : Session
  /-- The mechanism of its secret. -/
  method : SecretMethod
  /-- Whether its key was taken over. -/
  isMigrated : Bool
deriving DecidableEq, Repr

/-- The envelope of a bundle for a vault, with the randomness of a device. -/
def SecretBundle.sealOn (bundle : SecretBundle) (key : Bytes) (vaultId : String) :
    DeviceM Envelope := ExceptT.mk fun device =>
  let (result, random) := bundle.sealFor key vaultId device.host.random
  (result, { device with host := { device.host with random } })

namespace Vault

/-- The vault of the given id, with the usual settings. -/
def ofId (id : String) : Vault := ⟨id, .default, true, .absent⟩

/-- The session of the vault, if it is unlocked. -/
def session (vault : Vault) : VaultM (Option Session) := do
  return (← get).cache.sessionOf vault.id

/-- The state of the vault. A record that cannot be read counts as a vault, so that it can be
deleted. -/
def state (vault : Vault) : VaultM VaultState := do
  if (← vault.session).isSome then return .unlocked
  if ← VaultM.onStore (StoreM.contains vault.id) then return .locked
  return .absent

/-- Whether the flags describe the vault, or may be taken by it. -/
def ownsFlags (vault : Vault) : VaultM Bool := do
  match ← VaultM.onStore (StoreM.getFlag Flags.activeId) with
  | none => return true
  | some active =>
    if active = vault.id then return true
    return !(← VaultM.onStore (StoreM.contains active))

/-- Writes the flags that describe a record. -/
def describe (record : VaultRecord) : StoreM Unit := do
  StoreM.setFlag Flags.activeId record.id
  StoreM.setFlag Flags.credentialId record.credentialId.text
  StoreM.setFlag Flags.publicKeyHex record.publicKeyHex
  StoreM.setFlag Flags.enabled "true"

/-- Undoes the making of the vault; what cannot be undone is left. -/
def rollBack (vault : Vault) (clearsFlags : Bool) : VaultM Unit := do
  VaultM.attemptOnStore (StoreM.deleteRecord vault.id)
  if clearsFlags then
    for key in Flags.describing do
      VaultM.attemptOnStore (StoreM.removeFlag key)

/-- The options for deriving the secret of the vault. -/
def deriveOptions (vault : Vault) (purpose : CeremonyPurpose) : DeriveOptions :=
  ⟨purpose, vault.allowsLargeBlob⟩

/-- A new record that is not stored yet, with its content. -/
structure Draft where
  /-- The record. -/
  record : VaultRecord
  /-- The content. -/
  bundle : SecretBundle
  /-- The mechanism of the secret. -/
  method : SecretMethod
deriving DecidableEq, Repr

/-- Makes a credential and a sealed record; the private key is the given one or a new one. -/
def draft (vault : Vault) (privateKey : Option Keys.PrivateKey) : VaultM Draft := do
  let now := (← get).now
  VaultM.onDevice do
    let credentialId ← vault.rp.enroll
    let salt ← DeviceM.drawBytes Keys.saltSize
    let secret ←
      vault.rp.deriveSecret credentialId salt (vault.deriveOptions .enrollment)
    let primaryKey ←
      match privateKey with
      | some key => pure key
      | none => DeviceM.drawPrivateKey
    let secondaryKey ← DeviceM.drawPrivateKey
    let bundle : SecretBundle := ⟨primaryKey, secondaryKey⟩
    let key ← DeviceM.ofExcept (Keys.sealingKey secret.bytes salt)
    let envelope ← bundle.sealOn key vault.id
    return {
      record := {
        id := vault.id
        version := VaultRecord.currentVersion
        credentialId
        salt
        envelope
        publicKeyHex := bundle.publicKeyHex
        createdAtMs := Int64.ofInt now.ms
        updatedAtMs := Int64.ofInt now.ms }
      bundle
      method := secret.method }

/-- Stores the record of a new vault and what belongs to it; a failure undoes it. -/
def persist (vault : Vault) (record : VaultRecord) (legacy : Option LegacyKey) : VaultM Unit := do
  let takesFlags ← vault.ownsFlags
  VaultM.onStore (StoreM.putRecord record)
  -- The record is there from now on, and goes again when something fails.
  let undoing (act : VaultM Unit) : VaultM Unit :=
    tryCatch act fun e => do
      vault.rollBack takesFlags
      throw e
  if takesFlags then undoing (VaultM.onStore (describe record))
  undoing do
    match legacy with
    | some legacy => legacy.finish record.publicKeyHex
    | none => vault.counters.reset record.publicKeyHex

/-- Makes the vault and leaves it unlocked. With `migrates` it takes over the legacy key, if there
is one. Nothing is stored before everything is derived and sealed. -/
def create (vault : Vault) (migrates : Bool) : VaultM CreatedVault := do
  if ← VaultM.onStore (StoreM.contains vault.id) then throw (.vaultExists vault.id)
  let legacy ← if migrates then LegacyKey.find else pure none
  let draft ← vault.draft (legacy.map (·.privateKey))
  vault.persist draft.record legacy
  let session :=
    Session.ofBundle vault.id draft.record.credentialId draft.bundle (← get).now
  VaultM.onCache (·.set session)
  return ⟨session, draft.method, legacy.isSome⟩

/-- The session of the vault; if it is locked, its record is opened with a ceremony. -/
def unlock (vault : Vault) : VaultM Session := do
  if let some session ← vault.session then return session
  let some record ← VaultM.onStore (StoreM.getRecord vault.id) | throw (.vaultNotFound vault.id)
  let secret ← VaultM.onDevice
    (vault.rp.deriveSecret record.credentialId record.salt (vault.deriveOptions .unlock))
  let key ← VaultM.ofExcept (Keys.sealingKey secret.bytes record.salt)
  let bundle ← VaultM.ofExcept (SecretBundle.openFor key vault.id record.envelope)
  -- An envelope of other keys may open when it is put into the record.
  if bundle.publicKeyHex ≠ record.publicKeyHex then throw .integrity
  let session := Session.ofBundle vault.id record.credentialId bundle (← get).now
  VaultM.onCache (·.set session)
  return session

/-- Forgets the session of the vault. -/
def lock (vault : Vault) : VaultM Unit :=
  VaultM.onCache fun cache => (cache.clearVault vault.id).2

/-- Deletes the record of the vault, forgets its session, and gives up the flags if it has them. -/
def delete (vault : Vault) : VaultM Unit := do
  -- Whose the flags are has to be known before the record is gone.
  let releases ← vault.ownsFlags
  VaultM.onStore (StoreM.deleteRecord vault.id)
  vault.lock
  if releases then
    for key in Flags.describing do
      VaultM.onStore (StoreM.removeFlag key)

end Vault

end CredentialVault
