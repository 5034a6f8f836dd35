import CredentialVault.CommandLine.Shell
import CredentialVault.IgnoreFile

/-!
# Commands that create, open and delete a vault

Each of these commands leaves a row in the audit log once it has tried what it is for, whether it
succeeded or not.
-/

namespace CredentialVault

/-! ## Creating a vault -/

namespace InitCommand

/-- What is noted of a vault that was created. -/
def attempt (vaultId : String) (created : CreatedVault) : Audit.Attempt where
  operation := .create
  vaultId
  error := none
  publicKeyHex := some created.session.publicKeyHex
  detail := some s!"method={created.method.name}, migrated={created.isMigrated}"

/-- Warns of a legacy key that will not be taken over. -/
def warnOfLegacyKey : CommandM Unit := do
  CommandM.say .warning "A legacy plaintext key exists and will be left in place."
  CommandM.say .tip
    "Run `passkey-vault init --migrate` to move it into the vault instead."

/-- Tells about the vault that was created. -/
def announce (context : Context) (migrates : Bool) (created : CreatedVault) : CommandM Unit := do
  CommandM.say .success s!"Vault '{context.vaultId}' created at {context.directory}"
  CommandM.say .info s!"Public key: {created.session.publicKeyHex}"
  CommandM.say .info s!"Secret source: {created.method.name}"
  if created.isMigrated then
    CommandM.say .success
      "Legacy key moved into the vault and erased from plaintext storage."
  else if migrates then
    CommandM.say .info "No legacy key found; generated a new signing key."

/-- Keeps the directory of the vault out of version control if it is in the project. -/
def ignoreDirectory (context : Context) : CommandM Unit := do
  let directory := context.settings.vaultDirectory
  if Files.startsInSlash directory then return
  let shell ← get
  let (outcome, files) := IgnoreFile.ensure shell.project directory shell.files
  set { shell with files }
  if outcome = .added then CommandM.say .info s!"Added '{directory}/' to .gitignore"

/-- Creates the vault. A vault that is there is not touched. -/
def run (context : Context) (migrates : Bool) : CommandM Unit := do
  let desk ← Desk.ofContext context
  let (status, desk) ← desk.perform fun _ => VaultM.onStore StoreM.readStatus
  let (state, desk) ← desk.perform Vault.state
  if state ≠ .absent then
    CommandM.say .tip "Run `passkey-vault delete` first to start over."
    throw (.vaultExists context.vaultId)
  if !migrates && status.hasLegacyKey then warnOfLegacyKey
  CommandM.say .info "Creating a passkey for this vault..."
  match ← desk.attempt (·.create migrates) with
  | (.error e, _) =>
    context.note (.plain .create context.vaultId (some e))
    throw e
  | (.ok created, _) =>
    announce context migrates created
    ignoreDirectory context
    context.note (attempt context.vaultId created)
    CommandM.say .tip "Run `passkey-vault unlock` to unlock the vault with your passkey."

end InitCommand

/-! ## Opening a vault -/

namespace UnlockCommand

/-- What is signed to show that the key of a vault works. -/
def checkMessage : Bytes := Bytes.ofText "passkey-vault unlock check"

/-- Opens the vault and signs with its key. -/
def proved (vault : Vault) : VaultM Session := do
  let session ← vault.unlock
  if session.isSignature checkMessage (session.sign checkMessage) then return session
  throw .integrity

/-- Opens the vault. The session ends with the command. -/
def run (context : Context) : CommandM Unit := do
  let desk ← Desk.ofContext context
  let vaultId := context.vaultId
  match ← desk.attempt proved with
  | (.error e, _) =>
    context.note (.plain .unlock vaultId (some e))
    throw e
  | (.ok session, _) =>
    CommandM.say .success s!"Vault '{vaultId}' unlocked"
    CommandM.say .info s!"Public key: {session.publicKeyHex}"
    context.note ⟨.unlock, vaultId, none, some session.publicKeyHex, none⟩

end UnlockCommand

/-! ## Deleting a vault -/

namespace DeleteCommand

/-- What the user is asked before a vault is deleted. -/
def question (vaultId : String) : Question :=
  ⟨s!"Delete vault '{vaultId}'? The sealed key cannot be recovered.", false⟩

/-- The error of a question that was not answered. -/
def unanswered (reason : String) : VaultError := .commandFailed s!"confirm prompt: {reason}"

/-- Asks whether the vault is to be deleted. -/
def confirm (desk : Desk) (vaultId : String) : CommandM (Bool × Desk) := do
  match ← desk.ask (question vaultId) with
  | (.ok answer, desk) => return (answer, desk)
  | (.error reason, _) => throw (unanswered reason)

/-- The public key of the vault, if its record can be read. -/
def publicKey (vault : Vault) : VaultM (Option String) := do
  return (← VaultM.onStore (StoreM.getRecord vault.id)).map (·.publicKeyHex)

/-- Deletes the vault, if there is one and the user wants that. -/
def run (context : Context) (isForced : Bool) : CommandM Unit := do
  let desk ← Desk.ofContext context
  let vaultId := context.vaultId
  let (state, desk) ← desk.perform Vault.state
  if state = .absent then
    CommandM.say .info s!"No vault '{vaultId}' to delete."
    return
  let (key, desk) ← desk.attempt publicKey
  let (isWanted, desk) ← if isForced then pure (true, desk) else confirm desk vaultId
  if !isWanted then
    CommandM.say .info "Cancelled."
    return
  match ← desk.attempt Vault.delete with
  | (.error e, _) =>
    context.note (.plain .delete vaultId (some e))
    throw e
  | (.ok (), _) =>
    context.note ⟨.delete, vaultId, none, key.toOption.join, none⟩
    CommandM.say .success s!"Deleted vault '{vaultId}'"

end DeleteCommand

end CredentialVault
