import CredentialVault.Audit.Log
import CredentialVault.CommandLine.Console
import CredentialVault.CommandLine.Invocation
import CredentialVault.CommandLine.Terminal
import CredentialVault.Settings
import CredentialVault.Vault.Lifecycle
import CredentialVault.Vault.Name

/-!
# The shell of a command

A command runs in a project directory, prints on a console, asks at a terminal, and works with
files, randomness and the time. `Context.load` combines the settings of the project with the options
of the invocation, and a `Desk` is where a command works with its vault; what it does there is
written to the files at once, so that each command can be the last one of its process.
-/

namespace CredentialVault

/-- What a command runs in. -/
structure Shell where
  /-- The files. -/
  files : Files
  /-- The source of random bytes. -/
  random : RandomStream
  /-- The present time. -/
  now : Instant
  /-- The path of the project directory. -/
  project : String
  /-- Whether the user agrees to every ceremony in advance. -/
  approves : Bool
  /-- The terminal. -/
  terminal : Terminal
  /-- What was printed. -/
  console : Console

/-- Whether the value of a variable says that the user agrees to every ceremony. -/
def Shell.isApproval (value : Option String) : Bool :=
  value.any fun text => text = "1" || text.map Char.toLower = "true"

/-- How the user answers when ceremonies begin. -/
def Shell.presence (shell : Shell) : Presence :=
  if shell.approves then .always else shell.terminal.presence

/-- The terminal after the questions of ceremonies, which a user who agrees in advance is not
asked. -/
def Shell.terminalAfter (shell : Shell) (questions : List Question) : Terminal :=
  if shell.approves then shell.terminal else shell.terminal.after questions

/-- The shell after a question. -/
def Shell.asked (shell : Shell) (question : Question) : Shell :=
  { shell with terminal := shell.terminal.after [question] }

/-- A command, which may fail. What it did and printed before is kept. -/
abbrev CommandM := ExceptT VaultError (StateM Shell)

namespace CommandM

/-- Prints a message. -/
def say (tone : Console.Tone) (message : String) : CommandM Unit :=
  modify fun shell => { shell with console := shell.console.say tone message }

/-- Prints text as a result. -/
def print (text : String) : CommandM Unit :=
  modify fun shell => { shell with console := shell.console.print .output text }

/-- Works with the files. -/
def onFiles {α : Type} (act : ExceptT VaultError (StateM Files) α) : CommandM α :=
  ExceptT.mk fun shell =>
    let (result, files) := act shell.files
    (result, { shell with files })

/-- Asks the user. -/
def ask (question : Question) : CommandM (Except String Bool) :=
  modifyGet fun shell => (shell.terminal.answer question, shell.asked question)

/-- Raises a failure. -/
def ofExcept {α : Type} : Except VaultError α → CommandM α
  | .ok value => pure value
  | .error e => throw e

end CommandM

/-- What the settings and the options say. -/
structure Context where
  /-- The settings, with the options in place of what they override. -/
  settings : Settings
  /-- The path of the directory of the vault. -/
  directory : String
deriving DecidableEq, Repr

namespace Context

/-- The settings with the options of an invocation in place of what they override. -/
def override (settings : Settings) (invocation : Invocation) : Settings :=
  { settings with
    vaultDirectory := invocation.vaultDirectory.getD settings.vaultDirectory
    vaultId := invocation.vaultId.getD settings.vaultId }

/-- The context of an invocation in a project, if the settings can be read and the id of the vault
is a name. -/
def load (invocation : Invocation) : CommandM Context := do
  let shell ← get
  let settings ← CommandM.ofExcept (Settings.load shell.files shell.project)
  let settings := override settings invocation
  CommandM.ofExcept (VaultName.check settings.vaultId)
  return ⟨settings, settings.directoryIn shell.project⟩

/-- The id of the vault. -/
def vaultId (context : Context) : String := context.settings.vaultId

/-- Opens the store of the vault. -/
def openStore (context : Context) : CommandM Store :=
  CommandM.onFiles (Store.openAt context.directory)

/-- Notes an attempt in the audit log, if that is possible. -/
def note (context : Context) (attempt : Audit.Attempt) : CommandM Unit :=
  modify fun shell =>
    { shell with files := AuditLog.noteIn context.directory attempt shell.now shell.files }

end Context

/-- Where a command works with its vault. -/
structure Desk where
  /-- The vault. -/
  vault : Vault
  /-- The store of the vault. -/
  store : Store
  /-- The platform that holds its credential. -/
  platform : Platform
  /-- The cache of the process. -/
  cache : SessionCache

namespace Desk

/-- The name of the file of the authenticator in the directory of the vault. -/
def authenticatorFile : String := "authenticator.json"

/-- Opens the store and the authenticator of a vault. -/
def ofContext (context : Context) : CommandM Desk := do
  let store ← context.openStore
  let shell ← get
  let authenticator ← CommandM.ofExcept
    (VirtualAuthenticator.openAt (Files.join context.directory authenticatorFile) .full
      shell.files)
  return {
    vault := {
      id := context.vaultId
      rp := context.settings.rp
      allowsLargeBlob := context.settings.allowsLargeBlob
      counters := .absent }
    store
    platform := .virtual { authenticator with presence := shell.presence }
    cache := .empty }

/-- The world of the vault. -/
def world (desk : Desk) (shell : Shell) : World where
  device := ⟨desk.platform, ⟨shell.files, shell.random⟩⟩
  store := desk.store
  cache := desk.cache
  now := shell.now
  resets := []

/-- Runs an operation of the vault; a failure is a result. -/
def attempt {α : Type} (desk : Desk) (act : Vault → VaultM α) :
    CommandM (Except VaultError α × Desk) := ExceptT.mk fun shell =>
  let (result, world) := act desk.vault (desk.world shell)
  (.ok (result,
      { desk with
        store := world.store
        platform := world.device.platform
        cache := world.cache }),
    { shell with
      files := world.store.save world.device.host.files
      random := world.device.host.random
      terminal := shell.terminalAfter
        (desk.platform.questionsSince world.device.platform) })

/-- Runs an operation of the vault; a failure is raised. -/
def perform {α : Type} (desk : Desk) (act : Vault → VaultM α) : CommandM (α × Desk) := do
  match ← desk.attempt act with
  | (.ok value, desk) => return (value, desk)
  | (.error e, _) => throw e

/-- A desk whose user answers in another way. -/
def answeredBy (desk : Desk) (presence : Presence) : Desk :=
  { desk with platform := desk.platform.answeredBy presence }

/-- Asks the user. The authenticator has the replies that are left. -/
def ask (desk : Desk) (question : Question) : CommandM (Except String Bool × Desk) := do
  let answer ← CommandM.ask question
  return (answer, desk.answeredBy (← get).presence)

end Desk

end CredentialVault
