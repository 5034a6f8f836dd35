import CredentialVault.CommandLine.Program
import CredentialVault.Proofs.Audit.Log
import CredentialVault.Proofs.IgnoreFile.Ensure
import CredentialVault.Proofs.Store.Reopen
import CredentialVault.Proofs.Store.Open
import CredentialVault.Proofs.Vault.Files

/-!
# Commands and the files

A command changes the files in few steps (`Context.FileSteps`): it makes the directory of the vault,
it writes the store to its file, the authenticator replaces its file, and the ignore file of the
project is written. A relation of files that holds for these steps holds for what a command does at
its desk (`Desk.filesWithin_after`), up to its note in the audit log.

A user who does not agree in advance answers at the terminal. The authenticator takes its replies
there, and those that it leaves are the ones for what the command asks next (`Desk.presence_after`).
-/

namespace CredentialVault

open Operation VaultM

/-! ## Shells -/

/-- Two shells have related files; the time, the project and the approval are the same. -/
structure Shell.FilesWithin (Q : Files → Files → Prop) (shell shell' : Shell) : Prop where
  /-- The files are related. -/
  files : Q shell.files shell'.files
  /-- The time is the same. -/
  now : shell'.now = shell.now
  /-- The project is the same. -/
  project : shell'.project = shell.project
  /-- The approval is the same. -/
  approves : shell'.approves = shell.approves

/-- A user who agrees in advance agrees to everything. -/
theorem Shell.presence_of_approves {shell : Shell} (h : shell.approves = true) :
    shell.presence = .always :=
  if_pos h

/-- A user who does not agree in advance answers at the terminal. -/
theorem Shell.presence_of_asks {shell : Shell} (h : shell.approves = false) :
    shell.presence = shell.terminal.presence := by
  unfold Shell.presence
  rw [h, if_neg (by decide)]

section Within

variable {Q : Files → Files → Prop} [Sequential Q]

instance : Sequential (Shell.FilesWithin Q) where
  refl shell := ⟨Sequential.refl shell.files, rfl, rfl, rfl⟩
  trans h h' := ⟨Sequential.trans h.files h'.files, h'.now.trans h.now, h'.project.trans h.project,
    h'.approves.trans h.approves⟩

/-- What is printed does not matter to the files. -/
theorem Shell.filesWithin_console (shell : Shell) (console : Console) :
    shell.FilesWithin Q { shell with console } :=
  ⟨Sequential.refl shell.files, rfl, rfl, rfl⟩

/-- What is asked does not matter to the files. -/
theorem Shell.filesWithin_asked (shell : Shell) (question : Question) :
    shell.FilesWithin Q (shell.asked question) :=
  ⟨Sequential.refl shell.files, rfl, rfl, rfl⟩

namespace CommandM

/-- A message is printed. -/
theorem say_run (tone : Console.Tone) (message : String) (shell : Shell) :
    say tone message shell = (.ok (), { shell with console := shell.console.say tone message }) :=
  rfl

/-- A given outcome leaves the files. -/
theorem within_ofExcept {α : Type} (outcome : Except VaultError α) :
    Within (Shell.FilesWithin Q) (ofExcept outcome) := by
  cases outcome with
  | error e => exact .throw e
  | ok value => exact .pure value

omit [Sequential Q] in
/-- What work with the files stays within, the command stays within. -/
theorem within_onFiles {α : Type} {act : ExceptT VaultError (StateM Files) α} (h : Within Q act) :
    Within (Shell.FilesWithin Q) (onFiles act) :=
  fun shell => ⟨h shell.files, rfl, rfl, rfl⟩

/-- A run on the files changes the files alone. -/
theorem onFiles_run {α : Type} {act : ExceptT VaultError (StateM Files) α} {shell shell' : Shell}
    {r : Except VaultError α} (h : onFiles act shell = (r, shell')) :
    ∃ files, act shell.files = (r, files) ∧ shell' = { shell with files } := by
  cases h
  exact ⟨_, rfl, rfl⟩

/-- A given result changes nothing. -/
theorem ofExcept_run {α : Type} {outcome : Except VaultError α} {shell shell' : Shell}
    {r : Except VaultError α} (h : ofExcept outcome shell = (r, shell')) :
    outcome = r ∧ shell' = shell := by
  cases outcome <;> cases h <;> exact ⟨rfl, rfl⟩

end CommandM

/-! ## The names of the files -/

/-- The file of an authenticator has a name of its own. -/
theorem Desk.isFileName_authenticatorFile : Files.IsFileName authenticatorFile :=
  ⟨by decide, by decide, by decide, by decide⟩

/-- The file that is written beside the one of an authenticator has a name of its own. -/
theorem Desk.isFileName_beside : Files.IsFileName s!".{authenticatorFile}.tmp" :=
  ⟨by decide, by decide, by decide, by decide⟩

/-- The settings file has a name of its own. -/
theorem Settings.isFileName : Files.IsFileName fileName :=
  ⟨by decide, by decide, by decide, by decide⟩

/-! ## The steps -/

/-- A relation of files holds for every step in which a command changes them, but for its note in
the audit log. -/
structure Context.FileSteps (context : Context) (Q : Files → Files → Prop) : Prop where
  /-- The directory of the vault is made. -/
  createDirectories : Within Q (FilesM.createDirectories context.directory)
  /-- The store is written to its file. -/
  saveStore : ∀ files content,
    Q files (files.saveDatabase (Files.join context.directory Store.fileName) content)
  /-- The authenticator replaces its file. -/
  replaceFile : ∀ credentials, Within Q
    (VirtualAuthenticator.replaceFile (Files.join context.directory Desk.authenticatorFile)
      credentials)
  /-- The ignore file of a project is written. -/
  ignoreFile : ∀ project content, Within Q (FilesM.write (IgnoreFile.pathIn project) content)

namespace Context

variable {context : Context}

/-- To open the store stays within a relation that holds for the steps. -/
theorem within_openStore (h : context.FileSteps Q) :
    Within (Shell.FilesWithin Q) context.openStore := by
  refine CommandM.within_onFiles (Within.get.bind fun files => ?_)
  have hopen : Within Q (Store.openIn context.directory) := by
    refine Within.get.bind fun files => ?_
    dsimp only
    split
    · exact .throw _
    · exact .throw _
    · refine Within.bind (.modify fun _ => h.saveStore _ _) fun _ => .pure _
  dsimp only
  split
  · exact (h.createDirectories.adapt _).bind fun _ => hopen
  · exact hopen

/-- The vault of a context. -/
def vault (context : Context) : Vault where
  id := context.vaultId
  rp := context.settings.rp
  allowsLargeBlob := context.settings.allowsLargeBlob
  counters := .absent

end Context

/-! ## The desk -/

namespace Desk

variable {context : Context} {desk : Desk} {shell shell' : Shell}

/-- A desk is that of a context: its vault is the vault of the context, and its store and its
authenticator have their files in the directory of the context. -/
structure IsOf (desk : Desk) (context : Context) : Prop where
  /-- The vault is that of the context. -/
  vault : desk.vault = context.vault
  /-- The store has its file in the directory. -/
  store : desk.store.path? = some (Files.join context.directory Store.fileName)
  /-- The authenticator has its file in the directory. -/
  authenticator : ∃ authenticator, desk.platform = .virtual authenticator ∧
    authenticator.path = some (Files.join context.directory authenticatorFile)

/-- To come to a desk stays within a relation that holds for the steps. -/
theorem within_ofContext (h : context.FileSteps Q) :
    Within (Shell.FilesWithin Q) (ofContext context) := by
  refine (Context.within_openStore h).bind fun store => Within.get.bind fun shell => ?_
  exact (CommandM.within_ofExcept _).bind fun authenticator => .pure _

/-- The file of an authenticator that was opened is the one it was opened from. -/
theorem path_of_openAt {path : String} {capabilities : Capabilities} {files : Files}
    {authenticator : VirtualAuthenticator}
    (h : VirtualAuthenticator.openAt path capabilities files = .ok authenticator) :
    authenticator.path = some path := by
  unfold VirtualAuthenticator.openAt at h
  split at h
  · split at h
    · cases h
    · split at h
      · cases h
      · cases h
        rfl
  · cases h
    rfl

/-- A desk to which a command comes is that of its context; its store is sound, and its cache is
empty. -/
theorem ofContext_ok (h : ofContext context shell = (.ok desk, shell')) :
    desk.IsOf context ∧ desk.store.Sound ∧ desk.cache = .empty := by
  obtain ⟨store, opened, hstore, h₁⟩ := bind_ok h
  obtain ⟨_, _, hget, h₂⟩ := bind_ok h₁
  cases hget
  obtain ⟨authenticator, _, hauthenticator, h₃⟩ := bind_ok h₂
  obtain ⟨hauthenticator, rfl⟩ := CommandM.ofExcept_run hauthenticator
  cases h₃
  obtain ⟨files, hopen, rfl⟩ := CommandM.onFiles_run hstore
  obtain ⟨made, -, hin⟩ := Store.openAt_ok hopen
  obtain ⟨content, -, rfl, -⟩ := Store.openIn_ok hin
  have hpath := path_of_openAt hauthenticator
  exact ⟨⟨rfl, rfl, _, rfl, hpath⟩, Store.sound_fresh _ _, rfl⟩

/-- To come to a desk changes the files alone. -/
theorem ofContext_shell (h : ofContext context shell = (.ok desk, shell')) :
    ∃ files, shell' = { shell with files } := by
  obtain ⟨store, opened, hstore, h₁⟩ := bind_ok h
  obtain ⟨_, _, hget, h₂⟩ := bind_ok h₁
  cases hget
  obtain ⟨authenticator, _, hauthenticator, h₃⟩ := bind_ok h₂
  obtain ⟨-, rfl⟩ := CommandM.ofExcept_run hauthenticator
  cases h₃
  obtain ⟨files, -, rfl⟩ := CommandM.onFiles_run hstore
  exact ⟨files, rfl⟩

/-- A desk stays that of its context when its user answers in another way. -/
theorem IsOf.answeredBy (h : desk.IsOf context) (presence : Presence) :
    (desk.answeredBy presence).IsOf context := by
  obtain ⟨authenticator, hplatform, hpath⟩ := h.authenticator
  refine ⟨h.vault, h.store, { authenticator with presence }, ?_, hpath⟩
  unfold Desk.answeredBy Platform.answeredBy
  rw [hplatform]

/-- The desk with what a world has. -/
def after (desk : Desk) (world : World) : Desk :=
  { desk with
    store := world.store
    platform := world.device.platform
    cache := world.cache }

end Desk

/-- The shell with what the world of a desk has come to, of which the store is written to its
file. -/
def Shell.after (shell : Shell) (desk : Desk) (world : World) : Shell :=
  { shell with
    files := world.store.save world.device.host.files
    random := world.device.host.random
    terminal := shell.terminalAfter (desk.platform.questionsSince world.device.platform) }

namespace Desk

variable {context : Context} {desk : Desk} {shell : Shell} {α : Type} {act : Vault → VaultM α}
  {world : World}

/-- An attempt at a desk ends with what the operation comes to. -/
theorem attempt_of_run {result : Except VaultError α}
    (h : act desk.vault (desk.world shell) = (result, world)) :
    desk.attempt act shell = (.ok (result, desk.after world), shell.after desk world) := by
  unfold attempt
  simp only [ExceptT.mk, h]
  rfl

/-- An operation that is performed at a desk ends with its result. -/
theorem perform_of_ok {a : α} (h : act desk.vault (desk.world shell) = (.ok a, world)) :
    desk.perform act shell = (.ok (a, desk.after world), shell.after desk world) := by
  unfold perform
  rw [run_bind_of_ok (attempt_of_run h)]
  rfl

/-- The shell after an operation at a desk that only reads: the store is written as it is. -/
def read (desk : Desk) (shell : Shell) : Shell := shell.after desk (desk.world shell)

/-- To read at a desk leaves the terminal. -/
@[simp] theorem read_terminal (desk : Desk) (shell : Shell) :
    (desk.read shell).terminal = shell.terminal := by
  have hquestions : desk.platform.questionsSince desk.platform = [] := by
    cases hplatform : desk.platform <;> simp [Platform.questionsSince]
  show shell.terminalAfter (desk.platform.questionsSince desk.platform) = shell.terminal
  rw [hquestions]
  simp [Shell.terminalAfter, Terminal.after]

/-- An operation that only reads leaves the desk. -/
theorem perform_of_read {a : α}
    (h : act desk.vault (desk.world shell) = (.ok a, desk.world shell)) :
    desk.perform act shell = (.ok (a, desk), desk.read shell) :=
  perform_of_ok h

/-- At a desk to which a command came, the state of the vault is read. -/
theorem perform_state {desk : Desk} (hdesk : desk.IsOf context) (hstore : desk.store.Sound)
    (hcache : desk.cache = .empty) (shell : Shell) :
    desk.perform Vault.state shell =
      (.ok (if (desk.store.recordText? context.vaultId).isSome then .locked else .absent, desk),
        desk.read shell) := by
  have hid : desk.vault.id = context.vaultId := by
    rw [hdesk.vault]
    rfl
  rw [← hid]
  have hcached : (desk.world shell).cache = .empty := hcache
  have hstate := desk.vault.state_of_sound (w := desk.world shell) hstore
  rw [hcached] at hstate
  exact perform_of_read hstate

/-- An operation that stays within a relation of files keeps the desk that of its context, and leads
to related files. -/
theorem filesWithin_after (hsteps : context.FileSteps Q) (hdesk : desk.IsOf context)
    (hworld : World.FilesWithin (Files.join context.directory authenticatorFile) Q
      (desk.world shell) world) :
    (desk.after world).IsOf context ∧ shell.FilesWithin Q (shell.after desk world) := by
  obtain ⟨authenticator, hplatform, hpath⟩ := hdesk.authenticator
  obtain ⟨other, hother, hlifted⟩ := hworld.device authenticator hplatform
  have hstore : world.store.path? = some (Files.join context.directory Store.fileName) :=
    (congrArg Prod.fst hworld.setting).trans hdesk.store
  refine ⟨⟨hdesk.vault, hstore, other, hother, hlifted.samePath.trans hpath⟩, ?_, rfl, rfl, rfl⟩
  have hdevice : Q shell.files world.device.host.files := hlifted.related hpath
  have hsave : Q world.device.host.files (world.store.save world.device.host.files) := by
    rw [Store.save_eq hstore]
    exact hsteps.saveStore _ _
  exact Sequential.trans hdevice hsave

/-- An operation at a desk takes from the replies at the terminal those that its authenticator took:
the user answers the authenticator as before, with the replies that are left. -/
theorem presence_after (operation : VaultOperation) {authenticator : VirtualAuthenticator}
    (hplatform : desk.platform = .virtual authenticator)
    (hpresence : authenticator.presence = shell.presence)
    (hworld : operation.after desk.vault (desk.world shell) = world) :
    ∃ other, (desk.after world).platform = .virtual other ∧
      other.presence = (shell.after desk world).presence := by
  obtain ⟨other, hother, put, hasked, hleft⟩ := operation.lifts_after
    VirtualAuthenticator.ceremonySteps_asksInTurn desk.vault (desk.world shell) authenticator hplatform
  rw [hworld] at hother
  refine ⟨other, hother, ?_⟩
  -- The terminal shows a question for each ceremony that was put, and so loses as many replies.
  have hquestions : (desk.platform.questionsSince world.device.platform).length = put.length := by
    rw [hplatform, hother]
    show ((other.asked.drop authenticator.asked.length).map _).length = put.length
    rw [show other.asked = authenticator.asked ++ put from hasked, List.drop_left, List.length_map]
  rw [show other.presence = ⟨authenticator.presence.queue.drop put.length,
    authenticator.presence.approve⟩ from hleft, hpresence]
  rcases happroves : shell.approves with _ | _
  · have hterminal : (shell.after desk world).terminal = shell.terminal.after
        (desk.platform.questionsSince world.device.platform) := if_neg (by rw [happroves]; decide)
    have hlater : (shell.after desk world).presence = (shell.after desk world).terminal.presence :=
      Shell.presence_of_asks happroves
    rw [Shell.presence_of_asks happroves, hlater, hterminal]
    simp only [Terminal.presence, Terminal.after, hquestions, List.map_drop]
  -- A user who agrees in advance has no replies to lose.
  · have hlater : (shell.after desk world).presence = .always := Shell.presence_of_approves happroves
    rw [Shell.presence_of_approves happroves, hlater]
    simp [Presence.always]

/-- To read at a desk leads to related files. -/
theorem filesWithin_read (hsteps : context.FileSteps Q) (hdesk : desk.IsOf context) (shell : Shell) :
    shell.FilesWithin Q (desk.read shell) :=
  (filesWithin_after hsteps hdesk (Sequential.refl (desk.world shell))).2

end Desk

end Within

end CredentialVault
