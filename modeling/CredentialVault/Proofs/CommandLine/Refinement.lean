import CredentialVault.Proofs.CommandLine.Outcome
import CredentialVault.Proofs.CommandLine.ProjectDesk

/-!
# Processes refine a map

The processes that run in a project one after another know of each other by the files alone. Yet
seen from outside they work on a map of the ids of vaults to their public keys (`Process.Refines`):
to make a vault adds its key, to open it prints its key, to delete it takes the key away, and all
else leaves the map. That holds of every run of processes in a project that is new
(`runs_refine_map`). What carries the proof is that the files hold the vaults of the map between the
processes (`Project.Rests`).
-/

namespace CredentialVault

open Operation VaultM

/-! ## Processes -/

/-- A process in a project: its arguments make an invocation, which names the directory of the
project's vaults and a valid id. -/
structure Process (project : Project) where
  /-- The arguments. -/
  arguments : List String
  /-- The source of random bytes. -/
  random : RandomStream
  /-- The time. -/
  now : Instant
  /-- The terminal. -/
  terminal : Terminal
  /-- The invocation. -/
  invocation : Invocation
  /-- The arguments make the invocation. -/
  parsed : Invocation.ofArguments arguments = .ok invocation
  /-- The directory is that of the project's vaults. -/
  directory_eq : invocation.vaultDirectory.getD project.settings.vaultDirectory =
    project.vaultDirectory
  /-- The id is valid. -/
  named : VaultName.check (invocation.vaultId.getD project.settings.vaultId) = .ok ()

namespace Process

variable {project : Project}

/-- The id of the vault that the process is about. -/
def vaultId (process : Process project) : String :=
  process.invocation.vaultId.getD project.settings.vaultId

/-- The shell of the process, with a user who agrees to every ceremony in advance. -/
def shell (process : Process project) (files : Files) : Shell where
  files
  random := process.random
  now := process.now
  project := project.path
  approves := true
  terminal := process.terminal
  console := .empty

/-- The code with which the process ends, and what it leaves. -/
def run (process : Process project) (files : Files) : Nat × Shell :=
  Program.run process.arguments (process.shell files)

/-- The name of the credential that the process makes if it makes a vault. -/
def credential (process : Process project) : CredentialId :=
  ⟨((process.random.draw RelyingParty.userIdSize).2.draw VirtualAuthenticator.credentialIdSize).1⟩

/-- The user says yes when the process asks whether its vault is to be deleted. -/
def Confirms (process : Process project) : Prop :=
  process.terminal.answer (DeleteCommand.question process.vaultId) = .ok true

instance (process : Process project) : Decidable process.Confirms :=
  inferInstanceAs (Decidable (_ = _))

/-- The processes of a run that make a vault, when there are vaults of the given ids. -/
def making (ids : List String) : List (Process project) → List (Process project)
  | [] => []
  | process :: rest =>
    match process.invocation.command with
    | .init _ =>
      if process.vaultId ∈ ids then making ids rest
      else process :: making (process.vaultId :: ids) rest
    | .delete isForced =>
      if isForced = true ∨ process.Confirms then making (ids.filter (· ≠ process.vaultId)) rest
      else making ids rest
    | _ => making ids rest

/-- The process ends well and prints a public key. -/
def PrintsKey (process : Process project) (files : Files) (key : String) : Prop :=
  (process.run files).1 = 0 ∧
    (.output, Console.line .info s!"Public key: {key}") ∈ (process.run files).2.console.printed

/-- The process ends well and shows the state of its vault. Whatever the user would answer and
whatever would be drawn, it comes to the same. -/
def ShowsState (process : Process project) (files : Files) (state : String) : Prop :=
  (process.run files).1 = 0 ∧
    (∃ grid : Text.Grid, (.output, grid.render) ∈ (process.run files).2.console.printed ∧
      ["Vault id", process.vaultId] ∈ grid.rows ∧ ["State", state] ∈ grid.rows) ∧
    ∀ approves terminal random,
      Program.run process.arguments { process.shell files with approves, terminal, random } =
        (0, { (process.run files).2 with approves, terminal, random })

/-- What the process does with a map of ids to public keys, when it runs on the given files; `keys'`
is the map afterwards. -/
def Refines (process : Process project) (files : Files) (keys keys' : String → Option String) : Prop :=
  match process.invocation.command, keys process.vaultId with
  | .init _, none => ∃ key : Keys.PrivateKey, process.PrintsKey files key.publicKeyHex ∧
      keys' = Function.update keys process.vaultId (some key.publicKeyHex)
  | .init _, some _ => (process.run files).1 = 1 ∧
      (∀ location, (process.run files).2.files.node? location = files.node? location) ∧ keys' = keys
  | .unlock, some key => process.PrintsKey files key ∧ keys' = keys
  | .unlock, none => (process.run files).1 = 1 ∧ keys' = keys
  | .status, some _ => process.ShowsState files "locked" ∧ keys' = keys
  | .status, none => process.ShowsState files "no vault" ∧ keys' = keys
  | .delete isForced, _ =>
    if isForced = true ∨ process.Confirms then
      (process.run files).1 = 0 ∧ keys' = Function.update keys process.vaultId none
    else keys' = keys
  | .audit .., _ | .version, _ | .completions _, _ => keys' = keys

/-- Processes refine a map when they run one after another, each on the files that the one before it
left. -/
def RunRefines : List (Process project) → Files → (String → Option String) → Prop
  | [], _, _ => True
  | process :: rest, files, keys => ∃ keys', process.Refines files keys keys' ∧
      RunRefines rest (process.run files).2.files keys'

end Process

/-! ## Projects at rest -/

namespace Project

variable {project : Project} {keys : String → Option String} {later : List CredentialId}
  {files opened : Files}

/-- A project is new: its settings can be read, and in the directory of the vaults, which may have
to be made, there is neither a database nor a file of the authenticator yet, nor an audit log. The
directory can be used once the store was opened, and the settings still be read. -/
structure IsNew (project : Project) (files opened : Files) : Prop where
  /-- The settings can be read. -/
  settings : Settings.load files project.path = .ok project.settings
  /-- The store can be opened, and is empty. -/
  openAt : Store.openAt project.directory files =
    (.ok (.fresh (.database (some project.storePath)) .empty), opened)
  /-- The settings can still be read. -/
  settings_opened : Settings.load opened project.path = .ok project.settings
  /-- The directory of the vaults can be used. -/
  serves : project.Serves opened
  /-- There is no file of the authenticator. -/
  authenticator : opened.exists? project.authenticatorPath = false
  /-- There is no audit log. -/
  log : files.exists? (AuditLog.pathIn project.directory) = false

/-- When the store of a new project was opened, there are no vaults. -/
theorem IsNew.holdsKeys (h : project.IsNew files opened) (hkeys : ∀ id, keys id = none) :
    project.HoldsKeys keys later (.fresh (.database (some project.storePath)) .empty) opened where
  settings := h.settings_opened
  serves := h.serves
  saves := by
    obtain ⟨made, -, hin⟩ := Store.openAt_ok h.openAt
    obtain ⟨content, hopen, -, hopened⟩ := Store.openIn_ok hin
    -- The directory may have been made just now, so the place of the file is found after that.
    obtain ⟨location, hlocation, -⟩ := Files.openDatabase_content hopen
    obtain ⟨there, hthere⟩ := Option.isSome_iff_exists.mp h.serves.store
    obtain rfl := Files.databaseWalk?_unique (Files.databaseLocation?_some hlocation).1
      (Files.databaseLocation?_some hthere).1
    refine ⟨⟨Store.sound_fresh _ _, rfl, rfl⟩, rfl, location, hthere, ?_⟩
    rw [hopened, Files.node?_saveDatabase hlocation]
  authenticator := .inl h.authenticator
  absent _ _ := rfl
  made id key hkey := by
    rw [hkeys] at hkey
    cases hkey
  legacy := rfl

/-- Between processes a project is new, or its files hold the vaults of a map. -/
inductive Rests (project : Project) (keys : String → Option String) (later : List CredentialId)
    (files : Files) : Prop where
  /-- The project is new. -/
  | unused {opened : Files} (hnew : project.IsNew files opened) (hkeys : ∀ id, keys id = none)
  /-- The files hold the vaults. -/
  | used {store : Store} (hholds : project.HoldsKeys keys later store files)

namespace Rests

/-- The settings of a project at rest can be read. -/
theorem settings (h : project.Rests keys later files) :
    Settings.load files project.path = .ok project.settings := by
  cases h with
  | unused hnew => exact hnew.settings
  | used hholds => exact hholds.settings

/-- The store of a project at rest is opened, which changes no file where there are vaults. -/
theorem opens (h : project.Rests keys later files) :
    ∃ store opened, Store.openAt project.directory files = (.ok store, opened) ∧
      project.HoldsKeys keys later store opened ∧
      ∀ id, keys id ≠ none → files.Touches [] opened := by
  cases h with
  | unused hnew hkeys =>
    exact ⟨_, _, hnew.openAt, hnew.holdsKeys hkeys, fun id hid => absurd (hkeys id) hid⟩
  | used hholds =>
    obtain ⟨store, opened, hopen, htouches, hopened⟩ := hholds.openAt
    exact ⟨store, opened, hopen, hopened, fun _ _ => htouches⟩

variable (process : Process project)

/-- A process in a project at rest comes to its desk. -/
theorem desk (h : project.Rests keys later files) :
    ∃ desk ready, Desk.ofContext (project.context process.vaultId) (process.shell files) =
        (.ok desk, ready) ∧ ready.random = process.random ∧
      project.AtDesk keys later process.vaultId desk ready ∧
      ∀ id, keys id ≠ none → files.Touches [] ready.files := by
  obtain ⟨store, opened, hopen, hholds, htouches⟩ := h.opens
  obtain ⟨desk, hdesk, hat⟩ :=
    ofContext_of_openAt (process.shell files) hopen hholds rfl process.vaultId
  exact ⟨desk, _, hdesk, rfl, hat, htouches⟩

end Rests

end Project

/-! ## The outcome of a process -/

namespace Process

variable {project : Project} {process : Process project} {files : Files} {after : Shell}

/-- In a project whose settings can be read a process gets to the context of its vault. -/
theorem load_run (process : Process project) {shell : Shell}
    (h : Settings.load shell.files project.path = .ok project.settings)
    (hproject : shell.project = project.path) :
    Context.load process.invocation shell = (.ok (project.context process.vaultId), shell) := by
  have hoverride : Context.override project.settings process.invocation =
      (project.context process.vaultId).settings := by
    unfold Context.override
    rw [process.directory_eq]
    rfl
  have hsettings : CommandM.ofExcept (Settings.load shell.files shell.project) shell =
      (.ok project.settings, shell) := by
    rw [hproject, h]
    rfl
  have hcheck : CommandM.ofExcept (VaultName.check (project.context process.vaultId).settings.vaultId)
      shell = (.ok (), shell) := by
    rw [show VaultName.check (project.context process.vaultId).settings.vaultId = .ok () from
      process.named]
    rfl
  unfold Context.load
  rw [run_bind, run_get]
  dsimp only
  rw [run_bind_of_ok hsettings, hoverride, run_bind_of_ok hcheck, hproject]
  rfl

/-- The command of a process works in the context of its vault. -/
theorem invocation_run (process : Process project) (shell : Shell) {work : Context → CommandM Unit}
    (h : Settings.load shell.files project.path = .ok project.settings)
    (hproject : shell.project = project.path)
    (hwork : process.invocation.run = Context.load process.invocation >>= work) :
    process.invocation.run shell = work (project.context process.vaultId) shell := by
  rw [hwork]
  exact run_bind_of_ok (process.load_run h hproject)

/-- The id of the vault is not empty. -/
theorem vaultId_ne_empty (process : Process project) : process.vaultId ≠ "" := by
  intro hempty
  have hnamed := process.named
  rw [show process.invocation.vaultId.getD project.settings.vaultId = "" from hempty] at hnamed
  cases hnamed

/-- A process whose command succeeds ends with zero. -/
theorem run_of_ok (h : process.invocation.run (process.shell files) = (.ok (), after)) :
    process.run files = (0, after) := by
  unfold run Program.run
  rw [process.parsed]
  dsimp only
  rw [h]

/-- A process whose command fails ends with one, and shows the error. -/
theorem run_of_error {e : VaultError}
    (h : process.invocation.run (process.shell files) = (.error e, after)) :
    process.run files = (1, { after with console := after.console.say .error e.message }) := by
  unfold run Program.run
  rw [process.parsed]
  dsimp only
  rw [h]

/-- A process leaves the files that its command leaves. -/
theorem run_files (process : Process project) (files : Files) :
    (process.run files).2.files = (process.invocation.run (process.shell files)).2.files := by
  rcases hrun : process.invocation.run (process.shell files) with ⟨_ | _, after⟩
  · rw [run_of_error hrun]
  · rw [run_of_ok hrun]

end Process

/-! ## Steps -/

namespace Project.Rests

variable {project : Project} {keys : String → Option String} {later : List CredentialId}
  {files : Files} {process : Process project}

/-- A process that makes a vault adds its key to the map. -/
theorem make {migrates : Bool} (h : project.Rests keys (process.credential :: later) files)
    (hcommand : process.invocation.command = .init migrates) (habsent : keys process.vaultId = none)
    (hfresh : process.credential ∉ later)
    (hsigns : process.random.nextPrivateKey.Signs UnlockCommand.checkMessage) :
    ∃ key, process.Refines files keys (Function.update keys process.vaultId (some key)) ∧
      project.Rests (Function.update keys process.vaultId (some key)) later
        (process.run files).2.files := by
  obtain ⟨desk, ready, hdesk, hrandom, hat, -⟩ := h.desk process
  obtain ⟨console, hinit⟩ := InitCommand.run_of_desk _ migrates hdesk
  have hrow : desk.store.recordText? (project.context process.vaultId).vaultId = none :=
    hat.holds.absent _ habsent
  rw [if_pos hrow] at hinit
  -- The command reads at its desk twice before it makes the vault.
  have hlast := (hat.read.2.read.2).console console
  have hcredential : (desk.world { desk.read (desk.read ready) with console }).device.nextCredential =
      process.credential := by
    unfold Device.nextCredential Process.credential
    rw [← hrandom]
    rfl
  obtain ⟨created, world, hcreate, hpublic, hholds⟩ := hlast.create process.vaultId_ne_empty habsent
    hcredential hfresh (congrArg RandomStream.nextPrivateKey hrandom) hsigns migrates
  obtain ⟨after, hproceed, htouches, hprinted⟩ := InitCommand.proceed_of_created hcreate
  have hinvocation := process.invocation_run (process.shell files) h.settings rfl
    (by unfold Invocation.run; rw [hcommand])
  have hrun := Process.run_of_ok (hinvocation.trans (hinit.trans hproceed))
  refine ⟨process.random.nextPrivateKey.publicKeyHex, ?_, ?_⟩
  · unfold Process.Refines
    rw [hcommand, habsent]
    refine ⟨process.random.nextPrivateKey, ⟨by rw [hrun], ?_⟩, rfl⟩
    rw [hrun, ← hpublic]
    exact hprinted
  · rw [hrun]
    exact .used (hholds.of_touches (by decide) htouches)

/-- A process that is to make a vault that is there changes no file. -/
theorem refuse {migrates : Bool} {key : String} (h : project.Rests keys later files)
    (hcommand : process.invocation.command = .init migrates)
    (hthere : keys process.vaultId = some key) :
    process.Refines files keys keys ∧ project.Rests keys later (process.run files).2.files := by
  obtain ⟨desk, ready, hdesk, -, hat, hopened⟩ := h.desk process
  obtain ⟨console, hinit⟩ := InitCommand.run_of_desk _ migrates hdesk
  have hrow : desk.store.recordText? (project.context process.vaultId).vaultId ≠ none :=
    hat.holdsKeys.row_of_some (project.id_vault _) hthere
  rw [if_neg hrow] at hinit
  have hinvocation := process.invocation_run (process.shell files) h.settings rfl
    (by unfold Invocation.run; rw [hcommand])
  have hrun := Process.run_of_error (hinvocation.trans hinit)
  have htouches : files.Touches [] (desk.read (desk.read ready)).files :=
    Sequential.trans (hopened process.vaultId (by rw [hthere]; exact nofun))
      (Sequential.trans hat.read.1 hat.read.2.read.1)
  rw [hrun]
  refine ⟨?_, .used hat.read.2.read.2.holds⟩
  unfold Process.Refines
  rw [hcommand, hthere, hrun]
  exact ⟨rfl, fun location => htouches.node?_eq (fun _ hname => nomatch hname), rfl⟩

/-- A process that opens a vault leaves the map. -/
theorem unlock (h : project.Rests keys later files)
    (hcommand : process.invocation.command = .unlock) :
    process.Refines files keys keys ∧ project.Rests keys later (process.run files).2.files := by
  obtain ⟨desk, ready, hdesk, -, hat, -⟩ := h.desk process
  obtain ⟨result, world, hproved, hholds, hresult⟩ := hat.proved
  obtain ⟨after, hunlock, htouches, hprinted⟩ := UnlockCommand.run_of_proved hdesk hproved
  have hinvocation := process.invocation_run (process.shell files) h.settings rfl
    (by unfold Invocation.run; rw [hcommand])
  -- Whatever the opening comes to, the files hold the vaults as before.
  have hafter : project.Rests keys later after.files :=
    .used (hholds.of_touches (by decide) htouches)
  unfold Process.Refines
  rw [hcommand]
  rcases hkey : keys process.vaultId with _ | key <;> rw [hkey] at hresult
  · obtain ⟨e, rfl⟩ := hresult
    rw [Process.run_of_error (hinvocation.trans hunlock)]
    exact ⟨⟨rfl, rfl⟩, hafter⟩
  · obtain ⟨session, rfl, rfl⟩ := hresult
    have hrun := Process.run_of_ok (hinvocation.trans hunlock)
    rw [hrun]
    refine ⟨⟨⟨by rw [hrun], ?_⟩, rfl⟩, hafter⟩
    rw [hrun]
    exact hprinted session rfl

/-- A process that shows the state of a vault leaves the map. -/
theorem status (h : project.Rests keys later files)
    (hcommand : process.invocation.command = .status) :
    process.Refines files keys keys ∧ project.Rests keys later (process.run files).2.files := by
  obtain ⟨store, opened, hopen, hholds, -⟩ := h.opens
  obtain ⟨status, console, hstatus, hprinted⟩ :=
    StatusCommand.run_of_openAt (project.context process.vaultId) hopen
      hholds.saves.writable.toSound
  -- Neither the answers of the user nor the random bytes are read, so all shells are taken at once.
  have hshows : ∀ approves terminal random,
      Program.run process.arguments { process.shell files with approves, terminal, random } =
        (0, { process.shell files with
          approves, terminal, random, files := opened, console := console .empty }) := by
    intro approves terminal random
    have hinvocation := process.invocation_run
      { process.shell files with approves, terminal, random } h.settings rfl
      (by unfold Invocation.run; rw [hcommand])
    unfold Program.run
    rw [process.parsed]
    dsimp only
    rw [hinvocation, hstatus _ rfl]
    rfl
  have hrun : process.run files =
      (0, { process.shell files with files := opened, console := console .empty }) :=
    hshows true process.terminal process.random
  have hstate : ∀ state : VaultState,
      (if (store.recordText? process.vaultId).isSome then .locked else .absent) = state →
        process.ShowsState files state.text := by
    intro state hstate
    refine ⟨by rw [hrun], ⟨status.grid process.vaultId state, ?_, .head _, .tail _ (.head _)⟩, ?_⟩
    · rw [hrun, ← hstate]
      exact hprinted .empty
    · rw [hrun]
      exact hshows
  refine ⟨?_, by rw [hrun]; exact .used hholds⟩
  unfold Process.Refines
  rw [hcommand]
  rcases hkey : keys process.vaultId with _ | key
  · refine ⟨hstate .absent ?_, rfl⟩
    rw [hholds.absent _ hkey]
    rfl
  · obtain ⟨created, -, fixed, ⟨text, hrow, -⟩, -⟩ := hholds.made _ _ hkey
    refine ⟨hstate .locked ?_, rfl⟩
    rw [show store.recordText? process.vaultId = some text from hrow]
    rfl

/-- A process comes to its desk with the terminal that it was started with. -/
theorem desk_answer {context : Context} {desk : Desk} {ready : Shell}
    (hdesk : Desk.ofContext context (process.shell files) = (.ok desk, ready)) :
    ready.approves = true ∧ (ready.terminal.answer (DeleteCommand.question process.vaultId) = .ok true ↔
      process.Confirms) := by
  obtain ⟨opened, rfl⟩ := Desk.ofContext_shell hdesk
  exact ⟨rfl, Iff.rfl⟩

/-- A process that is to delete a vault that is there, without a question or with a yes to it, goes
on at its desk. The question, if there is one, leaves the files and what the authenticator will be
answered. -/
theorem proceeds_of_wanted {isForced : Bool} {held : String} (h : project.Rests keys later files)
    (hthere : keys process.vaultId = some held) (hwanted : isForced = true ∨ process.Confirms) :
    ∃ key desk asked,
      DeleteCommand.run (project.context process.vaultId) isForced (process.shell files) =
        DeleteCommand.proceed (project.context process.vaultId) key desk asked ∧
      project.AtDesk keys later process.vaultId desk asked := by
  obtain ⟨desk, ready, hdesk, -, hat, -⟩ := h.desk process
  obtain ⟨key, hdelete⟩ := DeleteCommand.run_of_desk _ isForced hdesk
  obtain ⟨happroves, hanswer⟩ := desk_answer hdesk
  have hrow : desk.store.recordText? (project.context process.vaultId).vaultId ≠ none :=
    hat.holdsKeys.row_of_some (project.id_vault _) hthere
  have hlast := hat.read.2.read.2
  rw [if_neg hrow] at hdelete
  by_cases hforced : isForced = true
  · rw [if_pos hforced] at hdelete
    exact ⟨key, _, _, hdelete, hlast⟩
  · have hyes : ready.terminal.answer
        (DeleteCommand.question (project.context process.vaultId).vaultId) = .ok true :=
      hanswer.mpr (hwanted.resolve_left hforced)
    rw [if_neg hforced] at hdelete
    dsimp only at hdelete
    rw [hyes] at hdelete
    exact ⟨key, _, _, hdelete, hlast.asked happroves _⟩

/-- A process that deletes a vault, without a question or with a yes to it, takes its key from the
map. -/
theorem delete {isForced : Bool} (h : project.Rests keys later files)
    (hcommand : process.invocation.command = .delete isForced)
    (hwanted : isForced = true ∨ process.Confirms) :
    process.Refines files keys (Function.update keys process.vaultId none) ∧
      project.Rests (Function.update keys process.vaultId none) later (process.run files).2.files := by
  have hinvocation := process.invocation_run (process.shell files) h.settings rfl
    (by unfold Invocation.run; rw [hcommand])
  have hrefines : (process.run files).1 = 0 →
      process.Refines files keys (Function.update keys process.vaultId none) := by
    intro hcode
    unfold Process.Refines
    rw [hcommand]
    exact (if_pos hwanted).mpr ⟨hcode, rfl⟩
  rcases hkey : keys process.vaultId with _ | held
  · -- There is nothing to delete.
    obtain ⟨desk, ready, hdesk, -, hat, -⟩ := h.desk process
    obtain ⟨key, hdelete⟩ := DeleteCommand.run_of_desk _ isForced hdesk
    have hrow : desk.store.recordText? (project.context process.vaultId).vaultId = none :=
      hat.holds.absent _ hkey
    rw [if_pos hrow] at hdelete
    have hrun := Process.run_of_ok (hinvocation.trans hdelete)
    refine ⟨hrefines (by rw [hrun]), ?_⟩
    rw [hrun, Function.update_eq_self_iff.mpr hkey.symm]
    exact .used hat.read.2.holds
  obtain ⟨key, desk, asked, hproceed, hat⟩ := h.proceeds_of_wanted hkey hwanted
  obtain ⟨world, hdeleted, hholds⟩ := hat.delete
  obtain ⟨after, hdone, htouches⟩ := DeleteCommand.proceed_of_deleted
    (project.context process.vaultId) key hdeleted
  have hrun := Process.run_of_ok (hinvocation.trans (hproceed.trans hdone))
  refine ⟨hrefines (by rw [hrun]), ?_⟩
  rw [hrun]
  exact .used (hholds.of_touches (by decide) htouches)

/-- A process that asks whether a vault is to be deleted, and to which the user does not say yes,
leaves the map. -/
theorem ask (h : project.Rests keys later files)
    (hcommand : process.invocation.command = .delete false) (hrefused : ¬process.Confirms) :
    process.Refines files keys keys ∧ project.Rests keys later (process.run files).2.files := by
  obtain ⟨desk, ready, hdesk, -, hat, -⟩ := h.desk process
  obtain ⟨-, hanswer⟩ := desk_answer hdesk
  have hrefines : process.Refines files keys keys := by
    unfold Process.Refines
    rw [hcommand]
    exact (if_neg (not_or.mpr ⟨Bool.false_ne_true, hrefused⟩)).mpr rfl
  refine ⟨hrefines, ?_⟩
  obtain ⟨key, hdelete⟩ := DeleteCommand.run_of_desk _ false hdesk
  have hinvocation := process.invocation_run (process.shell files) h.settings rfl
    (by unfold Invocation.run; rw [hcommand])
  split at hdelete
  · rw [Process.run_of_ok (hinvocation.trans hdelete)]
    exact .used hat.read.2.holds
  rw [if_neg Bool.false_ne_true] at hdelete
  dsimp only at hdelete
  split at hdelete
  · next hyes => exact absurd (hanswer.mp hyes) hrefused
  · rw [Process.run_of_ok (hinvocation.trans hdelete)]
    exact .used hat.read.2.read.2.holds
  · rw [Process.run_of_error (hinvocation.trans hdelete)]
    exact .used hat.read.2.read.2.holds

/-- A process that lists rows of the audit log leaves the map. -/
theorem audit {last : Nat} {since : Option String} {failuresOnly : Bool}
    (h : project.Rests keys later files)
    (hcommand : process.invocation.command = .audit last since failuresOnly) :
    process.Refines files keys keys ∧ project.Rests keys later (process.run files).2.files := by
  refine ⟨by unfold Process.Refines; rw [hcommand], ?_⟩
  have hinvocation := process.invocation_run (process.shell files) h.settings rfl
    (by unfold Invocation.run; rw [hcommand])
  rw [process.run_files, hinvocation]
  -- A project that is new has no log yet, and none is made to list its rows.
  cases h with
  | unused hnew hkeys =>
    have hmissing : (process.shell files).files.exists?
        (AuditLog.pathIn (project.context process.vaultId).directory) = false := hnew.log
    rw [AuditCommand.run_of_missing _ _ _ _ hmissing]
    exact .unused hnew hkeys
  | used hholds =>
    have htouches := AuditCommand.touches_run (project.context process.vaultId)
      process.invocation.vaultId last since failuresOnly (process.shell files)
    exact .used (hholds.of_touches (by decide) htouches.files)

/-- A process that prints what does not depend on the project changes no file. -/
theorem print (h : project.Rests keys later files)
    (hcommand : process.invocation.command = .version ∨
      ∃ name, process.invocation.command = .completions name) :
    process.Refines files keys keys ∧ project.Rests keys later (process.run files).2.files := by
  have hversion : Within (Shell.FilesWithin (Same fun files : Files => files)) VersionCommand.run := by
    unfold VersionCommand.run
    exact CommandM.within_print _
  have hcompletions : ∀ name,
      Within (Shell.FilesWithin (Same fun files : Files => files)) (Completion.run name) := by
    intro name
    unfold Completion.run
    exact (CommandM.within_ofExcept _).bind fun _ => CommandM.within_print _
  have hprints : Within (Shell.FilesWithin (Same fun files : Files => files))
      process.invocation.run := by
    unfold Invocation.run
    rcases hcommand with hcommand | ⟨name, hcommand⟩
    · rw [hcommand]
      exact hversion
    · rw [hcommand]
      exact hcompletions name
  have hsame : (process.invocation.run (process.shell files)).2.files = files :=
    (hprints (process.shell files)).files
  refine ⟨?_, by rw [process.run_files, hsame]; exact h⟩
  unfold Process.Refines
  rcases hcommand with hcommand | ⟨name, hcommand⟩ <;> rw [hcommand]

end Project.Rests

/-! ## Runs -/

/-- Ids are those of the vaults of a map. -/
def AreIdsOf (ids : List String) (keys : String → Option String) : Prop :=
  ∀ id, id ∈ ids ↔ keys id ≠ none

namespace AreIdsOf

variable {ids : List String} {keys : String → Option String}

/-- The id of a vault that comes is added. -/
theorem make (h : AreIdsOf ids keys) (id key : String) :
    AreIdsOf (id :: ids) (Function.update keys id (some key)) := by
  intro other
  by_cases hsame : other = id
  · simp [hsame]
  · rw [List.mem_cons, Function.update_of_ne hsame, ← h other]
    exact or_iff_right hsame

/-- The id of a vault that goes is taken away. -/
theorem delete (h : AreIdsOf ids keys) (id : String) :
    AreIdsOf (ids.filter (· ≠ id)) (Function.update keys id none) := by
  intro other
  by_cases hsame : other = id
  · simp [hsame]
  · rw [List.mem_filter, Function.update_of_ne hsame, ← h other]
    exact and_iff_left (by simpa using hsame)

end AreIdsOf

/-- Processes that run in a project at rest refine the map of its vaults, if the credentials that
they make are told apart and the keys that they draw sign. -/
theorem Project.Rests.runRefines {project : Project} {processes : List (Process project)}
    {keys : String → Option String} {ids : List String} {files : Files}
    (h : project.Rests keys ((Process.making ids processes).map (·.credential)) files)
    (hids : AreIdsOf ids keys)
    (hdistinct : ((Process.making ids processes).map (·.credential)).Nodup)
    (hsigns : ∀ process ∈ Process.making ids processes,
      process.random.nextPrivateKey.Signs UnlockCommand.checkMessage) :
    Process.RunRefines processes files keys := by
  -- By induction on the processes. The ids are carried along because the processes that make a vault
  -- are told from those that are refused by the ids alone, before any of them runs.
  induction processes generalizing keys ids files with
  | nil => trivial
  | cons process rest ih =>
    unfold Process.making at h hdistinct hsigns
    rcases hcommand : process.invocation.command with migrates | _ | _ | isForced | _ | name |
      ⟨last, since, failuresOnly⟩ <;> rw [hcommand] at h hdistinct hsigns
    case init =>
      by_cases hthere : process.vaultId ∈ ids
      · obtain ⟨key, hkey⟩ := Option.ne_none_iff_exists'.mp ((hids _).mp hthere)
        rw [if_pos hthere] at h hdistinct hsigns
        obtain ⟨hrefines, hrests⟩ := h.refuse hcommand hkey
        exact ⟨keys, hrefines, ih hrests hids hdistinct hsigns⟩
      · have habsent : keys process.vaultId = none := by
          rwa [hids, ne_eq, Classical.not_not] at hthere
        rw [if_neg hthere] at h hdistinct hsigns
        rw [List.map_cons] at h hdistinct
        obtain ⟨hfresh, hrest⟩ := List.nodup_cons.mp hdistinct
        obtain ⟨key, hrefines, hrests⟩ := h.make hcommand habsent hfresh (hsigns _ (.head _))
        exact ⟨_, hrefines, ih hrests (hids.make _ key) hrest
          fun other hother => hsigns other (.tail _ hother)⟩
    case delete =>
      dsimp only at h hdistinct hsigns
      by_cases hwanted : isForced = true ∨ process.Confirms
      · rw [if_pos hwanted] at h hdistinct hsigns
        obtain ⟨hrefines, hrests⟩ := h.delete hcommand hwanted
        exact ⟨_, hrefines, ih hrests (hids.delete _) hdistinct hsigns⟩
      · rw [if_neg hwanted] at h hdistinct hsigns
        obtain ⟨hforced, hrefused⟩ := not_or.mp hwanted
        obtain rfl := Bool.eq_false_iff.mpr hforced
        obtain ⟨hrefines, hrests⟩ := h.ask hcommand hrefused
        exact ⟨keys, hrefines, ih hrests hids hdistinct hsigns⟩
    case unlock =>
      obtain ⟨hrefines, hrests⟩ := h.unlock hcommand
      exact ⟨keys, hrefines, ih hrests hids hdistinct hsigns⟩
    case status =>
      obtain ⟨hrefines, hrests⟩ := h.status hcommand
      exact ⟨keys, hrefines, ih hrests hids hdistinct hsigns⟩
    case version =>
      obtain ⟨hrefines, hrests⟩ := h.print (.inl hcommand)
      exact ⟨keys, hrefines, ih hrests hids hdistinct hsigns⟩
    case completions =>
      obtain ⟨hrefines, hrests⟩ := h.print (.inr ⟨name, hcommand⟩)
      exact ⟨keys, hrefines, ih hrests hids hdistinct hsigns⟩
    case audit =>
      obtain ⟨hrefines, hrests⟩ := h.audit hcommand
      exact ⟨keys, hrefines, ih hrests hids hdistinct hsigns⟩

/-- Runs of processes refine a map. In a project that is new, whatever the processes are that run
one after another, if the credentials that they make are told apart, and the signatures that they
make with new keys are accepted, then they work on a map of ids to public keys that is empty at
first. -/
theorem runs_refine_map {project : Project} {files opened : Files} {processes : List (Process project)}
    (hnew : project.IsNew files opened)
    (hdistinct : ((Process.making [] processes).map (·.credential)).Nodup)
    (hsigns : ∀ process ∈ Process.making [] processes,
      process.random.nextPrivateKey.Signs UnlockCommand.checkMessage) :
    Process.RunRefines processes files fun _ => none :=
  (Project.Rests.unused hnew fun _ => rfl).runRefines (fun _ => by simp) hdistinct hsigns

/-- A project whose settings name its vault. -/
def Project.sample : Project := ⟨"/p", { Settings.default with vaultId := "a" }, ".passkey-vault"⟩

/-- The files of the project: the settings alone. -/
def Files.ofSample : Files :=
  ⟨[(["p"], .directory), (["p", Settings.fileName], .file (Bytes.ofText "vault_id = \"a\"\n"))], []⟩

/-- Processes of the project: two vaults are made, one of them is opened and then deleted, and the
other one is deleted once the user says yes. -/
def Project.sampleRun : List (Process .sample) :=
  [⟨["init"], .counting 1, ⟨0⟩, .absent, ⟨.init false, none, none, false⟩, rfl, rfl, rfl⟩,
    ⟨["--vault-id", "b", "init"], .counting 2, ⟨1⟩, .absent, ⟨.init false, none, some "b", false⟩,
      rfl, rfl, rfl⟩,
    ⟨["unlock"], .counting 3, ⟨2⟩, .absent, ⟨.unlock, none, none, false⟩, rfl, rfl, rfl⟩,
    ⟨["delete", "--force"], .counting 4, ⟨3⟩, .absent, ⟨.delete true, none, none, false⟩, rfl, rfl, rfl⟩,
    ⟨["--vault-id", "b", "delete"], .counting 5, ⟨4⟩, ⟨[.yes], []⟩,
      ⟨.delete false, none, some "b", false⟩, rfl, rfl, rfl⟩,
    ⟨["status"], .counting 6, ⟨5⟩, .absent, ⟨.status, none, none, false⟩, rfl, rfl, rfl⟩]

/-- A project with settings alone is new. -/
theorem Project.isNew_sample :
    Project.sample.IsNew .ofSample (Store.openAt Project.sample.directory .ofSample).2 := by
  have hfiles : (Settings.load .ofSample Project.sample.path).toOption.any
        (· = Project.sample.settings) = true ∧
      (Store.openAt Project.sample.directory .ofSample).1.toOption.any
        (· = .fresh (.database (some Project.sample.storePath)) .empty) = true ∧
      (Settings.load (Store.openAt Project.sample.directory .ofSample).2
        Project.sample.path).toOption.any (· = Project.sample.settings) = true ∧
      Project.sample.Serves (Store.openAt Project.sample.directory .ofSample).2 ∧
      (Store.openAt Project.sample.directory .ofSample).2.exists?
        Project.sample.authenticatorPath = false ∧
      Files.ofSample.exists? (AuditLog.pathIn Project.sample.directory) = false := by
    decide +kernel
  obtain ⟨hload, hopen, hloadOpened, hserves, hauthenticator, hlog⟩ := hfiles
  obtain ⟨settings, hload, hsettings⟩ := ok_of_any hload
  obtain rfl := of_decide_eq_true hsettings
  obtain ⟨store, hopen, hstore⟩ := ok_of_any hopen
  obtain rfl := of_decide_eq_true hstore
  obtain ⟨settings, hloadOpened, hsettings⟩ := ok_of_any hloadOpened
  obtain rfl := of_decide_eq_true hsettings
  exact ⟨hload, Prod.ext hopen rfl, hloadOpened, hserves, hauthenticator, hlog⟩

/-- The processes make two vaults, and their run refines a map. -/
theorem runs_refine_map_sample : (Process.making [] Project.sampleRun).length = 2 ∧
    Process.RunRefines Project.sampleRun .ofSample fun _ => none := by
  have hdistinct : ((Process.making [] Project.sampleRun).map (·.credential)).Nodup := by
    decide +kernel
  have hsigns : ∀ process ∈ Process.making [] Project.sampleRun,
      process.random.nextPrivateKey.Signs UnlockCommand.checkMessage := by
    decide +kernel
  exact ⟨rfl, runs_refine_map Project.isNew_sample hdistinct hsigns⟩

end CredentialVault
