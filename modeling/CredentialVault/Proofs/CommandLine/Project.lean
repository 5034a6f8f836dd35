import CredentialVault.Proofs.CommandLine.Desk
import CredentialVault.Proofs.Credential.Enrollment
import CredentialVault.Proofs.Vault.KeyMap

/-!
# The files of a project

Every command is a process of its own, so that what is known of the vaults has to stand in the files
of the project: in the database of the store and in the file of the authenticator. These hold the
vaults of a map (`Project.HoldsKeys`) when the rows are those of the map and the credentials are in
the file. A command that comes to its desk finds the map in its world (`Opened.holdsKeys`), and when
it has worked there the files hold the map of the world that it leaves (`Opened.close`).
-/

namespace CredentialVault

open Operation VaultM

variable {files files' : Files} {touched : List String}

/-! ## Files that stay -/

/-- The settings of a project are as before when other files changed. -/
theorem Settings.load_of_touches (htouches : files.Touches touched files')
    (hother : Settings.fileName ∉ touched) (project : String) :
    load files' project = load files project := by
  have hfind : (files'.find (Files.join project fileName)).toOption =
      (files.find (Files.join project fileName)).toOption :=
    Files.find_join_of_touches isFileName hother htouches
  have hexists : files'.exists? (Files.join project fileName) =
      files.exists? (Files.join project fileName) := by
    rw [Files.exists?_eq, Files.exists?_eq, hfind]
  unfold load
  dsimp only
  rw [hexists]
  split
  · next hthere =>
    have hsame : files'.find (Files.join project fileName) =
        files.find (Files.join project fileName) := by
      rw [Files.exists?_eq] at hthere
      rcases hfound : files.find (Files.join project fileName) with e | node <;>
        rw [hfound] at hfind hthere
      · cases hthere
      · rcases hfound' : files'.find (Files.join project fileName) with e | node' <;>
          rw [hfound'] at hfind
        · cases hfind
        · exact congrArg Except.ok (Option.some.inj hfind)
    unfold Files.readText Files.read
    rw [hsame]
  · rfl

/-- The file of an authenticator holds the credentials that it held when other files changed. -/
theorem Files.holdsCredential_iff_of_touches {directory name key : String} {stored : StoredCredential}
    (hname : IsFileName name) (hother : name ∉ touched) (htouches : files.Touches touched files') :
    files'.HoldsCredential (join directory name) key stored ↔
      files.HoldsCredential (join directory name) key stored :=
  exists_congr fun _ => and_congr_left' (holds_iff_of_touches hname hother htouches)

/-- The file of an authenticator can be opened: there is none yet, or it has the text of
credentials. -/
def Files.KeepsCredentials (files : Files) (path : String) : Prop :=
  files.exists? path = false ∨
    ∃ credentials : Credentials, files.Holds path (Bytes.ofText credentials.toJson.indented)

/-- The file of an authenticator can be opened when other files changed. -/
theorem Files.KeepsCredentials.of_touches {directory name : String}
    (h : files.KeepsCredentials (join directory name)) (hname : IsFileName name)
    (hother : name ∉ touched) (htouches : files.Touches touched files') :
    files'.KeepsCredentials (join directory name) := by
  rcases h with hnone | ⟨credentials, hcontent⟩
  · refine .inl ?_
    rw [exists?_eq, find_join_of_touches hname hother htouches, ← exists?_eq, hnone]
  · exact .inr ⟨credentials, (holds_iff_of_touches hname hother htouches).mpr hcontent⟩

/-- An authenticator whose file can be opened is opened. -/
theorem VirtualAuthenticator.openAt_of_keeps {path : String} (h : files.KeepsCredentials path)
    (capabilities : Capabilities) : ∃ authenticator,
      openAt path capabilities files = .ok authenticator ∧
        authenticator.capabilities = capabilities ∧ authenticator.path = some path := by
  unfold openAt
  rcases h with hnone | ⟨credentials, hcontent⟩
  · rw [if_neg (by rw [hnone]; decide)]
    exact ⟨_, rfl, rfl, rfl⟩
  · rw [if_pos hcontent.exists?, hcontent.readText]
    dsimp only
    rw [credentials.run_toJson]
    exact ⟨_, rfl, rfl, rfl⟩

/-- What the making of a vault fixed stands in the store and in the file of the authenticator. -/
structure Sealed.StoredIn {vault : Vault} {created : CreatedVault} (fixed : Sealed vault created)
    (store : Store) (path : String) (files : Files) : Prop where
  /-- The row of the vault reads as its record. -/
  row : ∃ text, store.recordText? vault.id = some text ∧ VaultRecord.ofStored text = .ok fixed.record
  /-- The file holds the credential. -/
  held : files.HoldsCredential path created.session.credentialId.text fixed.stored

/-! ## Projects -/

/-- A project: the path of its directory, what its settings say, and the directory of the vaults
that is named in it. -/
structure Project where
  /-- The path of the directory of the project. -/
  path : String
  /-- What the settings say. -/
  settings : Settings
  /-- The directory of the vaults, as seen from the project. -/
  vaultDirectory : String
deriving DecidableEq, Repr

namespace Project

/-- The path of the directory of the vaults. -/
def directory (project : Project) : String := Files.join project.path project.vaultDirectory

/-- The path of the database file of the store. -/
def storePath (project : Project) : String := Files.join project.directory Store.fileName

/-- The path of the file of the authenticator. -/
def authenticatorPath (project : Project) : String :=
  Files.join project.directory Desk.authenticatorFile

/-- What the settings and the options say for the vault of an id. -/
def context (project : Project) (id : String) : Context :=
  ⟨{ project.settings with vaultDirectory := project.vaultDirectory, vaultId := id }, project.directory⟩

/-- The vault of an id. -/
def vault (project : Project) (id : String) : Vault := (project.context id).vault

/-- The vault of an id has the id. -/
@[simp]
theorem id_vault (project : Project) (id : String) : (project.vault id).id = id := rfl

/-- The directory of the vaults can be used: it is there, and the store and the authenticator can
write their files in it. -/
structure Serves (project : Project) (files : Files) : Prop where
  /-- No change is to be refused. -/
  unrefused : files.refusals = []
  /-- The directory is there. -/
  directory : files.isDirectory project.directory = true
  /-- The store can be saved. -/
  store : (files.databaseLocation? project.storePath).isSome
  /-- The authenticator can replace its file. -/
  authenticator : VirtualAuthenticator.CanReplace project.authenticatorPath files

/-- Whether the directory of the vaults can be used is decided by looking at it. -/
instance (project : Project) (files : Files) : Decidable (project.Serves files) :=
  decidable_of_iff (files.refusals = [] ∧ files.isDirectory project.directory = true ∧
      (files.databaseLocation? project.storePath).isSome = true ∧
      VirtualAuthenticator.CanReplace project.authenticatorPath files)
    ⟨fun h => ⟨h.1, h.2.1, h.2.2.1, h.2.2.2⟩,
      fun h => ⟨h.unrefused, h.directory, h.store, h.authenticator⟩⟩

/-- A store lives in the directory of the vaults, it can be written to, and it was saved. -/
structure Saves (project : Project) (store : Store) (files : Files) : Prop where
  /-- It can be written to. -/
  writable : store.Writable
  /-- It lives in the directory. -/
  path : store.path? = some project.storePath
  /-- It was saved. -/
  file : ∃ location, files.databaseLocation? project.storePath = some location ∧
    files.node? location = some (.database store.content)

/-- The files of a project hold the vaults of a map in a store that was saved. -/
structure HoldsKeys (project : Project) (keys : String → Option String) (later : List CredentialId)
    (store : Store) (files : Files) : Prop where
  /-- The settings can be read. -/
  settings : Settings.load files project.path = .ok project.settings
  /-- The directory of the vaults can be used. -/
  serves : project.Serves files
  /-- The store was saved. -/
  saves : project.Saves store files
  /-- The authenticator can be opened. -/
  authenticator : files.KeepsCredentials project.authenticatorPath
  /-- There is no row of an id outside of the map. -/
  absent : ∀ id, keys id = none → store.recordText? id = none
  /-- What the making of a vault of the map fixed is stored. -/
  made : ∀ id key, keys id = some key → ∃ created : CreatedVault, created.Has key later ∧
    ∃ fixed : Sealed (project.vault id) created, fixed.StoredIn store project.authenticatorPath files
  /-- There is no legacy key. -/
  legacy : store.flag? Flags.legacyPrivateKey = none

variable {project : Project} {keys : String → Option String} {later : List CredentialId}
  {store : Store}

/-- The directory can be used after files changed in it. -/
theorem Serves.of_touches (h : project.Serves files) (htouches : files.Touches touched files') :
    project.Serves files' where
  unrefused := htouches.refusals h.unrefused
  directory := Files.isDirectory_of_touches h.directory htouches
  store := by
    obtain ⟨location, hlocation⟩ := Option.isSome_iff_exists.mp h.store
    rw [storePath, Files.databaseLocation?_of_touches Store.isFileName h.directory htouches hlocation]
    rfl
  authenticator := h.authenticator.of_touches htouches

/-- A store that was saved still is when other files changed. -/
theorem Saves.of_touches (h : project.Saves store files) (hserves : project.Serves files)
    (hother : Store.fileName ∉ touched) (htouches : files.Touches touched files') :
    project.Saves store files' := by
  obtain ⟨location, hlocation, hnode⟩ := h.file
  refine ⟨h.writable, h.path, location,
    Files.databaseLocation?_of_touches Store.isFileName hserves.directory htouches hlocation, ?_⟩
  rw [htouches.node?_eq, hnode]
  intro name hname hlast
  rw [Files.databaseLocation?_lastName Store.isFileName hlocation] at hlast
  exact hother (Option.some.inj hlast ▸ hname)

/-- A store is saved after files changed in the directory. -/
theorem Saves.of_save (hserves : project.Serves files) (hwritable : store.Writable)
    (hpath : store.path? = some project.storePath) :
    project.Saves store (store.save files) ∧ files.Touches [Store.fileName] (store.save files) := by
  have hsaved := Store.SavedIn.of_save hpath hserves.directory hserves.store
  exact ⟨⟨hwritable, hsaved.path, hsaved.file⟩, Store.touches_save hpath files⟩

/-- To save a store again changes no file. -/
theorem Saves.touches_save (h : project.Saves store files) : files.Touches [] (store.save files) := by
  obtain ⟨location, hlocation, hnode⟩ := h.file
  rw [Store.save_eq h.path]
  exact Files.touches_saveDatabase_self hlocation hnode

/-- The files of a project hold the vaults of a map after other files changed. -/
theorem HoldsKeys.of_touches (h : project.HoldsKeys keys later store files)
    (hother : Settings.fileName ∉ touched ∧ Store.fileName ∉ touched ∧
      Desk.authenticatorFile ∉ touched)
    (htouches : files.Touches touched files') : project.HoldsKeys keys later store files' where
  settings := (Settings.load_of_touches htouches hother.1 _).trans h.settings
  serves := h.serves.of_touches htouches
  saves := h.saves.of_touches h.serves hother.2.1 htouches
  authenticator :=
    h.authenticator.of_touches Desk.isFileName_authenticatorFile hother.2.2 htouches
  absent := h.absent
  made id key hkey := by
    obtain ⟨created, hcreated, fixed, hfixed⟩ := h.made id key hkey
    exact ⟨created, hcreated, fixed, hfixed.row,
      (Files.holdsCredential_iff_of_touches Desk.isFileName_authenticatorFile hother.2.2 htouches).mpr
        hfixed.held⟩
  legacy := h.legacy

/-- The store that holds the vaults of a map is opened again, which changes no file. -/
theorem HoldsKeys.openAt (h : project.HoldsKeys keys later store files) :
    ∃ reopened opened, Store.openAt project.directory files = (.ok reopened, opened) ∧
      files.Touches [] opened ∧ project.HoldsKeys keys later reopened opened := by
  obtain ⟨location, hlocation, hnode⟩ := h.saves.file
  have hdatabase := Files.openDatabase_of_node hlocation hnode
  have hopen := Store.openAt_of_content (Files.exists?_of_isDirectory h.serves.directory) hdatabase
  have htables := Store.withVaultTables_of_isSome h.saves.writable.records h.saves.writable.flags
  rw [htables] at hopen
  have htouches : files.Touches [] (files.saveDatabase project.storePath store.content) :=
    Files.touches_saveDatabase_self hlocation hnode
  let reopened := Store.fresh (.database (some project.storePath)) store.content
  have hcontent : reopened.content = store.content := htables
  have hsound : reopened.Sound := Store.sound_fresh _ _
  have hlater : project.HoldsKeys keys later store
      (files.saveDatabase project.storePath store.content) := h.of_touches (by simp) htouches
  refine ⟨reopened, _, hopen, htouches, { hlater with
    saves := ⟨⟨hsound, rfl, by rw [hcontent]; exact h.saves.writable.triggers⟩, rfl, ?_⟩
    absent := fun id hid => (StoreM.recordText?_congr id hcontent).trans (h.absent id hid)
    made := fun id key hkey => ?_
    legacy := (StoreM.flag?_congr _ hcontent).trans h.legacy }⟩
  · rw [hcontent]
    exact hlater.saves.file
  · obtain ⟨created, hcreated, fixed, hrow, hheld⟩ := hlater.made id key hkey
    rw [← StoreM.recordText?_congr _ hcontent] at hrow
    exact ⟨created, hcreated, fixed, hrow, hheld⟩

end Project

end CredentialVault
