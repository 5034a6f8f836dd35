import CredentialVault.Proofs.CommandLine.Project

/-!
# Work at the desk of a project

A command that comes to its desk in a project whose files hold the vaults of a map finds that map in
its world (`AtDesk.holdsKeys`) and everything ready for its operation (`AtDesk.isReady`). After the
operation the files hold the map of the world that it led to (`AtDesk.close`). So to make a vault
adds its key to the map that the files hold (`AtDesk.create`), to open it leaves the map
(`AtDesk.proved`), and to delete it takes its key away (`AtDesk.delete`).
-/

namespace CredentialVault

open Operation VaultM

namespace Project

/-- A command has come to its desk for the vault of an id, in a project whose files hold the vaults
of a map: its authenticator is willing and has the credentials that are in its file. -/
structure AtDesk (project : Project) (keys : String → Option String) (later : List CredentialId)
    (id : String) (desk : Desk) (shell : Shell) : Prop where
  /-- The desk is that of the vault. -/
  isOf : desk.IsOf (project.context id)
  /-- The files hold the vaults of the map. -/
  holds : project.HoldsKeys keys later desk.store shell.files
  /-- No vault is open. -/
  cache : desk.cache = .empty
  /-- The authenticator is willing and has the credentials of its file. -/
  authenticator : ∃ authenticator, desk.platform = .virtual authenticator ∧
    authenticator.IsWilling project.authenticatorPath ∧
    ∀ key stored, shell.files.HoldsCredential project.authenticatorPath key stored →
      authenticator.credentials.Holds key stored

variable {project : Project} {keys keys' : String → Option String} {later later' : List CredentialId}
  {id : String} {desk : Desk} {shell : Shell} {world : World}

/-- Where a store is opened that holds the vaults of a map, a command comes to its desk if the user
agrees to everything. -/
theorem ofContext_of_openAt (shell : Shell) {store : Store} {opened : Files}
    (hopen : Store.openAt project.directory shell.files = (.ok store, opened))
    (h : project.HoldsKeys keys later store opened) (happroves : shell.approves = true) (id : String) :
    ∃ desk, Desk.ofContext (project.context id) shell = (.ok desk, { shell with files := opened }) ∧
      project.AtDesk keys later id desk { shell with files := opened } := by
  obtain ⟨authenticator, hauthenticator, hcapabilities, hpath⟩ :=
    VirtualAuthenticator.openAt_of_keeps h.authenticator .full
  have hstore : (project.context id).openStore shell = (.ok store, { shell with files := opened }) := by
    unfold Context.openStore CommandM.onFiles
    rw [show (project.context id).directory = project.directory from rfl]
    simp only [ExceptT.mk, hopen]
  have hdesk : Desk.ofContext (project.context id) shell = (.ok {
        vault := project.vault id
        store
        platform := .virtual { authenticator with presence := shell.presence }
        cache := .empty }, { shell with files := opened }) := by
    unfold Desk.ofContext
    rw [run_bind_of_ok hstore, run_bind, run_get]
    dsimp only
    rw [show Files.join (project.context id).directory Desk.authenticatorFile =
      project.authenticatorPath from rfl, hauthenticator]
    rfl
  refine ⟨_, hdesk, ⟨(Desk.ofContext_ok hdesk).1, h, rfl, _, rfl,
    ⟨hcapabilities, Shell.presence_of_approves happroves, hpath⟩, ?_⟩⟩
  · intro key stored hheld
    have hdevice : VirtualDevice.Holds ⟨authenticator, ⟨opened, shell.random⟩⟩ key stored :=
      VirtualAuthenticator.openAt_holds hauthenticator hheld
    exact hdevice.memory

/-- The file that is written beside the one of an authenticator has the name for it. -/
theorem lastName_beside (project : Project) :
    Files.lastName (VirtualAuthenticator.beside project.authenticatorPath) =
      some s!".{Desk.authenticatorFile}.tmp" := by
  unfold VirtualAuthenticator.beside
  rw [authenticatorPath, Desk.isFileName_authenticatorFile.fileName_join]
  exact Desk.isFileName_beside.lastName_join _

namespace AtDesk

/-- The vault of the desk is that of the id. -/
theorem vault_eq (h : project.AtDesk keys later id desk shell) : desk.vault = project.vault id :=
  h.isOf.vault

/-- What was printed does not matter at a desk. -/
theorem console (h : project.AtDesk keys later id desk shell) (console : Console) :
    project.AtDesk keys later id desk { shell with console } :=
  ⟨h.isOf, h.holds, h.cache, h.authenticator⟩

/-- A command stays at its desk when it asks a user who agrees to every ceremony. -/
theorem asked (h : project.AtDesk keys later id desk shell) (happroves : shell.approves = true)
    (question : Question) : project.AtDesk keys later id
      (desk.answeredBy (shell.asked question).presence) (shell.asked question) := by
  obtain ⟨authenticator, hplatform, hwilling, hheld⟩ := h.authenticator
  refine ⟨h.isOf.answeredBy _, h.holds, h.cache,
    { authenticator with presence := (shell.asked question).presence }, ?_,
    ⟨hwilling.capabilities, Shell.presence_of_approves happroves, hwilling.path⟩, hheld⟩
  unfold Desk.answeredBy Platform.answeredBy
  rw [hplatform]

/-- To read at a desk changes no file, and the command stays at it. -/
theorem read (h : project.AtDesk keys later id desk shell) :
    shell.files.Touches [] (desk.read shell).files ∧
      project.AtDesk keys later id desk (desk.read shell) := by
  obtain ⟨authenticator, hplatform, hwilling, hheld⟩ := h.authenticator
  have htouches : shell.files.Touches [] (desk.read shell).files := h.holds.saves.touches_save
  refine ⟨htouches, h.isOf, h.holds.of_touches (by simp) htouches, h.cache, authenticator, hplatform,
    hwilling, fun key stored hlater => hheld key stored ?_⟩
  exact (Files.holdsCredential_iff_of_touches Desk.isFileName_authenticatorFile (by simp)
    htouches).mp hlater

/-- The world of the desk is ready. -/
theorem isReady (h : project.AtDesk keys later id desk shell) :
    (desk.world shell).IsReady project.authenticatorPath where
  store := h.holds.saves.writable
  platform := by
    obtain ⟨authenticator, hplatform, hwilling, -⟩ := h.authenticator
    exact ⟨authenticator, hplatform, hwilling⟩
  replaces credentials := VirtualAuthenticator.replaceFile_of_canReplace project.lastName_beside
    h.holds.serves.unrefused h.holds.serves.authenticator credentials

/-- The world of the desk holds the vaults of the map. -/
theorem holdsKeys (h : project.AtDesk keys later id desk shell) :
    (desk.world shell).HoldsKeys project.vault keys later where
  absent := h.holds.absent
  made other key hkey := by
    obtain ⟨authenticator, hplatform, hwilling, hheld⟩ := h.authenticator
    obtain ⟨created, hcreated, fixed, hrow, hcredential⟩ := h.holds.made other key hkey
    refine ⟨created, hcreated, fixed, hrow, ⟨authenticator, hplatform, hheld _ _ hcredential, ?_⟩, ?_⟩
    · intro path hpath
      obtain rfl := Option.some.inj (hwilling.path.symm.trans hpath)
      exact hcredential
    · intro session hsession
      rw [show (desk.world shell).cache = .empty from h.cache] at hsession
      cases hsession
  legacy := h.holds.legacy

/-- After an operation the files hold the vaults that the world holds, if the operation changed no
other file than that of the authenticator. -/
theorem close (h : project.AtDesk keys later id desk shell) (operation : VaultOperation)
    (hworld : operation.after (project.vault id) (desk.world shell) = world)
    (hwritable : world.store.Writable) (hkeys : world.HoldsKeys project.vault keys' later')
    (hfiles : shell.files.Touches [s!".{Desk.authenticatorFile}.tmp", Desk.authenticatorFile]
      world.device.host.files)
    (hkeeps : world.device.host.files.KeepsCredentials project.authenticatorPath) :
    project.HoldsKeys keys' later' world.store (shell.after desk world).files := by
  have hserves := h.holds.serves.of_touches hfiles
  have hpath : world.store.path? = some project.storePath := by
    have hsetting := operation.setting_after (project.vault id) (desk.world shell)
    rw [hworld] at hsetting
    exact (congrArg Prod.fst hsetting).trans h.holds.saves.path
  -- The command writes the store after the operation, to the file it was opened from.
  obtain ⟨hsaves, hsaved⟩ := Saves.of_save hserves hwritable hpath
  have hother : Desk.authenticatorFile ∉ [Store.fileName] := by decide
  refine ⟨?_, hserves.of_touches hsaved, hsaves,
    hkeeps.of_touches Desk.isFileName_authenticatorFile hother hsaved, hkeys.absent, ?_, hkeys.legacy⟩
  · exact ((Settings.load_of_touches hsaved (by decide) _).trans
      (Settings.load_of_touches hfiles (by decide) _)).trans h.holds.settings
  · intro other key hkey
    obtain ⟨created, hcreated, fixed, hrow, ⟨authenticator, hplatform, hheld⟩, -⟩ :=
      hkeys.made other key hkey
    -- The authenticator keeps the file that it kept.
    obtain ⟨before, hbefore, hwilling, -⟩ := h.authenticator
    obtain ⟨after, hafter, halike⟩ := operation.lifts_after
      VirtualAuthenticator.ceremonySteps_setUpAlike (project.vault id) (desk.world shell) before hbefore
    rw [hworld, hplatform] at hafter
    obtain rfl := Platform.virtual.inj hafter
    refine ⟨created, hcreated, fixed, hrow, ?_⟩
    exact (Files.holdsCredential_iff_of_touches Desk.isFileName_authenticatorFile hother hsaved).mpr
      (hheld.file _ (halike.path.trans hwilling.path))

/-- To make a vault at the desk adds its key to the map that the files hold. -/
theorem create {credential : CredentialId} {key : Keys.PrivateKey}
    (h : project.AtDesk keys (credential :: later) id desk shell) (hid : id ≠ "")
    (habsent : keys id = none) (hcredential : (desk.world shell).device.nextCredential = credential)
    (hfresh : credential ∉ later) (hkey : shell.random.nextPrivateKey = key)
    (hsigns : key.Signs UnlockCommand.checkMessage) (migrates : Bool) :
    ∃ created world, desk.vault.create migrates (desk.world shell) = (.ok created, world) ∧
      created.session.publicKeyHex = key.publicKeyHex ∧
      project.HoldsKeys (Function.update keys id (some key.publicKeyHex)) later world.store
        (shell.after desk world).files := by
  obtain ⟨authenticator, hplatform, hwilling, -⟩ := h.authenticator
  obtain ⟨created, world, hcreate, hprimary, hpublic, hmade, hmethod, hwritable, credentials,
    hreplace⟩ := (project.vault id).create_of_ready h.isReady hid rfl
      (h.holds.absent id habsent) h.holds.legacy migrates
  have hcreated : created.Has key.publicKeyHex later := by
    refine ⟨hmethod, hpublic.trans (congrArg _ hkey), ?_, by rwa [hmade, hcredential]⟩
    rw [hprimary]
    exact hkey ▸ hsigns
  have hfiles : shell.files.Touches [s!".{Desk.authenticatorFile}.tmp", Desk.authenticatorFile]
      world.device.host.files := by
    have hwrite : VirtualAuthenticator.replaceFile project.authenticatorPath credentials shell.files =
        (.ok (), world.device.host.files) := hreplace
    rw [VirtualAuthenticator.replaceFile_of_directory h.holds.serves.authenticator.directory] at hwrite
    exact (VirtualAuthenticator.touches_writeBeside
      (Desk.isFileName_authenticatorFile.lastName_join _) project.lastName_beside _).of_run hwrite
  have hkeeps : world.device.host.files.KeepsCredentials project.authenticatorPath :=
    .inr ⟨credentials, (VirtualAuthenticator.replaceFile_run hreplace).1 rfl⟩
  refine ⟨created, world, by rw [h.vault_eq, hcreate], hcreated.publicKeyHex, ?_⟩
  have hkeys := h.holdsKeys
  rw [← hcredential] at hkeys
  exact h.close (.create migrates) (congrArg Prod.snd hcreate) hwritable
    (hkeys.create project.id_vault hplatform hcreate hcreated) hfiles hkeeps

/-- To open a vault at the desk leaves the map that the files hold; it yields the key of a vault of
the map, and fails for another one. -/
theorem proved (h : project.AtDesk keys later id desk shell) :
    ∃ result world, UnlockCommand.proved desk.vault (desk.world shell) = (result, world) ∧
      project.HoldsKeys keys later world.store (shell.after desk world).files ∧
      match keys id with
      | some key => ∃ session, result = .ok session ∧ session.publicKeyHex = key
      | none => ∃ e, result = .error e := by
  obtain ⟨authenticator, hplatform, hwilling, -⟩ := h.authenticator
  have hclose : ∀ {r : Except VaultError Session} {world : World},
      (project.vault id).unlock (desk.world shell) = (r, world) →
        project.HoldsKeys keys later world.store (shell.after desk world).files := by
    intro r world hunlock
    have hfiles : world.device.host.files = shell.files := Vault.unlock_files hplatform hunlock
    have hlocked : (desk.world shell).cache.sessionOf (project.vault id).id = none := by
      rw [show (desk.world shell).cache = .empty from h.cache]
      rfl
    have hstore : world.store = desk.store := by
      have hread := (Vault.unlock_eq hlocked (h.isReady.store.getRecord (project.vault id).id)).2
      rwa [hunlock] at hread
    refine h.close .unlock (congrArg Prod.snd hunlock) (by rw [hstore]; exact h.holds.saves.writable)
      (h.holdsKeys.unlock h.isReady.first? hunlock) (by rw [hfiles]; exact Sequential.refl _) ?_
    rw [hfiles]
    exact h.holds.authenticator
  rw [h.vault_eq]
  rcases hkey : keys id with _ | key
  · obtain ⟨e, world, hproved, hunlock⟩ :=
      h.holdsKeys.proved_of_none project.id_vault h.isReady h.cache hkey
    exact ⟨_, world, hproved, hclose hunlock, e, rfl⟩
  · obtain ⟨session, world, hproved, hunlock, hpublic⟩ := h.holdsKeys.proved_of_some h.isReady hkey
    exact ⟨_, world, hproved, hclose hunlock, session, rfl, hpublic⟩

/-- To delete a vault at the desk takes its key from the map that the files hold. -/
theorem delete (h : project.AtDesk keys later id desk shell) :
    ∃ world, desk.vault.delete (desk.world shell) = (.ok (), world) ∧
      project.HoldsKeys (Function.update keys id none) later world.store
        (shell.after desk world).files := by
  obtain ⟨world, hdelete, hwritable⟩ := (project.vault id).delete_of_writable h.isReady.store
  have hdevice : world.device = (desk.world shell).device := by
    rw [← Vault.delete_device (project.vault id) (desk.world shell), hdelete]
  have hfiles : world.device.host.files = shell.files := by rw [hdevice]; rfl
  refine ⟨world, by rw [h.vault_eq, hdelete], h.close .delete (congrArg Prod.snd hdelete) hwritable
    (h.holdsKeys.delete project.id_vault hdelete)
    (by rw [hfiles]; exact Sequential.refl _) ?_⟩
  rw [hfiles]
  exact h.holds.authenticator

end AtDesk

end Project

end CredentialVault
