import CredentialVault.Proofs.CommandLine.AuditTrail

/-!
# What commands come to

Once it is known what the operation of a command comes to at its desk, so is what the command comes
to: whether it succeeds, what it prints, and which files it changes besides, of which there are only
the audit log and the ignore file. The commands that report open the store or the log and change no
other file.
-/

namespace CredentialVault

open Operation VaultM

/-! ## Notes -/

namespace AuditLog

variable {directory : String}

/-- To open a log changes its file alone. -/
theorem touches_openAt (directory : String) :
    Within (Files.Touches [fileName]) (openAt directory) := by
  refine Within.get.bind fun files => ?_
  split
  · exact .throw _
  · exact .throw _
  · refine Within.bind (.modify fun files => ?_) fun _ => .pure _
    exact Files.touches_saveDatabase AuditLog.isFileName (List.mem_singleton_self _) _ _ _

/-- To look at a log changes no file. -/
theorem touches_database (log : AuditLog) : Within (Files.Touches [fileName]) log.database := by
  refine Within.get.bind fun files => ?_
  split
  · exact .pure _
  · exact .throw _

/-- To append to a log changes its file alone. -/
theorem touches_append {log : AuditLog} (hpath : log.path = pathIn directory) (row : Audit.Row) :
    Within (Files.Touches [fileName]) (log.append row) := by
  refine (touches_database log).bind fun content => ?_
  split
  · exact .throw _
  split
  · exact .throw _
  · refine .modify fun files => ?_
    rw [hpath]
    exact Files.touches_saveDatabase AuditLog.isFileName (List.mem_singleton_self _) _ _ _

/-- To note an attempt changes the file of the log alone. -/
theorem touches_noteIn (directory : String) (attempt : Audit.Attempt) (now : Instant) (files : Files) :
    files.Touches [fileName] (noteIn directory attempt now files) := by
  have hnote : Within (Files.Touches [fileName]) (do
      let log ← openAt directory
      log.record attempt now : AuditM Unit) := by
    refine (touches_openAt directory).bind_of_ok fun files log opened hopen => ?_
    obtain ⟨-, -, -, -, hpath, -⟩ := openAt_ok hopen
    exact (touches_append hpath _).of_run rfl
  exact hnote files

/-- To list rows of a log changes its file at most. -/
theorem touches_query (directory : String) (filter : Audit.Filter) :
    Within (Files.Touches [fileName]) (do (← openAt directory).query filter : AuditM _) := by
  refine (touches_openAt directory).bind fun log => (touches_database log).bind fun content => ?_
  dsimp only
  split
  · exact .pure _
  · exact .throw _

end AuditLog

variable {context : Context} {desk : Desk} {shell opened : Shell} {world : World}

/-! ## Commands at a desk -/

/-- A vault that is made is announced, and the command succeeds. -/
theorem InitCommand.proceed_of_created {migrates : Bool} {created : CreatedVault}
    (h : desk.vault.create migrates (desk.world shell) = (.ok created, world)) :
    ∃ after, proceed context migrates desk shell = (.ok (), after) ∧
      (shell.after desk world).files.Touches [IgnoreFile.fileName, AuditLog.fileName] after.files ∧
      (.output, Console.line .info s!"Public key: {created.session.publicKeyHex}") ∈
        after.console.printed := by
  let asked : Shell :=
    { shell with console := shell.console.say .info "Creating a passkey for this vault..." }
  obtain ⟨console, hannounce, hprinted⟩ := announce_run context migrates created (asked.after desk world)
  obtain ⟨ignored, hignore, hfiles, hkept⟩ := ignoreDirectory_run context
    (fun project content => FilesM.touches_write (IgnoreFile.isFileName.lastName_join project)
      (List.mem_singleton_self _) content) { asked.after desk world with console }
  have hasked : desk.vault.create migrates (desk.world asked) = (.ok created, world) := h
  have hnoted := AuditLog.touches_noteIn context.directory (attempt context.vaultId created)
    ignored.now ignored.files
  unfold proceed
  rw [run_bind_of_ok (CommandM.say_run _ _ _), run_bind_of_ok (Desk.attempt_of_run hasked)]
  dsimp only
  rw [run_bind_of_ok hannounce, run_bind_of_ok hignore]
  exact ⟨_, rfl, Sequential.trans (hfiles.files.mono (by simp)) (hnoted.mono (by simp)),
    List.mem_append_left _ (hkept hprinted)⟩

/-- The outcome of an opening is that of the command, and is noted; after a success the public key
is printed. -/
theorem UnlockCommand.run_of_proved {result : Except VaultError Session}
    (hdesk : Desk.ofContext context shell = (.ok desk, opened))
    (h : proved desk.vault (desk.world opened) = (result, world)) :
    ∃ after, run context shell = (result.map fun _ => (), after) ∧
      (opened.after desk world).files.Touches [AuditLog.fileName] after.files ∧
      ∀ session, result = .ok session →
        (.output, Console.line .info s!"Public key: {session.publicKeyHex}") ∈
          after.console.printed := by
  unfold run
  rw [run_bind_of_ok hdesk, run_bind_of_ok (Desk.attempt_of_run h)]
  rcases result with e | session
  · exact ⟨_, rfl, AuditLog.touches_noteIn _ _ _ _, nofun⟩
  · refine ⟨_, rfl, AuditLog.touches_noteIn _ _ _ _, ?_⟩
    rintro _ ⟨⟩
    exact List.mem_append_right _ (List.mem_singleton_self _)

/-- A vault that is deleted is noted, and the command succeeds. -/
theorem DeleteCommand.proceed_of_deleted (context : Context) (key : Option String)
    (h : desk.vault.delete (desk.world shell) = (.ok (), world)) :
    ∃ after, proceed context key desk shell = (.ok (), after) ∧
      (shell.after desk world).files.Touches [AuditLog.fileName] after.files := by
  unfold proceed
  rw [run_bind_of_ok (Desk.attempt_of_run h)]
  exact ⟨_, rfl, AuditLog.touches_noteIn _ _ _ _⟩

/-! ## Commands that report -/

/-- The state of the vault is shown as the store that is opened says. Nothing is drawn, and the user
is not asked. -/
theorem StatusCommand.run_of_openAt (context : Context) {store : Store} {files opened : Files}
    (h : Store.openAt context.directory files = (.ok store, opened)) (hstore : store.Sound) :
    ∃ (status : VaultStatus) (console : Console → Console),
      (∀ shell : Shell, shell.files = files →
        run context shell = (.ok (), { shell with files := opened, console := console shell.console })) ∧
      ∀ before, (.output, (status.grid context.vaultId
        (if (store.recordText? context.vaultId).isSome then .locked else .absent)).render) ∈
          (console before).printed := by
  obtain ⟨status, hstatus⟩ : ∃ status, (StoreM.readStatus store).1 = .ok status := by
    rw [hstore.readStatus]
    exact ⟨_, rfl⟩
  have hcontains : (StoreM.contains context.vaultId store).1 =
      .ok (store.recordText? context.vaultId).isSome := by
    rw [hstore.contains]
  have hopen : ∀ shell : Shell, shell.files = files →
      context.openStore shell = (.ok store, { shell with files := opened }) := by
    intro shell hfiles
    unfold Context.openStore CommandM.onFiles
    simp only [ExceptT.mk, hfiles, h]
  rcases hrow : (store.recordText? context.vaultId).isSome with _ | _
  · refine ⟨status, fun before => (before.print .output
      (status.grid context.vaultId .absent).render).say .tip
        "Run `passkey-vault init` to create a vault.", fun shell hfiles => ?_, fun before =>
      List.mem_append_left _ (List.mem_append_right _ (List.mem_singleton_self _))⟩
    unfold run
    rw [run_bind_of_ok (hopen shell hfiles)]
    dsimp only
    rw [hstatus, hcontains, hrow]
    rfl
  · refine ⟨status, fun before => before.print .output (status.grid context.vaultId .locked).render,
      fun shell hfiles => ?_, fun before =>
      List.mem_append_right _ (List.mem_singleton_self _)⟩
    unfold run
    rw [run_bind_of_ok (hopen shell hfiles)]
    dsimp only
    rw [hstatus, hcontains, hrow]
    rfl

/-- To print changes no file. -/
theorem CommandM.within_say {Q : Files → Files → Prop} [Sequential Q] (tone : Console.Tone)
    (message : String) : Within (Shell.FilesWithin Q) (say tone message) :=
  .modify fun shell => shell.filesWithin_console _

/-- To print a result changes no file. -/
theorem CommandM.within_print {Q : Files → Files → Prop} [Sequential Q] (text : String) :
    Within (Shell.FilesWithin Q) (print text) :=
  .modify fun shell => shell.filesWithin_console _

/-- To list rows of the audit log changes its file at most. -/
theorem AuditCommand.touches_run (context : Context) (vaultId : Option String) (last : Nat)
    (since : Option String) (failuresOnly : Bool) :
    Within (Shell.FilesWithin (Files.Touches [AuditLog.fileName]))
      (run context vaultId last since failuresOnly) := by
  refine Within.get.bind fun shell => ?_
  split
  · exact CommandM.within_say _ _
  refine (CommandM.within_ofExcept _).bind fun since => ?_
  refine (CommandM.within_onFiles (AuditLog.touches_query _ _)).bind fun rows => ?_
  split
  · exact CommandM.within_say _ _
  refine (CommandM.within_print _).bind fun _ => (CommandM.within_print _).bind fun _ => ?_
  dsimp only
  split
  · exact CommandM.within_say _ _
  · exact .pure _

/-- Without an audit log, to list its rows changes no file. -/
theorem AuditCommand.run_of_missing (vaultId : Option String) (last : Nat) (since : Option String)
    (failuresOnly : Bool) {context : Context} {shell : Shell}
    (h : shell.files.exists? (AuditLog.pathIn context.directory) = false) :
    (run context vaultId last since failuresOnly shell).2.files = shell.files := by
  unfold run
  rw [run_bind, run_get]
  dsimp only
  rw [h, Bool.not_false, if_pos rfl]
  rfl

end CredentialVault
