import CredentialVault.Proofs.Audit.Log
import CredentialVault.Proofs.CommandLine.Desk

/-!
# The audit trail

A command that makes, opens or deletes a vault notes its attempt with its outcome, once it comes to
the attempt (`Context.ComesToAttempt`). If the log can be written, there is one more row then, and
it tells of the outcome (`auditTrail_iff_attempt`). A command that ends before leaves the log as it
was.
-/

namespace CredentialVault

open Operation VaultM

/-- The error of an outcome. -/
def Audit.errorOf : Except VaultError Unit → Option VaultError
  | .ok () => none
  | .error e => some e

/-- The error of a failure. -/
theorem Audit.errorOf_eq_some {r : Except VaultError Unit} {e : VaultError} :
    errorOf r = some e ↔ r = .error e := by
  cases r <;> simp [errorOf]

/-- A row tells of an attempt on a vault that ended with an outcome. -/
structure Audit.Row.TellsOf (row : Audit.Row) (operation : Audit.Operation) (vaultId : String)
    (now : Instant) (r : Except VaultError Unit) : Prop where
  /-- It names the operation. -/
  operation : row.operation = operation.name
  /-- It names the vault. -/
  vaultId : row.vaultId = vaultId
  /-- It has the time of the attempt. -/
  time : row.atMs = now.ms
  /-- It has no kind of error exactly after a success. -/
  success : row.errorKind = none ↔ r = .ok ()
  /-- After a failure it has the kind of the error. -/
  failure : ∀ e, r = .error e → row.errorKind = some e.kind

/-- The operation that a command attempts, if it is one that is to be noted. -/
def Command.operation? : Command → Option Audit.Operation
  | .init _ => some .create
  | .unlock => some .unlock
  | .delete _ => some .delete
  | _ => none

/-- What a desk and the terminal have for the attempt of a command on a vault: there is no vault yet
that is to be made, and there is one that is to be deleted, without a question or with a yes to
it. -/
def Desk.Allows (desk : Desk) (terminal : Terminal) (vaultId : String) : Command → Prop
  | .init _ => desk.store.recordText? vaultId = none
  | .delete isForced => desk.store.recordText? vaultId ≠ none ∧
      (isForced = true ∨ terminal.answer (DeleteCommand.question vaultId) = .ok true)
  | _ => True

/-- A command comes to its attempt: its desk is set up and allows the attempt. -/
def Context.ComesToAttempt (context : Context) (command : Command) (shell : Shell) : Prop :=
  ∃ desk opened, Desk.ofContext context shell = (.ok desk, opened) ∧
    desk.Allows shell.terminal context.vaultId command

/-- A command notes an attempt with its outcome after all else that it does with the files. -/
def Context.Notes (context : Context) (operation : Audit.Operation) (Q : Files → Files → Prop)
    (shell shell' : Shell) (r : Except VaultError Unit) : Prop :=
  ∃ files attempt, Q shell.files files ∧
    AuditLog.noteIn context.directory attempt shell.now files = shell'.files ∧
    attempt.operation = operation ∧ attempt.vaultId = context.vaultId ∧
    attempt.error = Audit.errorOf r

/-- The ways in which a command can end: before it came to its attempt, or with a note. -/
inductive Context.Ends (context : Context) (command : Command) (operation : Audit.Operation)
    (Q : Files → Files → Prop) (shell shell' : Shell) (r : Except VaultError Unit) : Prop where
  /-- It did not come to its attempt. -/
  | before (hnone : ¬context.ComesToAttempt command shell) (hfiles : Q shell.files shell'.files)
  /-- The attempt is noted. -/
  | noted (hattempt : context.ComesToAttempt command shell)
    (hnote : context.Notes operation Q shell shell' r)

section Commands

variable {context : Context} {Q : Files → Files → Prop} [Sequential Q] {shell shell' : Shell}
  {r : Except VaultError Unit}

/-- A command that notes an attempt after related changes notes it after all changes. -/
theorem Context.Notes.after {operation : Audit.Operation} {between : Shell}
    (hfirst : shell.FilesWithin Q between) (h : context.Notes operation Q between shell' r) :
    context.Notes operation Q shell shell' r := by
  obtain ⟨files, attempt, hfiles, hnote, hattempt⟩ := h
  exact ⟨files, attempt, Sequential.trans hfirst.files hfiles, hfirst.now ▸ hnote, hattempt⟩

/-- A command that works at a desk ends as it does there, or because there is no desk. -/
theorem Context.ends_of_desk {command : Command} {operation : Audit.Operation}
    {work : Desk → CommandM Unit} (hsteps : context.FileSteps Q)
    (h : (Desk.ofContext context >>= work) shell = (r, shell'))
    (hwork : ∀ desk opened, Desk.ofContext context shell = (.ok desk, opened) →
      shell.FilesWithin Q opened →
        (¬desk.Allows shell.terminal context.vaultId command ∧ Q shell.files shell'.files) ∨
          (desk.Allows shell.terminal context.vaultId command ∧
            context.Notes operation Q shell shell' r)) :
    context.Ends command operation Q shell shell' r := by
  rcases hdesk : Desk.ofContext context shell with ⟨e | desk, opened⟩
  · rw [run_bind_of_error hdesk] at h
    cases h
    refine .before ?_ ((Desk.within_ofContext hsteps).of_run hdesk).files
    rintro ⟨desk, opened, hopened, -⟩
    rw [hdesk] at hopened
    cases hopened
  · have hopened := (Desk.within_ofContext hsteps).of_run hdesk
    rcases hwork desk opened hdesk hopened with ⟨hnone, hfiles⟩ | ⟨hallows, hnote⟩
    · refine .before ?_ hfiles
      rintro ⟨desk', opened', hopened', hallows⟩
      rw [hdesk] at hopened'
      cases hopened'
      exact hnone hallows
    · exact .noted ⟨desk, opened, hdesk, hallows⟩ hnote

/-! ## Making a vault -/

namespace InitCommand

/-- The warning of a legacy key is printed, and does not fail. -/
theorem warnOfLegacyKey_run (shell : Shell) :
    ∃ console, warnOfLegacyKey shell = (.ok (), { shell with console }) :=
  ⟨_, rfl⟩

/-- Telling about a vault that was created prints its public key, and does not fail. -/
theorem announce_run (context : Context) (migrates : Bool) (created : CreatedVault) (shell : Shell) :
    ∃ console, announce context migrates created shell = (.ok (), { shell with console }) ∧
      (.output, Console.line .info s!"Public key: {created.session.publicKeyHex}") ∈
        console.printed := by
  have hprinted : (Console.Stream.output,
      Console.line .info s!"Public key: {created.session.publicKeyHex}") ∈
        (((shell.console.say .success s!"Vault '{context.vaultId}' created at {context.directory}").say
          .info s!"Public key: {created.session.publicKeyHex}").say
          .info s!"Secret source: {created.method.name}").printed :=
    List.mem_append_left _ (List.mem_append_right _ (List.mem_singleton_self _))
  unfold announce
  by_cases hmigrated : created.isMigrated = true
  · rw [if_pos hmigrated]
    exact ⟨_, rfl, List.mem_append_left _ hprinted⟩
  · rw [if_neg hmigrated]
    by_cases hmigrates : migrates = true
    · rw [if_pos hmigrates]
      exact ⟨_, rfl, List.mem_append_left _ hprinted⟩
    · rw [if_neg hmigrates]
      exact ⟨_, rfl, hprinted⟩

/-- Keeping the directory out of version control writes the ignore file at most, and does not fail.
What was printed stays. -/
theorem ignoreDirectory_run (context : Context)
    (hignore : ∀ project content, Within Q (FilesM.write (IgnoreFile.pathIn project) content))
    (shell : Shell) : ∃ after, ignoreDirectory context shell = (.ok (), after) ∧
      shell.FilesWithin Q after ∧ shell.console.printed ⊆ after.console.printed := by
  unfold ignoreDirectory
  by_cases hslash : Files.startsInSlash context.settings.vaultDirectory = true
  · rw [if_pos hslash]
    exact ⟨shell, rfl, Sequential.refl shell, List.Subset.refl _⟩
  rw [if_neg hslash]
  rcases hensure : IgnoreFile.ensure shell.project context.settings.vaultDirectory shell.files with
    ⟨outcome, files⟩
  have hfiles : Q shell.files files := IgnoreFile.within_ensure (hignore _) hensure
  rw [run_bind, run_get]
  dsimp only
  rw [hensure]
  dsimp only
  rw [run_bind, run_set]
  dsimp only
  split
  · exact ⟨_, rfl, ⟨hfiles, rfl, rfl, rfl⟩, List.subset_append_left _ _⟩
  · exact ⟨_, rfl, ⟨hfiles, rfl, rfl, rfl⟩, List.Subset.refl _⟩

/-- What is done once it is known that there is no vault. -/
def proceed (context : Context) (migrates : Bool) (desk : Desk) : CommandM Unit := do
  CommandM.say .info "Creating a passkey for this vault..."
  match ← desk.attempt (·.create migrates) with
  | (.error e, _) =>
    context.note (.plain .create context.vaultId (some e))
    throw e
  | (.ok created, _) =>
    announce context migrates created
    ignoreDirectory context
    context.note (attempt context.vaultId created)
    CommandM.say .tip "Run `passkey-vault unlock` to unlock the vault with your passkey."

/-- At its desk the command refuses to make a vault that is there, and otherwise goes on, with a
warning of a legacy key at most. -/
theorem run_of_desk (context : Context) (migrates : Bool) {desk : Desk} {shell opened : Shell}
    (h : Desk.ofContext context shell = (.ok desk, opened)) :
    ∃ console, run context migrates shell =
      (if desk.store.recordText? context.vaultId = none then proceed context migrates desk
        else throw (.vaultExists context.vaultId)) { desk.read (desk.read opened) with console } := by
  obtain ⟨hof, hsound, hcache⟩ := Desk.ofContext_ok h
  have hstatus : ∃ status, desk.perform (fun _ => onStore StoreM.readStatus) opened =
      (.ok (status, desk), desk.read opened) :=
    ⟨_, Desk.perform_of_read (onStore_of_run hsound.readStatus)⟩
  obtain ⟨status, hstatus⟩ := hstatus
  unfold run
  rw [run_bind_of_ok h, run_bind_of_ok hstatus]
  dsimp only
  rw [run_bind_of_ok (Desk.perform_state hof hsound hcache _)]
  dsimp only
  rcases hrow : desk.store.recordText? context.vaultId with _ | text
  · rw [if_neg (by simp), if_pos rfl]
    split
    · obtain ⟨console, hwarn⟩ := warnOfLegacyKey_run (desk.read (desk.read opened))
      rw [run_bind_of_ok hwarn]
      exact ⟨console, rfl⟩
    · exact ⟨_, rfl⟩
  · have hlocked : (if (some text).isSome = true then VaultState.locked else .absent) ≠ .absent := nofun
    have hthere : some text ≠ none := nofun
    rw [if_pos hlocked, if_neg hthere, run_bind_of_ok (CommandM.say_run _ _ _)]
    exact ⟨_, rfl⟩

/-- A making that fails, or is announced, is noted last. -/
theorem proceed_notes {migrates : Bool} {desk : Desk} (hsteps : context.FileSteps Q)
    (hof : desk.IsOf context) (h : proceed context migrates desk shell = (r, shell')) :
    context.Notes .create Q shell shell' r := by
  unfold proceed at h
  rw [run_bind_of_ok (CommandM.say_run _ _ _)] at h
  generalize hasked : ({ shell with console := _ } : Shell) = asked at h
  have hfirst : shell.FilesWithin Q asked := hasked ▸ Shell.filesWithin_console _ _
  rcases hcreate : desk.vault.create migrates (desk.world asked) with ⟨result, world⟩
  have hworld := (Vault.within_create hsteps.replaceFile desk.vault migrates).of_run hcreate
  have hmade := Sequential.trans hfirst (Desk.filesWithin_after hsteps hof hworld).2
  rw [run_bind_of_ok (Desk.attempt_of_run hcreate)] at h
  rcases result with e | created
  · cases h
    exact ⟨_, .plain .create context.vaultId (some e), hmade.files, hmade.now ▸ rfl, rfl, rfl, rfl⟩
  · obtain ⟨console, hannounce, -⟩ := announce_run context migrates created (asked.after desk world)
    have hannounced := Sequential.trans hmade (Shell.filesWithin_console (Q := Q) _ console)
    obtain ⟨ignored, hignore, hignored, -⟩ := ignoreDirectory_run context
      hsteps.ignoreFile { asked.after desk world with console }
    have hlast := Sequential.trans hannounced hignored
    dsimp only at h
    rw [run_bind_of_ok hannounce, run_bind_of_ok hignore] at h
    cases h
    exact ⟨_, attempt context.vaultId created, hlast.files, hlast.now ▸ rfl, rfl, rfl, rfl⟩

/-- The command ends before its attempt when there is a vault, and otherwise with a note. -/
theorem run_ends {migrates : Bool} (hsteps : context.FileSteps Q)
    (h : run context migrates shell = (r, shell')) :
    context.Ends (.init migrates) .create Q shell shell' r := by
  refine Context.ends_of_desk hsteps h fun desk opened hdesk hopened => ?_
  obtain ⟨hof, -⟩ := Desk.ofContext_ok hdesk
  obtain ⟨console, hrun⟩ := run_of_desk context migrates hdesk
  have hread := Desk.filesWithin_read hsteps hof
  have hfirst := Sequential.trans (Sequential.trans hopened (hread opened))
    (Sequential.trans (hread _) (Shell.filesWithin_console _ console))
  rw [hrun] at h
  split at h
  · next habsent =>
    exact .inr ⟨habsent, (proceed_notes hsteps hof h).after hfirst⟩
  · next hthere =>
    cases h
    exact .inl ⟨hthere, hfirst.files⟩

end InitCommand

/-! ## Opening a vault -/

/-- An opening is noted, be it a success or not. -/
theorem UnlockCommand.run_ends (hsteps : context.FileSteps Q)
    (h : run context shell = (r, shell')) : context.Ends .unlock .unlock Q shell shell' r := by
  refine Context.ends_of_desk hsteps h fun desk opened hdesk hopened => .inr ⟨trivial, ?_⟩
  obtain ⟨hof, -⟩ := Desk.ofContext_ok hdesk
  rcases hproved : proved desk.vault (desk.world opened) with ⟨result, world⟩
  have hworld := (Vault.within_proved hsteps.replaceFile desk.vault).of_run hproved
  have hunlocked := Sequential.trans hopened (Desk.filesWithin_after hsteps hof hworld).2
  unfold run at h
  rw [run_bind_of_ok hdesk, run_bind_of_ok (Desk.attempt_of_run hproved)] at h
  rcases result with e | session
  · cases h
    exact ⟨_, .plain .unlock context.vaultId (some e), hunlocked.files, hunlocked.now ▸ rfl, rfl, rfl,
      rfl⟩
  · cases h
    exact ⟨_, ⟨.unlock, context.vaultId, none, some session.publicKeyHex, none⟩, hunlocked.files,
      hunlocked.now ▸ rfl, rfl, rfl, rfl⟩

/-! ## Deleting a vault -/

namespace DeleteCommand

/-- What is done once it is known that there is a vault and no question is to be asked; `key` is the
public key if it was read. -/
def proceed (context : Context) (key : Option String) (desk : Desk) : CommandM Unit := do
  match ← desk.attempt Vault.delete with
  | (.error e, _) =>
    context.note (.plain .delete context.vaultId (some e))
    throw e
  | (.ok (), _) =>
    context.note ⟨.delete, context.vaultId, none, key, none⟩
    CommandM.say .success s!"Deleted vault '{context.vaultId}'"

/-- The public key of a vault whose store is sound is read, if it can be. -/
theorem publicKey_of_sound (vault : Vault) {w : World} (hstore : w.store.Sound) :
    ∃ key, publicKey vault w = (key, w) := by
  have hrecord := onStore_of_run (w := w) (hstore.getRecord vault.id)
  unfold publicKey
  rw [run_bind, hrecord]
  split
  · next found _ hfound =>
    obtain ⟨-, rfl⟩ := Prod.mk.inj hfound
    exact ⟨.ok _, rfl⟩
  · next e _ hfound =>
    obtain ⟨-, rfl⟩ := Prod.mk.inj hfound
    exact ⟨.error e, rfl⟩

/-- The question is put, and the answer to it is the outcome. -/
theorem confirm_run (desk : Desk) (vaultId : String) (shell : Shell) :
    confirm desk vaultId shell =
      (match shell.terminal.answer (question vaultId) with
        | .ok answer =>
          .ok (answer, desk.answeredBy (shell.asked (question vaultId)).presence)
        | .error reason => .error (unanswered reason), shell.asked (question vaultId)) := by
  have hask : desk.ask (question vaultId) shell =
      (.ok (shell.terminal.answer (question vaultId),
        desk.answeredBy (shell.asked (question vaultId)).presence), shell.asked (question vaultId)) := rfl
  unfold confirm
  rw [run_bind_of_ok hask]
  rcases shell.terminal.answer (question vaultId) with reason | answer <;> rfl

/-- At its desk the command has nothing to do without a vault. Otherwise it goes on, after the user
said yes if the command is not forced. -/
theorem run_of_desk (context : Context) (isForced : Bool) {desk : Desk} {shell opened : Shell}
    (h : Desk.ofContext context shell = (.ok desk, opened)) :
    ∃ key, run context isForced shell =
      if desk.store.recordText? context.vaultId = none then
        CommandM.say .info s!"No vault '{context.vaultId}' to delete." (desk.read opened)
      else if isForced = true then proceed context key desk (desk.read (desk.read opened))
      else
        let asked := (desk.read (desk.read opened)).asked (question context.vaultId)
        match opened.terminal.answer (question context.vaultId) with
        | .ok true => proceed context key (desk.answeredBy asked.presence) asked
        | .ok false => CommandM.say .info "Cancelled." asked
        | .error reason => (.error (unanswered reason), asked) := by
  obtain ⟨hof, hsound, hcache⟩ := Desk.ofContext_ok h
  obtain ⟨key, hpublic⟩ := publicKey_of_sound desk.vault (w := desk.world (desk.read opened))
    hsound
  have hkey : desk.attempt publicKey (desk.read opened) =
      (.ok (key, desk), desk.read (desk.read opened)) := Desk.attempt_of_run hpublic
  refine ⟨key.toOption.join, ?_⟩
  unfold run
  rw [run_bind_of_ok h]
  dsimp only
  rw [run_bind_of_ok (Desk.perform_state hof hsound hcache _)]
  dsimp only
  rcases hrow : desk.store.recordText? context.vaultId with _ | text
  · have habsent : (if (none : Option String).isSome = true then VaultState.locked else .absent) =
      .absent := rfl
    rw [if_pos habsent, if_pos rfl]
    rfl
  have hlocked : (if (some text).isSome = true then VaultState.locked else .absent) ≠ .absent := nofun
  have hthere : some text ≠ none := nofun
  rw [if_neg hlocked, if_neg hthere, run_bind_of_ok hkey]
  dsimp only
  cases isForced with
  | true => rfl
  | false =>
    -- Nothing was asked while the desk was read, so the first reply is the one to this question.
    have hconfirm := confirm_run desk context.vaultId (desk.read (desk.read opened))
    rw [Desk.read_terminal, Desk.read_terminal] at hconfirm
    rw [if_neg (by decide), if_neg (by decide)]
    rcases hanswer : opened.terminal.answer (question context.vaultId) with reason | answer <;>
      rw [hanswer] at hconfirm
    · rw [run_bind_of_error hconfirm]
    · rw [run_bind_of_ok hconfirm]
      cases answer with
      | true => rfl
      | false => rfl

/-- A deletion is noted, be it a success or not. -/
theorem proceed_notes {key : Option String} {desk : Desk} (hsteps : context.FileSteps Q)
    (hof : desk.IsOf context) (h : proceed context key desk shell = (r, shell')) :
    context.Notes .delete Q shell shell' r := by
  rcases hdelete : desk.vault.delete (desk.world shell) with ⟨result, world⟩
  have hworld := (Vault.within_delete hsteps.replaceFile desk.vault).of_run hdelete
  have hdeleted := (Desk.filesWithin_after hsteps hof hworld).2
  unfold proceed at h
  rw [run_bind_of_ok (Desk.attempt_of_run hdelete)] at h
  rcases result with e | _
  · cases h
    exact ⟨_, .plain .delete context.vaultId (some e), hdeleted.files, hdeleted.now ▸ rfl, rfl, rfl,
      rfl⟩
  · cases h
    exact ⟨_, ⟨.delete, context.vaultId, none, key, none⟩, hdeleted.files, hdeleted.now ▸ rfl, rfl,
      rfl, rfl⟩

/-- The command ends before its attempt when there is no vault or the user did not say yes, and
otherwise with a note. -/
theorem run_ends {isForced : Bool} (hsteps : context.FileSteps Q)
    (h : run context isForced shell = (r, shell')) :
    context.Ends (.delete isForced) .delete Q shell shell' r := by
  refine Context.ends_of_desk hsteps h fun desk opened hdesk hopened => ?_
  obtain ⟨hof, -⟩ := Desk.ofContext_ok hdesk
  obtain ⟨key, hrun⟩ := run_of_desk context isForced hdesk
  have hterminal : opened.terminal = shell.terminal := by
    obtain ⟨files, rfl⟩ := Desk.ofContext_shell hdesk
    rfl
  rw [hterminal] at hrun
  have hread := Desk.filesWithin_read hsteps hof
  have hfirst := Sequential.trans hopened (hread opened)
  have hsecond := Sequential.trans hfirst (hread (desk.read opened))
  have hasked := Sequential.trans hsecond
    (Shell.filesWithin_asked (desk.read (desk.read opened)) (question context.vaultId))
  rw [hrun] at h
  split at h
  · next habsent =>
    cases h
    exact .inl ⟨fun hallows => hallows.1 habsent, hfirst.files⟩
  next hthere =>
  split at h
  · next hforced =>
    exact .inr ⟨⟨hthere, .inl hforced⟩, (proceed_notes hsteps hof h).after hsecond⟩
  next hunforced =>
  -- Without the flag nothing but a yes allows the attempt.
  have hneeds : shell.terminal.answer (question context.vaultId) ≠ .ok true →
      ¬desk.Allows shell.terminal context.vaultId (.delete isForced) :=
    fun hother hallows => hallows.2.elim hunforced hother
  dsimp only at h
  split at h
  · next hyes =>
    exact .inr ⟨⟨hthere, .inr hyes⟩, (proceed_notes hsteps (hof.answeredBy _) h).after hasked⟩
  · next hno =>
    cases h
    exact .inl ⟨hneeds (by rw [hno]; decide), hasked.files⟩
  · next hnone =>
    cases h
    exact .inl ⟨hneeds (by rw [hnone]; exact nofun), hasked.files⟩

end DeleteCommand

end Commands

/-! ## The trail -/

/-- The row of a noted attempt tells of it. -/
theorem Audit.Attempt.row_tellsOf {attempt : Audit.Attempt} {r : Except VaultError Unit}
    (h : attempt.error = Audit.errorOf r) (now : Instant) (id : Nat) :
    Audit.Row.TellsOf { attempt.row now with id } attempt.operation attempt.vaultId now r := by
  have hkind : (attempt.row now).errorKind = (Audit.errorOf r).map (·.kind) := by rw [← h]; rfl
  refine ⟨rfl, rfl, rfl, ?_, ?_⟩
  · show (attempt.row now).errorKind = none ↔ _
    rw [hkind]
    cases r <;> simp [Audit.errorOf]
  · rintro e rfl
    exact hkind

/-- A log in its directory is left by all that a command does with the files but its note: the files
have other names. -/
theorem Context.fileSteps_leavesNode (context : Context) {location : Files.Location}
    (h : location.getLast? = some AuditLog.fileName) :
    context.FileSteps (Files.LeavesNode location) := by
  refine ⟨FilesM.within_createDirectories FilesM.leavesNode_createDirectory _, ?_, ?_, ?_⟩
  · exact fun files content =>
      Files.leavesNode_saveDatabase Store.isFileName (by rw [h]; decide) _ content files
  · exact fun credentials =>
      VirtualAuthenticator.leavesNode_replaceFile Desk.isFileName_authenticatorFile rfl
        Desk.isFileName_beside (by rw [h]; decide) (by rw [h]; decide) _ credentials
  · exact fun project content => FilesM.leavesNode_write
      (IgnoreFile.isFileName.lastName_join project) (by rw [h]; decide) content

/-- To combine the settings and the options leaves the shell. -/
theorem Context.load_run {invocation : Invocation} {context : Context} {shell : Shell}
    (h : (load invocation shell).1 = .ok context) :
    load invocation shell = (.ok context, shell) := by
  rcases hrun : load invocation shell with ⟨r, loaded⟩
  rw [hrun] at h
  obtain rfl : r = .ok context := h
  obtain ⟨_, _, hget, h₁⟩ := bind_ok hrun
  cases hget
  obtain ⟨settings, _, hsettings, h₂⟩ := bind_ok h₁
  obtain ⟨-, rfl⟩ := CommandM.ofExcept_run hsettings
  obtain ⟨_, _, hcheck, h₃⟩ := bind_ok h₂
  obtain ⟨-, rfl⟩ := CommandM.ofExcept_run hcheck
  cases h₃
  rfl

/-- A command that makes, opens or deletes a vault ends before it came to its attempt, or with a
note. -/
theorem Invocation.run_ends {invocation : Invocation} {operation : Audit.Operation}
    {context : Context} {Q : Files → Files → Prop} [Sequential Q] {shell shell' : Shell}
    {r : Except VaultError Unit} (hoperation : invocation.command.operation? = some operation)
    (hload : (Context.load invocation shell).1 = .ok context) (hsteps : context.FileSteps Q)
    (hrun : invocation.run shell = (r, shell')) :
    context.Ends invocation.command operation Q shell shell' r := by
  unfold Invocation.run at hrun
  rcases hcommand : invocation.command with migrates | _ | _ | isForced | _ | _ | _ <;>
    rw [hcommand] at hoperation hrun <;> cases hoperation <;> dsimp only at hrun <;>
    rw [run_bind_of_ok (Context.load_run hload)] at hrun
  · exact InitCommand.run_ends hsteps hrun
  · exact UnlockCommand.run_ends hsteps hrun
  · exact DeleteCommand.run_ends hsteps hrun

/-- Of a command that makes, opens or deletes a vault, with a log that can be written, the log has
one more row afterwards exactly if the command came to its attempt. The row tells of the outcome,
and the rows that were there are as before. -/
theorem auditTrail_iff_attempt {invocation : Invocation} {operation : Audit.Operation}
    {context : Context} {location : Files.Location} {shell shell' : Shell}
    {r : Except VaultError Unit} (hoperation : invocation.command.operation? = some operation)
    (hload : (Context.load invocation shell).1 = .ok context)
    (hrun : invocation.run shell = (r, shell'))
    (hlog : AuditLog.IsUsable shell'.files context.directory location) :
    (context.ComesToAttempt invocation.command shell →
      ∃ row : Audit.Row, row.TellsOf operation context.vaultId shell.now r ∧
        shell'.files.auditRows location =
          ⟨row :: (shell.files.auditRows location).rows, (shell.files.auditRows location).nextId + 1⟩) ∧
    (¬context.ComesToAttempt invocation.command shell →
      shell'.files.auditRows location = shell.files.auditRows location) := by
  have hlast := Files.databaseLocation?_lastName AuditLog.isFileName hlog.place
  rcases Invocation.run_ends hoperation hload (context.fileSteps_leavesNode hlast) hrun with
    ⟨hnone, hfiles⟩ | ⟨hattempt, files, attempt, hfiles, hnote, rfl, hid, herror⟩
  · exact ⟨fun hattempt => absurd hattempt hnone,
      fun _ => Files.auditRows_of_leavesNode hfiles hlog.node?_ne⟩
  · refine ⟨fun _ => ?_, fun hnone => absurd hattempt hnone⟩
    obtain ⟨hdirectory, hrows⟩ := AuditLog.noteIn_rows hnote hlog
    rw [Files.auditRows_of_leavesNode hfiles hdirectory] at hrows
    exact ⟨_, hid ▸ attempt.row_tellsOf herror shell.now _, hrows⟩

/-- A project with a vault whose record cannot be read. -/
def Shell.withDamagedVault : Shell where
  files := ⟨[(["p"], .directory), (["p", ".passkey-vault"], .directory),
    (["p", ".passkey-vault", "vault.db"],
      .database ⟨some ⟨[(VaultRecord.defaultId, "")]⟩, some .empty, none, []⟩)], []⟩
  random := .counting 0
  now := ⟨0⟩
  project := "/p"
  approves := true
  terminal := .absent
  console := .empty

/-- That a vault is not made since it is there leaves no row, and that it cannot be opened leaves
one. -/
theorem auditTrail_iff_attempt_damaged :
    ∃ (refused failed : Shell) (e : VaultError) (row : Audit.Row),
      (Invocation.mk (.init false) none none false).run .withDamagedVault =
        (.error (.vaultExists VaultRecord.defaultId), refused) ∧
      (refused.files.auditRows ["p", ".passkey-vault", "audit.db"]).rows = [] ∧
      (Invocation.mk .unlock none none false).run refused = (.error e, failed) ∧
      (failed.files.auditRows ["p", ".passkey-vault", "audit.db"]).rows = [row] ∧
      row.TellsOf .unlock VaultRecord.defaultId refused.now (.error e) := by
  have hinit : Audit.errorOf ((Invocation.mk (.init false) none none false).run .withDamagedVault).1 =
        some (.vaultExists VaultRecord.defaultId) ∧
      AuditLog.IsUsable ((Invocation.mk (.init false) none none false).run .withDamagedVault).2.files
        "/p/.passkey-vault" ["p", ".passkey-vault", "audit.db"] ∧
      (Context.load (.mk (.init false) none none false) .withDamagedVault).1.toOption.any
        (· = ⟨.default, "/p/.passkey-vault"⟩) = true ∧
      (Desk.ofContext ⟨.default, "/p/.passkey-vault"⟩ .withDamagedVault).1.toOption.map
        (·.store.recordText? VaultRecord.defaultId) = some (some "") := by decide +kernel
  have hunlock : (Audit.errorOf ((Invocation.mk .unlock none none false).run
        ((Invocation.mk (.init false) none none false).run .withDamagedVault).2).1).isSome = true ∧
      AuditLog.IsUsable ((Invocation.mk .unlock none none false).run
        ((Invocation.mk (.init false) none none false).run .withDamagedVault).2).2.files
        "/p/.passkey-vault" ["p", ".passkey-vault", "audit.db"] ∧
      (Context.load (.mk .unlock none none false)
        ((Invocation.mk (.init false) none none false).run .withDamagedVault).2).1.toOption.any
          (· = ⟨.default, "/p/.passkey-vault"⟩) = true ∧
      (Desk.ofContext ⟨.default, "/p/.passkey-vault"⟩
        ((Invocation.mk (.init false) none none false).run .withDamagedVault).2).1.toOption.isSome =
          true := by decide +kernel
  rcases hrefused : (Invocation.mk (.init false) none none false).run .withDamagedVault with
    ⟨r, refused⟩
  rw [hrefused] at hinit hunlock
  rcases hfailed : (Invocation.mk .unlock none none false).run refused with ⟨r', failed⟩
  rw [hfailed] at hunlock
  obtain ⟨hexists, husable, hload, hrow⟩ := hinit
  obtain ⟨herror, husable', hload', hopened⟩ := hunlock
  obtain rfl := Audit.errorOf_eq_some.mp hexists
  obtain ⟨e, herror⟩ := Option.isSome_iff_exists.mp herror
  obtain rfl := Audit.errorOf_eq_some.mp herror
  obtain ⟨_, hload, hcontext⟩ := ok_of_any hload
  obtain rfl := of_decide_eq_true hcontext
  obtain ⟨_, hload', hcontext⟩ := ok_of_any hload'
  obtain rfl := of_decide_eq_true hcontext
  -- The vault is there, and so no attempt is made to make it.
  have hnone : ¬Context.ComesToAttempt ⟨.default, "/p/.passkey-vault"⟩ (.init false)
      .withDamagedVault := by
    rintro ⟨desk, opened, hdesk, hallows⟩
    rw [hdesk] at hrow
    have hthere : desk.store.recordText? VaultRecord.defaultId = some "" := Option.some.inj hrow
    rw [show desk.store.recordText? VaultRecord.defaultId = none from hallows] at hthere
    cases hthere
  have hattempt : Context.ComesToAttempt ⟨.default, "/p/.passkey-vault"⟩ .unlock refused := by
    rcases hdesk : Desk.ofContext ⟨.default, "/p/.passkey-vault"⟩ refused with ⟨_ | desk, opened⟩ <;>
      rw [hdesk] at hopened
    · cases hopened
    · exact ⟨desk, opened, hdesk, trivial⟩
  have hempty := (auditTrail_iff_attempt rfl hload hrefused husable).2 hnone
  obtain ⟨row, hrow, hrows⟩ := (auditTrail_iff_attempt rfl hload' hfailed husable').1 hattempt
  rw [hempty] at hrows
  refine ⟨refused, failed, e, row, rfl, ?_, hfailed, ?_, hrow⟩
  · rw [hempty]
    rfl
  · rw [hrows]
    rfl

/-- That the user does not want the vault to be deleted leaves no row, and that it is deleted leaves
one. -/
example : [Reply.no, .default, .yes].map (fun reply =>
    ((Invocation.mk (.delete false) none none false).run
      { Shell.withDamagedVault with terminal := ⟨[reply], []⟩ }).2.files.auditRows
        ["p", ".passkey-vault", "audit.db"] |>.rows.length) = [0, 0, 1] := by
  decide +kernel

end CredentialVault
