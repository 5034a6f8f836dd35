import CredentialVault.Audit.Log
import CredentialVault.Proofs.Files.Others

/-!
# Noting attempts

An attempt that is noted in a log that can be written becomes its latest row, and the rows that were
there stay as they are (`noteIn_rows`). A change of other files leaves the rows
(`auditRows_of_leavesNode`).
-/

namespace CredentialVault

open Operation

/-- The rows of the audit log at a location; there are none without a log. -/
def Files.auditRows (files : Files) (location : Files.Location) : Audit.Rows :=
  match files.node? location with
  | some (.database content) => content.audit.getD .empty
  | _ => .empty

/-- The log in a directory can be opened and written: it is at a location, and no trigger forbids
another row. -/
structure AuditLog.IsUsable (files : Files) (directory : String) (location : Files.Location) :
    Prop where
  /-- The log is at the location. -/
  place : files.databaseLocation? (pathIn directory) = some location
  /-- It can be opened, and rows can be appended. -/
  content : ∃ content, files.openDatabase (pathIn directory) = .content content ∧
    content.forbids? .insert .audit = none

/-- Whether a log can be opened and written is decided by looking at its file. -/
instance {files : Files} {directory : String} {location : Files.Location} :
    Decidable (AuditLog.IsUsable files directory location) :=
  decidable_of_iff (files.databaseLocation? (AuditLog.pathIn directory) = some location ∧
    (match files.openDatabase (AuditLog.pathIn directory) with
      | .content content => (content.forbids? .insert .audit).isNone
      | _ => false) = true) (by
    constructor
    · rintro ⟨hplace, hcontent⟩
      split at hcontent
      · next content hopen => exact ⟨hplace, content, hopen, Option.isNone_iff_eq_none.mp hcontent⟩
      · cases hcontent
    · rintro ⟨hplace, content, hopen, hallowed⟩
      refine ⟨hplace, ?_⟩
      rw [hopen]
      exact Option.isNone_iff_eq_none.mpr hallowed)

namespace Files

variable {files files' : Files} {location : Location}

/-- What leaves the node of a log leaves its rows, unless a directory came there. -/
theorem auditRows_of_leavesNode (h : files.LeavesNode location files')
    (hdirectory : files'.node? location ≠ some .directory) :
    files'.auditRows location = files.auditRows location := by
  unfold auditRows
  rw [h.node?_eq hdirectory]

/-- The rows of a log that is opened are those of its database. -/
theorem auditRows_of_openDatabase {path : String} {content : Database}
    (hlocation : files.databaseLocation? path = some location)
    (h : files.openDatabase path = .content content) :
    files.auditRows location = content.audit.getD .empty := by
  unfold openDatabase at h
  rw [hlocation] at h
  dsimp only at h
  unfold auditRows
  generalize files.node? location = node at h ⊢
  rcases node with _ | _ | bytes | _ | database
  · cases h
    rfl
  · cases h
  · rcases bytes with _ | ⟨byte, _ | ⟨other, bytes⟩⟩ <;> cases h <;> rfl
  · cases h
  · cases h
    rfl

end Files

namespace AuditLog

variable {directory : String} {location : Files.Location}

/-- The file of an audit log has a name of its own. -/
theorem isFileName : Files.IsFileName fileName :=
  ⟨by decide, by decide, by decide, by decide⟩

/-- The log is no directory. -/
theorem IsUsable.node?_ne {files : Files} (h : IsUsable files directory location) :
    files.node? location ≠ some .directory :=
  (Files.databaseLocation?_some h.place).2

/-- A log that was opened for a note has its table and is saved. -/
theorem openAt_ok {files opened : Files} {log : AuditLog}
    (h : openAt directory files = (.ok log, opened)) :
    ∃ content there, files.openDatabase (pathIn directory) = .content content ∧
      files.databaseLocation? (pathIn directory) = some there ∧ log.path = pathIn directory ∧
      opened = files.setNode there (.database content.withAuditTable) := by
  obtain ⟨_, _, hget, h₁⟩ := bind_ok h
  cases hget
  rcases hopen : files.openDatabase (pathIn directory) with _ | _ | content <;> rw [hopen] at h₁ <;>
    cases h₁
  obtain ⟨there, hthere, -⟩ := Files.openDatabase_content hopen
  refine ⟨content, there, rfl, hthere, rfl, ?_⟩
  show files.saveDatabase (pathIn directory) content.withAuditTable = _
  unfold Files.saveDatabase
  rw [hthere]

/-- When a log cannot be opened, the files stay. -/
theorem openAt_error {files opened : Files} {e : VaultError}
    (h : openAt directory files = (.error e, opened)) :
    opened = files ∧ ∀ content, files.openDatabase (pathIn directory) ≠ .content content := by
  rcases bind_error h with hget | ⟨_, _, hget, h₁⟩ <;> cases hget
  rcases hopen : files.openDatabase (pathIn directory) with _ | _ | content <;> rw [hopen] at h₁ <;>
    cases h₁ <;> exact ⟨rfl, nofun⟩

/-- A row is appended to a log that can be read, has its table, and has no trigger against it;
otherwise the files stay. -/
theorem append_run {log : AuditLog} {row : Audit.Row} {files files' : Files}
    {r : Except VaultError Unit} (h : log.append row files = (r, files')) :
    (files' = files ∧ ∀ content, files.openDatabase log.path = .content content →
      content.audit = none ∨ content.forbids? .insert .audit ≠ none) ∨
    ∃ content rows, files.openDatabase log.path = .content content ∧ content.audit = some rows ∧
      files' = files.saveDatabase log.path { content with audit := some (rows.append row) } := by
  have hread : log.database files = (match files.openDatabase log.path with
      | .content content => (.ok content, files)
      | _ => (.error (.audit Database.foreign), files)) := by
    unfold database
    rw [run_bind, run_get]
    dsimp only
    rcases files.openDatabase log.path with _ | _ | content <;> rfl
  unfold append at h
  rw [run_bind, hread] at h
  rcases hopen : files.openDatabase log.path with _ | _ | content <;> rw [hopen] at h <;>
    dsimp only at h
  · cases h
    exact .inl ⟨rfl, nofun⟩
  · cases h
    exact .inl ⟨rfl, nofun⟩
  · rcases haudit : content.audit with _ | rows <;> rw [haudit] at h <;> dsimp only at h
    · cases h
      refine .inl ⟨rfl, ?_⟩
      rintro _ ⟨⟩
      exact .inl haudit
    · rcases hforbids : content.forbids? .insert .audit with _ | message <;> rw [hforbids] at h <;>
        cases h
      · exact .inr ⟨content, rows, rfl, haudit, rfl⟩
      · refine .inl ⟨rfl, ?_⟩
        rintro _ ⟨⟩
        rw [hforbids]
        exact .inr nofun

/-- An attempt that is noted in a log that can be written afterwards becomes the latest row. -/
theorem noteIn_rows {attempt : Audit.Attempt} {now : Instant} {files noted : Files}
    (hnote : noteIn directory attempt now files = noted)
    (h : IsUsable noted directory location) :
    files.node? location ≠ some .directory ∧
      noted.auditRows location = (files.auditRows location).append (attempt.row now) := by
  obtain ⟨last, hlast, hallowed⟩ := h.content
  have hplace := h.place
  have hrun : ((openAt directory >>= fun log => log.record attempt now) files).2 = noted := hnote
  rw [run_bind] at hrun
  rcases hopened : openAt directory files with ⟨e | log, opened⟩ <;> rw [hopened] at hrun
  · -- Without a log the files stay, and then there is none afterwards.
    obtain ⟨rfl, hnone⟩ := openAt_error hopened
    obtain rfl : opened = noted := hrun
    exact absurd hlast (hnone last)
  obtain ⟨content, there, hcontent, hthere, hpath, hsaved⟩ := openAt_ok hopened
  obtain ⟨hbefore, hdirectory⟩ := Files.databaseLocation?_some hthere
  obtain rfl : there = location :=
    Files.databaseWalk?_unique hbefore (Files.databaseLocation?_some hplace).1
  have hroot : there ≠ [] := by
    rintro rfl
    exact hdirectory rfl
  refine ⟨hdirectory, ?_⟩
  rw [Files.auditRows_of_openDatabase hthere hcontent]
  -- The log is read again where it was saved, with the table that it has by now.
  have hread : ∀ found, opened.openDatabase (pathIn directory) = .content found →
      found = content.withAuditTable := fun found =>
    Files.openDatabase_of_saved hthere (hsaved ▸ Sequential.refl _)
  rcases happend : log.append (attempt.row now) opened with ⟨r, files'⟩
  obtain rfl : files' = noted := by
    rw [← hrun]
    exact congrArg Prod.snd happend.symm
  rcases append_run happend with ⟨rfl, hfailed⟩ | ⟨found, rows, hfound, hrows, rfl⟩
  · rw [hpath] at hfailed
    obtain rfl := hread last hlast
    rcases hfailed _ hlast with hmissing | hforbidden
    · cases hmissing
    · exact absurd hallowed hforbidden
  · rw [hpath] at hfound hplace ⊢
    obtain rfl := hread found hfound
    obtain rfl : content.audit.getD .empty = rows := Option.some.inj hrows
    obtain ⟨again, hagain, -⟩ := Files.openDatabase_content hfound
    obtain rfl : again = there :=
      Files.databaseWalk?_unique (Files.databaseLocation?_some hagain).1 hbefore
    unfold Files.auditRows Files.saveDatabase
    rw [hagain]
    dsimp only
    rw [Files.node?_setNode _ hroot, if_pos rfl]
    rfl

end AuditLog

end CredentialVault
