import Mathlib.Data.List.Forall2
import CredentialVault.Proofs.Audit.Log
import CredentialVault.Proofs.Files.Writable

/-!
# What an audit log answers

A log keeps its rows in its file (`AuditLog.KeptIn`): a row that is appended comes first, and a log
that is opened again has the rows that it had. The rows tell of what was noted, the latest first,
whatever the times were (`Rows.Lists`), so that a query gives just the notes that pass its filter
(`Rows.Lists.query`), and the same after any history of the log (`query_exact`).

A row has whole milliseconds, and the earliest time of a filter is rounded down to them. So all that
is wanted passes (`Filter.Wants.passes`), and what passes in addition was noted in the millisecond
of the earliest time (`Filter.ms_eq_of_passes`); there is nothing of this kind when that time is a
whole number of milliseconds (`Filter.passes_iff_wants`).
-/

namespace CredentialVault

open Operation

namespace Audit

/-! ## Notes -/

/-- An attempt and the time at which it was noted. -/
structure Note where
  /-- The attempt. -/
  attempt : Attempt
  /-- The time. -/
  time : Instant
deriving DecidableEq, Repr

/-- A row tells of a note: it has the time and every field as they were noted. -/
structure Row.Tells (row : Row) (note : Note) : Prop where
  /-- The time, in milliseconds. -/
  atMs : row.atMs = note.time.ms
  /-- The time that is shown, in whole milliseconds. -/
  time : row.time = .ofMs note.time.ms
  /-- The id of the vault. -/
  vaultId : row.vaultId = note.attempt.vaultId
  /-- The name of the operation. -/
  operation : row.operation = note.attempt.operation.name
  /-- The kind of the error, if there was one. -/
  errorKind : row.errorKind = note.attempt.error.map (·.kind)
  /-- The public key. -/
  publicKeyHex : row.publicKeyHex = note.attempt.publicKeyHex
  /-- Further details. -/
  detail : row.detail = note.attempt.detail

/-- What a filter demands of a note apart from the time. -/
def Filter.Concerns (filter : Filter) (note : Note) : Prop :=
  (∀ id ∈ filter.vaultId, id = note.attempt.vaultId) ∧
    (filter.failuresOnly = true → note.attempt.error ≠ none)

/-- A filter wants a note: it is not from before the earliest time, and meets all other demands. -/
def Filter.Wants (filter : Filter) (note : Note) : Prop :=
  (∀ since ∈ filter.since, since.ns ≤ note.time.ns) ∧ filter.Concerns note

/-- A note passes a filter: it is not from before the millisecond of the earliest time, and meets
all other demands. -/
def Filter.Passes (filter : Filter) (note : Note) : Prop :=
  (∀ since ∈ filter.since, since.ms ≤ note.time.ms) ∧ filter.Concerns note

/-- Whether a filter concerns a note is decided demand by demand. -/
instance (filter : Filter) : DecidablePred filter.Concerns := fun _ => by
  unfold Filter.Concerns
  infer_instance

/-- Whether a filter wants a note is decided demand by demand. -/
instance (filter : Filter) : DecidablePred filter.Wants := fun _ => by
  unfold Filter.Wants
  infer_instance

/-- Whether a note passes a filter is decided demand by demand. -/
instance (filter : Filter) : DecidablePred filter.Passes := fun _ => by
  unfold Filter.Passes
  infer_instance

/-- Of notes, the latest first, those that are wanted, up to the limit. -/
def Filter.wanted (filter : Filter) (notes : List Note) : List Note :=
  (notes.filter filter.Wants).take filter.limit

/-- Of notes, the latest first, those that pass, up to the limit. -/
def Filter.passing (filter : Filter) (notes : List Note) : List Note :=
  (notes.filter filter.Passes).take filter.limit

variable {filter : Filter} {note : Note}

/-- What is wanted passes. -/
theorem Filter.Wants.passes (h : filter.Wants note) : filter.Passes note :=
  ⟨fun since hsince => Int.ediv_le_ediv (by decide) (h.1 since hsince), h.2⟩

/-- What passes although it is from before the earliest time is from the same millisecond. -/
theorem Filter.ms_eq_of_passes (h : filter.Passes note) {since : Instant} (hsince : since ∈ filter.since)
    (hearlier : note.time.ns < since.ns) : note.time.ms = since.ms :=
  Int.le_antisymm (Int.ediv_le_ediv (by decide) (Int.le_of_lt hearlier)) (h.1 since hsince)

/-- When the earliest time is a whole number of milliseconds, just what is wanted passes. -/
theorem Filter.passes_iff_wants (h : ∀ since ∈ filter.since, since = .ofMs since.ms) :
    filter.Passes note ↔ filter.Wants note := by
  refine ⟨fun hpasses => ⟨fun since hsince => ?_, hpasses.2⟩, Filter.Wants.passes⟩
  rw [h since hsince]
  exact Instant.le_ms_iff.mp (hpasses.1 since hsince)

/-- The first elements of a list are the first of those that meet a condition exactly if they all
meet it. -/
theorem take_eq_take_filter_iff {α : Type} {p : α → Prop} [DecidablePred p] {xs : List α} {count : Nat} :
    xs.take count = (xs.filter p).take count ↔ ∀ x ∈ xs.take count, p x := by
  induction xs generalizing count with
  | nil => simp
  | cons x xs ih =>
    rcases count with _ | count
    · simp
    by_cases hx : p x
    · rw [List.filter_cons_of_pos (by simpa using hx), List.take_succ_cons, List.take_succ_cons,
        List.cons_inj_right, ih, List.forall_mem_cons, and_iff_right hx]
    · refine iff_of_false (fun h => hx ?_) fun h => hx (h x (by simp))
      have hmem : x ∈ (xs.filter p).take (count + 1) := by
        rw [List.filter_cons_of_neg (by simpa using hx), List.take_succ_cons] at h
        exact h ▸ List.mem_cons_self
      simpa using (List.mem_filter.mp (List.mem_of_mem_take hmem)).2

/-- The notes that pass are those that are wanted exactly if none of them is from before the
earliest time. -/
theorem Filter.passing_eq_wanted_iff {notes : List Note} : filter.passing notes = filter.wanted notes ↔
    ∀ note ∈ filter.passing notes, ∀ since ∈ filter.since, since.ns ≤ note.time.ns := by
  -- What is wanted passes, so it can be sought among what passes, where the limit is the same.
  have hwanted : notes.filter filter.Wants = (notes.filter filter.Passes).filter filter.Wants := by
    rw [List.filter_filter]
    refine List.filter_congr fun note _ => ?_
    simpa using fun h : filter.Wants note => h.passes
  unfold passing wanted
  rw [hwanted, take_eq_take_filter_iff]
  refine forall₂_congr fun note hnote => ⟨fun h => h.1, fun h => ⟨h, ?_⟩⟩
  have hpasses : filter.Passes note := by
    simpa using (List.mem_filter.mp (List.mem_of_mem_take hnote)).2
  exact hpasses.2

/-- A filter lets the row of a note pass if the note passes. -/
theorem Row.Tells.accepts_iff {row : Row} (h : row.Tells note) (filter : Filter) :
    filter.accepts row = true ↔ decide (filter.Passes note) = true := by
  have hsince : filter.since.all (·.ms ≤ row.atMs) = true ↔
      ∀ since ∈ filter.since, since.ms ≤ note.time.ms := by
    rw [h.atMs]
    rcases filter.since <;> simp
  have hvault : filter.vaultId.all (· = row.vaultId) = true ↔
      ∀ id ∈ filter.vaultId, id = note.attempt.vaultId := by
    rw [h.vaultId]
    rcases filter.vaultId <;> simp
  have hfailures : (!filter.failuresOnly || !row.succeeded) = true ↔
      (filter.failuresOnly = true → note.attempt.error ≠ none) := by
    rw [Row.succeeded, h.errorKind, Option.isNone_map]
    rcases filter.failuresOnly <;> rcases note.attempt.error <;> simp
  rw [decide_eq_true_eq, Filter.accepts, Bool.and_eq_true, Bool.and_eq_true, hsince, hvault,
    hfailures, and_assoc, Filter.Passes, Filter.Concerns]

/-! ## Rows -/

/-- Rows tell of notes, the latest first, and their numbers go down from the one that comes next. -/
structure Rows.Lists (rows : Rows) (notes : List Note) : Prop where
  /-- Each row tells of its note. -/
  tells : List.Forall₂ Row.Tells rows.rows notes
  /-- A row has a greater number than those before it. -/
  ids : rows.rows.Pairwise fun later earlier => earlier.id < later.id
  /-- The next number is greater than all. -/
  next : ∀ row ∈ rows.rows, row.id < rows.nextId

namespace Rows.Lists

variable {rows : Rows} {notes : List Note}

/-- A log without rows tells of nothing. -/
theorem empty : Rows.empty.Lists [] := ⟨.nil, .nil, nofun⟩

/-- A row that is appended tells of the latest note. -/
theorem append (h : rows.Lists notes) {note : Note} (htime : note.time.isRepresentable = true) :
    (rows.append (note.attempt.row note.time)).Lists (note :: notes) := by
  have hshown : Instant.ofStored note.time.ms = .ofMs note.time.ms :=
    if_pos (Instant.isRepresentable_iff.mp htime)
  refine ⟨.cons ⟨rfl, hshown, rfl, rfl, rfl, rfl, rfl⟩ h.tells, .cons h.next h.ids, ?_⟩
  intro row hrow
  rcases List.mem_cons.mp hrow with rfl | hrow
  · exact Nat.lt_succ_self _
  · exact Nat.lt_succ_of_lt (h.next row hrow)

/-- A query gives the rows of the notes that pass, the latest first, up to the limit. -/
theorem query (h : rows.Lists notes) (filter : Filter) :
    List.Forall₂ Row.Tells (rows.query filter) (filter.passing notes) ∧
      (rows.query filter).Pairwise fun later earlier => earlier.id < later.id := by
  refine ⟨List.forall₂_take _ (List.rel_filter ?_ h.tells), ?_⟩
  · exact fun row note htells => htells.accepts_iff filter
  · exact (h.ids.sublist List.filter_sublist).sublist (List.take_sublist _ _)

/-- There are as many rows as notes. -/
theorem length_eq (h : rows.Lists notes) : rows.rows.length = notes.length := h.tells.length_eq

end Rows.Lists

/-! ## Numbers of a database -/

/-- The least number of a database. -/
def leastNumber : Int := -9223372036854775808

/-- The greatest number of a database. -/
def greatestNumber : Nat := 9223372036854775807

/-- A filter with its limit and its earliest time as numbers of a database: a greater limit is the
greatest number, and without an earliest time it is the least one. -/
def Filter.parameters (filter : Filter) : Filter :=
  { filter with
    limit := min filter.limit greatestNumber
    since := some (filter.since.getD (.ofMs leastNumber)) }

/-- The time of a row is a number of a database. -/
theorem Row.Tells.leastNumber_le {row : Row} {note : Note} (h : row.Tells note) :
    leastNumber ≤ row.atMs := by
  have htime := h.time
  unfold Row.time Instant.ofStored at htime
  split at htime
  · next hcalendar =>
    have hmin := hcalendar.1
    unfold Instant.minMs at hmin
    unfold leastNumber
    omega
  · -- A time outside of the calendar would be shown as the start of Unix time.
    have hzero : 0 = note.time.ms := by
      rw [← Instant.ms_ofMs 0, htime, Instant.ms_ofMs]
    rw [h.atMs, ← hzero]
    decide

/-- The times of rows that tell of notes are numbers of a database. -/
theorem Rows.Lists.leastNumber_le {rows : Rows} {notes : List Note} (h : rows.Lists notes) :
    ∀ row ∈ rows.rows, leastNumber ≤ row.atMs := by
  obtain ⟨htells, -, -⟩ := h
  generalize rows.rows = told at htells ⊢
  induction htells with
  | nil => exact nofun
  | cons hfirst _ ih =>
    intro row hrow
    rcases List.mem_cons.mp hrow with rfl | hrow
    · exact hfirst.leastNumber_le
    · exact ih row hrow

/-- A query with the numbers of a database gives the same rows, of which there are no more than it
can number. -/
theorem Rows.Lists.query_parameters {rows : Rows} {notes : List Note} (h : rows.Lists notes)
    (hcount : notes.length ≤ greatestNumber) (filter : Filter) :
    rows.query filter.parameters = rows.query filter := by
  have haccepts : rows.rows.filter filter.parameters.accepts = rows.rows.filter filter.accepts := by
    refine List.filter_congr fun row hrow => ?_
    have hleast := h.leastNumber_le row hrow
    unfold Filter.accepts Filter.parameters
    rcases filter.since with _ | since
    · simp [hleast]
    · rfl
  -- A limit above the greatest number leaves out no row, and neither does that number.
  have hlength : (rows.rows.filter filter.accepts).length ≤ greatestNumber :=
    Nat.le_trans (List.length_filter_le _ _) (h.length_eq ▸ hcount)
  unfold Rows.query
  rw [haccepts]
  rcases Nat.le_total filter.limit greatestNumber with hlimit | hlimit
  · rw [Filter.parameters, Nat.min_eq_left hlimit]
  · rw [Filter.parameters, Nat.min_eq_right hlimit, List.take_of_length_le hlength,
      List.take_of_length_le (Nat.le_trans hlength hlimit)]

end Audit

/-! ## Histories -/

/-- What is done with a log. -/
inductive AuditStep where
  /-- An attempt is noted. -/
  | record (note : Audit.Note)
  /-- The log is asked. -/
  | query (filter : Audit.Filter)
  /-- The log is opened again. -/
  | reopen

namespace AuditStep

/-- The step, with the log in a directory, and the log afterwards. -/
def run (directory : String) (log : AuditLog) : AuditStep → AuditM AuditLog
  | record note => do
    log.record note.attempt note.time
    return log
  | query filter => do
    let _ ← log.query filter
    return log
  | reopen => AuditLog.openAt directory

/-- What the step notes, if it does. -/
def note? : AuditStep → Option Audit.Note
  | record note => some note
  | _ => none

end AuditStep

namespace AuditLog

/-- A log is opened in a directory, and steps are made with it one after another. -/
def history (directory : String) (steps : List AuditStep) : AuditM AuditLog := do
  steps.foldlM (AuditStep.run directory) (← openAt directory)

/-- A log keeps rows in its file in a directory that is there, and others can be appended. -/
structure KeptIn (log : AuditLog) (directory : String) (rows : Audit.Rows) (files : Files) :
    Prop where
  /-- The log is in the directory. -/
  path : log.path = pathIn directory
  /-- The directory is there. -/
  isDirectory : files.isDirectory directory = true
  /-- The file has the rows. -/
  file : ∃ location content, files.databaseLocation? (pathIn directory) = some location ∧
    files.node? location = some (.database content) ∧ content.audit = some rows ∧
    content.forbids? .insert .audit = none

variable {directory : String} {files : Files} {log : AuditLog} {rows : Audit.Rows}

/-- A log whose file can be opened is opened. -/
theorem openAt_of_content {content : Database}
    (hopen : files.openDatabase (pathIn directory) = .content content) :
    openAt directory files = (.ok ⟨pathIn directory, true⟩,
      files.saveDatabase (pathIn directory) content.withAuditTable) := by
  unfold openAt
  rw [run_bind, run_get]
  dsimp only
  rw [hopen]
  rfl

/-- The database of a log whose file can be opened is read. -/
theorem database_of_content {content : Database}
    (hopen : files.openDatabase log.path = .content content) :
    log.database files = (.ok content, files) := by
  unfold database
  rw [run_bind, run_get]
  dsimp only
  rw [hopen]
  rfl

namespace KeptIn

/-- A log keeps the rows that are saved in its file. -/
theorem of_save {location : Files.Location} {content : Database}
    (hpath : log.path = pathIn directory) (hdirectory : files.isDirectory directory = true)
    (hlocation : files.databaseLocation? (pathIn directory) = some location)
    (hrows : content.audit = some rows) (hallowed : content.forbids? .insert .audit = none) :
    log.KeptIn directory rows (files.saveDatabase (pathIn directory) content) := by
  have htouches : files.Touches [fileName] (files.saveDatabase (pathIn directory) content) :=
    Files.touches_saveDatabase isFileName (List.mem_singleton_self _) directory content files
  exact ⟨hpath, Files.isDirectory_of_touches hdirectory htouches, location, content,
    Files.databaseLocation?_of_touches isFileName hdirectory htouches hlocation,
    Files.node?_saveDatabase hlocation, hrows, hallowed⟩

/-- A log that is opened keeps the rows that its file has. -/
theorem of_openAt {location : Files.Location} (hdirectory : files.isDirectory directory = true)
    (husable : IsUsable files directory location) :
    ∃ log files', openAt directory files = (.ok log, files') ∧
      log.KeptIn directory (files.auditRows location) files' := by
  obtain ⟨content, hopen, hallowed⟩ := husable.content
  refine ⟨_, _, openAt_of_content hopen, of_save rfl hdirectory husable.place ?_ hallowed⟩
  rw [Files.auditRows_of_openDatabase husable.place hopen]
  rfl

/-- The file of the log is opened. -/
theorem openDatabase (h : log.KeptIn directory rows files) : ∃ location content,
    files.databaseLocation? (pathIn directory) = some location ∧
      files.openDatabase (pathIn directory) = .content content ∧ content.audit = some rows ∧
      content.forbids? .insert .audit = none := by
  obtain ⟨location, content, hlocation, hnode, hrest⟩ := h.file
  exact ⟨location, content, hlocation, Files.openDatabase_of_node hlocation hnode, hrest⟩

/-- A log that is opened again has the rows that it had. -/
theorem reopen (h : log.KeptIn directory rows files) : ∃ log' files',
    openAt directory files = (.ok log', files') ∧ log'.KeptIn directory rows files' := by
  obtain ⟨location, content, hlocation, hopen, hrows, hallowed⟩ := h.openDatabase
  refine ⟨_, _, openAt_of_content hopen, of_save rfl h.isDirectory hlocation ?_ hallowed⟩
  rw [Database.withAuditTable, hrows]
  rfl

/-- A row that is appended comes to the rows that the log has. -/
theorem append (h : log.KeptIn directory rows files) (row : Audit.Row) : ∃ files',
    log.append row files = (.ok (), files') ∧ log.KeptIn directory (rows.append row) files' := by
  obtain ⟨location, content, hlocation, hopen, hrows, hallowed⟩ := h.openDatabase
  rw [← h.path] at hopen
  refine ⟨files.saveDatabase log.path { content with audit := some (rows.append row) }, ?_, ?_⟩
  · unfold AuditLog.append
    rw [run_bind_of_ok (database_of_content hopen), hrows]
    dsimp only
    rw [hallowed]
    rfl
  · rw [h.path]
    exact of_save h.path h.isDirectory hlocation rfl hallowed

/-- A query is answered with the rows that the log has, and changes nothing. -/
theorem query (h : log.KeptIn directory rows files) (filter : Audit.Filter) :
    log.query filter files = (.ok (rows.query filter), files) := by
  obtain ⟨-, content, -, hopen, hrows, -⟩ := h.openDatabase
  rw [← h.path] at hopen
  unfold AuditLog.query
  rw [run_bind_of_ok (database_of_content hopen), hrows]
  rfl

/-- A step succeeds, and the rows tell of what it notes in addition. -/
theorem step {notes : List Audit.Note} (h : log.KeptIn directory rows files) (hlists : rows.Lists notes)
    (step : AuditStep) (htimes : ∀ note ∈ step.note?, note.time.isRepresentable = true) :
    ∃ log' rows' files', step.run directory log files = (.ok log', files') ∧
      log'.KeptIn directory rows' files' ∧ rows'.Lists (step.note?.toList ++ notes) := by
  cases step with
  | record note =>
    obtain ⟨files', hrun, hkept⟩ := h.append (note.attempt.row note.time)
    exact ⟨log, _, files', run_bind_of_ok hrun, hkept, hlists.append (htimes note rfl)⟩
  | query filter => exact ⟨log, rows, files, run_bind_of_ok (h.query filter), h, hlists⟩
  | reopen =>
    obtain ⟨log', files', hrun, hkept⟩ := h.reopen
    exact ⟨log', rows, files', hrun, hkept, hlists⟩

/-- Steps succeed one after another, and the rows tell of all that they note, the latest first. -/
theorem steps {notes : List Audit.Note} (h : log.KeptIn directory rows files)
    (hlists : rows.Lists notes) (steps : List AuditStep)
    (htimes : ∀ note ∈ steps.filterMap AuditStep.note?, note.time.isRepresentable = true) :
    ∃ log' rows' files', steps.foldlM (AuditStep.run directory) log files = (.ok log', files') ∧
      log'.KeptIn directory rows' files' ∧
      rows'.Lists ((steps.filterMap AuditStep.note?).reverse ++ notes) := by
  -- The notes of the steps so far stand in front of those from before.
  induction steps generalizing log rows files notes with
  | nil => exact ⟨log, rows, files, rfl, h, hlists⟩
  | cons step steps ih =>
    have hnotes : (step :: steps).filterMap AuditStep.note? =
        step.note?.toList ++ steps.filterMap AuditStep.note? := by
      rw [List.filterMap_cons]
      cases step.note? <;> rfl
    have hreverse : (step.note?.toList).reverse = step.note?.toList := by
      cases step.note? <;> rfl
    rw [hnotes] at htimes
    obtain ⟨log₁, rows₁, files₁, hrun, hkept₁, hlists₁⟩ := h.step hlists step fun note hnote =>
      htimes note (List.mem_append_left _ (Option.mem_toList.mpr hnote))
    obtain ⟨log', rows', files', hrest, hkept', hlists'⟩ := ih hkept₁ hlists₁ fun note hnote =>
      htimes note (List.mem_append_right _ hnote)
    refine ⟨log', rows', files', ?_, hkept', ?_⟩
    · rw [List.foldlM_cons, run_bind_of_ok hrun, hrest]
    · rw [hnotes, List.reverse_append, List.append_assoc, hreverse]
      exact hlists'

end KeptIn

/-- What is noted by steps, the latest first. -/
def notedBy (steps : List AuditStep) : List Audit.Note :=
  (steps.filterMap AuditStep.note?).reverse

/-- A log that is opened in a directory that is there and has no rows yet tells exactly what was
noted, whatever was noted, at whatever times, and however often the log was asked or opened again. A
query is answered with the rows of the notes that pass the filter, the latest note first, up to the
limit, and their numbers go down. These are the notes that the filter wants, unless one of them is
from before the earliest time; such a note is from the same millisecond, and there is none when the
earliest time is a whole number of milliseconds. A smaller limit gives the first of these rows. The
limit and the earliest time may be made numbers of a database, as long as its numbers are enough for
the rows. -/
theorem query_exact {location : Files.Location} (hdirectory : files.isDirectory directory = true)
    (husable : IsUsable files directory location) (hempty : files.auditRows location = .empty)
    (steps : List AuditStep)
    (htimes : ∀ note ∈ steps.filterMap AuditStep.note?, note.time.isRepresentable = true) :
    ∃ log files', history directory steps files = (.ok log, files') ∧
      ∀ filter : Audit.Filter, ∃ rows, log.query filter files' = (.ok rows, files') ∧
        List.Forall₂ Audit.Row.Tells rows (filter.passing (notedBy steps)) ∧
        (filter.passing (notedBy steps) = filter.wanted (notedBy steps) ↔
          ∀ note ∈ filter.passing (notedBy steps), ∀ since ∈ filter.since,
            since.ns ≤ note.time.ns) ∧
        (∀ note ∈ filter.passing (notedBy steps), ∀ since ∈ filter.since,
          note.time.ns < since.ns → note.time.ms = since.ms) ∧
        ((∀ since ∈ filter.since, since = .ofMs since.ms) →
          filter.passing (notedBy steps) = filter.wanted (notedBy steps)) ∧
        (rows.Pairwise fun later earlier => earlier.id < later.id) ∧
        (∀ limit ≤ filter.limit, ∃ first, log.query { filter with limit } files' = (.ok first, files') ∧
          first <+: rows) ∧
        ((steps.filterMap AuditStep.note?).length ≤ Audit.greatestNumber →
          log.query filter.parameters files' = (.ok rows, files')) := by
  obtain ⟨opened, files₁, hopen, hkept₁⟩ := KeptIn.of_openAt hdirectory husable
  rw [hempty] at hkept₁
  obtain ⟨log, rows, files', hsteps, hkept, hlists⟩ := hkept₁.steps .empty steps htimes
  rw [List.append_nil] at hlists
  refine ⟨log, files', (run_bind_of_ok hopen).trans hsteps, fun filter => ?_⟩
  obtain ⟨htells, hids⟩ := hlists.query filter
  have hpasses : ∀ note ∈ filter.passing (notedBy steps), filter.Passes note := fun note hnote => by
    simpa using (List.mem_filter.mp (List.mem_of_mem_take hnote)).2
  refine ⟨rows.query filter, hkept.query filter, htells, Audit.Filter.passing_eq_wanted_iff,
    fun note hnote since hsince => Audit.Filter.ms_eq_of_passes (hpasses note hnote) hsince,
    fun hwhole => ?_, hids, fun limit hlimit => ?_, fun hcount => ?_⟩
  · exact Audit.Filter.passing_eq_wanted_iff.mpr fun note hnote =>
      ((Audit.Filter.passes_iff_wants hwhole).mp (hpasses note hnote)).1
  · exact ⟨_, hkept.query _, List.take_prefix_take_left hlimit⟩
  · rw [hkept.query, hlists.query_parameters (by simpa using hcount)]

/-- A vault is made; later, by a clock that was set back, it cannot be opened; and another one is
deleted after the log was opened again. -/
def sampleSteps : List AuditStep :=
  [.record ⟨⟨.create, "default", none, some "ab12", some "method=prf"⟩, ⟨1700000000000200000⟩⟩,
    .record ⟨.plain .unlock "default" (some .integrity), .ofMs 1600000000000⟩, .reopen,
    .record ⟨.plain .delete "work" none, .ofMs 1700000060000⟩]

/-- Of three notes the two since a time are given, the latest first, for a limit that is no number
of a database. -/
theorem query_exact_since : ∃ log files',
    history "/v" sampleSteps ⟨[(["v"], .directory)], []⟩ = (.ok log, files') ∧
      ∃ rows, log.query ⟨18446744073709551615, some (.ofMs 1650000000000), none, false⟩ files' =
          (.ok rows, files') ∧
        rows.map (·.vaultId) = ["work", "default"] ∧
        rows.map (·.time) = [.ofMs 1700000060000, .ofMs 1700000000000] := by
  have husable : IsUsable ⟨[(["v"], .directory)], []⟩ "/v" ["v", fileName] := by decide +kernel
  obtain ⟨log, files', hrun, hquery⟩ := query_exact (by decide +kernel) husable (by decide +kernel)
    sampleSteps (by decide +kernel)
  obtain ⟨rows, hrows, htells, -⟩ :=
    hquery ⟨18446744073709551615, some (.ofMs 1650000000000), none, false⟩
  refine ⟨log, files', hrun, rows, hrows, ?_⟩
  have hpassing : Audit.Filter.passing ⟨18446744073709551615, some (.ofMs 1650000000000), none, false⟩
      (notedBy sampleSteps) =
      [⟨.plain .delete "work" none, .ofMs 1700000060000⟩,
        ⟨⟨.create, "default", none, some "ab12", some "method=prf"⟩, ⟨1700000000000200000⟩⟩] := by
    decide +kernel
  rw [hpassing] at htells
  obtain - | ⟨hfirst, - | ⟨hsecond, - | -⟩⟩ := htells
  have hms : Instant.ms ⟨1700000000000200000⟩ = 1700000000000 := by decide
  simp [hfirst.vaultId, hsecond.vaultId, hfirst.time, hsecond.time, hms, Audit.Attempt.plain]

/-- A log in which one attempt is noted is asked for the attempts since half a millisecond later. -/
def askedLater : AuditM (List Audit.Row) := do
  let log ← history "/v" (sampleSteps.take 1)
  log.query ⟨50, some ⟨1700000000000700000⟩, none, false⟩

/-- The row is given, although the note is not wanted. -/
theorem query_answers_earlier :
    (askedLater ⟨[(["v"], .directory)], []⟩).1 = .ok [⟨1, 1700000000000, "default", "init", none,
      some "ab12", some "method=prf"⟩] ∧
    Audit.Filter.wanted ⟨50, some ⟨1700000000000700000⟩, none, false⟩
      (notedBy (sampleSteps.take 1)) = [] := by
  constructor <;> decide +kernel

end AuditLog

end CredentialVault
