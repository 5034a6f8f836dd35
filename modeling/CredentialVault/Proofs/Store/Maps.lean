import Mathlib.Logic.Function.Basic
import CredentialVault.Proofs.Store.Reopen
import CredentialVault.Proofs.Store.Sound
import CredentialVault.Proofs.Vault.Record

/-!
# Stores are maps

A store answers as two maps would, one of records and one of flags, which know nothing of stored
texts and of files (`StoreMaps`). A store that keeps two maps (`Store.Keeps`) answers every
operation as they do and keeps what they become. It follows that a fresh store in memory, one in a
private database and one in a file, which may be closed and opened again at any point, all give the
same answers (`stores_are_maps`).
-/

namespace CredentialVault

open Operation

/-! ## Operations of a store -/

/-- An operation of a store. -/
inductive StoreOperation where
  /-- Reads a record. -/
  | get (id : String)
  /-- Looks whether there is a record. -/
  | contains (id : String)
  /-- Writes a record. -/
  | put (record : VaultRecord)
  /-- Deletes a record. -/
  | delete (id : String)
  /-- Reads a flag. -/
  | getFlag (key : String)
  /-- Writes a flag. -/
  | setFlag (key value : String)
  /-- Removes a flag. -/
  | removeFlag (key : String)

/-- What an operation of a store gives. -/
inductive StoreAnswer where
  /-- A record, if there is one. -/
  | record (found : Option VaultRecord)
  /-- Whether there is a record. -/
  | present (found : Bool)
  /-- The value of a flag, if it is there. -/
  | flag (value : Option String)
  /-- The write was done. -/
  | done
deriving DecidableEq, Repr

/-- The operation of a store. -/
def StoreOperation.run : StoreOperation → StoreM StoreAnswer
  | get id => do return .record (← StoreM.getRecord id)
  | contains id => do return .present (← StoreM.contains id)
  | put record => do
    StoreM.putRecord record
    return .done
  | delete id => do
    StoreM.deleteRecord id
    return .done
  | getFlag key => do return .flag (← StoreM.getFlag key)
  | setFlag key value => do
    StoreM.setFlag key value
    return .done
  | removeFlag key => do
    StoreM.removeFlag key
    return .done

/-- What a store answers to operations, one after another. -/
def Store.answers : List StoreOperation → Store → List (Except VaultError StoreAnswer)
  | [], _ => []
  | operation :: operations, store =>
    (operation.run store).1 :: answers operations (operation.run store).2

/-- What is done with a store in a file. -/
inductive StoreStep where
  /-- An operation. -/
  | act (operation : StoreOperation)
  /-- The store is closed and opened again. -/
  | reopen

/-- The operation of a step, if it is one. -/
def StoreStep.operation? : StoreStep → Option StoreOperation
  | act operation => some operation
  | reopen => none

/-- What a store in the file of a directory answers to the operations among some steps; nothing if
it cannot be opened again. The file has the content of the store after every operation. -/
def Store.answersReopening (directory : String) :
    List StoreStep → Store → Files → Option (List (Except VaultError StoreAnswer))
  | [], _, _ => some []
  | .act operation :: steps, store, files =>
    (answersReopening directory steps (operation.run store).2
      ((operation.run store).2.save files)).map ((operation.run store).1 :: ·)
  | .reopen :: steps, _, files =>
    match openAt directory files with
    | (.ok reopened, files) => answersReopening directory steps reopened files
    | (.error _, _) => none

/-! ## Maps -/

/-- A map of records and a map of flags. -/
structure StoreMaps where
  /-- The record of each id. -/
  records : String → Option VaultRecord
  /-- The value of each flag. -/
  flags : String → Option String

namespace StoreMaps

/-- Maps without entries. -/
def empty : StoreMaps := ⟨fun _ => none, fun _ => none⟩

/-- What the maps answer to an operation, and what they become. Only a record that is not valid is
refused. -/
def apply (maps : StoreMaps) : StoreOperation → Except VaultError StoreAnswer × StoreMaps
  | .get id => (.ok (.record (maps.records id)), maps)
  | .contains id => (.ok (.present (maps.records id).isSome), maps)
  | .put record =>
    match record.validate with
    | .ok () =>
      (.ok .done, { maps with records := Function.update maps.records record.id (some record) })
    | .error e => (.error e, maps)
  | .delete id => (.ok .done, { maps with records := Function.update maps.records id none })
  | .getFlag key => (.ok (.flag (maps.flags key)), maps)
  | .setFlag key value =>
    (.ok .done, { maps with flags := Function.update maps.flags key (some value) })
  | .removeFlag key => (.ok .done, { maps with flags := Function.update maps.flags key none })

/-- What the maps answer to operations, one after another. -/
def answers : List StoreOperation → StoreMaps → List (Except VaultError StoreAnswer)
  | [], _ => []
  | operation :: operations, maps =>
    (maps.apply operation).1 :: answers operations (maps.apply operation).2

/-- What the maps become after operations. -/
def after (maps : StoreMaps) (operations : List StoreOperation) : StoreMaps :=
  operations.foldl (fun maps operation => (maps.apply operation).2) maps

/-- Every record of the maps is valid, and stands under its id. -/
def Valid (maps : StoreMaps) : Prop :=
  ∀ id record, maps.records id = some record → record.id = id ∧ record.validate = .ok ()

namespace Valid

variable {maps : StoreMaps}

/-- The maps without entries have valid records alone. -/
theorem empty : Valid .empty := nofun

/-- Operations keep the records valid. -/
theorem apply (h : maps.Valid) (operation : StoreOperation) : (maps.apply operation).2.Valid := by
  cases operation with
  | get | contains | getFlag | setFlag | removeFlag => exact h
  | put record =>
    rw [StoreMaps.apply]
    split
    · next hvalid =>
      intro id found hfound
      dsimp only at hfound
      rw [Function.update_apply] at hfound
      split at hfound
      · next hid =>
        obtain rfl := Option.some.inj hfound
        exact ⟨hid.symm, hvalid⟩
      · exact h id found hfound
    · exact h
  | delete id =>
    intro other found hfound
    rw [StoreMaps.apply] at hfound
    dsimp only at hfound
    rw [Function.update_apply] at hfound
    split at hfound
    · cases hfound
    · exact h other found hfound

/-- Any number of operations keep the records valid. -/
theorem after (h : maps.Valid) (operations : List StoreOperation) :
    (maps.after operations).Valid := by
  induction operations generalizing maps with
  | nil => exact h
  | cons operation operations ih => exact ih (h.apply operation)

end Valid

end StoreMaps

/-! ## Stores that keep maps -/

/-- A store that accepts writes keeps two maps: its rows are the stored texts of the records, and
its flags are the flags. -/
structure Store.Keeps (store : Store) (maps : StoreMaps) : Prop where
  /-- The store accepts writes. -/
  accepting : store.Accepting
  /-- The rows are the stored texts of the records. -/
  rows : ∀ id, store.recordText? id = (maps.records id).map VaultRecord.toStored
  /-- The flags are the flags. -/
  values : ∀ key, store.flag? key = maps.flags key
  /-- The records are valid. -/
  valid : maps.Valid

namespace Store.Keeps

variable {store store' : Store} {maps : StoreMaps}

/-- A store with the content of a new database keeps the maps without entries. -/
theorem empty (haccepting : store.Accepting)
    (hcontent : store.content = Database.empty.withVaultTables) : store.Keeps .empty := by
  refine ⟨haccepting, fun id => ?_, fun key => ?_, .empty⟩
  · rw [recordText?, hcontent]
    rfl
  · rw [flag?, hcontent]
    rfl

/-- A store with the same content keeps the same maps. -/
theorem of_content (h : store.Keeps maps) (haccepting : store'.Accepting)
    (hcontent : store'.content = store.content) : store'.Keeps maps :=
  ⟨haccepting, fun id => (StoreM.recordText?_congr id hcontent).trans (h.rows id),
    fun key => (StoreM.flag?_congr key hcontent).trans (h.values key), h.valid⟩

/-- A record is read as it is in the map. -/
theorem getRecord (h : store.Keeps maps) (id : String) :
    StoreM.getRecord id store = (.ok (maps.records id), store) := by
  rw [h.accepting.getRecord, h.rows]
  rcases hrecord : maps.records id with _ | record
  · rfl
  · rw [Option.map_some]
    dsimp only
    rw [VaultRecord.ofStored_toStored (h.valid id record hrecord).2]
    rfl

/-- A store answers an operation as the maps that it keeps, and keeps what they become. -/
theorem run (h : store.Keeps maps) (operation : StoreOperation) :
    ∃ store', operation.run store = ((maps.apply operation).1, store') ∧
      store'.Keeps (maps.apply operation).2 := by
  have hvalid := h.valid.apply operation
  cases operation with
  | get id => exact ⟨store, run_bind_of_ok (h.getRecord id), h⟩
  | contains id =>
    refine ⟨store, ?_, h⟩
    rw [StoreOperation.run, run_bind_of_ok (h.accepting.contains id), h.rows, Option.isSome_map]
    rfl
  | put record =>
    rw [StoreMaps.apply] at hvalid ⊢
    rcases hrecord : record.validate with e | _ <;> rw [hrecord] at hvalid
    · refine ⟨_, run_bind_of_error (h.accepting.putRecord_of_invalid hrecord), ?_⟩
      exact h.of_content (h.accepting.note _) rfl
    · obtain ⟨written, hput, haccepting⟩ := h.accepting.putRecord hrecord
      obtain ⟨-, hrows, hvalues⟩ := StoreM.putRecord_ok hput
      refine ⟨written, run_bind_of_ok hput, haccepting, fun id => ?_, fun key => ?_, hvalid⟩
      · dsimp only
        rw [hrows, h.rows, Function.update_apply]
        split <;> rfl
      · rw [hvalues, h.values]
  | delete id =>
    obtain ⟨written, hdelete, haccepting⟩ := h.accepting.deleteRecord id
    obtain ⟨hrows, hvalues⟩ := StoreM.deleteRecord_ok hdelete
    refine ⟨written, run_bind_of_ok hdelete, haccepting, fun other => ?_, fun key => ?_, hvalid⟩
    · rw [StoreMaps.apply]
      dsimp only
      rw [hrows, h.rows, Function.update_apply]
      split <;> rfl
    · rw [hvalues, h.values]
      rfl
  | getFlag key =>
    refine ⟨store, ?_, h⟩
    rw [StoreOperation.run, run_bind_of_ok (h.accepting.getFlag key), h.values]
    rfl
  | setFlag key value =>
    obtain ⟨written, hset, haccepting⟩ := h.accepting.setFlag key value
    obtain ⟨hrows, hvalues⟩ := StoreM.setFlag_ok hset
    refine ⟨written, run_bind_of_ok hset, haccepting, fun id => ?_, fun other => ?_, hvalid⟩
    · rw [hrows, h.rows]
      rfl
    · rw [StoreMaps.apply]
      dsimp only
      rw [hvalues, h.values, Function.update_apply]
  | removeFlag key =>
    obtain ⟨written, hremove, haccepting⟩ := h.accepting.removeFlag key
    obtain ⟨hrows, hvalues⟩ := StoreM.removeFlag_ok hremove
    refine ⟨written, run_bind_of_ok hremove, haccepting, fun id => ?_, fun other => ?_, hvalid⟩
    · rw [hrows, h.rows]
      rfl
    · rw [StoreMaps.apply]
      dsimp only
      rw [hvalues, h.values, Function.update_apply]

/-- A store answers operations one after another as the maps that it keeps. -/
theorem answers_eq (h : store.Keeps maps) (operations : List StoreOperation) :
    Store.answers operations store = maps.answers operations := by
  induction operations generalizing store maps with
  | nil => rfl
  | cons operation operations ih =>
    obtain ⟨store', hrun, hkeeps⟩ := h.run operation
    rw [Store.answers, StoreMaps.answers, hrun, ih hkeeps]

end Store.Keeps

/-- No operation changes where a store lives and what its triggers are. -/
theorem StoreOperation.preserves_setting_run (operation : StoreOperation) :
    Preserves Store.setting operation.run := by
  cases operation with
  | get id => exact (StoreM.preserves_getRecord (fun _ _ => rfl) id).bind fun _ => .pure _
  | contains id => exact (StoreM.preserves_contains (fun _ _ => rfl) id).bind fun _ => .pure _
  | put record => exact (StoreM.preserves_setting_putRecord record).bind fun _ => .pure _
  | delete id => exact (StoreM.preserves_setting_deleteRecord id).bind fun _ => .pure _
  | getFlag key => exact (StoreM.preserves_getFlag (fun _ _ => rfl) key).bind fun _ => .pure _
  | setFlag key value => exact (StoreM.preserves_setting_setFlag key value).bind fun _ => .pure _
  | removeFlag key => exact (StoreM.preserves_setting_removeFlag key).bind fun _ => .pure _

/-- A store that keeps two maps and was saved answers operations as the maps, however often it is
closed and opened again between them. -/
theorem Store.Keeps.answersReopening_eq {directory : String} {store : Store} {maps : StoreMaps}
    {files : Files} (h : store.Keeps maps) (hsaved : store.SavedIn directory files)
    (steps : List StoreStep) : store.answersReopening directory steps files =
      some (maps.answers (steps.filterMap StoreStep.operation?)) := by
  induction steps generalizing store maps files with
  | nil => rfl
  | cons step steps ih =>
    cases step with
    | act operation =>
      obtain ⟨store', hrun, hkeeps⟩ := h.run operation
      have hsetting := operation.preserves_setting_run.of_run hrun
      rw [Store.answersReopening, hrun, ih hkeeps (hsaved.save (congrArg Prod.fst hsetting))]
      rfl
    | reopen =>
      obtain ⟨files', hopen⟩ := hsaved.openAt
      have hcontent : (Store.fresh (.database (some (Files.join directory Store.fileName)))
          store.content).content = store.content :=
        Store.withVaultTables_of_isSome h.accepting.records h.accepting.flags
      have haccepting : (Store.fresh (.database (some (Files.join directory Store.fileName)))
          store.content).Accepting :=
        ⟨Store.sound_fresh _ _, nofun, by rw [hcontent]; exact h.accepting.triggers⟩
      rw [Store.answersReopening, hopen]
      exact ih (h.of_content haccepting hcontent) (.of_openAt hopen)

/-- A fresh store in memory, one in a private database, and one in a file that is opened where there
was no database, which may be closed and opened again at any point, answer operations as two maps do
that have no entries at first. So the three give the same answers; a record is always found under
its own id; and what is refused is only a record that is not valid, which changes nothing, with the
error that says that its form is not known. That one operation serves all three is no restriction: a
fresh store accepts writes and has its tables and no triggers (`Store.Accepting`), so it passes
every step that only a store of another kind can fail. -/
theorem stores_are_maps :
    (∀ operations, Store.answers operations .memory = StoreMaps.empty.answers operations) ∧
    (∀ operations, Store.answers operations .privateDatabase = StoreMaps.empty.answers operations) ∧
    (∀ directory files files' store, Store.openAt directory files = (.ok store, files') →
      store.content = Database.empty.withVaultTables → ∀ steps,
        store.answersReopening directory steps files' =
          some (StoreMaps.empty.answers (steps.filterMap StoreStep.operation?))) ∧
    (∀ operations, (StoreMaps.empty.after operations).Valid) ∧
    (∀ (record : VaultRecord) e, record.validate = .error e →
      ∃ reason, e = .unsupportedSchema reason) := by
  refine ⟨Store.Keeps.answers_eq (.empty ⟨Store.sound_fresh _ _, nofun, rfl⟩ rfl),
    Store.Keeps.answers_eq (.empty ⟨Store.sound_fresh _ _, nofun, rfl⟩ rfl),
    fun directory files files' store hopen hcontent => ?_, StoreMaps.Valid.empty.after,
    fun record e => VaultRecord.validate_error⟩
  obtain ⟨made, -, hin⟩ := Store.isDirectory_of_openAt hopen
  obtain ⟨content, -, rfl, -⟩ := Store.openIn_ok hin
  have haccepting : (Store.fresh (.database (some (Files.join directory Store.fileName)))
      content).Accepting := ⟨Store.sound_fresh _ _, nofun, by rw [hcontent]; rfl⟩
  exact (Store.Keeps.empty haccepting hcontent).answersReopening_eq (.of_openAt hopen)

/-- In a new file a record that is valid and a flag are written, and one that is not is refused.
After the store was closed and opened again, they are read. -/
theorem stores_are_maps_reopened : ∃ store files, Store.openAt "/vault" .empty = (.ok store, files) ∧
    store.answersReopening "/vault" [.act (.put .extreme), .act (.setFlag Flags.activeId "default"),
        .act (.put { VaultRecord.extreme with salt := [] }), .reopen, .act (.get VaultRecord.extreme.id),
        .act (.getFlag Flags.activeId), .act (.contains "other")] files =
      some [.ok .done, .ok .done, .error (.unsupportedSchema "salt must be 32 bytes, got 0"),
        .ok (.record (some .extreme)), .ok (.flag (some "default")), .ok (.present false)] := by
  have hopen : Store.openAt "/vault" .empty =
      (.ok (.fresh (.database (some "/vault/vault.db")) .empty),
        (Store.openAt "/vault" .empty).2) :=
    Prod.ext (by rfl) rfl
  refine ⟨_, _, hopen, ?_⟩
  exact stores_are_maps.2.2.1 _ _ _ _ hopen rfl _

end CredentialVault
