import CredentialVault.Proofs.Store.Call

/-!
# Sound stores

A store is sound when it has its tables and no faults, as every store that was just opened: its
calls that read answer, and leave it as it was. If it does not refuse writes and no trigger forbids
a change (`Accepting`), its calls that write succeed, and it stays so; this is so of a store in a
file without triggers (`Writable`). No call changes where a store lives and what its triggers are
(`Store.setting`).
-/

namespace CredentialVault

open Operation

/-! ## What no call changes -/

/-- The path of a store and its triggers. -/
def Store.setting (store : Store) : Option String × List Trigger :=
  (store.path?, store.content.triggers)

namespace StoreM

/-- To begin a call that writes leaves the setting. -/
theorem preserves_setting_beginWrite (call : StoreCall) (key : String) (write : StoreWrite) :
    Preserves Store.setting (beginWrite call key write) :=
  Within.bind (.modify fun _ => rfl) fun _ => preserves_begin (fun _ _ => rfl) call key

/-- To write a record leaves the setting. -/
theorem preserves_setting_putRecord (record : VaultRecord) :
    Preserves Store.setting (putRecord record) := by
  refine (preserves_setting_beginWrite _ _ _).bind fun _ => ?_
  refine (preserves_requireWritable _).bind fun _ => ?_
  dsimp only
  split
  · refine (preserves_recordTable _ _).bind fun _ => ?_
    exact (preserves_requireAllowed _ _ _ _).bind fun _ => .modify fun _ => rfl
  · exact .throw_bind _ _

/-- To delete a record leaves the setting. -/
theorem preserves_setting_deleteRecord (id : String) :
    Preserves Store.setting (deleteRecord id) := by
  refine (preserves_setting_beginWrite _ _ _).bind fun _ => ?_
  refine (preserves_requireWritable _).bind fun _ => (preserves_recordTable _ _).bind fun _ => ?_
  dsimp only
  split
  · exact (preserves_requireAllowed _ _ _ _).bind fun _ => .modify fun _ => rfl
  · exact .modify fun _ => rfl

/-- To write a flag leaves the setting. -/
theorem preserves_setting_setFlag (key value : String) :
    Preserves Store.setting (setFlag key value) := by
  refine (preserves_setting_beginWrite _ _ _).bind fun _ => ?_
  refine (preserves_requireWritable _).bind fun _ => (preserves_flagTable _ _).bind fun _ => ?_
  exact (preserves_requireAllowed _ _ _ _).bind fun _ => .modify fun _ => rfl

/-- To remove a flag leaves the setting. -/
theorem preserves_setting_removeFlag (key : String) :
    Preserves Store.setting (removeFlag key) := by
  refine (preserves_setting_beginWrite _ _ _).bind fun _ => ?_
  refine (preserves_requireWritable _).bind fun _ => (preserves_flagTable _ _).bind fun _ => ?_
  dsimp only
  split
  · exact (preserves_requireAllowed _ _ _ _).bind fun _ => .modify fun _ => rfl
  · exact .modify fun _ => rfl

end StoreM

/-! ## Reading -/

/-- A store has its tables and no faults. -/
structure Store.Sound (store : Store) : Prop where
  /-- There are no faults. -/
  faults : store.faults = []
  /-- There is a table of the records. -/
  records : store.content.records.isSome
  /-- There is a table of the flags. -/
  flags : store.content.flags.isSome

/-- A store that was just opened is sound. -/
theorem Store.sound_fresh (backend : Backend) (content : Database) : (fresh backend content).Sound :=
  ⟨rfl, rfl, rfl⟩

namespace Store.Sound

variable {store : Store}

/-- No fault fails a call, and none is used up. -/
theorem check (h : store.Sound) (call : StoreCall) (key : String) :
    (Fault.check call key store.faults).1 = none ∧
      { store with faults := (Fault.check call key store.faults).2 } = store := by
  obtain ⟨backend, content, faults, journal⟩ := store
  obtain rfl : faults = [] := h.faults
  exact ⟨rfl, rfl⟩

/-- A call begins. -/
theorem begin (h : store.Sound) (call : StoreCall) (key : String) :
    StoreM.begin call key store = (.ok (), store) := by
  obtain ⟨hcheck, hsame⟩ := h.check call key
  simp only [StoreM.begin, run_bind, run_get, run_set, hcheck, run_pure, hsame]

/-- Whether there is a record is told. -/
theorem contains (h : store.Sound) (id : String) :
    StoreM.contains id store = (.ok (store.recordText? id).isSome, store) := by
  obtain ⟨table, hrecords⟩ := Option.isSome_iff_exists.mp h.records
  obtain ⟨hcheck, hsame⟩ := h.check .contains id
  unfold StoreM.contains
  rw [StoreM.run_read hcheck hrecords, hsame, Store.recordText?, hrecords]
  rfl

/-- A record is read as its text says. -/
theorem getRecord (h : store.Sound) (id : String) :
    StoreM.getRecord id store = ((match store.recordText? id with
      | none => .ok none
      | some text => (VaultRecord.ofStored text).map some), store) := by
  obtain ⟨hcheck, hsame⟩ := h.check .get id
  have hread := StoreM.getRecord_of_readable ⟨hcheck, h.records⟩
  rwa [hsame] at hread

/-- A flag is read. -/
theorem getFlag (h : store.Sound) (key : String) :
    StoreM.getFlag key store = (.ok (store.flag? key), store) := by
  obtain ⟨table, hflags⟩ := Option.isSome_iff_exists.mp h.flags
  have htable : StoreM.flagTable "read flag" store = (.ok table, store) := by
    simp only [StoreM.flagTable, run_bind, run_get, hflags, run_pure]
  unfold StoreM.getFlag
  rw [run_bind_of_ok (h.begin .getFlag key), run_bind_of_ok htable, Store.flag?, hflags]
  rfl

/-- What the flags tell is read. -/
theorem readStatus (h : store.Sound) :
    StoreM.readStatus store = (.ok {
      isEnabled := store.flag? Flags.enabled = some "true"
      activeId := store.flag? Flags.activeId
      credentialId := store.flag? Flags.credentialId
      publicKeyHex := store.flag? Flags.publicKeyHex
      hasLegacyKey := (store.flag? Flags.legacyPrivateKey).isSome }, store) := by
  unfold StoreM.readStatus
  rw [run_bind_of_ok (h.getFlag _), run_bind_of_ok (h.getFlag _), run_bind_of_ok (h.getFlag _),
    run_bind_of_ok (h.getFlag _), run_bind_of_ok (h.getFlag _)]
  rfl

end Store.Sound

/-! ## Writing -/

/-- A store is sound, does not refuse writes, and has no triggers. -/
structure Store.Accepting (store : Store) : Prop extends store.Sound where
  /-- Writes are not refused. -/
  backend : store.backend ≠ .memory true
  /-- There are no triggers. -/
  triggers : store.content.triggers = []

/-- A store is sound, lives in a file, and has no triggers. -/
structure Store.Writable (store : Store) : Prop extends store.Sound where
  /-- There is a file. -/
  file : store.path?.isSome
  /-- There are no triggers. -/
  triggers : store.content.triggers = []

namespace Store.Accepting

variable {store : Store}

/-- A store accepts writes whatever was attempted. -/
theorem note (h : store.Accepting) (write : StoreWrite) : (store.note write).Accepting :=
  ⟨⟨h.faults, h.records, h.flags⟩, h.backend, h.triggers⟩

/-- Writes are accepted. -/
theorem requireWritable (h : store.Accepting) : StoreM.requireWritable store = (.ok (), store) := by
  unfold StoreM.requireWritable
  rw [run_bind, run_get]
  dsimp only
  rw [if_neg h.backend]
  rfl

/-- No change is forbidden. -/
theorem requireAllowed (h : store.Accepting) (context : String) (change : Change) (table : TableName) :
    StoreM.requireAllowed context change table store = (.ok (), store) := by
  unfold StoreM.requireAllowed Database.forbids?
  rw [run_bind, run_get]
  dsimp only
  rw [h.triggers]
  rfl

/-- A write passes its guards. -/
theorem write (h : store.Accepting) (call : StoreCall) (key : String) (write : StoreWrite)
    (act : StoreM Unit) :
    (do StoreM.beginWrite call key write; StoreM.requireWritable; act) store =
      act (store.note write) := by
  have hbegin : StoreM.beginWrite call key write store = (.ok (), store.note write) := by
    unfold StoreM.beginWrite
    rw [run_bind, run_modify]
    exact (h.note write).begin call key
  rw [run_bind_of_ok hbegin, run_bind_of_ok (h.note write).requireWritable]

/-- The table of the records is there. -/
theorem recordTable (h : store.Accepting) (context : String) :
    ∃ table, StoreM.recordTable context store = (.ok table, store) := by
  obtain ⟨table, hrecords⟩ := Option.isSome_iff_exists.mp h.records
  refine ⟨table, ?_⟩
  simp only [StoreM.recordTable, run_bind, run_get, hrecords, run_pure]

/-- The table of the flags is there. -/
theorem flagTable (h : store.Accepting) (context : String) :
    ∃ table, StoreM.flagTable context store = (.ok table, store) := by
  obtain ⟨table, hflags⟩ := Option.isSome_iff_exists.mp h.flags
  refine ⟨table, ?_⟩
  simp only [StoreM.flagTable, run_bind, run_get, hflags, run_pure]

/-- The table of the records is replaced. -/
theorem setRecordTable (h : store.Accepting) (table : Table String) :
    ∃ store', StoreM.setRecordTable table store = (.ok (), store') ∧ store'.Accepting :=
  ⟨_, rfl, ⟨h.faults, rfl, h.flags⟩, h.backend, h.triggers⟩

/-- The table of the flags is replaced. -/
theorem setFlagTable (h : store.Accepting) (table : Table String) :
    ∃ store', StoreM.setFlagTable table store = (.ok (), store') ∧ store'.Accepting :=
  ⟨_, rfl, ⟨h.faults, h.records, rfl⟩, h.backend, h.triggers⟩

/-- A valid record is written. -/
theorem putRecord (h : store.Accepting) {record : VaultRecord} (hvalid : record.validate = .ok ()) :
    ∃ store', StoreM.putRecord record store = (.ok (), store') ∧ store'.Accepting := by
  have hnoted := h.note (.put record.id)
  obtain ⟨table, htable⟩ := hnoted.recordTable "write vault record"
  unfold StoreM.putRecord
  rw [h.write, hvalid]
  dsimp only
  rw [run_bind_of_ok htable,
    run_bind_of_ok (hnoted.requireAllowed _ _ _)]
  exact hnoted.setRecordTable _

/-- A record that is not valid is refused as it is, before anything is written. -/
theorem putRecord_of_invalid (h : store.Accepting) {record : VaultRecord} {e : VaultError}
    (hinvalid : record.validate = .error e) :
    StoreM.putRecord record store = (.error e, store.note (.put record.id)) := by
  unfold StoreM.putRecord
  rw [h.write, hinvalid]
  rfl

/-- A record is deleted, if it is there. -/
theorem deleteRecord (h : store.Accepting) (id : String) :
    ∃ store', StoreM.deleteRecord id store = (.ok (), store') ∧ store'.Accepting := by
  have hnoted := h.note (.delete id)
  obtain ⟨table, htable⟩ := hnoted.recordTable "delete vault record"
  unfold StoreM.deleteRecord
  rw [h.write, run_bind_of_ok htable]
  dsimp only
  split
  · rw [run_bind_of_ok (hnoted.requireAllowed _ _ _)]
    exact hnoted.setRecordTable _
  · exact hnoted.setRecordTable _

/-- A flag is written. -/
theorem setFlag (h : store.Accepting) (key value : String) :
    ∃ store', StoreM.setFlag key value store = (.ok (), store') ∧ store'.Accepting := by
  have hnoted := h.note (.setFlag key value)
  obtain ⟨table, htable⟩ := hnoted.flagTable "write flag"
  unfold StoreM.setFlag
  rw [h.write, run_bind_of_ok htable, run_bind_of_ok (hnoted.requireAllowed _ _ _)]
  exact hnoted.setFlagTable _

/-- A flag is removed, if it is there. -/
theorem removeFlag (h : store.Accepting) (key : String) :
    ∃ store', StoreM.removeFlag key store = (.ok (), store') ∧ store'.Accepting := by
  have hnoted := h.note (.removeFlag key)
  obtain ⟨table, htable⟩ := hnoted.flagTable "remove flag"
  unfold StoreM.removeFlag
  rw [h.write, run_bind_of_ok htable]
  dsimp only
  split
  · rw [run_bind_of_ok (hnoted.requireAllowed _ _ _)]
    exact hnoted.setFlagTable _
  · exact hnoted.setFlagTable _

end Store.Accepting

namespace Store.Writable

variable {store store' : Store}

/-- A store in a file accepts writes. -/
theorem accepting (h : store.Writable) : store.Accepting := by
  refine ⟨h.toSound, fun hmemory => ?_, h.triggers⟩
  have hfile := h.file
  rw [Store.path?, hmemory] at hfile
  cases hfile

/-- A store that accepts writes and has the setting of a store in a file lives in that file. -/
theorem of_accepting (h : store.Writable) (hsetting : store'.setting = store.setting)
    (haccepting : store'.Accepting) : store'.Writable :=
  ⟨haccepting.toSound, (congrArg (·.1.isSome) hsetting).trans h.file, haccepting.triggers⟩

end Store.Writable

end CredentialVault
