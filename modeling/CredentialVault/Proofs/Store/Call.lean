import CredentialVault.Proofs.Operation
import CredentialVault.Store.Status

/-!
# The calls of a store

A call that reads leaves the content of the store as it is, and so does a call that fails, whatever
made it fail. A call that writes and succeeds changes one row. Stated for the two views of a store:
the stored texts of records (`recordText?`) and the values of flags (`flag?`).
-/

namespace CredentialVault

open Operation

/-- The record of an id can be read: the table is there, and no fault fails the call. -/
structure Store.Readable (store : Store) (id : String) : Prop where
  /-- No fault fails the call. -/
  unfailing : (Fault.check .get id store.faults).1 = none
  /-- The table is there. -/
  table : store.content.records.isSome

/-- Where a row is found, the table is there. -/
theorem Store.Readable.of_row {store : Store} {id text : String}
    (hfault : (Fault.check .get id store.faults).1 = none)
    (hrow : store.recordText? id = some text) : store.Readable id := by
  obtain ⟨table, hrecords, -⟩ := Option.bind_eq_some_iff.mp hrow
  exact ⟨hfault, Option.isSome_iff_exists.mpr ⟨table, hrecords⟩⟩

/-- To set a stored text leaves the others. -/
theorem Store.recordText?_setRecordText {store : Store} (htable : store.content.records.isSome)
    (id text other : String) :
    (store.setRecordText id text).recordText? other =
      if other = id then some text else store.recordText? other := by
  obtain ⟨table, hrecords⟩ := Option.isSome_iff_exists.mp htable
  simp only [setRecordText, recordText?, hrecords, Option.map_some, Option.bind_some,
    Table.get?_insert]

namespace StoreM

/-! ## Reading -/

/-- To begin a call changes the faults alone. -/
theorem preserves_begin {γ : Type} {view : Store → γ}
    (hview : ∀ s faults, view { s with faults } = view s) (call : StoreCall) (key : String) :
    Preserves view (begin call key) := by
  refine Within.bind_of_ok .get fun s a t h => ?_
  cases h
  rcases hcheck : Fault.check call key s.faults with ⟨_ | message, faults⟩ <;>
    simp [run_bind, Same, hview]

/-- To ask whether a store refuses writes has no effect. -/
theorem preserves_requireWritable {γ : Type} (view : Store → γ) :
    Preserves view requireWritable := by
  refine Within.get.bind fun s => ?_
  split
  · exact .throw _
  · exact .pure _

/-- To look at the table of the records has no effect. -/
theorem preserves_recordTable {γ : Type} (view : Store → γ) (context : String) :
    Preserves view (recordTable context) := by
  refine Within.get.bind fun s => ?_
  split
  · exact .pure _
  · exact .throw _

/-- To look at the table of the flags has no effect. -/
theorem preserves_flagTable {γ : Type} (view : Store → γ) (context : String) :
    Preserves view (flagTable context) := by
  refine Within.get.bind fun s => ?_
  split
  · exact .pure _
  · exact .throw _

/-- To ask whether a trigger forbids a change has no effect. -/
theorem preserves_requireAllowed {γ : Type} (view : Store → γ) (context : String) (change : Change)
    (table : TableName) : Preserves view (requireAllowed context change table) := by
  refine Within.get.bind fun s => ?_
  split
  · exact .throw _
  · exact .pure _

/-- The table of the records, if it was found. -/
theorem recordTable_ok {context : String} {s t : Store} {table : Table String}
    (h : recordTable context s = (.ok table, t)) : s.content.records = some table ∧ t = s := by
  rw [recordTable, run_bind, run_get] at h
  rcases hrecords : s.content.records with _ | found <;> simp only [hrecords] at h <;> cases h
  exact ⟨rfl, rfl⟩

/-- The table of the flags, if it was found. -/
theorem flagTable_ok {context : String} {s t : Store} {table : Table String}
    (h : flagTable context s = (.ok table, t)) : s.content.flags = some table ∧ t = s := by
  rw [flagTable, run_bind, run_get] at h
  rcases hflags : s.content.flags with _ | found <;> simp only [hflags] at h <;> cases h
  exact ⟨rfl, rfl⟩

/-- Reading a record changes the faults alone. -/
theorem preserves_getRecord {γ : Type} {view : Store → γ}
    (hview : ∀ s faults, view { s with faults } = view s) (id : String) :
    Preserves view (getRecord id) := by
  refine (preserves_begin hview _ _).bind fun _ => (preserves_recordTable _ _).bind fun table => ?_
  split
  · split
    · exact .pure _
    · exact .throw _
  · exact .pure _

/-- Looking for a record changes the faults alone. -/
theorem preserves_contains {γ : Type} {view : Store → γ}
    (hview : ∀ s faults, view { s with faults } = view s) (id : String) :
    Preserves view (contains id) :=
  (preserves_begin hview _ _).bind fun _ => (preserves_recordTable _ _).bind fun _ => .pure _

/-- Reading a flag changes the faults alone. -/
theorem preserves_getFlag {γ : Type} {view : Store → γ}
    (hview : ∀ s faults, view { s with faults } = view s) (key : String) :
    Preserves view (getFlag key) :=
  (preserves_begin hview _ _).bind fun _ => (preserves_flagTable _ _).bind fun _ => .pure _

/-- To begin a call that writes leaves the content. -/
theorem preserves_beginWrite (call : StoreCall) (key : String) (write : StoreWrite) :
    Preserves Store.content (beginWrite call key write) :=
  Within.bind (.modify fun _ => rfl) fun _ => preserves_begin (fun _ _ => rfl) call key

/-- A call that reads goes on with the table of the records, when that is there and no fault fails
the call. -/
theorem run_read {α : Type} {call : StoreCall} {key context : String} {s : Store}
    {table : Table String} (hfault : (Fault.check call key s.faults).1 = none)
    (hrecords : s.content.records = some table) (f : Table String → StoreM α) :
    (begin call key >>= fun _ => recordTable context >>= f) s =
      f table { s with faults := (Fault.check call key s.faults).2 } := by
  simp only [begin, recordTable, run_bind, run_get, run_set, hfault, hrecords, run_pure]

/-- When a record can be read, reading it yields what the stored text says. -/
theorem getRecord_of_readable {id : String} {s : Store} (h : s.Readable id) :
    getRecord id s = ((match s.recordText? id with
      | none => .ok none
      | some text => (VaultRecord.ofStored text).map some),
      { s with faults := (Fault.check .get id s.faults).2 }) := by
  obtain ⟨hfault, hrecords⟩ := h
  obtain ⟨table, hrecords⟩ := Option.isSome_iff_exists.mp hrecords
  have htext : s.recordText? id = table.get? id := by
    rw [Store.recordText?, hrecords, Option.bind_some]
  unfold getRecord
  rw [run_read hfault hrecords, htext]
  rcases table.get? id with _ | text
  · rfl
  · dsimp only
    rcases VaultRecord.ofStored text with e | record <;> rfl

/-- A row is found, when no fault fails the call. -/
theorem contains_of_row {id text : String} {s : Store}
    (hfault : (Fault.check .contains id s.faults).1 = none)
    (hrow : s.recordText? id = some text) : ∃ t, contains id s = (.ok true, t) := by
  obtain ⟨table, hrecords, hget⟩ := Option.bind_eq_some_iff.mp hrow
  have hcontains : table.contains id = true := congrArg Option.isSome hget
  refine ⟨{ s with faults := (Fault.check .contains id s.faults).2 }, ?_⟩
  unfold contains
  rw [run_read hfault hrecords, hcontains]
  rfl

/-- A record that can be read is read, when no fault fails the call. -/
theorem getRecord_of_row {id text : String} {record : VaultRecord} {s : Store}
    (hfault : (Fault.check .get id s.faults).1 = none) (hrow : s.recordText? id = some text)
    (hparse : VaultRecord.ofStored text = .ok record) :
    ∃ t, getRecord id s = (.ok (some record), t) := by
  rw [getRecord_of_readable (.of_row hfault hrow), hrow]
  simp only [hparse]
  exact ⟨_, rfl⟩

/-- A record that was read is the one of the stored text. -/
theorem getRecord_ok {id : String} {s t : Store} {found : Option VaultRecord}
    (h : getRecord id s = (.ok found, t)) :
    match s.recordText? id with
    | some text => ∃ record, VaultRecord.ofStored text = .ok record ∧ found = some record
    | none => found = none := by
  obtain ⟨_, u, hbegin, h₁⟩ := bind_ok h
  obtain ⟨table, v, htable, h₂⟩ := bind_ok h₁
  have hcontent : u.content = s.content :=
    (preserves_begin (fun _ _ => rfl) _ _).of_run hbegin
  obtain ⟨hrecords, rfl⟩ := recordTable_ok htable
  have htext : s.recordText? id = table.get? id := by
    rw [Store.recordText?, ← hcontent, hrecords, Option.bind_some]
  rw [htext]
  rcases hget : table.get? id with _ | text <;> simp only [hget] at h₂ ⊢
  · cases h₂
    rfl
  · rcases hparse : VaultRecord.ofStored text with e | record <;> rw [hparse] at h₂ <;> cases h₂
    exact ⟨record, rfl, rfl⟩

/-- Whether a record was found is whether there is a stored text. -/
theorem contains_ok {id : String} {s t : Store} {found : Bool}
    (h : contains id s = (.ok found, t)) : found = (s.recordText? id).isSome := by
  obtain ⟨_, u, hbegin, h₁⟩ := bind_ok h
  obtain ⟨table, v, htable, h₂⟩ := bind_ok h₁
  have hcontent : u.content = s.content :=
    (preserves_begin (fun _ _ => rfl) _ _).of_run hbegin
  obtain ⟨hrecords, rfl⟩ := recordTable_ok htable
  cases h₂
  rw [Store.recordText?, ← hcontent, hrecords]
  rfl

/-- The value of a flag that was read is the stored one. -/
theorem getFlag_ok {key : String} {s t : Store} {value : Option String}
    (h : getFlag key s = (.ok value, t)) : value = s.flag? key := by
  obtain ⟨_, u, hbegin, h₁⟩ := bind_ok h
  obtain ⟨table, v, htable, h₂⟩ := bind_ok h₁
  have hcontent : u.content = s.content :=
    (preserves_begin (fun _ _ => rfl) _ _).of_run hbegin
  obtain ⟨hflags, rfl⟩ := flagTable_ok htable
  cases h₂
  rw [Store.flag?, ← hcontent, hflags]
  rfl

/-! ## Writing -/

/-- To replace the table of the records does not fail. -/
theorem atomic_setRecordTable {γ : Type} (view : Store → γ) (table : Table String) :
    Atomic view (setRecordTable table) := .modify _

/-- To replace the table of the flags does not fail. -/
theorem atomic_setFlagTable {γ : Type} (view : Store → γ) (table : Table String) :
    Atomic view (setFlagTable table) := .modify _

/-- A failed write of a record leaves the content. -/
theorem atomic_putRecord (record : VaultRecord) : Atomic Store.content (putRecord record) := by
  refine .bind (preserves_beginWrite _ _ _) fun _ => .bind (preserves_requireWritable _) fun _ => ?_
  dsimp only
  split
  · exact .bind (preserves_recordTable _ _) fun _ =>
      .bind (preserves_requireAllowed _ _ _ _) fun _ => atomic_setRecordTable _ _
  · exact .of_preserves (.throw_bind _ _)

/-- A failed deletion of a record leaves the content. -/
theorem atomic_deleteRecord (id : String) : Atomic Store.content (deleteRecord id) := by
  refine .bind (preserves_beginWrite _ _ _) fun _ => .bind (preserves_requireWritable _) fun _ =>
    .bind (preserves_recordTable _ _) fun _ => ?_
  dsimp only
  split
  · exact .bind (preserves_requireAllowed _ _ _ _) fun _ => atomic_setRecordTable _ _
  · exact atomic_setRecordTable _ _

/-- A failed write of a flag leaves the content. -/
theorem atomic_setFlag (key value : String) : Atomic Store.content (setFlag key value) :=
  .bind (preserves_beginWrite _ _ _) fun _ => .bind (preserves_requireWritable _) fun _ =>
    .bind (preserves_flagTable _ _) fun _ => .bind (preserves_requireAllowed _ _ _ _) fun _ =>
      atomic_setFlagTable _ _

/-- A failed removal of a flag leaves the content. -/
theorem atomic_removeFlag (key : String) : Atomic Store.content (removeFlag key) := by
  refine .bind (preserves_beginWrite _ _ _) fun _ => .bind (preserves_requireWritable _) fun _ =>
    .bind (preserves_flagTable _ _) fun _ => ?_
  dsimp only
  split
  · exact .bind (preserves_requireAllowed _ _ _ _) fun _ => atomic_setFlagTable _ _
  · exact atomic_setFlagTable _ _

/-- A write that succeeds passes its guards and goes on from the same content. -/
theorem write_ok {call : StoreCall} {key : String} {write : StoreWrite} {act : StoreM Unit}
    {s t : Store} (h : (do beginWrite call key write; requireWritable; act) s = (.ok (), t)) :
    ∃ u, u.content = s.content ∧ act u = (.ok (), t) := by
  obtain ⟨_, u, hbegin, h₁⟩ := bind_ok h
  obtain ⟨_, v, hwritable, h₂⟩ := bind_ok h₁
  have hu : u.content = s.content := (preserves_beginWrite _ _ _).of_run hbegin
  exact ⟨v, ((preserves_requireWritable _).of_run hwritable).trans hu, h₂⟩

/-- A record that was written is valid, and its text is the row of its id. -/
theorem putRecord_ok {record : VaultRecord} {s t : Store} (h : putRecord record s = (.ok (), t)) :
    record.validate = .ok () ∧
      (∀ id, t.recordText? id = if id = record.id then some record.toStored else s.recordText? id) ∧
      ∀ key, t.flag? key = s.flag? key := by
  obtain ⟨u, hu, h₁⟩ := write_ok h
  rcases hvalid : record.validate with e | _ <;> rw [hvalid] at h₁
  · cases h₁
  · obtain ⟨table, w, htable, h₂⟩ := bind_ok h₁
    obtain ⟨_, x, hallowed, h₃⟩ := bind_ok h₂
    obtain ⟨hrecords, rfl⟩ := recordTable_ok htable
    have hx : x.content = w.content := (preserves_requireAllowed _ _ _ _).of_run hallowed
    cases h₃
    refine ⟨rfl, fun id => ?_, fun key => ?_⟩
    · simp [Store.recordText?, ← hu, hrecords]
    · rw [Store.flag?, Store.flag?, ← hu, ← hx]

/-- A record that was deleted has no row. -/
theorem deleteRecord_ok {id : String} {s t : Store} (h : deleteRecord id s = (.ok (), t)) :
    (∀ other, t.recordText? other = if other = id then none else s.recordText? other) ∧
      ∀ key, t.flag? key = s.flag? key := by
  obtain ⟨u, hu, h₁⟩ := write_ok h
  obtain ⟨table, w, htable, h₂⟩ := bind_ok h₁
  obtain ⟨hrecords, rfl⟩ := recordTable_ok htable
  -- A trigger is asked only if there is a row, but the table is the same either way.
  have hcontent : t.content = { w.content with records := some (table.erase id) } := by
    dsimp only at h₂
    split at h₂
    · obtain ⟨_, x, hallowed, h₃⟩ := bind_ok h₂
      have hx : x.content = w.content := (preserves_requireAllowed _ _ _ _).of_run hallowed
      cases h₃
      rw [← hx]
    · cases h₂
      rfl
  refine ⟨fun other => ?_, fun key => ?_⟩
  · simp [Store.recordText?, hcontent, ← hu, hrecords]
  · rw [Store.flag?, Store.flag?, hcontent, ← hu]

/-- A flag that was written has the value. -/
theorem setFlag_ok {key value : String} {s t : Store} (h : setFlag key value s = (.ok (), t)) :
    (∀ id, t.recordText? id = s.recordText? id) ∧
      ∀ other, t.flag? other = if other = key then some value else s.flag? other := by
  obtain ⟨u, hu, h₁⟩ := write_ok h
  obtain ⟨table, w, htable, h₂⟩ := bind_ok h₁
  obtain ⟨_, x, hallowed, h₃⟩ := bind_ok h₂
  obtain ⟨hflags, rfl⟩ := flagTable_ok htable
  have hx : x.content = w.content := (preserves_requireAllowed _ _ _ _).of_run hallowed
  cases h₃
  refine ⟨fun id => ?_, fun other => ?_⟩
  · rw [Store.recordText?, Store.recordText?, ← hu, ← hx]
  · simp [Store.flag?, ← hu, hflags]

/-- A flag that was removed has no value. -/
theorem removeFlag_ok {key : String} {s t : Store} (h : removeFlag key s = (.ok (), t)) :
    (∀ id, t.recordText? id = s.recordText? id) ∧
      ∀ other, t.flag? other = if other = key then none else s.flag? other := by
  obtain ⟨u, hu, h₁⟩ := write_ok h
  obtain ⟨table, w, htable, h₂⟩ := bind_ok h₁
  obtain ⟨hflags, rfl⟩ := flagTable_ok htable
  have hcontent : t.content = { w.content with flags := some (table.erase key) } := by
    dsimp only at h₂
    split at h₂
    · obtain ⟨_, x, hallowed, h₃⟩ := bind_ok h₂
      have hx : x.content = w.content := (preserves_requireAllowed _ _ _ _).of_run hallowed
      cases h₃
      rw [← hx]
    · cases h₂
      rfl
  refine ⟨fun id => ?_, fun other => ?_⟩
  · rw [Store.recordText?, Store.recordText?, hcontent, ← hu]
  · simp [Store.flag?, hcontent, ← hu, hflags]

/-! ## What writes leave as it was -/

/-- A row depends on the content alone. -/
theorem recordText?_congr (id : String) {s t : Store} (h : t.content = s.content) :
    t.recordText? id = s.recordText? id := by
  rw [Store.recordText?, h, Store.recordText?]

/-- A flag depends on the content alone. -/
theorem flag?_congr (key : String) {s t : Store} (h : t.content = s.content) :
    t.flag? key = s.flag? key := by
  rw [Store.flag?, h, Store.flag?]

/-- What a write keeps of the content when it succeeds, it keeps. -/
theorem preserves_of_ok {γ : Type} {view : Store → γ} {act : StoreM Unit}
    (hview : ∀ {s t : Store}, t.content = s.content → view t = view s)
    (hfail : Atomic Store.content act) (hok : ∀ s t, act s = (.ok (), t) → view t = view s) :
    Preserves view act := by
  intro s
  rcases hact : act s with ⟨e | _, t⟩
  · exact hview (hfail _ _ _ hact)
  · exact hok _ _ hact

/-- To write a record leaves the rows of other ids. -/
theorem preserves_recordText_putRecord {record : VaultRecord} {id : String} (h : id ≠ record.id) :
    Preserves (·.recordText? id) (putRecord record) :=
  preserves_of_ok (recordText?_congr _) (atomic_putRecord record) fun _ _ hput =>
    ((putRecord_ok hput).2.1 id).trans (if_neg h)

/-- To write a record leaves the flags. -/
theorem preserves_flag_putRecord (record : VaultRecord) (key : String) :
    Preserves (·.flag? key) (putRecord record) :=
  preserves_of_ok (flag?_congr _) (atomic_putRecord record) fun _ _ hput =>
    (putRecord_ok hput).2.2 key

/-- To delete a record leaves the rows of other ids. -/
theorem preserves_recordText_deleteRecord {id other : String} (h : other ≠ id) :
    Preserves (·.recordText? other) (deleteRecord id) :=
  preserves_of_ok (recordText?_congr _) (atomic_deleteRecord id) fun _ _ hdelete =>
    ((deleteRecord_ok hdelete).1 other).trans (if_neg h)

/-- To delete a record leaves the flags. -/
theorem preserves_flag_deleteRecord (id key : String) :
    Preserves (·.flag? key) (deleteRecord id) :=
  preserves_of_ok (flag?_congr _) (atomic_deleteRecord id) fun _ _ hdelete =>
    (deleteRecord_ok hdelete).2 key

/-- To write a flag leaves the records. -/
theorem preserves_recordText_setFlag (key value id : String) :
    Preserves (·.recordText? id) (setFlag key value) :=
  preserves_of_ok (recordText?_congr _) (atomic_setFlag key value) fun _ _ hset =>
    (setFlag_ok hset).1 id

/-- To write a flag leaves the other flags. -/
theorem preserves_flag_setFlag {key value other : String} (h : other ≠ key) :
    Preserves (·.flag? other) (setFlag key value) :=
  preserves_of_ok (flag?_congr _) (atomic_setFlag key value) fun _ _ hset =>
    ((setFlag_ok hset).2 other).trans (if_neg h)

/-- To remove a flag leaves the records. -/
theorem preserves_recordText_removeFlag (key id : String) :
    Preserves (·.recordText? id) (removeFlag key) :=
  preserves_of_ok (recordText?_congr _) (atomic_removeFlag key) fun _ _ hremove =>
    (removeFlag_ok hremove).1 id

/-- To remove a flag leaves the other flags. -/
theorem preserves_flag_removeFlag {key other : String} (h : other ≠ key) :
    Preserves (·.flag? other) (removeFlag key) :=
  preserves_of_ok (flag?_congr _) (atomic_removeFlag key) fun _ _ hremove =>
    ((removeFlag_ok hremove).2 other).trans (if_neg h)

/-- To remove a flag brings none back. -/
theorem maintains_absent_removeFlag (key other : String) :
    Maintains (fun s => s.flag? key = none) (removeFlag other) := by
  intro s hs
  -- A removal of the flag itself leaves none, whether it fails or not.
  by_cases hkey : key = other
  · subst hkey
    rcases hremove : removeFlag key s with ⟨e | _, t⟩
    · exact (flag?_congr key (atomic_removeFlag key _ _ _ hremove)).trans hs
    · exact ((removeFlag_ok hremove).2 key).trans (if_pos rfl)
  · exact (preserves_flag_removeFlag hkey s).trans hs

end StoreM

end CredentialVault
