import CredentialVault.Proofs.Store.Call
import CredentialVault.Vault.World

/-!
# Frames

An operation of a vault works with one part of the world at a time. A `Frame` is a view of the world
that sees none but given writes to the store; an operation that makes none of these preserves it.
The frames used later are the row of an id (`frame_recordText`), the value of a flag (`frame_flag`),
the cache (`frame_cache`) and the device (`frame_device`).
-/

namespace CredentialVault

open Operation

namespace VaultM

variable {α β γ : Type}

/-! ## Runs -/

/-- A run on the store changes the store alone. -/
theorem onStore_run {act : StoreM α} {w w' : World} {r : Except VaultError α}
    (h : onStore act w = (r, w')) :
    ∃ store, act w.store = (r, store) ∧ w' = { w with store } := by
  cases h
  exact ⟨_, rfl, rfl⟩

/-- What the store comes to, the world comes to. -/
theorem onStore_of_run {act : StoreM α} {w : World} {r : Except VaultError α} {store : Store}
    (h : act w.store = (r, store)) : onStore act w = (r, { w with store }) := by
  show ((act w.store).1, { w with store := (act w.store).2 }) = _
  rw [h]

/-- An attempt on the store that succeeds changes the store alone. -/
theorem attemptOnStore_of_ok {act : StoreM Unit} {w : World} {store : Store}
    (h : act w.store = (.ok (), store)) : attemptOnStore act w = (.ok (), { w with store }) := by
  show (Except.ok (), { w with store := (act w.store).2 }) = _
  rw [h]

/-- A run on the device changes the device alone. -/
theorem onDevice_run {act : DeviceM α} {w w' : World} {r : Except VaultError α}
    (h : onDevice act w = (r, w')) :
    ∃ device, act w.device = (r, device) ∧ w' = { w with device } := by
  cases h
  exact ⟨_, rfl, rfl⟩

/-- What the device comes to, the world comes to. -/
theorem onDevice_of_run {act : DeviceM α} {w : World} {r : Except VaultError α} {device : Device}
    (h : act w.device = (r, device)) : onDevice act w = (r, { w with device }) := by
  show ((act w.device).1, { w with device := (act w.device).2 }) = _
  rw [h]

/-- A given outcome changes nothing. -/
theorem ofExcept_run {outcome : Except VaultError α} {w w' : World} {r : Except VaultError α}
    (h : ofExcept outcome w = (r, w')) : r = outcome ∧ w' = w := by
  cases outcome <;> cases h <;> exact ⟨rfl, rfl⟩

/-- A given result is the result. -/
theorem ofExcept_of_ok {outcome : Except VaultError α} {a : α} (h : outcome = .ok a) (w : World) :
    ofExcept outcome w = (.ok a, w) := by
  rw [h]
  rfl

/-- A sequence on the store is a sequence of runs on the store. -/
theorem onStore_bind (x : StoreM α) (f : α → StoreM β) :
    onStore (x >>= f) = onStore x >>= fun a => onStore (f a) := by
  funext w
  rw [run_bind]
  unfold onStore ExceptT.mk
  dsimp only
  rw [run_bind]
  rcases x w.store with ⟨_ | _, _⟩ <;> rfl

/-- What a run on the store preserves, an attempt preserves. -/
theorem preserves_attemptOnStore {view : World → γ} {act : StoreM Unit}
    (h : Preserves view (onStore act)) : Preserves view (attemptOnStore act) := fun w => h w

/-- What holds of the store holds of the store of a world. -/
theorem preserves_onStore {view : Store → γ} {act : StoreM α} (h : Preserves view act) :
    Preserves (fun w : World => view w.store) (onStore act) := fun w => h w.store

/-- A view that does not see the device sees no use of it. -/
theorem preserves_onDevice {view : World → γ} (hview : ∀ w device, view { w with device } = view w)
    (act : DeviceM α) : Preserves view (onDevice act) := fun w => hview w (act w.device).2

/-- A view that does not see the faults sees no reading of a flag. -/
theorem preserves_getFlag {view : World → γ}
    (hview : ∀ w faults, view { w with store := { w.store with faults } } = view w) (key : String) :
    Preserves view (onStore (StoreM.getFlag key)) := fun w =>
  @StoreM.preserves_getFlag _ (fun store => view { w with store })
    (fun store faults => hview { w with store } faults) key w.store

/-- A view that does not see the faults sees no search for a record. -/
theorem preserves_contains {view : World → γ}
    (hview : ∀ w faults, view { w with store := { w.store with faults } } = view w) (id : String) :
    Preserves view (onStore (StoreM.contains id)) := fun w =>
  @StoreM.preserves_contains _ (fun store => view { w with store })
    (fun store faults => hview { w with store } faults) id w.store

/-- A view that does not see the faults sees no reading of a record. -/
theorem preserves_getRecord {view : World → γ}
    (hview : ∀ w faults, view { w with store := { w.store with faults } } = view w) (id : String) :
    Preserves view (onStore (StoreM.getRecord id)) := fun w =>
  @StoreM.preserves_getRecord _ (fun store => view { w with store })
    (fun store faults => hview { w with store } faults) id w.store

/-- A given outcome has no effect. -/
theorem preserves_ofExcept {view : World → γ} (outcome : Except VaultError α) :
    Preserves view (ofExcept outcome) := by
  cases outcome
  · exact .throw _
  · exact .pure _

end VaultM

open VaultM

/-- Counters that are there note the key. When the reset fails, the store may refuse writes after
it. -/
theorem Counters.reset_present (outcome : List String → String → Except VaultError Unit)
    (breaksStore : Bool) (publicKeyHex : String) (w : World) :
    (present outcome breaksStore).reset publicKeyHex w =
      match outcome w.resets publicKeyHex with
      | .ok () => (.ok (), { w with resets := w.resets ++ [publicKeyHex] })
      | .error e => (.error e, { w with
          resets := w.resets ++ [publicKeyHex]
          store := if breaksStore then w.store.setReadOnly true else w.store }) := by
  unfold reset
  dsimp only
  rw [run_bind_of_ok (run_get w), run_bind_of_ok (run_modify _ w)]
  rcases outcome w.resets publicKeyHex with e | _
  · cases breaksStore <;> rfl
  · rfl

/-! ## Frames -/

/-- A view of the world that sees neither the faults of the store nor the counters, and no writes to
the store but `writes`. -/
structure Frame {γ : Type} (writes : StoreWrite → Prop) (view : World → γ) : Prop where
  /-- It does not see the faults. -/
  faults : ∀ w faults, view { w with store := { w.store with faults } } = view w
  /-- It does not see whether the store refuses writes. -/
  readOnly : ∀ w b, view { w with store := w.store.setReadOnly b } = view w
  /-- It does not see the counters. -/
  resets : ∀ w resets, view { w with resets } = view w
  /-- It does not see the writing of other records. -/
  put : ∀ record, ¬writes (.put record.id) → Preserves view (onStore (StoreM.putRecord record))
  /-- It does not see the deletion of other records. -/
  delete : ∀ id, ¬writes (.delete id) → Preserves view (onStore (StoreM.deleteRecord id))
  /-- It does not see the writing of other flags. -/
  setFlag : ∀ key value, ¬writes (.setFlag key value) →
    Preserves view (onStore (StoreM.setFlag key value))
  /-- It does not see the removal of other flags. -/
  removeFlag : ∀ key, ¬writes (.removeFlag key) → Preserves view (onStore (StoreM.removeFlag key))

/-- The writes of the record of an id. -/
inductive RecordWrite (id : String) : StoreWrite → Prop where
  /-- The record is written. -/
  | put : RecordWrite id (.put id)
  /-- The record is deleted. -/
  | delete : RecordWrite id (.delete id)

/-- The writes of a flag. -/
inductive FlagWrite (key : String) : StoreWrite → Prop where
  /-- The flag is written. -/
  | set (value : String) : FlagWrite key (.setFlag key value)
  /-- The flag is removed. -/
  | remove : FlagWrite key (.removeFlag key)

/-- A flag is written by the writes to its key. -/
@[simp]
theorem flagWrite_setFlag {key other value : String} :
    FlagWrite key (.setFlag other value) ↔ other = key :=
  ⟨fun h => by cases h; rfl, fun h => h ▸ .set value⟩

/-- A flag is removed by the removals of its key. -/
@[simp]
theorem flagWrite_removeFlag {key other : String} :
    FlagWrite key (.removeFlag other) ↔ other = key :=
  ⟨fun h => by cases h; rfl, fun h => h ▸ .remove⟩

/-- A record is written under its id. -/
@[simp]
theorem recordWrite_put {id other : String} : RecordWrite id (.put other) ↔ other = id :=
  ⟨fun h => by cases h; rfl, fun h => h ▸ .put⟩

/-- A record is deleted under its id. -/
@[simp]
theorem recordWrite_delete {id other : String} : RecordWrite id (.delete other) ↔ other = id :=
  ⟨fun h => by cases h; rfl, fun h => h ▸ .delete⟩

/-- To refuse writes leaves the content and the journal. -/
theorem setReadOnly_facts (store : Store) (b : Bool) :
    (store.setReadOnly b).content = store.content ∧
      (store.setReadOnly b).journal = store.journal := by
  unfold Store.setReadOnly
  split <;> exact ⟨rfl, rfl⟩

/-- The row of an id is seen by the writes of its record. -/
theorem frame_recordText (id : String) :
    Frame (RecordWrite id) (·.store.recordText? id) where
  faults _ _ := rfl
  readOnly w b := StoreM.recordText?_congr id (setReadOnly_facts w.store b).1
  resets _ _ := rfl
  put _ h := preserves_onStore (StoreM.preserves_recordText_putRecord fun heq => h (by simp [heq]))
  delete _ h :=
    preserves_onStore (StoreM.preserves_recordText_deleteRecord fun heq => h (by simp [heq]))
  setFlag key value _ := preserves_onStore (StoreM.preserves_recordText_setFlag key value id)
  removeFlag key _ := preserves_onStore (StoreM.preserves_recordText_removeFlag key id)

/-- The value of a flag is seen by the writes of the flag. -/
theorem frame_flag (key : String) :
    Frame (FlagWrite key) (·.store.flag? key) where
  faults _ _ := rfl
  readOnly w b := StoreM.flag?_congr key (setReadOnly_facts w.store b).1
  resets _ _ := rfl
  put record _ := preserves_onStore (StoreM.preserves_flag_putRecord record key)
  delete id _ := preserves_onStore (StoreM.preserves_flag_deleteRecord id key)
  setFlag _ value h :=
    preserves_onStore (StoreM.preserves_flag_setFlag fun heq => h (by simp [heq]))
  removeFlag _ h :=
    preserves_onStore (StoreM.preserves_flag_removeFlag fun heq => h (by simp [heq]))

/-- The cache is seen by no write to the store. -/
theorem frame_cache : Frame (fun _ => False) World.cache where
  faults _ _ := rfl
  readOnly _ _ := rfl
  resets _ _ := rfl
  put _ _ _ := rfl
  delete _ _ _ := rfl
  setFlag _ _ _ _ := rfl
  removeFlag _ _ _ := rfl

/-- The device is seen by no write to the store. -/
theorem frame_device : Frame (fun _ => False) World.device where
  faults _ _ := rfl
  readOnly _ _ := rfl
  resets _ _ := rfl
  put _ _ _ := rfl
  delete _ _ _ := rfl
  setFlag _ _ _ _ := rfl
  removeFlag _ _ _ := rfl

namespace Frame

variable {γ : Type} {writes : StoreWrite → Prop} {view : World → γ}

/-- A frame does not see the counters. -/
theorem reset (h : Frame writes view) (counters : Counters) (publicKeyHex : String) :
    Preserves view (counters.reset publicKeyHex) := by
  cases counters with
  | absent => exact .pure _
  | present outcome breaksStore =>
    intro w
    rw [Counters.reset_present]
    rcases outcome w.resets publicKeyHex with e | _
    · cases breaksStore with
      | true =>
        exact (h.resets { w with store := w.store.setReadOnly true } _).trans (h.readOnly w true)
      | false => exact h.resets w _
    · exact h.resets w _

end Frame

/-! ## Reading -/

/-- All of a world but its device and the faults of its store. -/
def World.kept (w : World) :
    Backend × Database × List StoreWrite × SessionCache × Instant × List String :=
  (w.store.backend, w.store.content, w.store.journal, w.cache, w.now, w.resets)

/-- Nothing was written from one world to the other: they differ in the device and the faults at
most. -/
def Unwritten (w w' : World) : Prop :=
  w'.kept = w.kept

namespace Unwritten

variable {w u w' : World}

/-- What was not written first and not then was not written. -/
theorem trans (h : Unwritten w u) (h' : Unwritten u w') : Unwritten w w' :=
  Eq.trans h' h

/-- The content of the store is the same. -/
theorem content (h : Unwritten w w') : w'.store.content = w.store.content :=
  congrArg (·.2.1) h

/-- The journal is the same. -/
theorem journal (h : Unwritten w w') : w'.store.journal = w.store.journal :=
  congrArg (·.2.2.1) h

/-- The cache is the same. -/
theorem cache (h : Unwritten w w') : w'.cache = w.cache :=
  congrArg (·.2.2.2.1) h

/-- The counters are the same. -/
theorem resets (h : Unwritten w w') : w'.resets = w.resets :=
  congrArg (·.2.2.2.2.2) h

/-- The row of an id is the same. -/
theorem recordText? (h : Unwritten w w') (id : String) :
    w'.store.recordText? id = w.store.recordText? id :=
  StoreM.recordText?_congr id h.content

/-- The value of a flag is the same. -/
theorem flag? (h : Unwritten w w') (key : String) : w'.store.flag? key = w.store.flag? key :=
  StoreM.flag?_congr key h.content

/-- To read a flag writes nothing. -/
theorem of_getFlag {key : String} {r : Except VaultError (Option String)}
    (h : onStore (StoreM.getFlag key) w = (r, w')) : Unwritten w w' :=
  (preserves_getFlag (fun _ _ => rfl) key).of_run h

/-- To look for a record writes nothing. -/
theorem of_contains {id : String} {r : Except VaultError Bool}
    (h : onStore (StoreM.contains id) w = (r, w')) : Unwritten w w' :=
  (preserves_contains (fun _ _ => rfl) id).of_run h

/-- To read a record writes nothing. -/
theorem of_getRecord {id : String} {r : Except VaultError (Option VaultRecord)}
    (h : onStore (StoreM.getRecord id) w = (r, w')) : Unwritten w w' :=
  (preserves_getRecord (fun _ _ => rfl) id).of_run h

/-- To use the device writes nothing. -/
theorem of_onDevice {α : Type} {act : DeviceM α} {r : Except VaultError α}
    (h : onDevice act w = (r, w')) : Unwritten w w' :=
  (preserves_onDevice (fun _ _ => rfl) act).of_run h

end Unwritten

/-- A frame that does not see the device does not tell two worlds apart when nothing was written
from one to the other. -/
theorem Frame.of_unwritten {γ : Type} {writes : StoreWrite → Prop} {view : World → γ}
    (h : Frame writes view) (hdevice : ∀ w device, view { w with device } = view w) {w w' : World}
    (hsame : Unwritten w w') : view w' = view w := by
  obtain ⟨device, ⟨backend, content, faults, journal⟩, cache, now, resets⟩ := w
  obtain ⟨device', ⟨backend', content', faults', journal'⟩, cache', now', resets'⟩ := w'
  -- The second world is the first one with other faults and then with another device.
  cases hsame
  have hfaults := h.faults ⟨device, ⟨backend, content, faults, journal⟩, cache, now, resets⟩ faults'
  have hdevice :=
    hdevice ⟨device, ⟨backend, content, faults', journal⟩, cache, now, resets⟩ device'
  exact hdevice.trans hfaults

/-! ## Fresh worlds -/

namespace World

/-- A world without vaults: its authenticator, its store and its cache are fresh. -/
def fresh : World where
  device := ⟨.virtual (.fresh .full), ⟨.empty, .counting 0⟩⟩
  store := .memory
  cache := .empty
  now := ⟨0⟩
  resets := []

/-- A world after flags were written. -/
def withFlags (w : World) (flags : List (String × String)) : World :=
  { w with store := flags.foldl (fun store flag => (StoreM.setFlag flag.1 flag.2 store).2) w.store }

end World

end CredentialVault
