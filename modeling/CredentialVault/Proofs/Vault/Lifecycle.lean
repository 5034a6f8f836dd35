import CredentialVault.Proofs.Store.Sound
import CredentialVault.Proofs.Vault.Record
import CredentialVault.Proofs.Vault.SessionCache
import CredentialVault.Proofs.Vault.Undo

/-!
# The lifecycle under faults

Vaults of any ids share a store and a cache. `Reachable` collects the worlds to which their
operations lead, whatever the device, the faults of the store and the counters do meanwhile.
`lifecycle_contract` says what holds in all of them: a session in the cache belongs to a stored
record (`SessionStored`), and each operation keeps its contract, also when it fails.
-/

namespace CredentialVault

open Operation VaultM

namespace Vault

/-! ## Unlocking -/

/-- The ways in which unlocking can end. -/
inductive UnlockRun (vault : Vault) (w : World) : Except VaultError Session → World → Prop where
  /-- The vault is unlocked already. -/
  | cached {session : Session} (hsession : w.cache.sessionOf vault.id = some session) :
    UnlockRun vault w (.ok session) w
  /-- It fails, and nothing is written. -/
  | failed {e : VaultError} {w' : World} (hsame : Unwritten w w') : UnlockRun vault w (.error e) w'
  /-- The record is opened, and its session is in the cache. -/
  | opened {text : String} {record : VaultRecord} {secret : DerivedSecret} {sealing : Bytes}
    {bundle : SecretBundle} {device : Device} {session : Session} {ready : World}
    (hrow : w.store.recordText? vault.id = some text)
    (hparse : VaultRecord.ofStored text = .ok record)
    (hderive : vault.rp.deriveSecret record.credentialId record.salt (vault.deriveOptions .unlock)
      w.device = (.ok secret, device))
    (hsealing : Keys.sealingKey secret.bytes record.salt = .ok sealing)
    (hopen : SecretBundle.openFor sealing vault.id record.envelope = .ok bundle)
    (hpublic : bundle.publicKeyHex = record.publicKeyHex)
    (hready : Unwritten w ready) (hdevice : ready.device = device)
    (hsession : session = Session.ofBundle vault.id record.credentialId bundle ready.now) :
    UnlockRun vault w (.ok session) { ready with cache := ready.cache.set session }

/-- Unlocking ends in one of these ways. -/
theorem unlock_run {vault : Vault} {w w' : World} {r : Except VaultError Session}
    (h : vault.unlock w = (r, w')) : UnlockRun vault w r w' := by
  rcases bind_cases h with ⟨e, -, hsession⟩ | ⟨_, _, hsession, h₁⟩ <;> cases hsession
  rcases hcached : w.cache.sessionOf vault.id with _ | session <;> rw [hcached] at h₁
  · dsimp only at h₁
    rcases bind_cases h₁ with ⟨e, rfl, hget⟩ | ⟨found, w₁, hget, h₂⟩
    · exact .failed (.of_getRecord hget)
    have hsame₁ := Unwritten.of_getRecord hget
    obtain ⟨store, hrecord, rfl⟩ := onStore_run hget
    have hfound := StoreM.getRecord_ok hrecord
    rcases hrow : w.store.recordText? vault.id with _ | text <;> rw [hrow] at hfound
    · subst hfound
      cases h₂
      exact .failed hsame₁
    obtain ⟨record, hparse, rfl⟩ := hfound
    dsimp only at h₂
    -- The secret, the key and the bundle, in turn; none of them touches the store.
    rcases bind_cases h₂ with ⟨e, rfl, hderive⟩ | ⟨secret, w₂, hderive, h₃⟩
    · exact .failed (hsame₁.trans (.of_onDevice hderive))
    have hsame₂ := hsame₁.trans (.of_onDevice hderive)
    obtain ⟨device, hderived, rfl⟩ := onDevice_run hderive
    rcases bind_cases h₃ with ⟨e, rfl, hsealing⟩ | ⟨sealing, w₃, hsealing, h₄⟩
    · obtain ⟨-, rfl⟩ := ofExcept_run hsealing
      exact .failed hsame₂
    obtain ⟨hkey, rfl⟩ := ofExcept_run hsealing
    rcases bind_cases h₄ with ⟨e, rfl, hopen⟩ | ⟨bundle, w₄, hopen, h₅⟩
    · obtain ⟨-, rfl⟩ := ofExcept_run hopen
      exact .failed hsame₂
    obtain ⟨hbundle, rfl⟩ := ofExcept_run hopen
    dsimp only at h₅
    split at h₅
    · cases h₅
      exact .failed hsame₂
    · next hpublic =>
      cases h₅
      exact .opened hrow hparse hderived hkey.symm hbundle.symm (Classical.not_not.mp hpublic) hsame₂
        rfl rfl
  · cases h₁
    exact .cached hcached

/-- Unlocking writes nothing to the store. -/
theorem unlock_store {vault : Vault} {w w' : World} {r : Except VaultError Session}
    (h : vault.unlock w = (r, w')) :
    w'.store.content = w.store.content ∧ w'.store.journal = w.store.journal := by
  cases unlock_run h with
  | cached => exact ⟨rfl, rfl⟩
  | failed hsame => exact ⟨hsame.content, hsame.journal⟩
  | opened _ _ _ _ _ _ hready => exact ⟨hready.content, hready.journal⟩

/-! ## Locking -/

/-- Locking clears the session of the vault, and does nothing else. -/
theorem lock_run {vault : Vault} {w w' : World} {r : Except VaultError Unit}
    (h : vault.lock w = (r, w')) :
    r = .ok () ∧ w' = { w with cache := (w.cache.clearVault vault.id).2 } := by
  cases h
  exact ⟨rfl, rfl⟩

/-! ## Deleting -/

/-- What comes after the record of a vault was deleted: it gives up the flags if it has them. -/
def release (releases : Bool) : VaultM Unit :=
  if releases then
    for key in Flags.describing do
      onStore (StoreM.removeFlag key)
  else pure ()

/-- The ways in which deleting can end. -/
inductive DeleteRun (vault : Vault) (w : World) : Except VaultError Unit → World → Prop where
  /-- It is unknown whose the flags are. -/
  | unowned {e : VaultError} {w' : World} (howns : vault.ownsFlags w = (.error e, w')) :
    DeleteRun vault w (.error e) w'
  /-- The record cannot be deleted. -/
  | undeleted {releases : Bool} {e : VaultError} {w₁ w' : World}
    (howns : vault.ownsFlags w = (.ok releases, w₁))
    (hdelete : onStore (StoreM.deleteRecord vault.id) w₁ = (.error e, w')) :
    DeleteRun vault w (.error e) w'
  /-- The record is deleted and the session forgotten; the flags may be left in part. -/
  | deleted {releases : Bool} {w₁ w₂ w₃ w' : World} {r : Except VaultError Unit}
    (howns : vault.ownsFlags w = (.ok releases, w₁))
    (hdelete : onStore (StoreM.deleteRecord vault.id) w₁ = (.ok (), w₂))
    (hlock : w₃ = { w₂ with cache := (w₂.cache.clearVault vault.id).2 })
    (hrelease : release releases w₃ = (r, w')) : DeleteRun vault w r w'

/-- Deleting ends in one of these ways. -/
theorem delete_run {vault : Vault} {w w' : World} {r : Except VaultError Unit}
    (h : vault.delete w = (r, w')) : DeleteRun vault w r w' := by
  rcases bind_cases h with ⟨e, rfl, howns⟩ | ⟨releases, w₁, howns, h₁⟩
  · exact .unowned howns
  rcases bind_cases h₁ with ⟨e, rfl, hdelete⟩ | ⟨_, w₂, hdelete, h₂⟩
  · exact .undeleted howns hdelete
  rcases bind_cases h₂ with ⟨e, -, hlock⟩ | ⟨_, w₃, hlock, h₃⟩
  · cases (lock_run hlock).1
  · exact .deleted howns hdelete (lock_run hlock).2 h₃

end Vault

/-- To give up the flags removes flags that describe a vault. -/
theorem Frame.release {γ : Type} {view : World → γ} {writes : StoreWrite → Prop}
    (h : Frame writes view) (hmiss : ∀ key ∈ Flags.describing, ¬writes (.removeFlag key))
    (releases : Bool) : Preserves view (Vault.release releases) := by
  unfold Vault.release
  split
  · have hremove : ∀ key ∈ Flags.describing, Preserves view (onStore (StoreM.removeFlag key)) :=
      fun key hkey => h.removeFlag key (hmiss key hkey)
    exact (Within.forIn hremove).bind fun _ => .pure _
  · exact .pure _

/-- Deleting a vault writes on its behalf. -/
theorem Frame.delete_run {γ : Type} {view : World → γ} {writes : StoreWrite → Prop}
    (h : Frame writes view) {vault : Vault} {w w' : World} {r : Except VaultError Unit}
    (hcache : ∀ w cache, view { w with cache } = view w)
    (hmiss : ∀ write, VaultWrite vault.id write → ¬writes write)
    (hrun : vault.delete w = (r, w')) : view w' = view w := by
  have howns := vault.preserves_ownsFlags h.faults
  have hdelete := h.delete vault.id (hmiss _ .delete)
  cases Vault.delete_run hrun with
  | unowned h₁ => exact howns.of_run h₁
  | undeleted h₁ h₂ => exact (hdelete.of_run h₂).trans (howns.of_run h₁)
  | deleted h₁ h₂ h₃ h₄ =>
    subst h₃
    calc view w' = _ := (h.release (fun key hkey => hmiss _ (.removeFlag hkey)) _).of_run h₄
      _ = _ := hcache _ _
      _ = _ := hdelete.of_run h₂
      _ = view w := howns.of_run h₁

/-! ## Runs -/

/-- The operations of a vault. -/
inductive VaultOperation where
  /-- Make the vault, and take over a legacy key or not. -/
  | create (migrates : Bool)
  /-- Unlock the vault. -/
  | unlock
  /-- Lock the vault. -/
  | lock
  /-- Delete the vault. -/
  | delete
deriving DecidableEq, Repr

/-- The world after an operation, whatever its result. -/
def VaultOperation.after (operation : VaultOperation) (vault : Vault) (w : World) : World :=
  match operation with
  | create migrates => (vault.create migrates w).2
  | unlock => (vault.unlock w).2
  | lock => (vault.lock w).2
  | delete => (vault.delete w).2

/-- The worlds to which operations of vaults lead. Between operations everything may change but the
rows of the store and the cache: the device, the faults of the store, and so on. -/
inductive Reachable (start : World) : World → Prop where
  /-- The start of the run. -/
  | start : Reachable start start
  /-- A vault does an operation. -/
  | operate {w : World} (h : Reachable start w) (vault : Vault) (operation : VaultOperation) :
    Reachable start (operation.after vault w)
  /-- The surroundings change. -/
  | surround {w w' : World} (h : Reachable start w)
    (hrows : ∀ id, w'.store.recordText? id = w.store.recordText? id) (hcache : w'.cache = w.cache) :
    Reachable start w'

/-! ## The invariant -/

/-- A session in the cache belongs to a stored record, which has its public key and credential. -/
def SessionStored (w : World) : Prop :=
  ∀ session, w.cache.slot = some session → ∃ text record,
    w.store.recordText? session.vaultId = some text ∧ VaultRecord.ofStored text = .ok record ∧
      record.publicKeyHex = session.publicKeyHex ∧ record.credentialId = session.credentialId

namespace SessionStored

variable {w w' : World}

/-- It is enough that the row of the session stays and no other session comes. -/
theorem of_keeps (h : SessionStored w)
    (hslot : ∀ session, w'.cache.slot = some session → w.cache.slot = some session ∧
      w'.store.recordText? session.vaultId = w.store.recordText? session.vaultId) :
    SessionStored w' := by
  intro session hsession
  obtain ⟨hbefore, hrow⟩ := hslot session hsession
  rw [hrow]
  exact h session hbefore

end SessionStored

/-- The rows of other ids are not written on behalf of a vault. -/
theorem not_recordWrite_of_vaultWrite {id other : String} (h : other ≠ id) {write : StoreWrite}
    (hwrite : VaultWrite id write) : ¬RecordWrite other write := by
  cases hwrite <;> rintro ⟨⟩ <;> exact h rfl

namespace Vault

/-- The making of a vault leaves the rows of other ids. -/
theorem preserves_recordText_create (vault : Vault) (migrates : Bool) {id : String}
    (h : id ≠ vault.id) :
    Preserves (fun w : World => w.store.recordText? id) (vault.create migrates) :=
  (frame_recordText id).create (fun _ _ => rfl) (fun _ _ => rfl)
    (fun _ => not_recordWrite_of_vaultWrite h) fun _ _ => not_recordWrite_migration

/-- Deleting a vault leaves the rows of other ids. -/
theorem preserves_recordText_delete (vault : Vault) {id : String} (h : id ≠ vault.id) :
    Preserves (fun w : World => w.store.recordText? id) vault.delete := fun _ =>
  (frame_recordText id).delete_run (fun _ _ => rfl) (fun _ => not_recordWrite_of_vaultWrite h) rfl

/-- The storing of a new vault leaves the cache. -/
theorem persist_cache {vault : Vault} {record : VaultRecord} {legacy : Option LegacyKey}
    {w w' : World} {r : Except VaultError Unit} (hid : record.id = vault.id)
    (h : vault.persist record legacy w = (r, w')) : w'.cache = w.cache :=
  (frame_cache.persist (fun _ _ => not_false) (fun _ _ _ => not_false) hid).of_run h

/-! ## States -/

/-- A vault with a session in the cache is open. -/
theorem state_of_session {vault : Vault} {w : World} (h : (w.cache.sessionOf vault.id).isSome) :
    vault.state w = (.ok .unlocked, w) := by
  have hsession : vault.session w = (.ok (w.cache.sessionOf vault.id), w) := rfl
  unfold state
  rw [run_bind_of_ok hsession, if_pos h]
  rfl

/-- The state of a vault is told by its session and by its row, whatever the row holds. -/
theorem state_of_sound (vault : Vault) {w : World} (h : w.store.Sound) :
    vault.state w = (.ok (if (w.cache.sessionOf vault.id).isSome then .unlocked
      else if (w.store.recordText? vault.id).isSome then .locked else .absent), w) := by
  by_cases hsome : (w.cache.sessionOf vault.id).isSome
  · rw [if_pos hsome]
    exact state_of_session hsome
  · have hsession : vault.session w = (.ok (w.cache.sessionOf vault.id), w) := rfl
    have hcontains := onStore_of_run (w := w) (h.contains vault.id)
    rw [if_neg hsome]
    unfold state
    rw [run_bind_of_ok hsession, if_neg hsome, run_bind_of_ok hcontains]
    split <;> rfl

/-! ## The contracts -/

/-- What the making of a vault promises in a world. -/
structure CreateContract (vault : Vault) (migrates : Bool) (w : World) : Prop where
  /-- It succeeds only if there was no row, and then there is one, and the session is in the
  cache. -/
  ok : ∀ created w', vault.create migrates w = (.ok created, w') →
    w.store.recordText? vault.id = none ∧ (w'.store.recordText? vault.id).isSome ∧
      w'.cache.sessionOf vault.id = some created.session
  /-- When it fails, the cache is as before, and so is the row, unless the record could not be deleted
  where the undoing began. -/
  error : ∀ e w', vault.create migrates w = (.error e, w') → w'.cache = w.cache ∧
    (w'.store.recordText? vault.id = w.store.recordText? vault.id ∨
      ∃ clearsFlags failed e' store, vault.undoneFrom? migrates w = some (clearsFlags, failed) ∧
        StoreM.deleteRecord vault.id failed.store = (.error e', store) ∧
        vault.rollBack clearsFlags failed = (.ok (), w'))

/-- What unlocking promises in a world. -/
structure UnlockContract (vault : Vault) (w : World) : Prop where
  /-- The store is as before, and nothing was written. -/
  store : ∀ r w', vault.unlock w = (r, w') →
    w'.store.content = w.store.content ∧ w'.store.journal = w.store.journal
  /-- When it fails, all but the device and the faults of the store is as before. -/
  error : ∀ e w', vault.unlock w = (.error e, w') → Unwritten w w'
  /-- When it succeeds, the session is in the cache. -/
  ok : ∀ session w', vault.unlock w = (.ok session, w') →
    w'.cache.sessionOf vault.id = some session

/-- What locking promises in a world. -/
structure LockContract (vault : Vault) (w : World) : Prop where
  /-- A session is dropped exactly if it is the vault's. -/
  slot : ∀ r w', vault.lock w = (r, w') →
    w'.cache.slot = w.cache.slot.filter (·.vaultId ≠ vault.id)
  /-- The store is as before. -/
  store : ∀ r w', vault.lock w = (r, w') → w'.store = w.store

/-- What deleting promises in a world. -/
structure DeleteContract (vault : Vault) (w : World) : Prop where
  /-- When it succeeds, there is neither a row nor a session of the vault. -/
  ok : ∀ w', vault.delete w = (.ok (), w') →
    w'.store.recordText? vault.id = none ∧ w'.cache.sessionOf vault.id = none
  /-- The rows of other ids are as before. -/
  rows : ∀ r w', vault.delete w = (r, w') → ∀ id, id ≠ vault.id →
    w'.store.recordText? id = w.store.recordText? id
  /-- The flags are as before, but those that describe a vault. -/
  flags : ∀ r w', vault.delete w = (r, w') → ∀ key, key ∉ Flags.describing →
    w'.store.flag? key = w.store.flag? key
  /-- The cache is as before, or the session of the vault was cleared. -/
  cache : ∀ r w', vault.delete w = (r, w') →
    w'.cache = w.cache ∨ w'.cache = (w.cache.clearVault vault.id).2

/-- The making of a vault keeps its contract. -/
theorem createContract (vault : Vault) (migrates : Bool) {w : World} (hquiet : w.cache.IsQuiet) :
    CreateContract vault migrates w where
  ok created w' h := by
    cases create_run h with
    | done habsent _ hready hdraft hpersist hsession =>
      obtain ⟨hrun⟩ := hdraft
      obtain ⟨-, hrow⟩ := persist_ok hpersist
      rw [hrun.id_eq] at hrow
      have hcache := (persist_cache hrun.id_eq hpersist).trans hready.cache
      refine ⟨habsent, ?_, ?_⟩
      · exact Option.isSome_iff_exists.mpr ⟨_, hrow⟩
      · rw [SessionCache.sessionOf_eq_some, hsession]
        rw [← hcache] at hquiet
        exact ⟨(hquiet.set _).1, rfl⟩
  error e w' h := by
    refine ⟨failedCreate_cache h, ?_⟩
    cases make_run h with
    | unplaced hplace =>
      cases place_run hplace with
      | failed hcontent => exact .inl (StoreM.recordText?_congr _ hcontent)
    | undone hplace hcomplete hundo =>
      cases place_run hplace with
      | placed hplaced =>
        rw [hplaced.absent]
        rcases rollBack_row hundo with hnone | ⟨e', store, hkept⟩
        · exact .inl hnone
        · exact .inr ⟨_, _, e', store, undoneFrom?_of_error hplace hcomplete, hkept, hundo⟩

/-- Unlocking keeps its contract. -/
theorem unlockContract (vault : Vault) {w : World} (hquiet : w.cache.IsQuiet) :
    UnlockContract vault w where
  store r w' h := unlock_store h
  error e w' h := by
    cases unlock_run h with
    | failed hsame => exact hsame
  ok session w' h := by
    cases unlock_run h with
    | cached hsession => exact hsession
    | opened _ _ _ _ _ _ hready _ hsession =>
      rw [SessionCache.sessionOf_eq_some, hsession]
      rw [← hready.cache] at hquiet
      exact ⟨(hquiet.set _).1, rfl⟩

/-- Locking keeps its contract. -/
theorem lockContract (vault : Vault) (w : World) : LockContract vault w where
  slot r w' h := by
    obtain ⟨-, rfl⟩ := lock_run h
    exact w.cache.slot_clearVault vault.id
  store r w' h := by
    obtain ⟨-, rfl⟩ := lock_run h
    rfl

/-- Deleting changes the cache by clearing the session of the vault, once the record is deleted. -/
theorem delete_cache {vault : Vault} {w w' : World} {r : Except VaultError Unit}
    (h : vault.delete w = (r, w')) :
    (r ≠ .ok () ∧ w'.store.content = w.store.content ∧ w'.cache = w.cache) ∨
      (w'.store.recordText? vault.id = none ∧ w'.cache = (w.cache.clearVault vault.id).2) := by
  cases delete_run h with
  | unowned howns =>
    have hsame := unwritten_of_ownsFlags howns
    exact .inl ⟨nofun, hsame.content, hsame.cache⟩
  | undeleted howns hdelete =>
    have hsame := unwritten_of_ownsFlags howns
    obtain ⟨store, hfailed, rfl⟩ := onStore_run hdelete
    exact .inl ⟨nofun, (StoreM.atomic_deleteRecord _ _ _ _ hfailed).trans hsame.content, hsame.cache⟩
  | deleted howns hdelete hlock hrelease =>
    subst hlock
    have hsame := unwritten_of_ownsFlags howns
    obtain ⟨store, hdeleted, rfl⟩ := onStore_run hdelete
    -- Whether the flags are given up or not, the row is gone and the session forgotten.
    have hrow := ((frame_recordText vault.id).release (fun _ _ => nofun) _).of_run hrelease
    have hcache := (frame_cache.release (fun _ _ => not_false) _).of_run hrelease
    refine .inr ⟨hrow.trans ?_, hcache.trans ?_⟩
    · exact ((StoreM.deleteRecord_ok hdeleted).1 vault.id).trans (if_pos rfl)
    · exact congrArg (fun cache : SessionCache => (cache.clearVault vault.id).2) hsame.cache

/-- A flag that describes no vault is not written on behalf of a vault. -/
theorem not_flagWrite_of_vaultWrite {id key : String} (h : key ∉ Flags.describing)
    {write : StoreWrite} (hwrite : VaultWrite id write) : ¬FlagWrite key write := by
  cases hwrite with
  | put => exact nofun
  | delete => exact nofun
  | setFlag hkey value => rintro ⟨⟩; exact h hkey
  | removeFlag hkey => rintro ⟨⟩; exact h hkey

/-- Deleting keeps its contract. -/
theorem deleteContract (vault : Vault) (w : World) : DeleteContract vault w where
  ok w' h := by
    rcases delete_cache h with ⟨hfailed, -⟩ | ⟨hrow, hcache⟩
    · exact absurd rfl hfailed
    · exact ⟨hrow, hcache ▸ SessionCache.sessionOf_clearVault_self w.cache vault.id⟩
  rows r w' h id hid := (vault.preserves_recordText_delete hid).of_run h
  flags r w' h key hkey :=
    (frame_flag key).delete_run (fun _ _ => rfl) (fun _ => not_flagWrite_of_vaultWrite hkey) h
  cache r w' h := (delete_cache h).imp (·.2.2) (·.2)

end Vault

/-! ## The invariant holds -/

/-- What holds in every reachable world: the observers let sessions be, and a session in the cache
belongs to a stored record. -/
structure Consistent (w : World) : Prop where
  /-- No observer clears the cache. -/
  isQuiet : w.cache.IsQuiet
  /-- A session belongs to a stored record. -/
  sessionStored : SessionStored w

namespace Consistent

variable {w w' : World}

/-- The making of a vault keeps the invariant. -/
theorem create (h : Consistent w) {vault : Vault} {migrates : Bool}
    {r : Except VaultError CreatedVault} (hrun : vault.create migrates w = (r, w')) :
    Consistent w' := by
  have hothers : ∀ id, id ≠ vault.id → w'.store.recordText? id = w.store.recordText? id :=
    fun id hid => (vault.preserves_recordText_create migrates hid).of_run hrun
  cases Vault.create_run hrun with
  | undrafted hsame =>
    refine ⟨hsame.cache ▸ h.isQuiet, h.sessionStored.of_keeps fun session hsession => ?_⟩
    exact ⟨hsame.cache ▸ hsession, hsame.recordText? _⟩
  | unstored habsent _ hready hdraft hpersist =>
    obtain ⟨hdraft⟩ := hdraft
    have hcache := (Vault.persist_cache hdraft.id_eq hpersist).trans hready.cache
    -- The row of the vault itself may be left over, if the deletion failed.
    refine ⟨hcache ▸ h.isQuiet, h.sessionStored.of_keeps fun session hsession => ?_⟩
    rw [hcache] at hsession
    -- The session is of another vault, since there was no row.
    obtain ⟨text, -, hrow, -⟩ := h.sessionStored session hsession
    refine ⟨hsession, hothers _ fun hid => ?_⟩
    rw [hid, habsent] at hrow
    cases hrow
  | done habsent _ hready hdraft hpersist hsession =>
    obtain ⟨hdraft⟩ := hdraft
    obtain ⟨hvalid, hrow⟩ := Vault.persist_ok hpersist
    have hcache := (Vault.persist_cache hdraft.id_eq hpersist).trans hready.cache
    have hquiet : SessionCache.IsQuiet _ := hcache ▸ h.isQuiet
    -- The new session is the only one, and its record has just been written.
    refine ⟨(hquiet.set _).2, fun other hother => ?_⟩
    rw [(hquiet.set _).1] at hother
    cases hother
    subst hsession
    exact ⟨_, _, hdraft.id_eq ▸ hrow, VaultRecord.ofStored_toStored hvalid, hdraft.publicKeyHex_eq,
      rfl⟩

/-- Unlocking keeps the invariant. -/
theorem unlock (h : Consistent w) {vault : Vault} {r : Except VaultError Session}
    (hrun : vault.unlock w = (r, w')) : Consistent w' := by
  cases Vault.unlock_run hrun with
  | cached => exact h
  | failed hsame =>
    refine ⟨hsame.cache ▸ h.isQuiet, h.sessionStored.of_keeps fun session hsession => ?_⟩
    exact ⟨hsame.cache ▸ hsession, hsame.recordText? _⟩
  | opened hrow hparse _ _ _ hpublic hready _ hsession =>
    have hquiet : SessionCache.IsQuiet _ := hready.cache ▸ h.isQuiet
    refine ⟨(hquiet.set _).2, fun other hother => ?_⟩
    rw [(hquiet.set _).1] at hother
    cases hother
    subst hsession
    exact ⟨_, _, (hready.recordText? _).trans hrow, hparse, hpublic.symm, rfl⟩

/-- Locking keeps the invariant. -/
theorem lock (h : Consistent w) {vault : Vault} {r : Except VaultError Unit}
    (hrun : vault.lock w = (r, w')) : Consistent w' := by
  obtain ⟨-, rfl⟩ := Vault.lock_run hrun
  refine ⟨h.isQuiet.clearVault _, h.sessionStored.of_keeps fun session hsession => ?_⟩
  rw [SessionCache.slot_clearVault, Option.filter_eq_some_iff] at hsession
  exact ⟨hsession.1, rfl⟩

/-- Deleting keeps the invariant. -/
theorem delete (h : Consistent w) {vault : Vault} {r : Except VaultError Unit}
    (hrun : vault.delete w = (r, w')) : Consistent w' := by
  rcases Vault.delete_cache hrun with ⟨-, hcontent, hcache⟩ | ⟨-, hcache⟩
  · refine ⟨hcache ▸ h.isQuiet, h.sessionStored.of_keeps fun session hsession => ?_⟩
    exact ⟨hcache ▸ hsession, StoreM.recordText?_congr _ hcontent⟩
  · refine ⟨hcache ▸ h.isQuiet.clearVault _, h.sessionStored.of_keeps fun session hsession => ?_⟩
    rw [hcache, SessionCache.slot_clearVault, Option.filter_eq_some_iff] at hsession
    -- A session that is left is of another vault, whose row is not touched.
    have hid : session.vaultId ≠ vault.id := by simpa using hsession.2
    exact ⟨hsession.1, (vault.preserves_recordText_delete hid).of_run hrun⟩

/-- The surroundings keep the invariant. -/
theorem surround (h : Consistent w)
    (hrows : ∀ id, w'.store.recordText? id = w.store.recordText? id) (hcache : w'.cache = w.cache) :
    Consistent w' := by
  refine ⟨hcache ▸ h.isQuiet, h.sessionStored.of_keeps fun session hsession => ?_⟩
  exact ⟨hcache ▸ hsession, hrows _⟩

end Consistent

/-- Every reachable world is consistent when a run starts without a session. -/
theorem Reachable.consistent {start w : World} (hslot : start.cache.slot = none)
    (hquiet : start.cache.IsQuiet) (h : Reachable start w) : Consistent w := by
  -- By induction on the run: one case for each operation, and one for the surroundings.
  induction h with
  | start => exact ⟨hquiet, fun session hsession => by rw [hslot] at hsession; cases hsession⟩
  | operate _ vault operation ih =>
    cases operation with
    | create migrates => exact ih.create rfl
    | unlock => exact ih.unlock rfl
    | lock => exact ih.lock rfl
    | delete => exact ih.delete rfl
  | surround _ hrows hcache ih => exact ih.surround hrows hcache

/-- The lifecycle under faults. When a run starts without a session, and no observer clears the
cache as soon as it is told of one, then in every world to which the run leads a session in the
cache belongs to a stored record, and every operation of every vault keeps its contract. -/
theorem lifecycle_contract {start w : World} (hslot : start.cache.slot = none)
    (hquiet : start.cache.IsQuiet) (h : Reachable start w) :
    SessionStored w ∧ ∀ vault : Vault, (∀ migrates, vault.CreateContract migrates w) ∧
      vault.UnlockContract w ∧ vault.LockContract w ∧ vault.DeleteContract w := by
  have hw := h.consistent hslot hquiet
  refine ⟨hw.sessionStored, fun vault => ⟨fun migrates => ?_, ?_, ?_, ?_⟩⟩
  · exact vault.createContract migrates hw.isQuiet
  · exact vault.unlockContract hw.isQuiet
  · exact vault.lockContract w
  · exact vault.deleteContract w

/-- The contracts hold after a vault was made in a fresh world, where its session is in the
cache. -/
theorem lifecycle_contract_created :
    ∃ w, w = (VaultOperation.create false).after (.ofId "first") .fresh ∧
      (w.cache.sessionOf "first").isSome ∧
      SessionStored w ∧ ∀ vault : Vault, (∀ migrates, vault.CreateContract migrates w) ∧
        vault.UnlockContract w ∧ vault.LockContract w ∧ vault.DeleteContract w :=
  ⟨_, rfl, by decide +kernel,
    lifecycle_contract rfl SessionCache.isQuiet_empty (.operate .start (.ofId "first") (.create false))⟩

end CredentialVault
