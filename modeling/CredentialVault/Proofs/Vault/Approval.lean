import CredentialVault.Proofs.Credential.Approval
import CredentialVault.Proofs.Vault.Device
import CredentialVault.Proofs.Vault.FailedCreate

/-!
# No session without approval

Over a virtual authenticator, a session of a vault comes into the cache only by an operation in
which the user approved a ceremony on its credential; and how many ceremonies an operation takes is
known (`Vault.CeremonyContract`). `ceremony_contract` says so for every world to which the
operations of vaults lead, whatever the authenticator can do and however its user answers.
-/

namespace CredentialVault

open Operation VaultM

/-- A ceremony is on a credential for a party. To make a credential is no ceremony on it. -/
def Ceremony.IsOn (rpId : String) (credential : CredentialId) : Ceremony → Prop
  | .create .. => False
  | .unlock party other | .readBlob party other | .writeBlob party other =>
    party = rpId ∧ other = credential

/-- A secret is derived in ceremonies on its credential. -/
theorem RelyingParty.exists_derivation (rp : RelyingParty) (credential : CredentialId)
    (purpose : CeremonyPurpose) (method : SecretMethod) :
    ∃ ceremony ∈ rp.derivation credential purpose method, ceremony.IsOn rp.id credential := by
  cases method with
  | prf => exact ⟨_, List.mem_singleton_self _, rfl, rfl⟩
  | hmacSecret => exact ⟨_, List.mem_singleton_self _, rfl, rfl⟩
  | largeBlob =>
    cases purpose with
    | enrollment => exact ⟨_, List.mem_cons_self, rfl, rfl⟩
    | unlock => exact ⟨_, List.mem_singleton_self _, rfl, rfl⟩

namespace Vault

variable {vault : Vault} {w w' : World} {log : CeremonyLog}

/-! ## Operations that take ceremonies -/

/-- A vault is made in the ceremony that makes its credential, and those in which the secret is
derived. -/
theorem create_log {migrates : Bool} {created : CreatedVault} (hlog : w.device.log? = some log)
    (h : vault.create migrates w = (.ok created, w')) :
    w'.device.log? = some (log.approve (.create vault.rp.id vault.rp.name ::
      vault.rp.derivation created.session.credentialId .enrollment created.method)) := by
  cases create_run h with
  | @done legacy draft session ready stored _ _ _ hdraft hpersist hsession =>
    obtain ⟨hrun⟩ := hdraft
    -- First the credential is made, then its secret is derived; what is drawn is not in the log.
    have hmade := RelyingParty.enroll_log hlog hrun.enroll_eq
    rw [← hrun.enrolled.log?_withRandom hrun.salted] at hmade
    have hderived := RelyingParty.deriveSecret_log hmade hrun.derive_eq
    rw [← CeremonyLog.approve_append, ← hrun.method_eq] at hderived
    have hdevice : stored.device = hrun.derived.withRandom hrun.last :=
      (persist_device hrun.id_eq hpersist).trans hrun.after_eq
    show stored.device.log? = _
    rw [hdevice, Device.log?_withRandom, hderived, hsession]
    rfl

/-- A vault that is not unlocked yet is unlocked in the ceremonies in which its secret is
derived. -/
theorem unlock_log {session : Session} (hlog : w.device.log? = some log)
    (hlocked : w.cache.sessionOf vault.id = none) (h : vault.unlock w = (.ok session, w')) :
    ∃ method, w'.device.log? =
      some (log.approve (vault.rp.derivation session.credentialId .unlock method)) := by
  cases unlock_run h with
  | cached hsession =>
    rw [hlocked] at hsession
    cases hsession
  | opened _ _ hderive _ _ _ _ hdevice hsession =>
    have hderived := RelyingParty.deriveSecret_log hlog hderive
    rw [← hdevice] at hderived
    rw [hsession]
    exact ⟨_, hderived⟩

/-! ## Operations that take none -/

/-- A vault that is unlocked is not unlocked again. -/
theorem unlock_cached {session : Session} (h : w.cache.sessionOf vault.id = some session) :
    vault.unlock w = (.ok session, w) := by
  have hlook : vault.session w = (.ok (some session), w) := by rw [← h]; rfl
  unfold unlock
  rw [run_bind_of_ok hlook]
  rfl

/-- Without a record that can be read, unlocking leaves the device. -/
theorem unlock_unreadable (h : ∀ text record, w.store.recordText? vault.id = some text →
    VaultRecord.ofStored text ≠ .ok record) : (vault.unlock w).2.device = w.device := by
  rcases hrun : vault.unlock w with ⟨r, w'⟩
  rcases bind_cases hrun with ⟨e, -, hsession⟩ | ⟨_, _, hsession, h₁⟩ <;> cases hsession
  rcases hcached : w.cache.sessionOf vault.id with _ | session <;> rw [hcached] at h₁
  · dsimp only at h₁
    rcases bind_cases h₁ with ⟨e, -, hget⟩ | ⟨found, w₁, hget, h₂⟩ <;>
      obtain ⟨store, hrecord, rfl⟩ := onStore_run hget
    · rfl
    have hfound := StoreM.getRecord_ok hrecord
    cases found with
    | none =>
      cases h₂
      rfl
    | some found =>
      -- What was found is in the row, and can be read.
      split at hfound
      · next text hrow =>
        obtain ⟨record, hparse, -⟩ := hfound
        exact absurd hparse (h text record hrow)
      · cases hfound
  · cases h₁
    rfl

/-- A vault that is stored is not made again, and the device is left. -/
theorem create_existing (migrates : Bool) (h : (w.store.recordText? vault.id).isSome) :
    (vault.create migrates w).2.device = w.device := by
  rcases hrun : vault.create migrates w with ⟨r, w'⟩
  rcases create_device hrun with hsame | ⟨_, _, _, _, habsent, -⟩
  · exact hsame
  · rw [habsent] at h
    cases h

/-- With a legacy key that cannot be read, a migration leaves the device. -/
theorem create_invalidKey {text : String} {e : VaultError}
    (hflag : w.store.flag? Flags.legacyPrivateKey = some text)
    (hparse : LegacyKey.parse text = .error e) : (vault.create true w).2.device = w.device := by
  rcases hrun : vault.create true w with ⟨r, w'⟩
  rcases create_device hrun with hsame | ⟨legacy, _, _, _, -, hlegacy, -⟩
  · exact hsame
  · rw [if_pos rfl, LegacyKey.FoundIn, hflag] at hlegacy
    obtain ⟨key, hread, -⟩ := hlegacy
    cases hparse.symm.trans hread

/-- To look at the state of a vault leaves the device. -/
theorem state_device (vault : Vault) (w : World) : (vault.state w).2.device = w.device := by
  have hsession : Preserves World.device vault.session := Within.get.bind fun _ => .pure _
  have hcontains : Preserves World.device (onStore (StoreM.contains vault.id)) := fun _ => rfl
  have hstate : Preserves World.device vault.state := by
    refine hsession.bind fun session => ?_
    split
    · exact .pure _
    · refine hcontains.bind fun found => ?_
      split
      · exact .pure _
      · exact .pure _
  exact hstate w

/-! ## The contract -/

/-- What ceremonies the operations of a vault take in a world whose device has a log. -/
structure CeremonyContract (vault : Vault) (w : World) (log : CeremonyLog) : Prop where
  /-- When a session of the vault comes into the cache, a ceremony on its credential was approved in
  the same operation, for the party of the vault. -/
  approved : ∀ (operation : VaultOperation) (session : Session),
    w.cache.sessionOf vault.id = none →
    (operation.after vault w).cache.sessionOf vault.id = some session →
    ∃ ceremonies, (operation.after vault w).device.log? = some (log.approve ceremonies) ∧
      ∃ ceremony ∈ ceremonies, ceremony.IsOn vault.rp.id session.credentialId
  /-- A vault is made in two ceremonies, or three if its secret is a stored seed. -/
  created : ∀ migrates created w', vault.create migrates w = (.ok created, w') →
    ∃ ceremonies, w'.device.log? = some (log.approve ceremonies) ∧
      ceremonies.length = if created.method = .largeBlob then 3 else 2
  /-- A vault that is not unlocked yet is unlocked in one ceremony. -/
  unlocked : ∀ session w', w.cache.sessionOf vault.id = none →
    vault.unlock w = (.ok session, w') →
    ∃ ceremony, w'.device.log? = some (log.approve [ceremony])
  /-- A vault that is unlocked is not unlocked again: the session is the same, and nothing else
  happens. -/
  cached : ∀ session, w.cache.sessionOf vault.id = some session →
    vault.unlock w = (.ok session, w)
  /-- Without a record that can be read, unlocking takes no ceremony. -/
  unreadable : (∀ text record, w.store.recordText? vault.id = some text →
    VaultRecord.ofStored text ≠ .ok record) → (vault.unlock w).2.device = w.device
  /-- To make a vault that is stored takes no ceremony. -/
  existing : ∀ migrates, (w.store.recordText? vault.id).isSome →
    (vault.create migrates w).2.device = w.device
  /-- A migration of a key that cannot be read takes no ceremony. -/
  invalidKey : ∀ text e, w.store.flag? Flags.legacyPrivateKey = some text →
    LegacyKey.parse text = .error e → (vault.create true w).2.device = w.device
  /-- To look at a vault takes no ceremony. -/
  looked : (vault.session w).2.device = w.device ∧ (vault.state w).2.device = w.device ∧
    (onStore StoreM.readStatus w).2.device = w.device ∧ (vault.ownsFlags w).2.device = w.device
  /-- To lock or delete a vault takes no ceremony. -/
  closed : (vault.lock w).2.device = w.device ∧ (vault.delete w).2.device = w.device

/-- A session of a vault comes into the cache when the vault is made or unlocked, after a ceremony
on its credential. -/
theorem approved_of_unlocked {operation : VaultOperation} {session : Session}
    (hlog : w.device.log? = some log) (hlocked : w.cache.sessionOf vault.id = none)
    (hsession : (operation.after vault w).cache.sessionOf vault.id = some session) :
    ∃ ceremonies, (operation.after vault w).device.log? = some (log.approve ceremonies) ∧
      ∃ ceremony ∈ ceremonies, ceremony.IsOn vault.rp.id session.credentialId := by
  cases operation with
  | create migrates =>
    rcases hrun : vault.create migrates w with ⟨e | created, w'⟩ <;>
      simp only [VaultOperation.after, hrun] at hsession ⊢
    · -- A failed making leaves the cache.
      rw [failedCreate_cache hrun, hlocked] at hsession
      cases hsession
    · have hmade := create_log hlog hrun
      obtain rfl : session = created.session := by
        cases create_run hrun with
        | done => exact (SessionCache.sessionOf_set hsession).1
      obtain ⟨ceremony, hmem, hon⟩ := vault.rp.exists_derivation created.session.credentialId
        .enrollment created.method
      exact ⟨_, hmade, ceremony, List.mem_cons_of_mem _ hmem, hon⟩
  | unlock =>
    rcases hrun : vault.unlock w with ⟨r, w'⟩
    simp only [VaultOperation.after, hrun] at hsession ⊢
    cases unlock_run hrun with
    | cached =>
      rw [hlocked] at hsession
      cases hsession
    | failed hsame =>
      rw [hsame.cache, hlocked] at hsession
      cases hsession
    | @opened _ _ _ _ _ _ opened =>
      obtain ⟨method, hunlocked⟩ := unlock_log hlog hlocked hrun
      obtain rfl : session = opened := (SessionCache.sessionOf_set hsession).1
      exact ⟨_, hunlocked, vault.rp.exists_derivation _ _ _⟩
  | lock =>
    -- No session comes into the cache when one is cleared.
    have hbefore := SessionCache.sessionOf_clearVault hsession
    rw [hlocked] at hbefore
    cases hbefore
  | delete =>
    have hbefore : w.cache.sessionOf vault.id = some session := by
      rcases (vault.deleteContract w).cache _ _ rfl with hcache | hcache
      · exact hcache ▸ hsession
      · exact SessionCache.sessionOf_clearVault (hcache ▸ hsession)
    rw [hlocked] at hbefore
    cases hbefore

/-- Over a virtual authenticator every vault keeps its contract. -/
theorem ceremonyContract (vault : Vault) (hlog : w.device.log? = some log) :
    CeremonyContract vault w log where
  approved operation session hlocked hsession := approved_of_unlocked hlog hlocked hsession
  created migrates created w' h := by
    refine ⟨_, create_log hlog h, ?_⟩
    cases created.method <;> rfl
  unlocked session w' hlocked h := by
    obtain ⟨method, hunlocked⟩ := unlock_log hlog hlocked h
    cases method <;> exact ⟨_, hunlocked⟩
  cached session h := unlock_cached h
  unreadable h := unlock_unreadable h
  existing migrates h := create_existing migrates h
  invalidKey text e hflag hparse := create_invalidKey hflag hparse
  looked := ⟨rfl, vault.state_device w, rfl, vault.preserves_ownsFlags (fun _ _ => rfl) w⟩
  closed := ⟨rfl, vault.delete_device w⟩

end Vault

/-! ## Runs -/

/-- An operation of a vault takes nothing back from the log of the device. -/
theorem VaultOperation.logExtends_after (operation : VaultOperation) (vault : Vault) (w : World) :
    w.device.LogExtends (operation.after vault w).device :=
  .of_lifts (operation.lifts_after VirtualAuthenticator.ceremonySteps_logExtends vault w)

/-- The worlds to which operations of vaults lead over virtual authenticators. Between operations
everything may change: what the authenticator can do, how its user answers, the store, and so on. -/
inductive VirtualRun (start : World) : World → Prop where
  /-- The start of the run. -/
  | start : VirtualRun start start
  /-- A vault does an operation. -/
  | operate {w : World} (h : VirtualRun start w) (vault : Vault) (operation : VaultOperation) :
    VirtualRun start (operation.after vault w)
  /-- The surroundings change. -/
  | surround {w w' : World} (h : VirtualRun start w)
    (hvirtual : w.device.log?.isSome → w'.device.log?.isSome) : VirtualRun start w'

/-- In every world of a run the device has a log. -/
theorem VirtualRun.exists_log {start w : World} {first : CeremonyLog}
    (hstart : start.device.log? = some first) (h : VirtualRun start w) :
    ∃ log, w.device.log? = some log := by
  induction h with
  | start => exact ⟨first, hstart⟩
  | operate _ vault operation ih =>
    obtain ⟨log, hlog⟩ := ih
    obtain ⟨later, hlater, -⟩ := operation.logExtends_after vault _ log hlog
    exact ⟨later, hlater⟩
  | surround _ hvirtual ih =>
    exact Option.isSome_iff_exists.mp (hvirtual (Option.isSome_iff_exists.mpr ih))

/-- No session without approval. In every world to which the operations of vaults lead over virtual
authenticators, every vault keeps the contract of ceremonies, and no operation takes back anything
from the log of what was counted and asked. -/
theorem ceremony_contract {start w : World} {first : CeremonyLog}
    (hstart : start.device.log? = some first) (h : VirtualRun start w) :
    ∃ log, w.device.log? = some log ∧ ∀ vault : Vault, vault.CeremonyContract w log ∧
      ∀ operation : VaultOperation, ∃ later,
        (operation.after vault w).device.log? = some later ∧ log.Extends later := by
  obtain ⟨log, hlog⟩ := h.exists_log hstart
  refine ⟨log, hlog, fun vault => ⟨vault.ceremonyContract hlog, fun operation => ?_⟩⟩
  exact operation.logExtends_after vault w log hlog

/-- A run in which a vault is made: its session is in the cache after two ceremonies, both of which
the user approved. -/
theorem ceremony_contract_created :
    ∃ w log, w.device.log? = some log ∧ (w.cache.sessionOf "first").isSome ∧
      log.count = 2 ∧ log.asked.map (·.2) = [true, true] ∧
      ∀ vault : Vault, vault.CeremonyContract w log ∧ ∀ operation : VaultOperation, ∃ later,
        (operation.after vault w).device.log? = some later ∧ log.Extends later := by
  have hreached : ∃ w, VirtualRun .fresh w ∧ (w.cache.sessionOf "first").isSome ∧
      w.device.log?.map (fun log => (log.count, log.asked.map (·.2))) = some (2, [true, true]) :=
    ⟨_, .operate .start (.ofId "first") (.create false), by decide +kernel⟩
  obtain ⟨w, hrun, hsession, htwo⟩ := hreached
  obtain ⟨log, hlog, hcontract⟩ := ceremony_contract rfl hrun
  rw [hlog] at htwo
  obtain ⟨hcount, hasked⟩ := Prod.mk.inj (Option.some.inj htwo)
  exact ⟨w, log, hlog, hsession, hcount, hasked, hcontract⟩

end CredentialVault
