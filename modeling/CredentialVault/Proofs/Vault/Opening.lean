import CredentialVault.Proofs.Credential.Refusal
import CredentialVault.Proofs.Vault.History

/-!
# What a locked vault is unlocked with

Whatever text stands in the row of a locked vault, unlocking yields a session exactly if the text
says a record, the credential of the record yields a secret, under whose key the envelope opens for
the id of the vault, and the bundle in it has the public key of the record (`unlock_authenticates`).
Every failure tells which of these fails.
-/

namespace CredentialVault

open Operation VaultM

/-! ## A record and a secret -/

namespace VaultRecord

/-- The bundle of a record, opened with the secret of its credential: it must have the public key of
the record. -/
def openWith (record : VaultRecord) (vaultId : String) (secret : Bytes) :
    Except VaultError SecretBundle := do
  let key ← Keys.sealingKey secret record.salt
  let bundle ← SecretBundle.openFor key vaultId record.envelope
  if bundle.publicKeyHex ≠ record.publicKeyHex then throw .integrity
  return bundle

variable {record : VaultRecord} {vaultId : String} {secret key : Bytes}

/-- Under the sealing key, only the envelope and the public key matter. -/
theorem openWith_of_key (hkey : Keys.sealingKey secret record.salt = .ok key) :
    record.openWith vaultId secret = match SecretBundle.openFor key vaultId record.envelope with
      | .ok bundle => if bundle.publicKeyHex = record.publicKeyHex then .ok bundle else .error .integrity
      | .error e => .error e := by
  unfold openWith
  rw [hkey, ok_bind]
  rcases SecretBundle.openFor key vaultId record.envelope with e | bundle
  · rfl
  · rw [ok_bind]
    by_cases hpublic : bundle.publicKeyHex = record.publicKeyHex
    · rw [if_neg (not_not_intro hpublic)]
      simp only [if_pos hpublic]
      rfl
    · rw [if_pos hpublic]
      simp only [if_neg hpublic]
      rfl

/-- A record whose envelope does not open under the sealing key is not opened. -/
theorem openWith_error {e : VaultError} (hkey : Keys.sealingKey secret record.salt = .ok key)
    (hopen : SecretBundle.openFor key vaultId record.envelope = .error e) :
    record.openWith vaultId secret = .error e := by
  rw [openWith_of_key hkey, hopen]

end VaultRecord

namespace Vault

/-- What the deriving of the secret for a record yields. -/
def derived (vault : Vault) (record : VaultRecord) (w : World) : Except VaultError DerivedSecret :=
  (vault.rp.deriveSecret record.credentialId record.salt (vault.deriveOptions .unlock) w.device).1

variable {vault : Vault} {w : World}

/-- What unlocking yields is what the reading of the record yields, and then the secret and the
envelope; the store is left as the reading leaves it. -/
theorem unlock_eq {found : Except VaultError (Option VaultRecord)} {store : Store}
    (hlocked : w.cache.sessionOf vault.id = none)
    (hget : StoreM.getRecord vault.id w.store = (found, store)) :
    (vault.unlock w).1 = (do
      let some record ← found | throw (.vaultNotFound vault.id)
      let secret ← vault.derived record w
      let bundle ← record.openWith vault.id secret.bytes
      return Session.ofBundle vault.id record.credentialId bundle w.now) ∧
    (vault.unlock w).2.store = store := by
  have hlook : vault.session w = (.ok none, w) := hlocked ▸ rfl
  unfold unlock
  rw [run_bind_of_ok hlook]
  dsimp only
  rcases found with e | _ | record
  · rw [run_bind_of_error (onStore_of_run hget)]
    exact ⟨rfl, rfl⟩
  · rw [run_bind_of_ok (onStore_of_run hget)]
    exact ⟨rfl, rfl⟩
  · rw [run_bind_of_ok (onStore_of_run hget)]
    unfold derived
    dsimp only [ok_bind]
    rcases hderive : vault.rp.deriveSecret record.credentialId record.salt
      (vault.deriveOptions .unlock) w.device with ⟨e | secret, device⟩
    · rw [run_bind_of_error (onDevice_of_run (w := { w with store }) hderive)]
      exact ⟨rfl, rfl⟩
    · rw [run_bind_of_ok (onDevice_of_run (w := { w with store }) hderive), ok_bind]
      unfold VaultRecord.openWith
      rcases Keys.sealingKey secret.bytes record.salt with e | key
      · exact ⟨rfl, rfl⟩
      rw [run_bind_of_ok (ofExcept_of_ok rfl _), ok_bind]
      rcases SecretBundle.openFor key vault.id record.envelope with e | bundle
      · exact ⟨rfl, rfl⟩
      rw [run_bind_of_ok (ofExcept_of_ok rfl _), ok_bind]
      by_cases hpublic : bundle.publicKeyHex = record.publicKeyHex
      · rw [if_neg (not_not_intro hpublic)]
        simp only [if_neg (not_not_intro hpublic)]
        exact ⟨rfl, rfl⟩
      · rw [if_pos hpublic]
        simp only [if_pos hpublic]
        exact ⟨rfl, rfl⟩

/-- Without a row there is no vault to be unlocked. -/
theorem unlock_of_absent (hlocked : w.cache.sessionOf vault.id = none)
    (hreads : w.store.Readable vault.id) (hrow : w.store.recordText? vault.id = none) :
    (vault.unlock w).1 = .error (.vaultNotFound vault.id) := by
  have hget := StoreM.getRecord_of_readable hreads
  rw [hrow] at hget
  exact (unlock_eq hlocked hget).1

/-- A row that cannot be read as a record fails the unlocking. -/
theorem unlock_of_unreadable {text : String} {e : VaultError}
    (hlocked : w.cache.sessionOf vault.id = none) (hreads : w.store.Readable vault.id)
    (hrow : w.store.recordText? vault.id = some text)
    (hparse : VaultRecord.ofStored text = .error e) : (vault.unlock w).1 = .error e := by
  have hget := StoreM.getRecord_of_readable hreads
  simp only [hrow, hparse] at hget
  exact (unlock_eq hlocked hget).1

/-- A record is unlocked by its secret, and a fault may be used up by the reading. -/
theorem unlock_of_record {text : String} {record : VaultRecord}
    (hlocked : w.cache.sessionOf vault.id = none) (hreads : w.store.Readable vault.id)
    (hrow : w.store.recordText? vault.id = some text)
    (hparse : VaultRecord.ofStored text = .ok record) :
    (vault.unlock w).1 = (do
      let secret ← vault.derived record w
      let bundle ← record.openWith vault.id secret.bytes
      return Session.ofBundle vault.id record.credentialId bundle w.now) ∧
    (vault.unlock w).2.store.faults = (Fault.check .get vault.id w.store.faults).2 := by
  have hget := StoreM.getRecord_of_readable hreads
  simp only [hrow, hparse] at hget
  obtain ⟨hresult, hstore⟩ := unlock_eq hlocked hget
  exact ⟨hresult, congrArg Store.faults hstore⟩

/-- The ways in which the unlocking of a record can end. -/
inductive OpenRun (vault : Vault) (record : VaultRecord) (w : World) :
    Except VaultError Session → Prop where
  /-- The platform or its user refuses. -/
  | refused {e : VaultError} (hderive : vault.derived record w = .error e) (hrefusal : e.IsRefusal) :
    OpenRun vault record w (.error e)
  /-- The envelope does not open. -/
  | unopened {secret : DerivedSecret} {key : Bytes} {e : VaultError}
    (hderive : vault.derived record w = .ok secret)
    (hkey : Keys.sealingKey secret.bytes record.salt = .ok key)
    (hopen : SecretBundle.openFor key vault.id record.envelope = .error e)
    (hcause : e = .integrity ∨ ∃ reason, e = .unsupportedSchema reason) :
    OpenRun vault record w (.error e)
  /-- The envelope has other keys than the record says. -/
  | foreign {secret : DerivedSecret} {key : Bytes} {bundle : SecretBundle}
    (hderive : vault.derived record w = .ok secret)
    (hkey : Keys.sealingKey secret.bytes record.salt = .ok key)
    (hopen : SecretBundle.openFor key vault.id record.envelope = .ok bundle)
    (hpublic : bundle.publicKeyHex ≠ record.publicKeyHex) :
    OpenRun vault record w (.error .integrity)
  /-- The vault is unlocked. -/
  | opened {secret : DerivedSecret} {key : Bytes} {bundle : SecretBundle}
    (hderive : vault.derived record w = .ok secret)
    (hkey : Keys.sealingKey secret.bytes record.salt = .ok key)
    (hopen : SecretBundle.openFor key vault.id record.envelope = .ok bundle)
    (hpublic : bundle.publicKeyHex = record.publicKeyHex) :
    OpenRun vault record w (.ok (Session.ofBundle vault.id record.credentialId bundle w.now))

/-- The unlocking of a record with a virtual authenticator ends in one of these ways. -/
theorem open_run {authenticator : VirtualAuthenticator} {text : String} {record : VaultRecord}
    (hplatform : w.device.platform = .virtual authenticator)
    (hlocked : w.cache.sessionOf vault.id = none) (hreads : w.store.Readable vault.id)
    (hrow : w.store.recordText? vault.id = some text)
    (hparse : VaultRecord.ofStored text = .ok record) :
    OpenRun vault record w (vault.unlock w).1 := by
  rw [(unlock_of_record hlocked hreads hrow hparse).1]
  rcases hderive : vault.derived record w with e | secret
  · exact .refused hderive (RelyingParty.deriveSecret_refusal _ _ _ (Prod.ext hderive rfl))
  -- The secret is not empty, and so there is a key.
  have hsecret : secret.bytes ≠ [] :=
    RelyingParty.deriveSecret_ne_nil hplatform (Prod.ext hderive rfl)
  obtain ⟨key, hkey⟩ := Keys.exists_sealingKey hsecret record.salt
  rw [ok_bind, VaultRecord.openWith_of_key hkey]
  rcases hopen : SecretBundle.openFor key vault.id record.envelope with e | bundle
  · exact .unopened hderive hkey hopen (SecretBundle.openFor_error hopen)
  · by_cases hpublic : bundle.publicKeyHex = record.publicKeyHex
    · simp only [if_pos hpublic, ok_bind]
      exact .opened hderive hkey hopen hpublic
    · simp only [if_neg hpublic, error_bind]
      exact .foreign hderive hkey hopen hpublic

end Vault

/-- Unlocking accepts only what the credential and the id of the vault authenticate. For a locked
vault on a virtual authenticator, whatever text is its row: without a row there is no vault; a text
that says no record has an unknown form; and a record is unlocked to a session exactly if the
credential of the record yields a secret for its salt, the envelope opens for the id of the vault
under the key of the secret and the salt, and the bundle in it has the public key of the record. The
session has the keys of that bundle and the credential of the record. Otherwise the failure is the
refusal of the platform, or that of the envelope, or, if only the public key is another one, that
the record is not authentic. -/
theorem unlock_authenticates {vault : Vault} {w : World} {authenticator : VirtualAuthenticator}
    (hplatform : w.device.platform = .virtual authenticator)
    (hlocked : w.cache.sessionOf vault.id = none) (hreads : w.store.Readable vault.id) :
    (w.store.recordText? vault.id = none →
      (vault.unlock w).1 = .error (.vaultNotFound vault.id)) ∧
    ∀ text, w.store.recordText? vault.id = some text →
      ((∀ record : VaultRecord, ¬record.WrittenIn text) →
        ∃ reason, (vault.unlock w).1 = .error (.unsupportedSchema reason)) ∧
      ∀ record : VaultRecord, record.WrittenIn text →
        (∀ session, (vault.unlock w).1 = .ok session ↔ ∃ secret key bundle,
          vault.derived record w = .ok secret ∧
          Keys.sealingKey secret.bytes record.salt = .ok key ∧
          SecretBundle.openFor key vault.id record.envelope = .ok bundle ∧
          bundle.publicKeyHex = record.publicKeyHex ∧
          session = Session.ofBundle vault.id record.credentialId bundle w.now) ∧
        ∀ e, (vault.unlock w).1 = .error e ↔
          (vault.derived record w = .error e ∧ e.IsRefusal) ∨
          ∃ secret key, vault.derived record w = .ok secret ∧
            Keys.sealingKey secret.bytes record.salt = .ok key ∧
            ((SecretBundle.openFor key vault.id record.envelope = .error e ∧
                (e = .integrity ∨ ∃ reason, e = .unsupportedSchema reason)) ∨
              ∃ bundle, SecretBundle.openFor key vault.id record.envelope = .ok bundle ∧
                bundle.publicKeyHex ≠ record.publicKeyHex ∧ e = .integrity) := by
  refine ⟨Vault.unlock_of_absent hlocked hreads, fun text hrow => ⟨fun hunsaid => ?_, ?_⟩⟩
  · rcases hparse : VaultRecord.ofStored text with e | record
    · obtain ⟨reason, rfl⟩ := VaultRecord.ofStored_error hparse
      exact ⟨reason, Vault.unlock_of_unreadable hlocked hreads hrow hparse⟩
    · exact absurd (VaultRecord.ofStored_eq_ok_iff.mp hparse) (hunsaid record)
  · intro record hrecord
    have hparse := VaultRecord.ofStored_eq_ok_iff.mpr hrecord
    have hrun := Vault.open_run hplatform hlocked hreads hrow hparse
    generalize (vault.unlock w).1 = r at hrun
    -- In each way to end, the parts that decide it are known, and so only one side can hold.
    cases hrun with
    | @refused cause hderive hrefusal =>
      refine ⟨by simp [hderive], fun e => ?_⟩
      have hsame : cause = e → e.IsRefusal := fun h => h ▸ hrefusal
      simpa [hderive] using hsame
    | @unopened _ _ cause hderive hkey hopen hcause =>
      refine ⟨by simp [hderive, hkey, hopen], fun e => ?_⟩
      have hsame : cause = e → e = .integrity ∨ ∃ reason, e = .unsupportedSchema reason :=
        fun h => h ▸ hcause
      simpa [hderive, hkey, hopen] using hsame
    | foreign hderive hkey hopen hpublic =>
      refine ⟨by simp [hderive, hkey, hopen, hpublic], fun e => ?_⟩
      rw [Except.error.injEq, eq_comm]
      simp [hderive, hkey, hopen, hpublic]
    | opened hderive hkey hopen hpublic =>
      refine ⟨fun session => ?_, by simp [hderive, hkey, hopen, hpublic]⟩
      rw [Except.ok.injEq, eq_comm]
      simp [hderive, hkey, hopen, hpublic]

/-- A vault that was made and then locked is unlocked with the secret of its credential. -/
theorem unlock_authenticates_made :
    ∃ (w : World) (text : String) (record : VaultRecord) (session : Session),
      w.cache.sessionOf "first" = none ∧ w.store.recordText? "first" = some text ∧
      record.WrittenIn text ∧ ((Vault.ofId "first").unlock w).1 = .ok session ∧
      ∃ secret key bundle, (Vault.ofId "first").derived record w = .ok secret ∧
        Keys.sealingKey secret.bytes record.salt = .ok key ∧
        SecretBundle.openFor key "first" record.envelope = .ok bundle ∧
        bundle.publicKeyHex = record.publicKeyHex ∧
        session = Session.ofBundle "first" record.credentialId bundle w.now := by
  obtain ⟨created, made, hcreate, hready, -⟩ := Vault.create_fresh
  obtain ⟨fixed, hmade⟩ := Vault.create_sealed rfl hcreate
  -- The session is forgotten, and nothing else changes.
  let w : World := { made with cache := .empty }
  have hkept : fixed.Kept w :=
    hmade.surround ⟨rfl, .inr rfl, rfl, fun authenticator h => ⟨authenticator, h, rfl, rfl⟩⟩
  have hready : (Vault.ofId "first").CanUnlock created.method w :=
    ⟨hready.readable, hready.offered, hready.allowed⟩
  obtain ⟨session, w', hunlock, -⟩ := hkept.unlock_ok rfl rfl hready
  have hok : ((Vault.ofId "first").unlock w).1 = .ok session := congrArg Prod.fst hunlock
  obtain ⟨authenticator, hplatform, -⟩ := hready.offered
  obtain ⟨text, hrow, hparse⟩ := hkept.row
  have hrecord := VaultRecord.ofStored_eq_ok_iff.mp hparse
  obtain ⟨-, hsaid⟩ := unlock_authenticates hplatform rfl (.of_row hready.readable hrow)
  have hopened := (((hsaid text hrow).2 fixed.record hrecord).1 session).mp hok
  exact ⟨w, text, fixed.record, session, rfl, hrow, hrecord, hok, hopened⟩

end CredentialVault
