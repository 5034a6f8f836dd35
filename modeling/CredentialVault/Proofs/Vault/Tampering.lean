import CredentialVault.Proofs.Crypto.Tag
import CredentialVault.Proofs.Store.Fault
import CredentialVault.Proofs.Vault.Opening

/-!
# Tampering with a stored record

Where the initialisation vector or the tag in the record of a locked vault was changed, unlocking
fails because the record is not authentic, and the vault stays locked (`tampering_caught`). It is so
for any envelope that the sealing key does not open (`Sealed.Kept.unlock_of_unauthentic`).
-/

namespace CredentialVault

open Operation VaultM

/-! ## Envelopes -/

/-- The envelope with its initialisation vector or its tag changed, and of the same form. -/
inductive Envelope.Tampered (envelope : Envelope) : Envelope → Prop where
  /-- Another initialisation vector. -/
  | iv {iv : Bytes} (hsize : iv.length = 12) (hne : iv ≠ envelope.iv) :
    Tampered envelope ⟨iv, envelope.ciphertext⟩
  /-- Another ciphertext, which differs within the last sixteen bytes. -/
  | tag {ciphertext : Bytes} (hsize : ciphertext.length = envelope.ciphertext.length)
    (hbody : ciphertext.take (envelope.ciphertext.length - 16) =
      envelope.ciphertext.take (envelope.ciphertext.length - 16))
    (hne : ciphertext ≠ envelope.ciphertext) : Tampered envelope ⟨envelope.iv, ciphertext⟩

/-- An envelope with a vector of twelve bytes is tampered with when a bit of each of them is
flipped. -/
theorem Envelope.Tampered.of_flip {envelope : Envelope} (h : envelope.iv.length = 12) :
    envelope.Tampered ⟨envelope.iv.map (· ^^^ 1), envelope.ciphertext⟩ := by
  refine .iv ((List.length_map _).trans h) fun hsame => ?_
  rcases hiv : envelope.iv with _ | ⟨byte, rest⟩ <;> rw [hiv] at h hsame
  · cases h
  · have hbyte : byte ^^^ 1 = byte ^^^ 0 := (List.cons.inj hsame).1.trans UInt8.xor_zero.symm
    cases (UInt8.xor_right_inj byte).mp hbyte

/-- An envelope that opens does not open any more when its vector or its tag was changed. -/
theorem Envelope.Tampered.decrypt {envelope tampered : Envelope} (h : envelope.Tampered tampered)
    {key aad plaintext : Bytes}
    (hopen : Aead.decrypt key aad envelope.iv envelope.ciphertext = .ok plaintext) :
    Aead.decrypt key aad tampered.iv tampered.ciphertext = .error .integrity := by
  cases h with
  | iv hsize hne => exact Aead.decrypt_of_iv_ne hopen hsize hne
  | tag hsize hbody hne => exact Aead.decrypt_of_tag_ne hopen hsize hbody hne

namespace SecretBundle

variable {key : Bytes} {vaultId : String} {envelope : Envelope}

/-- An envelope that opens is decrypted. -/
theorem decrypt_of_openFor {bundle : SecretBundle} (h : openFor key vaultId envelope = .ok bundle) :
    ∃ plaintext,
      Aead.decrypt key (associatedData vaultId) envelope.iv envelope.ciphertext = .ok plaintext := by
  unfold openFor at h
  rcases hdecrypt : Aead.decrypt key (associatedData vaultId) envelope.iv envelope.ciphertext with
    e | plaintext
  · rw [hdecrypt] at h
    cases h
  · exact ⟨plaintext, rfl⟩

/-- An envelope that is not decrypted does not open. -/
theorem openFor_of_decrypt {e : VaultError}
    (h : Aead.decrypt key (associatedData vaultId) envelope.iv envelope.ciphertext = .error e) :
    openFor key vaultId envelope = .error e := by
  unfold openFor
  rw [h, error_bind]

end SecretBundle

/-! ## Locked vaults -/

/-- The world in which a text was put into the row of a record, whatever it is. -/
def World.withRow (w : World) (id text : String) : World :=
  { w with store := w.store.setRecordText id text }

/-- A vault with a row and without a session is locked. -/
theorem Vault.state_of_row {vault : Vault} {w : World} {text : String}
    (hlocked : w.cache.sessionOf vault.id = none)
    (hfault : (Fault.check .contains vault.id w.store.faults).1 = none)
    (hrow : w.store.recordText? vault.id = some text) : (vault.state w).1 = .ok .locked := by
  obtain ⟨store, hfound⟩ := StoreM.contains_of_row hfault hrow
  have hlook : vault.session w = (.ok none, w) := hlocked ▸ rfl
  unfold state
  rw [run_bind_of_ok hlook, if_neg (by simp), run_bind_of_ok (onStore_of_run hfound)]
  rfl

/-- Where what the making of a vault fixed is kept, and the record was replaced by one of the same
credential and salt with an envelope that is not authentic, unlocking fails for that reason and
leaves the vault locked. -/
theorem Sealed.Kept.unlock_of_unauthentic {vault : Vault} {created : CreatedVault}
    {fixed : Sealed vault created} {w : World} (h : fixed.Kept w)
    (hlocked : w.cache.sessionOf vault.id = none) (hready : vault.CanUnlock created.method w)
    {text : String} {record : VaultRecord} (hparse : VaultRecord.ofStored text = .ok record)
    (hcredential : record.credentialId = fixed.record.credentialId)
    (hsalt : record.salt = fixed.record.salt)
    (hopen : SecretBundle.openFor fixed.sealing vault.id record.envelope = .error .integrity) :
    ∃ w', vault.unlock (w.withRow vault.id text) = (.error .integrity, w') ∧
      w'.cache = w.cache ∧
      (Fault.checkAll w.store.faults [(.get, vault.id), (.contains, vault.id)] = [none, none] →
        (vault.state w').1 = .ok .locked) := by
  have hunopened : (w.withRow vault.id text).cache.sessionOf vault.id = none := hlocked
  obtain ⟨before, hbefore, -⟩ := h.row
  have htable := (Store.Readable.of_row hready.readable hbefore).table
  have hrow : (w.withRow vault.id text).store.recordText? vault.id = some text :=
    (Store.recordText?_setRecordText htable vault.id text vault.id).trans (if_pos rfl)
  have hreads : (w.withRow vault.id text).store.Readable vault.id := .of_row hready.readable hrow
  -- The secret is that of the making, and under its key the envelope does not open.
  obtain ⟨device, hderive⟩ := h.deriveSecret_ok rfl hready
  rw [← hcredential, ← hsalt] at hderive
  have hderived : vault.derived record (w.withRow vault.id text) =
      .ok ⟨created.method, fixed.secret⟩ := congrArg Prod.fst hderive
  have hkey : Keys.sealingKey fixed.secret record.salt = .ok fixed.sealing :=
    hsalt ▸ fixed.sealing_eq
  obtain ⟨hresult, hfaults⟩ := Vault.unlock_of_record hunopened hreads hrow hparse
  rw [hderived, ok_bind, VaultRecord.openWith_of_key hkey] at hresult
  simp only [hopen, error_bind] at hresult
  rcases hrun : vault.unlock (w.withRow vault.id text) with ⟨r, w'⟩
  rw [hrun] at hresult hfaults
  obtain rfl : r = .error .integrity := hresult
  cases Vault.unlock_run hrun with
  | failed hsame =>
    have hcache : w'.cache = w.cache := hsame.cache
    have hkept : w'.store.recordText? vault.id = some text :=
      (hsame.recordText? vault.id).trans hrow
    refine ⟨w', rfl, hcache, fun hpass => ?_⟩
    -- The reading used up its faults, and those that are left let the call pass.
    have hpass : (Fault.check .contains vault.id w'.store.faults).1 = none := by
      rw [hfaults]
      exact (List.cons.inj (List.cons.inj hpass).2).1
    exact Vault.state_of_row (by rw [hcache, hlocked]) hpass hkept

/-- A changed initialisation vector or tag is always caught. What is sealed under any key, for any
associated data, does not open when its vector is replaced by other twelve bytes, or any of the last
sixteen bytes of the ciphertext; and so when the record of a locked vault is changed in this way,
then unlocking with the mechanism of its making fails because the record is not authentic, and the
vault stays locked. -/
theorem tampering_caught :
    (∀ (key aad plaintext iv : Bytes) (tampered : Envelope), key.length = 32 → iv.length = 12 →
      Envelope.Tampered ⟨iv, Gcm.encrypt key iv aad plaintext⟩ tampered →
        Aead.decrypt key aad tampered.iv tampered.ciphertext = .error .integrity) ∧
    (∀ (key aad plaintext iv sealed : Bytes) (random later : RandomStream) (tampered : Envelope),
      Aead.encrypt key aad plaintext random = (.ok (iv, sealed), later) →
      Envelope.Tampered ⟨iv, sealed⟩ tampered →
        Aead.decrypt key aad tampered.iv tampered.ciphertext = .error .integrity) ∧
    ∀ (vault : Vault) (migrates : Bool) (before start w : World) (created : CreatedVault)
      (authenticator : VirtualAuthenticator) (text changed : String) (record : VaultRecord)
      (tampered : Envelope),
      before.device.platform = .virtual authenticator →
      vault.create migrates before = (.ok created, start) → History vault created start w →
      w.cache.sessionOf vault.id = none → vault.CanUnlock created.method w →
      w.store.recordText? vault.id = some text → VaultRecord.ofStored text = .ok record →
      record.envelope.Tampered tampered →
      VaultRecord.ofStored changed = .ok { record with envelope := tampered } →
        ∃ w', vault.unlock (w.withRow vault.id changed) = (.error .integrity, w') ∧
          w'.cache = w.cache ∧
          (Fault.checkAll w.store.faults [(.get, vault.id), (.contains, vault.id)] = [none, none] →
            (vault.state w').1 = .ok .locked) := by
  refine ⟨?_, ?_, ?_⟩
  · intro key aad plaintext iv tampered hkey hiv htampered
    exact htampered.decrypt (Aead.decrypt_of_sizes hkey hiv aad plaintext)
  · intro key aad plaintext iv sealed random later tampered hencrypt htampered
    exact htampered.decrypt (Aead.decrypt_encrypt hencrypt)
  · intro vault migrates before start w created authenticator text changed record tampered hplatform
      hcreate hhistory hlocked hready hrow hparse htampered hchanged
    obtain ⟨fixed, hstart⟩ := Vault.create_sealed hplatform hcreate
    have hkept := hhistory.kept hstart
    -- The record is that of the making, whose envelope opens.
    obtain rfl : record = fixed.record := by
      obtain ⟨text', hrow', hparse'⟩ := hkept.row
      obtain rfl := Option.some.inj (hrow.symm.trans hrow')
      exact Except.ok.inj (hparse.symm.trans hparse')
    obtain ⟨plaintext, hdecrypt⟩ := SecretBundle.decrypt_of_openFor fixed.open_eq
    exact hkept.unlock_of_unauthentic hlocked hready hchanged rfl rfl
      (SecretBundle.openFor_of_decrypt (htampered.decrypt hdecrypt))

/-- A bit of each byte of a vector is flipped: in what was sealed under some key, by the cipher and
with a vector that was drawn, and in the record of a vault that was made and locked. -/
theorem tampering_caught_flipped :
    (∃ tampered, Envelope.Tampered ⟨List.replicate 12 0,
        Gcm.encrypt (List.replicate 32 0) (List.replicate 12 0) [] [1, 2, 3]⟩ tampered ∧
      Aead.decrypt (List.replicate 32 0) [] tampered.iv tampered.ciphertext = .error .integrity) ∧
    (∃ iv sealed later tampered,
      Aead.encrypt (List.replicate 32 0) [] [1, 2, 3] (.counting 0) = (.ok (iv, sealed), later) ∧
      Envelope.Tampered ⟨iv, sealed⟩ tampered ∧
      Aead.decrypt (List.replicate 32 0) [] tampered.iv tampered.ciphertext = .error .integrity) ∧
    ∃ (w w' : World) (text changed : String) (record : VaultRecord) (tampered : Envelope),
      w.store.recordText? "first" = some text ∧ VaultRecord.ofStored text = .ok record ∧
      record.envelope.Tampered tampered ∧
      VaultRecord.ofStored changed = .ok { record with envelope := tampered } ∧
      (Vault.ofId "first").unlock (w.withRow "first" changed) = (.error .integrity, w') ∧
      ((Vault.ofId "first").state w').1 = .ok .locked := by
  obtain ⟨hcipher, hdrawn, hvault⟩ := tampering_caught
  refine ⟨⟨_, .of_flip rfl, hcipher _ _ _ _ _ rfl rfl (.of_flip rfl)⟩, ?_, ?_⟩
  · have hsize := RandomStream.length_draw (.counting 0) Gcm.ivSize
    obtain ⟨sealed, later, hencrypt⟩ : ∃ sealed later,
        Aead.encrypt (List.replicate 32 0) [] [1, 2, 3] (.counting 0) =
          (.ok (((RandomStream.counting 0).draw Gcm.ivSize).1, sealed), later) := ⟨_, _, rfl⟩
    exact ⟨_, _, _, _, hencrypt, .of_flip hsize,
      hdrawn _ _ _ _ _ _ _ _ hencrypt (.of_flip hsize)⟩
  · obtain ⟨created, made, hcreate, hready, hfaults⟩ := Vault.create_fresh
    obtain ⟨fixed, hmade⟩ := Vault.create_sealed rfl hcreate
    obtain ⟨text, hrow, hparse⟩ := hmade.row
    have hrecord := VaultRecord.ofStored_eq_ok_iff.mp hparse
    -- The changed record has the sizes of the old one, and so it is stored and read back.
    let tampered : Envelope :=
      ⟨fixed.record.envelope.iv.map (· ^^^ 1), fixed.record.envelope.ciphertext⟩
    have htampered : fixed.record.envelope.Tampered tampered := .of_flip hrecord.iv
    have hvalid : ({ fixed.record with envelope := tampered } : VaultRecord).validate = .ok () :=
      VaultRecord.validate_eq_ok_iff.mpr ⟨hrecord.version, hrecord.salt,
        (List.length_map _).trans hrecord.iv, hrecord.id⟩
    have hchanged := VaultRecord.ofStored_toStored hvalid
    -- To lock the vault leaves no session.
    have hhistory : History (Vault.ofId "first") created made
        (VaultOperation.lock.after (.ofId "first") made) :=
      .operate .start (.ofId "first") .lock ⟨nofun, nofun, nofun⟩
    have hlocked : (VaultOperation.lock.after (.ofId "first") made).cache.sessionOf "first" = none :=
      SessionCache.sessionOf_clearVault_self made.cache "first"
    obtain ⟨w', hunlock, -, hstate⟩ := hvault (.ofId "first") false .fresh made _ created _ text _
      fixed.record tampered rfl hcreate hhistory hlocked
      ⟨hready.readable, hready.offered, hready.allowed⟩ hrow hparse htampered hchanged
    refine ⟨VaultOperation.lock.after (.ofId "first") made, w', text, _, fixed.record, tampered,
      hrow, hparse, htampered, hchanged, hunlock, hstate ?_⟩
    show Fault.checkAll made.store.faults _ = _
    rw [hfaults]
    rfl

end CredentialVault
