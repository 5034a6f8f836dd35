import CredentialVault.Proofs.Crypto.BitFlip
import CredentialVault.Proofs.Vault.Tampering

/-!
# A flipped bit of a stored ciphertext

Where one bit of the ciphertext in the record of a locked vault was flipped, in the sealed content
or in its tag, unlocking fails because the record is not authentic, and the vault stays locked
without a session (`flippedBit_caught`). It is so for every sealing key whose point is not zero.
-/

namespace CredentialVault

open Operation VaultM

/-- The envelope with a bit of its ciphertext flipped. -/
def Envelope.flip (envelope : Envelope) (n : Nat) : Envelope :=
  { envelope with ciphertext := envelope.ciphertext.flip n }

/-- An envelope that opens does not open any more when a bit of its ciphertext was flipped, unless
the point of the key is zero. -/
theorem SecretBundle.openFor_flip {key : Bytes} {vaultId : String} {envelope : Envelope}
    {bundle : SecretBundle} (hpoint : Gcm.point key ≠ 0)
    (h : openFor key vaultId envelope = .ok bundle) {n : Nat}
    (hn : n < 8 * envelope.ciphertext.length) :
    openFor key vaultId (envelope.flip n) = .error .integrity := by
  obtain ⟨plaintext, hdecrypt⟩ := decrypt_of_openFor h
  exact openFor_of_decrypt (Aead.decrypt_of_flip hpoint hdecrypt hn)

/-- A vault that was made is stored with the record that was drafted for it. -/
theorem Vault.createWith_record {vault : Vault} {legacy : Option LegacyKey} {w made : World}
    {created : CreatedVault} (h : vault.createWith legacy w = (.ok created, made)) :
    ∃ draft text, (vault.draft (legacy.map (·.privateKey)) w).1 = .ok draft ∧
      made.store.recordText? vault.id = some text ∧ VaultRecord.ofStored text = .ok draft.record := by
  unfold createWith at h
  obtain ⟨draft, ready, hdraft, h⟩ := bind_ok h
  obtain ⟨_, stored, hpersist, h⟩ := bind_ok h
  cases h
  obtain ⟨hrun⟩ := draft_run hdraft
  obtain ⟨hvalid, hrow⟩ := persist_ok hpersist
  rw [hrun.id_eq] at hrow
  exact ⟨draft, _, congrArg Prod.fst hdraft, hrow, VaultRecord.ofStored_toStored hvalid⟩

/-- A flipped bit of a ciphertext is always caught. What is sealed under any key whose point is not
zero, for any associated data, does not open when any one bit of the ciphertext or the tag is
flipped; and so when a bit of the ciphertext in the record of a locked vault is flipped, whose
sealing key has such a point, then unlocking with the mechanism of its making fails because the
record is not authentic, and the vault stays locked and has no session. -/
theorem flippedBit_caught :
    (∀ (key aad plaintext iv : Bytes) (n : Nat), key.length = 32 → iv.length = 12 →
      Gcm.point key ≠ 0 → n < 8 * (Gcm.encrypt key iv aad plaintext).length →
        Aead.decrypt key aad iv ((Gcm.encrypt key iv aad plaintext).flip n) = .error .integrity) ∧
    (∀ (key aad plaintext iv sealed : Bytes) (random later : RandomStream) (n : Nat),
      Aead.encrypt key aad plaintext random = (.ok (iv, sealed), later) →
      Gcm.point key ≠ 0 → n < 8 * sealed.length →
        Aead.decrypt key aad iv (sealed.flip n) = .error .integrity) ∧
    ∀ (vault : Vault) (migrates : Bool) (before start w : World) (created : CreatedVault)
      (authenticator : VirtualAuthenticator) (text changed : String) (record : VaultRecord)
      (secret : DerivedSecret) (key : Bytes) (n : Nat),
      before.device.platform = .virtual authenticator →
      vault.create migrates before = (.ok created, start) → History vault created start w →
      w.cache.sessionOf vault.id = none → vault.CanUnlock created.method w →
      w.store.recordText? vault.id = some text → VaultRecord.ofStored text = .ok record →
      vault.derived record w = .ok secret → Keys.sealingKey secret.bytes record.salt = .ok key →
      Gcm.point key ≠ 0 → n < 8 * record.envelope.ciphertext.length →
      VaultRecord.ofStored changed = .ok { record with envelope := record.envelope.flip n } →
        ∃ w', vault.unlock (w.withRow vault.id changed) = (.error .integrity, w') ∧
          w'.cache = w.cache ∧
          (Fault.checkAll w.store.faults [(.get, vault.id), (.contains, vault.id)] = [none, none] →
            (vault.state w').1 = .ok .locked) := by
  refine ⟨?_, ?_, ?_⟩
  · intro key aad plaintext iv n hkey hiv hpoint hn
    exact Aead.decrypt_of_flip hpoint (Aead.decrypt_of_sizes hkey hiv aad plaintext) hn
  · intro key aad plaintext iv sealed random later n hencrypt hpoint hn
    exact Aead.decrypt_of_flip hpoint (Aead.decrypt_encrypt hencrypt) hn
  · intro vault migrates before start w created authenticator text changed record secret key n
      hplatform hcreate hhistory hlocked hready hrow hparse hderive hkey hpoint hn hchanged
    obtain ⟨fixed, hstart⟩ := Vault.create_sealed hplatform hcreate
    have hkept := hhistory.kept hstart
    -- The record is that of the making, and the key is the one under which it was sealed.
    obtain rfl : record = fixed.record := by
      obtain ⟨text', hrow', hparse'⟩ := hkept.row
      obtain rfl := Option.some.inj (hrow.symm.trans hrow')
      exact Except.ok.inj (hparse.symm.trans hparse')
    obtain rfl : secret = ⟨created.method, fixed.secret⟩ := by
      obtain ⟨device, hsecret⟩ := hkept.deriveSecret_ok rfl hready
      have hsame : vault.derived fixed.record w = .ok ⟨created.method, fixed.secret⟩ :=
        congrArg Prod.fst hsecret
      exact Except.ok.inj (hderive.symm.trans hsame)
    obtain rfl : key = fixed.sealing := Except.ok.inj (hkey.symm.trans fixed.sealing_eq)
    exact hkept.unlock_of_unauthentic hlocked hready hchanged rfl rfl
      (SecretBundle.openFor_flip hpoint fixed.open_eq hn)

/-- A bit is flipped: in what was sealed under some key, by the cipher and with a vector that was
drawn, and in the record of a vault that was made and locked. -/
theorem flippedBit_caught_first :
    (∃ n, n < 8 * (Gcm.encrypt (List.replicate 32 0) (List.replicate 12 0) [] [1, 2, 3]).length ∧
      Aead.decrypt (List.replicate 32 0) [] (List.replicate 12 0)
        ((Gcm.encrypt (List.replicate 32 0) (List.replicate 12 0) [] [1, 2, 3]).flip n) =
          .error .integrity) ∧
    (∃ iv sealed later n,
      Aead.encrypt (List.replicate 32 0) [] [1, 2, 3] (.counting 0) = (.ok (iv, sealed), later) ∧
      n < 8 * sealed.length ∧
      Aead.decrypt (List.replicate 32 0) [] iv (sealed.flip n) = .error .integrity) ∧
    ∃ (w w' : World) (text changed : String) (record : VaultRecord) (n : Nat),
      w.store.recordText? "first" = some text ∧ VaultRecord.ofStored text = .ok record ∧
      n < 8 * record.envelope.ciphertext.length ∧
      VaultRecord.ofStored changed = .ok { record with envelope := record.envelope.flip n } ∧
      (Vault.ofId "first").unlock (w.withRow "first" changed) = (.error .integrity, w') ∧
      ((Vault.ofId "first").state w').1 = .ok .locked := by
  obtain ⟨hcipher, hdrawn, hvault⟩ := flippedBit_caught
  have hzero : Gcm.point (List.replicate 32 0) ≠ 0 := by decide +kernel
  -- What opens has a tag, and so a first bit.
  have hfirst : ∀ {key aad iv sealed plaintext : Bytes},
      Aead.decrypt key aad iv sealed = .ok plaintext → 0 < 8 * sealed.length := by
    intro key aad iv sealed plaintext hopen
    have hsize : 16 ≤ sealed.length := (Aead.authentic_of_decrypt hopen).2.2.size
    omega
  refine ⟨?_, ?_, ?_⟩
  · have hopen : Aead.decrypt (List.replicate 32 0) [] (List.replicate 12 0)
        (Gcm.encrypt (List.replicate 32 0) (List.replicate 12 0) [] [1, 2, 3]) = .ok [1, 2, 3] :=
      Aead.decrypt_of_sizes rfl rfl [] [1, 2, 3]
    exact ⟨0, hfirst hopen, hcipher _ _ _ _ _ rfl rfl hzero (hfirst hopen)⟩
  · obtain ⟨iv, sealed, later, hencrypt⟩ : ∃ iv sealed later,
        Aead.encrypt (List.replicate 32 0) [] [1, 2, 3] (.counting 0) = (.ok (iv, sealed), later) :=
      ⟨_, _, _, rfl⟩
    have hbit := hfirst (Aead.decrypt_encrypt hencrypt)
    exact ⟨iv, sealed, later, 0, hencrypt, hbit, hdrawn _ _ _ _ _ _ _ _ hencrypt hzero hbit⟩
  · obtain ⟨created, made, hcreate, hready, hfaults⟩ := Vault.create_fresh
    have hlook : onStore (StoreM.contains "first") World.fresh = (.ok false, .fresh) := rfl
    have hwith : (Vault.ofId "first").createWith none .fresh = (.ok created, made) :=
      (@Vault.create_of_absent (.ofId "first") false _ _ hlook).symm.trans hcreate
    obtain ⟨draft, text, hdraft, hrow, hparse⟩ := Vault.createWith_record hwith
    have hrecord := VaultRecord.ofStored_eq_ok_iff.mp hparse
    -- To lock the vault leaves no session.
    have hhistory : History (Vault.ofId "first") created made
        (VaultOperation.lock.after (.ofId "first") made) :=
      .operate .start (.ofId "first") .lock ⟨nofun, nofun, nofun⟩
    have hlocked : (VaultOperation.lock.after (.ofId "first") made).cache.sessionOf "first" = none :=
      SessionCache.sessionOf_clearVault_self made.cache "first"
    -- The secret, the key and its point are computed from what was drawn.
    have hcomputed : ((Vault.ofId "first").draft none .fresh).1.toOption.any (fun draft =>
        ((Vault.ofId "first").derived draft.record (VaultOperation.lock.after (.ofId "first")
          ((Vault.ofId "first").create false .fresh).2)).toOption.any fun secret =>
        (Keys.sealingKey secret.bytes draft.record.salt).toOption.any (Gcm.point · ≠ 0)) = true := by
      decide +kernel
    rw [hcreate] at hcomputed
    obtain ⟨draft', hdraft', hcomputed⟩ := ok_of_any hcomputed
    obtain rfl := Except.ok.inj (hdraft.symm.trans hdraft')
    obtain ⟨secret, hsecret, hcomputed⟩ := ok_of_any hcomputed
    obtain ⟨key, hkey, hpoint⟩ := ok_of_any hcomputed
    have hpoint : Gcm.point key ≠ 0 := of_decide_eq_true hpoint
    -- The changed record has the sizes of the old one, and so it is stored and read back.
    have hbit : 0 < 8 * draft.record.envelope.ciphertext.length := by
      obtain ⟨fixed, hmade⟩ := Vault.create_sealed rfl hcreate
      obtain ⟨text', hrow', hparse'⟩ := hmade.row
      obtain rfl := Option.some.inj (hrow.symm.trans hrow')
      obtain ⟨plaintext, hopen⟩ := SecretBundle.decrypt_of_openFor fixed.open_eq
      rw [Except.ok.inj (hparse.symm.trans hparse')]
      exact hfirst hopen
    have hvalid : ({ draft.record with envelope := draft.record.envelope.flip 0 } :
        VaultRecord).validate = .ok () :=
      VaultRecord.validate_eq_ok_iff.mpr ⟨hrecord.version, hrecord.salt, hrecord.iv, hrecord.id⟩
    have hchanged := VaultRecord.ofStored_toStored hvalid
    obtain ⟨w', hunlock, -, hstate⟩ := hvault (.ofId "first") false .fresh made _ created _ text _
      draft.record secret key 0 rfl hcreate hhistory hlocked
      ⟨hready.readable, hready.offered, hready.allowed⟩ hrow hparse hsecret hkey hpoint hbit hchanged
    refine ⟨VaultOperation.lock.after (.ofId "first") made, w', text, _, draft.record, 0, hrow, hparse,
      hbit, hchanged, hunlock, hstate ?_⟩
    show Fault.checkAll made.store.faults _ = _
    rw [hfaults]
    rfl

end CredentialVault
