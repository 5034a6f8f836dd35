import CredentialVault.Proofs.Crypto.Sealed
import CredentialVault.Proofs.Vault.Bundle

/-!
# What sealing and opening bundles come to

A bundle that was sealed for a vault opens for it to the same bundle, whatever initialisation vector
is drawn. An envelope that opens to no bundle fails in one of two ways: it is not decrypted, or what
is decrypted says no bundle (`WrittenIn`). No two vaults share their associated data
(`associatedData_inj`). All of this is `sealing_exact`.
-/

namespace CredentialVault.SecretBundle

open Json Operation

variable {key plaintext : Bytes} {vaultId : String} {bundle : SecretBundle} {envelope : Envelope}

/-! ## Sealing -/

/-- The envelope of a bundle when the given initialisation vector is drawn. -/
def sealAt (bundle : SecretBundle) (iv key : Bytes) (vaultId : String) :
    Except VaultError Envelope :=
  (Aead.encryptAt iv key (associatedData vaultId) (Bytes.ofText bundle.plaintext)).map
    fun (iv, ciphertext) => ⟨iv, ciphertext⟩

/-- To seal a bundle is to draw an initialisation vector and to seal the bundle with it. -/
theorem sealFor_eq (bundle : SecretBundle) (key : Bytes) (vaultId : String) (random : RandomStream) :
    (bundle.sealFor key vaultId random).1 =
      bundle.sealAt (random.draw Gcm.ivSize).1 key vaultId := by
  unfold sealFor sealAt
  rw [← Aead.encrypt_eq]

/-- A bundle is sealed and opens again exactly if the key and the initialisation vector have the
sizes that the cipher wants. -/
theorem open_sealAt_iff (bundle : SecretBundle) (iv key : Bytes) (vaultId : String) :
    (do openFor key vaultId (← bundle.sealAt iv key vaultId)) = .ok bundle ↔
      key.length = Aead.keySize ∧ iv.length = Gcm.ivSize := by
  unfold sealAt Aead.encryptAt
  by_cases hkey : key.length = Aead.keySize
  · rw [if_pos hkey, Except.map, ok_bind, openFor]
    dsimp only
    by_cases hiv : iv.length = Gcm.ivSize
    · rw [Aead.decrypt_of_sizes hkey hiv, ok_bind, ofPlaintext_plaintext]
      exact iff_of_true rfl ⟨hkey, hiv⟩
    · -- A vector of another size is sealed with, but not opened with.
      have hrefused : ∀ sealed, Aead.decrypt key (associatedData vaultId) iv sealed =
          .error .integrity := fun sealed => if_neg fun h => hiv h.1
      rw [hrefused, error_bind]
      exact iff_of_false nofun fun h => hiv h.2
  · rw [if_neg hkey]
    exact iff_of_false nofun fun h => hkey h.1

/-! ## Opening -/

/-- A plaintext says a bundle: it is JSON with the version of bundles and two texts, which are the
base64 texts of the keys, each of 32 bytes. -/
structure WrittenIn (bundle : SecretBundle) (plaintext : Bytes) : Prop where
  /-- The plaintext reads as JSON with the two texts. -/
  parsed : ∃ primary secondary, fields.read.run plaintext = .ok ⟨some 1, some primary, some secondary⟩ ∧
    Base64Url.decodeExact 32 primary = .ok bundle.primaryKey.bytes ∧
      Base64Url.decodeExact 32 secondary = .ok bundle.secondaryKey.bytes

/-- A text reads as a key exactly if it is the base64 text of the bytes of the key. -/
theorem readKey_eq_ok_iff {name text : String} {key : Keys.PrivateKey} :
    readKey name text = .ok key ↔ Base64Url.decodeExact 32 text = .ok key.bytes := by
  unfold readKey Base64Url.decodeExact Keys.PrivateKey.ofBytes?
  rcases Base64Url.decode text with e | bytes
  · exact iff_of_false nofun nofun
  · rw [ok_bind]
    dsimp only [Except.toOption, Option.bind_some]
    by_cases hsize : bytes.length = Keys.privateKeySize
    · rw [dif_pos hsize, if_pos (show bytes.length = 32 from hsize)]
      constructor
      · intro h
        rw [← Except.ok.inj h]
        rfl
      · intro h
        have hbytes : bytes = key.bytes := Except.ok.inj h
        subst hbytes
        rfl
    · rw [dif_neg hsize, if_neg (show ¬bytes.length = 32 from hsize)]
      exact iff_of_false nofun nofun

/-- A key that a text may lack is read only if the text is there. -/
theorem readKey_getD {name : String} {text? : Option String} {key : Keys.PrivateKey}
    (h : readKey name (text?.getD "") = .ok key) : ∃ text, text? = some text := by
  rcases text? with _ | text
  · -- The empty text is the base64 text of no bytes.
    have hread := readKey_eq_ok_iff.mp h
    have hempty : Base64Url.decode "" = .ok [] := Base64Url.decode_encode []
    unfold Base64Url.decodeExact at hread
    rw [Option.getD_none, hempty] at hread
    cases hread
  · exact ⟨text, rfl⟩

/-- A plaintext is read as a bundle exactly if it says it. -/
theorem ofPlaintext_eq_ok_iff : ofPlaintext plaintext = .ok bundle ↔ bundle.WrittenIn plaintext := by
  unfold ofPlaintext
  constructor
  · intro h
    rcases hread : fields.read.run plaintext with e | ⟨version, primary?, secondary?⟩ <;>
      rw [hread] at h
    · cases h
    dsimp only at h
    split at h
    · cases h
    next hversion =>
    rcases hprimary : readKey "primary" (primary?.getD "") with e | primaryKey <;>
      rw [hprimary] at h
    · cases h
    rcases hsecondary : readKey "secondary" (secondary?.getD "") with e | secondaryKey <;>
      rw [ok_bind, hsecondary] at h
    · cases h
    cases h
    obtain ⟨primary, rfl⟩ := readKey_getD hprimary
    obtain ⟨secondary, rfl⟩ := readKey_getD hsecondary
    -- Without a version the draft would have the version 0.
    have hsome : version = some 1 := by
      rcases version with _ | version
      · exact absurd (by decide) hversion
      · rw [show version = 1 from Decidable.not_not.mp hversion]
    subst hsome
    exact ⟨primary, secondary, hread, readKey_eq_ok_iff.mp hprimary, readKey_eq_ok_iff.mp hsecondary⟩
  · rintro ⟨primary, secondary, hread, hprimary, hsecondary⟩
    have hfirst : readKey "primary" primary = .ok bundle.primaryKey := readKey_eq_ok_iff.mpr hprimary
    have hsecond : readKey "secondary" secondary = .ok bundle.secondaryKey :=
      readKey_eq_ok_iff.mpr hsecondary
    rw [hread]
    dsimp only [Option.getD_some]
    rw [hfirst, ok_bind, hsecond]
    rfl

/-- An envelope that is decrypted opens as its plaintext is read. -/
theorem openFor_of_plaintext
    (h : Aead.decrypt key (associatedData vaultId) envelope.iv envelope.ciphertext = .ok plaintext) :
    openFor key vaultId envelope = ofPlaintext plaintext := by
  unfold openFor
  rw [h, ok_bind]

/-! ## The associated data -/

/-- The associated data tell the vault. -/
theorem associatedData_inj {first second : String} :
    associatedData first = associatedData second ↔ first = second := by
  constructor
  · intro h
    have htexts : associatedText first = associatedText second := Bytes.ofText_injective h
    -- The id stands between a fixed beginning and a fixed end.
    have hlists := congrArg String.toList htexts
    unfold associatedText at hlists
    simp only [String.toList_append] at hlists
    have hbetween := List.append_cancel_right (List.append_cancel_right hlists)
    exact String.toList_inj.mp (List.append_cancel_left hbetween)
  · rintro rfl
    rfl

/-! ## All outcomes -/

/-- Sealing under a key of 32 bytes with a vector of twelve and opening again gives the same bundle.
Opening fails as not authentic exactly if the envelope is not decrypted under the associated data of
the vault, fails for its form exactly if it is decrypted to what says no bundle, and gives a bundle
exactly if it is decrypted to what says the bundle; there is no other outcome. Different vaults have
different associated data. -/
theorem sealing_exact :
    (∀ (bundle : SecretBundle) (key : Bytes) (vaultId : String) (random : RandomStream),
      (bundle.sealFor key vaultId random).1 = bundle.sealAt (random.draw 12).1 key vaultId) ∧
    (∀ (bundle : SecretBundle) (iv key : Bytes) (vaultId : String),
      (do openFor key vaultId (← bundle.sealAt iv key vaultId)) = .ok bundle ↔
        key.length = 32 ∧ iv.length = 12) ∧
    (∀ (key : Bytes) (vaultId : String) (envelope : Envelope),
      let decrypted := Aead.decrypt key (associatedData vaultId) envelope.iv envelope.ciphertext
      (openFor key vaultId envelope = .error .integrity ↔ ∃ e, decrypted = .error e) ∧
      ((∃ reason, openFor key vaultId envelope = .error (.unsupportedSchema reason)) ↔
        ∃ plaintext, decrypted = .ok plaintext ∧ ¬∃ bundle : SecretBundle, bundle.WrittenIn plaintext) ∧
      (∀ bundle, openFor key vaultId envelope = .ok bundle ↔
        ∃ plaintext, decrypted = .ok plaintext ∧ bundle.WrittenIn plaintext) ∧
      ((∃ bundle, openFor key vaultId envelope = .ok bundle) ∨
        openFor key vaultId envelope = .error .integrity ∨
        ∃ reason, openFor key vaultId envelope = .error (.unsupportedSchema reason))) ∧
    ∀ first second : String, associatedData first = associatedData second ↔ first = second := by
  refine ⟨sealFor_eq, open_sealAt_iff, fun key vaultId envelope => ?_, fun _ _ => associatedData_inj⟩
  dsimp only
  rcases hdecrypt : Aead.decrypt key (associatedData vaultId) envelope.iv envelope.ciphertext with
    e | plaintext
  · -- What is not decrypted is not authentic.
    have hopen : openFor key vaultId envelope = .error .integrity := by
      unfold openFor
      rw [hdecrypt, error_bind, Aead.decrypt_error hdecrypt]
    rw [hopen]
    refine ⟨iff_of_true rfl ⟨e, rfl⟩, iff_of_false nofun nofun, fun _ => iff_of_false nofun nofun, ?_⟩
    exact .inr (.inl rfl)
  rw [openFor_of_plaintext hdecrypt]
  rcases hread : ofPlaintext plaintext with e | bundle
  · -- What is decrypted and not read has a form that is not known.
    obtain ⟨reason, rfl⟩ := ofPlaintext_error hread
    have hnone : ¬∃ bundle : SecretBundle, bundle.WrittenIn plaintext := by
      rintro ⟨bundle, hwritten⟩
      have hbundle := ofPlaintext_eq_ok_iff.mpr hwritten
      rw [hread] at hbundle
      cases hbundle
    refine ⟨iff_of_false nofun nofun, iff_of_true ⟨reason, rfl⟩ ⟨plaintext, rfl, hnone⟩,
      fun bundle => iff_of_false nofun ?_, .inr (.inr ⟨reason, rfl⟩)⟩
    rintro ⟨found, hfound, hwritten⟩
    cases hfound
    exact hnone ⟨bundle, hwritten⟩
  · have hwritten := ofPlaintext_eq_ok_iff.mp hread
    refine ⟨iff_of_false nofun nofun, iff_of_false nofun ?_, fun other => ?_, .inl ⟨bundle, rfl⟩⟩
    · rintro ⟨found, hfound, hnone⟩
      cases hfound
      exact hnone ⟨bundle, hwritten⟩
    · constructor
      · intro h
        cases h
        exact ⟨plaintext, rfl, hwritten⟩
      · rintro ⟨found, hfound, hother⟩
        cases hfound
        exact hread.symm.trans (ofPlaintext_eq_ok_iff.mpr hother)

end CredentialVault.SecretBundle
