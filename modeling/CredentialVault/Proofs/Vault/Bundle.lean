import CredentialVault.Proofs.Crypto.Aead
import CredentialVault.Proofs.Json.Object
import CredentialVault.Proofs.Text.Base64Url
import CredentialVault.Vault.Bundle

/-!
# Sealed bundles open again

The plaintext of a bundle reads as the bundle (`ofPlaintext_plaintext`), and so the envelope that
was sealed for a vault under a key opens to the bundle, for the same vault under the same key
(`openFor_sealFor`).
-/

namespace CredentialVault.SecretBundle

open Json

/-- The form of a bundle's plaintext is read back, up to the texts of its keys. -/
theorem reads_plaintext (bundle : SecretBundle) :
    Reads fields.read ⟨some currentVersion, some (Base64Url.encode bundle.primaryKey.bytes),
      some (Base64Url.encode bundle.secondaryKey.bytes)⟩ (Bytes.ofText bundle.plaintext) := by
  have hspell := spells_compact (.object [
    ("version", .integer currentVersion.toNat),
    ("primaryKey", .text (Base64Url.encode bundle.primaryKey.bytes)),
    ("secondaryKey", .text (Base64Url.encode bundle.secondaryKey.bytes))])
  rw [plaintext]
  -- The members of the plaintext, by their spelling.
  generalize Bytes.ofText _ = bytes at hspell ⊢
  cases hspell with
  | object spacing hmembers =>
    obtain _ | ⟨hversion, _ | ⟨hprimary, _ | ⟨hsecondary, ⟨⟩⟩⟩⟩ := hmembers
    cases hversion
    cases hprimary
    cases hsecondary
    refine Fields.reads (?_ : MembersRead _ spacing _ _ _) rfl
    refine .cons (Fields.member_reads rfl rfl ((reads_natural32 currentVersion).map _) spacing) ?_
    refine .cons (Fields.member_reads rfl rfl ((reads_text _).map _) spacing) ?_
    refine .cons (Fields.member_reads rfl rfl ((reads_text _).map _) spacing) ?_
    exact .nil _

/-- The text of a key reads as the key. -/
theorem readKey_encode (name : String) (key : Keys.PrivateKey) :
    readKey name (Base64Url.encode key.bytes) = .ok key := by
  have hkey : Keys.PrivateKey.ofBytes? key.bytes = some key := by
    rw [Keys.PrivateKey.ofBytes?, dif_pos key.length_bytes]
  unfold readKey
  rw [Base64Url.decode_encode]
  simp only [Except.toOption, Option.bind_some, hkey]

/-- The plaintext of a bundle reads as the bundle. -/
theorem ofPlaintext_plaintext (bundle : SecretBundle) :
    ofPlaintext (Bytes.ofText bundle.plaintext) = .ok bundle := by
  unfold ofPlaintext
  rw [bundle.reads_plaintext.run]
  simp only [Option.getD_some, readKey_encode]
  rfl

/-- An envelope opens for the vault and under the key for which it was sealed. -/
theorem openFor_sealFor {bundle : SecretBundle} {key : Bytes} {vaultId : String}
    {random later : RandomStream} {envelope : Envelope}
    (h : bundle.sealFor key vaultId random = (.ok envelope, later)) :
    openFor key vaultId envelope = .ok bundle := by
  unfold sealFor at h
  rcases hsealed : Aead.encrypt key (associatedData vaultId) (Bytes.ofText bundle.plaintext) random
    with ⟨_ | ⟨iv, ciphertext⟩, rest⟩
  · simp only [hsealed, Prod.mk.injEq, Except.map, reduceCtorEq, false_and] at h
  · simp only [hsealed, Prod.mk.injEq, Except.map, Except.ok.injEq] at h
    obtain ⟨rfl, -⟩ := h
    unfold openFor
    rw [Aead.decrypt_encrypt hsealed, Operation.ok_bind, ofPlaintext_plaintext]

/-- A text is not read as a key because its form is not known. -/
theorem readKey_error {name text : String} {e : VaultError} (h : readKey name text = .error e) :
    ∃ reason, e = .unsupportedSchema reason := by
  unfold readKey at h
  split at h <;> cases h
  exact ⟨_, rfl⟩

/-- A plaintext is not read as a bundle because its form is not known. -/
theorem ofPlaintext_error {bytes : Bytes} {e : VaultError} (h : ofPlaintext bytes = .error e) :
    ∃ reason, e = .unsupportedSchema reason := by
  unfold ofPlaintext at h
  split at h
  · cases h
    exact ⟨_, rfl⟩
  · next draft _ =>
    dsimp only at h
    split at h
    · cases h
      exact ⟨_, rfl⟩
    · rcases hprimary : readKey "primary" (draft.primaryKey.getD "") with failure | primary <;>
        rw [hprimary] at h
      · cases h
        exact readKey_error hprimary
      · rcases hsecondary : readKey "secondary" (draft.secondaryKey.getD "") with failure | _ <;>
          rw [Operation.ok_bind, hsecondary] at h <;> cases h
        exact readKey_error hsecondary

/-- An envelope is not opened because it is not authentic, or because the form of what is in it is
not known. -/
theorem openFor_error {key : Bytes} {vaultId : String} {envelope : Envelope} {e : VaultError}
    (h : openFor key vaultId envelope = .error e) :
    e = .integrity ∨ ∃ reason, e = .unsupportedSchema reason := by
  unfold openFor at h
  rcases hdecrypt : Aead.decrypt key (associatedData vaultId) envelope.iv envelope.ciphertext with
    failure | plaintext <;> rw [hdecrypt] at h
  · cases h
    exact .inl (Aead.decrypt_error hdecrypt)
  · exact .inr (ofPlaintext_error h)

/-- What is read as a bundle begins as a value with named fields. -/
theorem ofPlaintext_begins {bytes : Bytes} {bundle : SecretBundle}
    (h : ofPlaintext bytes = .ok bundle) :
    ∃ first rest, bytes = first :: rest ∧ beginsFields first = true := by
  unfold ofPlaintext at h
  split at h
  · cases h
  · next hread => exact Fields.read_begins hread

/-- An envelope opens under two keys only if their key streams differ in the first byte as the
beginnings of values do. -/
theorem openFor_two {key other : Bytes} {vaultId : String} {envelope : Envelope}
    {bundle bundle' : SecretBundle} (h : openFor key vaultId envelope = .ok bundle)
    (hother : openFor other vaultId envelope = .ok bundle') :
    ∃ first, beginsFields first = true ∧ beginsFields
      (first ^^^ Gcm.firstKeyByte key envelope.iv ^^^ Gcm.firstKeyByte other envelope.iv) = true := by
  have hbegins : ∀ {k : Bytes} {b : SecretBundle}, openFor k vaultId envelope = .ok b →
      ∃ first rest, Aead.decrypt k (associatedData vaultId) envelope.iv envelope.ciphertext =
        .ok (first :: rest) ∧ beginsFields first = true := by
    intro k b hopen
    unfold openFor at hopen
    rcases hdecrypt : Aead.decrypt k (associatedData vaultId) envelope.iv envelope.ciphertext with
      e | plaintext <;> rw [hdecrypt] at hopen
    · cases hopen
    · obtain ⟨first, rest, rfl, hfirst⟩ := ofPlaintext_begins hopen
      exact ⟨first, rest, rfl, hfirst⟩
  obtain ⟨first, rest, hdecrypt, hfirst⟩ := hbegins h
  obtain ⟨first', rest', hdecrypt', hfirst'⟩ := hbegins hother
  obtain ⟨later, hsame⟩ := Aead.decrypt_head hdecrypt hdecrypt'
  rw [(List.cons.inj hsame).1] at hfirst'
  exact ⟨first, hfirst, hfirst'⟩

end CredentialVault.SecretBundle
