import CredentialVault.Proofs.Crypto.Tag

/-!
# Exactly the sealed texts open

A sealed text opens to a plaintext exactly if it is what sealing the plaintext yields with the same
initialisation vector (`decrypt?_eq_some_iff`): the key stream undoes itself, so that the text under
it is the only plaintext that can have been sealed, and the tag is computed from the same ciphertext
both ways. With the sizes that sealing and opening ask for, this is `decrypt_exact`.
-/

namespace CredentialVault

namespace Gcm

variable {key iv aad sealed plaintext : Bytes}

/-- A sealed text has sixteen bytes more than its plaintext. -/
theorem length_encrypt (key iv aad plaintext : Bytes) :
    (encrypt key iv aad plaintext).length = plaintext.length + tagSize := by
  have hstream : (applyStream (Aes.roundKeys key) iv plaintext).length = plaintext.length :=
    length_stream _ iv (Nat.le_refl _)
  unfold encrypt
  rw [List.length_append, length_tag, hstream]

/-- A text that opens to a plaintext is what the plaintext is sealed to. -/
theorem eq_encrypt_of_decrypt? (h : decrypt? key iv aad sealed = some plaintext) :
    sealed = encrypt key iv aad plaintext := by
  have hauthentic : Authentic key iv aad sealed :=
    decrypt?_isSome_iff.mp (Option.isSome_iff_exists.mpr ⟨plaintext, h⟩)
  have hplain : plaintext =
      applyStream (Aes.roundKeys key) iv (sealed.take (sealed.length - tagSize)) := by
    unfold decrypt? at h
    dsimp only at h
    rw [if_neg (Nat.not_lt.mpr hauthentic.size), if_pos hauthentic.tag] at h
    exact (Option.some.inj h).symm
  -- The key stream gives the ciphertext back, and the tag behind it is that of the ciphertext.
  have hbody : applyStream (Aes.roundKeys key) iv plaintext =
      sealed.take (sealed.length - tagSize) := by
    rw [hplain, applyStream_applyStream]
  calc sealed
      = sealed.take (sealed.length - tagSize) ++ sealed.drop (sealed.length - tagSize) :=
        (List.take_append_drop _ _).symm
    _ = encrypt key iv aad plaintext := by
        unfold encrypt
        dsimp only
        rw [hbody, hauthentic.tag]

/-- Exactly what a plaintext is sealed to opens to it. -/
theorem decrypt?_eq_some_iff :
    decrypt? key iv aad sealed = some plaintext ↔ sealed = encrypt key iv aad plaintext := by
  constructor
  · exact eq_encrypt_of_decrypt?
  · rintro rfl
    exact decrypt?_encrypt key iv aad plaintext

end Gcm

namespace Aead

/-- What a plaintext is sealed to when the given initialisation vector is drawn. -/
def encryptAt (iv key aad plaintext : Bytes) : Except VaultError (Bytes × Bytes) :=
  if key.length = keySize then .ok (iv, Gcm.encrypt key iv aad plaintext)
  else .error (.encryptionFailed "invalid key length: Invalid Length")

/-- To seal a plaintext is to draw an initialisation vector and to seal the plaintext with it. -/
theorem encrypt_eq (key aad plaintext : Bytes) (random : RandomStream) :
    (encrypt key aad plaintext random).1 =
      encryptAt (random.draw Gcm.ivSize).1 key aad plaintext := by
  unfold encrypt encryptAt
  split
  · rfl
  · rfl

variable {iv key aad sealed plaintext : Bytes}

/-- A plaintext is sealed exactly under keys of the right size. -/
theorem encryptAt_eq_ok_iff {iv' : Bytes} : encryptAt iv key aad plaintext = .ok (iv', sealed) ↔
    key.length = keySize ∧ iv' = iv ∧ sealed = Gcm.encrypt key iv aad plaintext := by
  unfold encryptAt
  split
  · next hkey =>
    constructor
    · intro h
      obtain ⟨hiv, hsealed⟩ := Prod.mk.inj (Except.ok.inj h)
      exact ⟨hkey, hiv.symm, hsealed.symm⟩
    · rintro ⟨-, rfl, rfl⟩
      rfl
  · next hkey =>
    refine iff_of_false nofun ?_
    rintro ⟨hsize, -⟩
    exact hkey hsize

/-- A sealed text opens exactly if it was sealed, and the sizes are right. -/
theorem decrypt_eq_ok_iff : decrypt key aad iv sealed = .ok plaintext ↔
    key.length = keySize ∧ iv.length = Gcm.ivSize ∧
      encryptAt iv key aad plaintext = .ok (iv, sealed) := by
  constructor
  · intro h
    obtain ⟨hiv, hkey, -⟩ := authentic_of_decrypt h
    have hopened : Gcm.decrypt? key iv aad sealed = some plaintext := by
      unfold decrypt at h
      rw [if_pos ⟨hiv, hkey⟩] at h
      rcases hopened : Gcm.decrypt? key iv aad sealed with _ | found <;> rw [hopened] at h
      · cases h
      · rw [Except.ok.inj h]
    exact ⟨hkey, hiv, encryptAt_eq_ok_iff.mpr ⟨hkey, rfl, Gcm.decrypt?_eq_some_iff.mp hopened⟩⟩
  · rintro ⟨hkey, hiv, hsealed⟩
    obtain ⟨-, -, rfl⟩ := encryptAt_eq_ok_iff.mp hsealed
    exact decrypt_of_sizes hkey hiv aad plaintext

/-- Sealing under a key fails exactly if the key has not 32 bytes, and adds sixteen bytes. Opening
gives a plaintext exactly if the key has 32 bytes, the initialisation vector has twelve, and the
text is the one that sealing the plaintext yields when it draws this vector; in every other case the
text is not authentic. -/
theorem decrypt_exact (key aad : Bytes) :
    (∀ plaintext random, (encrypt key aad plaintext random).1 =
      encryptAt (random.draw 12).1 key aad plaintext) ∧
    (∀ iv plaintext, match encryptAt iv key aad plaintext with
      | .ok (iv', sealed) =>
        key.length = 32 ∧ iv' = iv ∧ sealed.length = plaintext.length + 16
      | .error e => key.length ≠ 32 ∧ ∃ reason, e = .encryptionFailed reason) ∧
    ∀ iv sealed,
      (∀ plaintext, decrypt key aad iv sealed = .ok plaintext ↔
        key.length = 32 ∧ iv.length = 12 ∧ encryptAt iv key aad plaintext = .ok (iv, sealed)) ∧
      (decrypt key aad iv sealed = .error .integrity ↔ ¬∃ plaintext,
        key.length = 32 ∧ iv.length = 12 ∧ encryptAt iv key aad plaintext = .ok (iv, sealed)) := by
  refine ⟨encrypt_eq key aad, fun iv plaintext => ?_, fun iv sealed => ⟨fun _ => decrypt_eq_ok_iff, ?_⟩⟩
  · unfold encryptAt
    by_cases hkey : key.length = keySize
    · rw [if_pos hkey]
      exact ⟨hkey, rfl, Gcm.length_encrypt key iv aad plaintext⟩
    · rw [if_neg hkey]
      exact ⟨hkey, _, rfl⟩
  · constructor
    · rintro hfailed ⟨plaintext, hsealed⟩
      have hopened := decrypt_eq_ok_iff.mpr hsealed
      rw [hfailed] at hopened
      cases hopened
    · intro hnone
      rcases hdecrypt : decrypt key aad iv sealed with e | plaintext
      · rw [decrypt_error hdecrypt]
      · exact absurd ⟨plaintext, decrypt_eq_ok_iff.mp hdecrypt⟩ hnone

end Aead

end CredentialVault
