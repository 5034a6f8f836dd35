import CredentialVault.Crypto.Aead
import CredentialVault.Crypto.Keys

/-!
# Sealed texts open again

The key stream is added twice (`applyStream_applyStream`), the tag is computed from the same
ciphertext, and so what was encrypted is decrypted (`decrypt_encrypt`). Sealing keys have the size
that the cipher wants (`length_sealingKey`).
-/

namespace CredentialVault

namespace Gcm

/-- An element has sixteen bytes. -/
@[simp]
theorem length_bytesOfElement (element : Element) : (bytesOfElement element).length = 16 := by
  simp [bytesOfElement]

/-- A tag has its fixed size. -/
@[simp]
theorem length_tag (keys : List Aes.Block) (iv aad ciphertext : Bytes) :
    (tag keys iv aad ciphertext).length = tagSize :=
  length_bytesOfElement _

/-- What is added twice to bytes leaves them as they were. -/
theorem zipWith_xor_xor {bytes key : Bytes} (h : bytes.length ≤ key.length) :
    List.zipWith (· ^^^ ·) (List.zipWith (· ^^^ ·) bytes key) key = bytes := by
  induction bytes generalizing key with
  | nil => simp
  | cons byte bytes ih =>
    cases key with
    | nil => simp at h
    | cons k key =>
      have hrest := ih (show bytes.length ≤ key.length by simpa using h)
      simp only [List.zipWith_cons_cons, UInt8.xor_assoc, UInt8.xor_self, UInt8.xor_zero, hrest]

/-- A text under the key stream has the length of the text. -/
theorem length_stream (keys : List Aes.Block) (iv : Bytes) {count n : Nat} {text : Bytes}
    (h : text.length ≤ count) : (stream keys iv count n text).length = text.length := by
  induction count generalizing n text with
  | zero =>
    have : text = [] := List.eq_nil_of_length_eq_zero (by omega)
    simp [stream, this]
  | succ count ih =>
    rw [stream]
    split
    · next hnil => simp [hnil]
    · have hdrop := ih (n := n + 1)
        (show (text.drop 16).length ≤ count by rw [List.length_drop]; omega)
      simp only [List.length_append, List.length_zipWith, List.length_take, length_bytesOfElement,
        hdrop, List.length_drop]
      omega

/-- The first sixteen bytes under the key stream are the first group under its key; the others are
the rest of the text under the rest of the key stream. -/
theorem stream_groups (keys : List Aes.Block) (iv : Bytes) {count n : Nat} {text : Bytes}
    (hnil : text ≠ []) (h : text.length ≤ count + 1) :
    (stream keys iv (count + 1) n text).take 16 =
        List.zipWith (· ^^^ ·) (text.take 16) (bytesOfElement (image keys (counterBlock iv n))) ∧
      (stream keys iv (count + 1) n text).drop 16 = stream keys iv count (n + 1) (text.drop 16) := by
  rw [stream, if_neg hnil]
  generalize hkey : bytesOfElement (image keys (counterBlock iv n)) = key
  have hlength : key.length = 16 := by rw [← hkey, length_bytesOfElement]
  by_cases hlong : 16 ≤ text.length
  · have hfirst : (List.zipWith (· ^^^ ·) (text.take 16) key).length = 16 := by
      simp only [List.length_zipWith, List.length_take, hlength]
      omega
    exact ⟨List.take_left' hfirst, List.drop_left' hfirst⟩
  · -- A short group is all there is.
    have hdrop : text.drop 16 = [] := List.drop_of_length_le (by omega)
    have hrest : stream keys iv count (n + 1) (text.drop 16) = [] := by
      rw [hdrop]
      cases count <;> rfl
    have hfirst : (List.zipWith (· ^^^ ·) (text.take 16) key).length ≤ 16 := by
      simp only [List.length_zipWith, List.length_take]
      omega
    rw [hrest, List.append_nil]
    exact ⟨List.take_of_length_le hfirst, List.drop_of_length_le hfirst⟩

/-- The key stream added twice leaves the text as it was. -/
theorem stream_stream (keys : List Aes.Block) (iv : Bytes) {count n : Nat} {text : Bytes}
    (h : text.length ≤ count) :
    stream keys iv count n (stream keys iv count n text) = text := by
  -- By induction on the groups; the second time each group meets the key of the first time.
  induction count generalizing n text with
  | zero =>
    have : text = [] := List.eq_nil_of_length_eq_zero (by omega)
    simp [stream, this]
  | succ count ih =>
    by_cases hnil : text = []
    · simp [stream, hnil]
    have hpos := List.length_pos_iff.mpr hnil
    have hne : stream keys iv (count + 1) n text ≠ [] := by
      rwa [← List.length_pos_iff, length_stream keys iv h]
    have hrest := ih (n := n + 1) (show (text.drop 16).length ≤ count by
      rw [List.length_drop]; omega)
    have hgroup : (text.take 16).length ≤
        (bytesOfElement (image keys (counterBlock iv n))).length := by
      rw [length_bytesOfElement, List.length_take]
      omega
    obtain ⟨htake, hdrop⟩ := stream_groups keys iv (n := n) hnil h
    rw [stream, if_neg hne, htake, hdrop, hrest, zipWith_xor_xor hgroup, List.take_append_drop]

/-- What is encrypted with the key stream is decrypted by it. -/
theorem applyStream_applyStream (keys : List Aes.Block) (iv text : Bytes) :
    applyStream keys iv (applyStream keys iv text) = text := by
  have hlength : (stream keys iv text.length 2 text).length = text.length :=
    length_stream keys iv (Nat.le_refl _)
  unfold applyStream
  rw [hlength, stream_stream keys iv (Nat.le_refl _)]

/-- The first byte of the key stream under a key. -/
def firstKeyByte (key iv : Bytes) : UInt8 :=
  (bytesOfElement (image (Aes.roundKeys key) (counterBlock iv 2))).headD 0

/-- The first byte of a text under the key stream is the sum of the first bytes. -/
theorem applyStream_cons (key iv : Bytes) (first : UInt8) (rest : Bytes) :
    ∃ later, applyStream (Aes.roundKeys key) iv (first :: rest) =
      (first ^^^ firstKeyByte key iv) :: later := by
  unfold applyStream firstKeyByte
  rw [List.length_cons, stream, if_neg (List.cons_ne_nil _ _)]
  have hlength := length_bytesOfElement (image (Aes.roundKeys key) (counterBlock iv 2))
  generalize bytesOfElement (image (Aes.roundKeys key) (counterBlock iv 2)) = bytes at hlength
  rcases bytes with _ | ⟨byte, bytes⟩
  · cases hlength
  · exact ⟨_, rfl⟩

/-- A ciphertext with its tag is decrypted to its plaintext. -/
theorem decrypt?_encrypt (key iv aad plaintext : Bytes) :
    decrypt? key iv aad (encrypt key iv aad plaintext) = some plaintext := by
  unfold decrypt? encrypt
  dsimp only
  -- The tag is what is beyond the ciphertext.
  have hsize : ∀ ciphertext : Bytes,
      (ciphertext ++ tag (Aes.roundKeys key) iv aad ciphertext).length - tagSize =
        ciphertext.length := by
    intro ciphertext
    rw [List.length_append, length_tag, Nat.add_sub_cancel]
  rw [hsize, List.take_left, List.drop_left, if_pos rfl, applyStream_applyStream, if_neg]
  rw [List.length_append, length_tag]
  omega

end Gcm

namespace Aead

/-- A text that was encrypted under a key and with a vector of the right sizes is opened. -/
theorem decrypt_of_sizes {key iv : Bytes} (hkey : key.length = keySize) (hiv : iv.length = Gcm.ivSize)
    (aad plaintext : Bytes) : decrypt key aad iv (Gcm.encrypt key iv aad plaintext) = .ok plaintext := by
  unfold decrypt
  rw [if_pos ⟨hiv, hkey⟩, Gcm.decrypt?_encrypt]

/-- A sealed text is opened. -/
theorem decrypt_encrypt {key aad plaintext iv sealed : Bytes} {random later : RandomStream}
    (h : encrypt key aad plaintext random = (.ok (iv, sealed), later)) :
    decrypt key aad iv sealed = .ok plaintext := by
  have hsize := random.length_draw Gcm.ivSize
  unfold encrypt at h
  generalize random.draw Gcm.ivSize = drawn at h hsize
  split at h
  · next hkey =>
    cases h
    exact decrypt_of_sizes hkey hsize aad plaintext
  · cases h

/-- A sealed text that is not opened is not authentic, whatever is wrong with it. -/
theorem decrypt_error {key aad iv sealed : Bytes} {e : VaultError}
    (h : decrypt key aad iv sealed = .error e) : e = .integrity := by
  unfold decrypt at h
  split at h
  · split at h <;> cases h
    rfl
  · cases h
    rfl

/-- A sealed text that opens under two keys opens to texts whose first bytes differ as those of the
key streams do. -/
theorem decrypt_head {key other aad iv sealed rest plaintext : Bytes} {first : UInt8}
    (h : decrypt key aad iv sealed = .ok (first :: rest))
    (hother : decrypt other aad iv sealed = .ok plaintext) :
    ∃ later, plaintext =
      (first ^^^ Gcm.firstKeyByte key iv ^^^ Gcm.firstKeyByte other iv) :: later := by
  have hplain : ∀ {k text : Bytes}, decrypt k aad iv sealed = .ok text →
      text = Gcm.applyStream (Aes.roundKeys k) iv (sealed.take (sealed.length - Gcm.tagSize)) := by
    intro k text hopen
    unfold decrypt at hopen
    split at hopen
    · unfold Gcm.decrypt? at hopen
      dsimp only at hopen
      split at hopen
      · next heq =>
        split at heq
        · cases heq
        · split at heq
          · rw [← Except.ok.inj hopen, ← Option.some.inj heq]
          · cases heq
      · cases hopen
    · cases hopen
  have hciphertext : sealed.take (sealed.length - Gcm.tagSize) =
      Gcm.applyStream (Aes.roundKeys key) iv (first :: rest) := by
    rw [hplain h, Gcm.applyStream_applyStream]
  obtain ⟨later, hlater⟩ := Gcm.applyStream_cons key iv first rest
  rw [hplain hother, hciphertext, hlater]
  exact Gcm.applyStream_cons other iv _ later

end Aead

/-! ## The sizes of digests and keys -/

/-- A digest has 32 bytes. -/
@[simp]
theorem Sha256.length_digest (message : Bytes) : (Sha256.digest message).length = 32 := by
  simp [Sha256.digest, Sha256.bytesOfWord]

/-- A keyed digest is not empty. -/
theorem Hmac.mac_ne_nil (key message : Bytes) : mac key message ≠ [] := by
  intro hempty
  have hlength := congrArg List.length hempty
  rw [mac, Sha256.length_digest] at hlength
  cases hlength

/-- From a secret that is not empty a sealing key is derived. -/
theorem Keys.exists_sealingKey {secret : Bytes} (h : secret ≠ []) (salt : Bytes) :
    ∃ key, sealingKey secret salt = .ok key :=
  ⟨_, if_neg h⟩

/-- A sealing key has the size that the cipher wants. -/
theorem Keys.length_sealingKey {secret salt key : Bytes} (h : sealingKey secret salt = .ok key) :
    key.length = Aead.keySize := by
  unfold sealingKey at h
  split at h
  · cases h
  · cases h
    exact Sha256.length_digest _

end CredentialVault
