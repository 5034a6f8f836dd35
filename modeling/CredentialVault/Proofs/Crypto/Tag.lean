import Mathlib.Algebra.Group.Nat.Defs
import CredentialVault.Proofs.Crypto.Aead
import CredentialVault.Proofs.Crypto.Aes

/-!
# A changed initialisation vector or tag is caught

An element of the field and its sixteen bytes say the same (`elementOfBytes_injective`,
`bytesOfElement_injective`), and so the cipher is injective on elements (`image_injective`). The tag
is the image of a counter block that spells the initialisation vector, added to what does not depend
on it: other vectors have other tags (`tag_injective`). So a sealed text that opens opens with no
other vector (`decrypt_of_iv_ne`), and with no other tag (`decrypt_of_tag_ne`).
-/

namespace CredentialVault

namespace Gcm

/-! ## Elements and their bytes -/

/-- The number whose digits to the base 256 are given after a first part. -/
def numberFrom (first : Nat) (bytes : Bytes) : Nat :=
  bytes.foldl (fun number byte => number * 256 + byte.toNat) first

/-- A number to the base 256 tells its digits. -/
theorem numberFrom_injective {bytes others : Bytes} (hlength : bytes.length = others.length)
    {first other : Nat} (h : numberFrom first bytes = numberFrom other others) :
    first = other ∧ bytes = others := by
  induction bytes generalizing others first other with
  | nil =>
    obtain rfl := List.eq_nil_of_length_eq_zero hlength.symm
    exact ⟨h, rfl⟩
  | cons byte bytes ih =>
    cases others with
    | nil => cases hlength
    | cons next others =>
      obtain ⟨hfirst, rfl⟩ := ih (Nat.succ.inj hlength) h
      have hfirst : first * 256 + byte.toNat = other * 256 + next.toNat := hfirst
      have hbyte := byte.toNat_lt
      have hnext := next.toNat_lt
      have hsame : byte.toNat = next.toNat := by omega
      refine ⟨by omega, ?_⟩
      rw [UInt8.toNat_inj.mp hsame]

/-- A number has no more digits than are given. -/
theorem numberFrom_lt (first : Nat) (bytes : Bytes) :
    numberFrom first bytes < (first + 1) * 256 ^ bytes.length := by
  induction bytes generalizing first with
  | nil => simp [numberFrom]
  | cons byte bytes ih =>
    have hbyte := byte.toNat_lt
    calc numberFrom first (byte :: bytes)
        < (first * 256 + byte.toNat + 1) * 256 ^ bytes.length := ih _
      _ ≤ ((first + 1) * 256) * 256 ^ bytes.length := Nat.mul_le_mul_right _ (by omega)
      _ = (first + 1) * 256 ^ (bytes.length + 1) := by
        rw [Nat.mul_assoc, Nat.pow_succ, Nat.mul_comm 256]

/-- A number that is put behind an element is added, when there is room for it. -/
theorem toNat_shiftLeft_or {element : Element} {size n : Nat} (hn : n < 2 ^ size)
    (hroom : element.toNat * 2 ^ size + n < 2 ^ 128) :
    ((element <<< size) ||| BitVec.ofNat 128 n).toNat = element.toNat * 2 ^ size + n := by
  rw [BitVec.toNat_or, BitVec.toNat_shiftLeft, BitVec.toNat_ofNat, Nat.shiftLeft_eq,
    Nat.mod_eq_of_lt (by omega), Nat.mod_eq_of_lt (by omega), ← Nat.shiftLeft_eq,
    Nat.shiftLeft_add_eq_or_of_lt hn]

/-- As long as there is room for them, bytes that are put behind an element are its last digits. -/
theorem toNat_foldl {bytes : Bytes} (hlength : bytes.length ≤ 16) {element : Element}
    (hroom : element.toNat < 256 ^ (16 - bytes.length)) :
    (bytes.foldl (fun (element : Element) byte => (element <<< 8) ||| BitVec.ofNat 128 byte.toNat)
      element).toNat = numberFrom element.toNat bytes := by
  induction bytes generalizing element with
  | nil => rfl
  | cons byte bytes ih =>
    have hlength : bytes.length + 1 ≤ 16 := hlength
    have hroom : element.toNat < 256 ^ (16 - (bytes.length + 1)) := hroom
    have hbyte := byte.toNat_lt
    have hplaces : 256 ^ (16 - bytes.length) = 256 ^ (16 - (bytes.length + 1)) * 256 := by
      rw [← Nat.pow_succ]
      congr 1
      omega
    have hbound : 256 ^ (16 - bytes.length) ≤ 2 ^ 128 :=
      Nat.pow_le_pow_right (n := 256) (by decide) (Nat.sub_le 16 _)
    have hnext : ((element <<< 8) ||| BitVec.ofNat 128 byte.toNat).toNat =
        element.toNat * 256 + byte.toNat := toNat_shiftLeft_or hbyte (by omega)
    rw [List.foldl_cons, ih (by omega) (by omega), hnext]
    rfl

/-- The element of at most sixteen bytes is the number that they are the digits of. -/
theorem toNat_elementOfBytes {bytes : Bytes} (h : bytes.length ≤ 16) :
    (elementOfBytes bytes).toNat = numberFrom 0 bytes := by
  have hroom : (0 : Element).toNat < 256 ^ (16 - bytes.length) := Nat.pow_pos (by decide)
  exact toNat_foldl h hroom

/-- Byte strings of one length, of at most sixteen bytes, are different elements if they are
different. -/
theorem elementOfBytes_injective {bytes others : Bytes} (h : bytes.length ≤ 16)
    (hlength : bytes.length = others.length)
    (hsame : elementOfBytes bytes = elementOfBytes others) : bytes = others := by
  have hnumber := congrArg BitVec.toNat hsame
  rw [toNat_elementOfBytes h, toNat_elementOfBytes (hlength ▸ h)] at hnumber
  exact (numberFrom_injective hlength hnumber).2

/-- A number is known by its digits to the base 256. -/
theorem mod_eq_of_digits {m n count : Nat}
    (h : ∀ i < count, m / 256 ^ i % 256 = n / 256 ^ i % 256) : m % 256 ^ count = n % 256 ^ count := by
  induction count with
  | zero => simp [Nat.mod_one]
  | succ count ih =>
    rw [Nat.mod_pow_succ, Nat.mod_pow_succ, ih fun i hi => h i (by omega), h count (by omega)]

/-- Different elements have different bytes. -/
theorem bytesOfElement_injective {element other : Element}
    (h : bytesOfElement element = bytesOfElement other) : element = other := by
  have hdigits : ∀ i < 16, element.toNat / 256 ^ i % 256 = other.toNat / 256 ^ i % 256 := by
    intro i hi
    have hdigit : ∀ element : Element,
        (bytesOfElement element)[15 - i]? = some (UInt8.ofNat (element.toNat / 256 ^ i % 256)) := by
      intro element
      have hshift : 120 - 8 * (15 - i) = 8 * i := by omega
      have hplaces : 2 ^ (8 * i) = 256 ^ i := Nat.pow_mul 2 8 i
      simp only [bytesOfElement, List.getElem?_map]
      rw [List.getElem?_range (by omega), Option.map_some, hshift, BitVec.toNat_ushiftRight,
        Nat.shiftRight_eq_div_pow, hplaces]
    have hbyte := hdigit element
    rw [h, hdigit, Option.some.injEq, ← UInt8.toNat_inj, UInt8.toNat_ofNat', UInt8.toNat_ofNat',
      Nat.mod_mod, Nat.mod_mod] at hbyte
    exact hbyte.symm
  have hplaces : 256 ^ 16 = 2 ^ 128 := by decide
  have hmod := mod_eq_of_digits hdigits
  rwa [hplaces, Nat.mod_eq_of_lt element.isLt, Nat.mod_eq_of_lt other.isLt, BitVec.toNat_inj] at hmod

/-! ## The image of a counter block -/

/-- Under fixed round keys different elements have different images. -/
theorem image_injective {keys : List Aes.Block} {element other : Element}
    (h : image keys element = image keys other) : element = other := by
  -- Bytes, block, image, and bytes again: nothing is lost on the way.
  unfold image at h
  have hbytes := elementOfBytes_injective (Nat.le_of_eq (Aes.Block.length_toBytes _))
    ((Aes.Block.length_toBytes _).trans (Aes.Block.length_toBytes _).symm) h
  have hblock := Aes.encryptBlock_injective (Aes.Block.toBytes_injective hbytes)
  apply bytesOfElement_injective
  rw [← Aes.Block.toBytes_ofBytes (length_bytesOfElement element), hblock,
    Aes.Block.toBytes_ofBytes (length_bytesOfElement other)]

/-- Different initialisation vectors have different counter blocks. -/
theorem counterBlock_injective {iv other : Bytes} (hiv : iv.length = ivSize)
    (hother : other.length = ivSize) {n : Nat} (h : counterBlock iv n = counterBlock other n) :
    iv = other := by
  have hnumber : ∀ iv : Bytes, iv.length = ivSize →
      (counterBlock iv n).toNat = numberFrom 0 iv * 2 ^ 32 + n % 2 ^ 32 := by
    intro iv hiv
    have hvalue : (elementOfBytes iv).toNat = numberFrom 0 iv :=
      toNat_elementOfBytes (hiv ▸ by decide)
    have hbound : numberFrom 0 iv < 256 ^ 12 := by
      have hlt := numberFrom_lt 0 iv
      rwa [hiv, Nat.zero_add, Nat.one_mul] at hlt
    have hmod : n % 2 ^ 32 < 2 ^ 32 := Nat.mod_lt n (by decide)
    have hroom : (elementOfBytes iv).toNat * 2 ^ 32 + n % 2 ^ 32 < 2 ^ 128 := by
      rw [hvalue]
      omega
    calc (counterBlock iv n).toNat
        = (elementOfBytes iv).toNat * 2 ^ 32 + n % 2 ^ 32 := toNat_shiftLeft_or hmod hroom
      _ = numberFrom 0 iv * 2 ^ 32 + n % 2 ^ 32 := by rw [hvalue]
  have hsame := congrArg BitVec.toNat h
  rw [hnumber iv hiv, hnumber other hother] at hsame
  have hnumbers : numberFrom 0 iv = numberFrom 0 other := by omega
  exact (numberFrom_injective (hiv.trans hother.symm) hnumbers).2

/-- Different initialisation vectors have different tags. -/
theorem tag_injective {keys : List Aes.Block} {iv other aad ciphertext : Bytes}
    (hiv : iv.length = ivSize) (hother : other.length = ivSize)
    (h : tag keys iv aad ciphertext = tag keys other aad ciphertext) : iv = other := by
  have himage := (BitVec.xor_right_inj _).mp (bytesOfElement_injective h)
  exact counterBlock_injective hiv hother (image_injective himage)

/-! ## Opening -/

/-- A sealed text is authentic: behind the ciphertext stands its tag. -/
structure Authentic (key iv aad sealed : Bytes) : Prop where
  /-- There is room for a tag. -/
  size : tagSize ≤ sealed.length
  /-- The tag is that of the ciphertext. -/
  tag : sealed.drop (sealed.length - tagSize) =
    tag (Aes.roundKeys key) iv aad (sealed.take (sealed.length - tagSize))

/-- A sealed text is decrypted exactly if it is authentic. -/
theorem decrypt?_isSome_iff {key iv aad sealed : Bytes} :
    (decrypt? key iv aad sealed).isSome ↔ Authentic key iv aad sealed := by
  unfold decrypt?
  dsimp only
  constructor
  · intro h
    split at h
    · cases h
    · next hsize =>
      split at h
      · next htag => exact ⟨Nat.not_lt.mp hsize, htag⟩
      · cases h
  · rintro ⟨hsize, htag⟩
    rw [if_neg (Nat.not_lt.mpr hsize), if_pos htag]
    rfl

end Gcm

namespace Aead

variable {key aad iv sealed plaintext : Bytes}

/-- A sealed text is opened only if it is authentic and the sizes are right. -/
theorem authentic_of_decrypt (h : decrypt key aad iv sealed = .ok plaintext) :
    iv.length = Gcm.ivSize ∧ key.length = keySize ∧ Gcm.Authentic key iv aad sealed := by
  unfold decrypt at h
  split at h
  · next hsizes =>
    refine ⟨hsizes.1, hsizes.2, Gcm.decrypt?_isSome_iff.mp ?_⟩
    split at h
    · next hopened => rw [hopened]; rfl
    · cases h
  · cases h

/-- A sealed text that is not authentic is not opened. -/
theorem decrypt_of_not_authentic (h : ¬Gcm.Authentic key iv aad sealed) :
    decrypt key aad iv sealed = .error .integrity := by
  rcases hdecrypt : decrypt key aad iv sealed with e | plaintext
  · rw [decrypt_error hdecrypt]
  · exact absurd (authentic_of_decrypt hdecrypt).2.2 h

/-- A sealed text that opens with one initialisation vector opens with no other one. -/
theorem decrypt_of_iv_ne {other : Bytes} (h : decrypt key aad iv sealed = .ok plaintext)
    (hother : other.length = Gcm.ivSize) (hne : other ≠ iv) :
    decrypt key aad other sealed = .error .integrity := by
  obtain ⟨hiv, -, hauthentic⟩ := authentic_of_decrypt h
  refine decrypt_of_not_authentic fun hagain => hne ?_
  exact Gcm.tag_injective hother hiv (hagain.tag.symm.trans hauthentic.tag)

/-- A sealed text that opens with one tag opens with no other one. -/
theorem decrypt_of_tag_ne {other : Bytes} (h : decrypt key aad iv sealed = .ok plaintext)
    (hlength : other.length = sealed.length)
    (hbody : other.take (sealed.length - Gcm.tagSize) = sealed.take (sealed.length - Gcm.tagSize))
    (hne : other ≠ sealed) : decrypt key aad iv other = .error .integrity := by
  obtain ⟨-, -, hauthentic⟩ := authentic_of_decrypt h
  refine decrypt_of_not_authentic fun hagain => hne ?_
  -- The same ciphertext has the same tag.
  have htag := hagain.tag
  rw [hlength, hbody, ← hauthentic.tag] at htag
  rw [← List.take_append_drop (sealed.length - Gcm.tagSize) other, hbody, htag,
    List.take_append_drop]

end Aead

end CredentialVault
