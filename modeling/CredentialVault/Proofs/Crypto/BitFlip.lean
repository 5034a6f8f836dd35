import CredentialVault.Proofs.Crypto.Field
import CredentialVault.Proofs.Crypto.Tag

/-!
# A flipped bit is caught

To flip a bit of a ciphertext changes one coefficient of its tag's polynomial by a power of `x`
(`coefficients_flip`). The polynomial is evaluated at a point that depends on the key alone, and
unless that is zero, the tag changes (`tag_flip`). So a sealed text that opens does not open any
more when any of its bits is flipped, in the ciphertext or in the tag (`decrypt_of_flip`).
-/

namespace CredentialVault

/-! ## Flipping a bit -/

namespace Bytes

/-- The mask of a bit of a byte, of which the most significant has the number 0. -/
def bitMask (n : Nat) : UInt8 := 0x80 >>> UInt8.ofNat n

/-- The byte string with the bit of a number flipped, if there is one; the most significant bit of
the first byte has the number 0. -/
def flip : Bytes → Nat → Bytes
  | [], _ => []
  | byte :: rest, n => if n < 8 then (byte ^^^ bitMask n) :: rest else byte :: flip rest (n - 8)

/-- To flip a bit leaves the length. -/
@[simp]
theorem length_flip (bytes : Bytes) (n : Nat) : (bytes.flip n).length = bytes.length := by
  induction bytes generalizing n with
  | nil => rfl
  | cons byte rest ih =>
    rw [flip]
    split
    · rfl
    · rw [List.length_cons, ih, List.length_cons]

/-- To flip a bit of the first part leaves the second. -/
theorem flip_append_left {first : Bytes} {n : Nat} (h : n < 8 * first.length) (second : Bytes) :
    (first ++ second).flip n = first.flip n ++ second := by
  induction first generalizing n with
  | nil => cases h
  | cons byte rest ih =>
    rw [List.cons_append, flip, flip]
    split
    · rfl
    · next hn =>
      rw [List.length_cons] at h
      rw [ih (by omega), List.cons_append]

/-- To flip a bit of the second part leaves the first. -/
theorem flip_append_right {first : Bytes} {n : Nat} (h : 8 * first.length ≤ n) (second : Bytes) :
    (first ++ second).flip n = first ++ second.flip (n - 8 * first.length) := by
  induction first generalizing n with
  | nil => rfl
  | cons byte rest ih =>
    rw [List.length_cons] at h
    rw [List.cons_append, flip, if_neg (by omega), ih (by omega), List.cons_append, List.length_cons]
    congr 3
    omega

/-- A bit before a place is flipped in the part before it. -/
theorem flip_before {n size : Nat} (h : n < 8 * size) (bytes : Bytes) :
    (bytes.flip n).take size = flip (bytes.take size) n ∧
      (bytes.flip n).drop size = bytes.drop size := by
  induction bytes generalizing n size with
  | nil => exact ⟨by simp [flip], rfl⟩
  | cons byte rest ih =>
    cases size with
    | zero => omega
    | succ size =>
      rw [flip, List.take_succ_cons, flip]
      split
      · exact ⟨rfl, rfl⟩
      · obtain ⟨htake, hdrop⟩ := ih (show n - 8 < 8 * size by omega)
        exact ⟨by rw [List.take_succ_cons, htake], by rw [List.drop_succ_cons, hdrop,
          List.drop_succ_cons]⟩

/-- A bit after a place is flipped in the part after it. -/
theorem flip_after {n size : Nat} (h : 8 * size ≤ n) (bytes : Bytes) :
    (bytes.flip n).take size = bytes.take size ∧
      (bytes.flip n).drop size = flip (bytes.drop size) (n - 8 * size) := by
  induction bytes generalizing n size with
  | nil => exact ⟨rfl, by simp [flip]⟩
  | cons byte rest ih =>
    cases size with
    | zero => exact ⟨rfl, rfl⟩
    | succ size =>
      obtain ⟨htake, hdrop⟩ := ih (show 8 * size ≤ n - 8 by omega)
      rw [flip, if_neg (by omega)]
      refine ⟨by rw [List.take_succ_cons, htake, List.take_succ_cons], ?_⟩
      rw [List.drop_succ_cons, hdrop, List.drop_succ_cons]
      congr 1
      omega

/-- To flip a bit that is there changes the byte string. -/
theorem flip_ne {bytes : Bytes} {n : Nat} (h : n < 8 * bytes.length) : bytes.flip n ≠ bytes := by
  induction bytes generalizing n with
  | nil => cases h
  | cons byte rest ih =>
    rw [flip]
    split
    · next hn =>
      intro hsame
      have hmask : bitMask n = 0 := by
        have hbyte : byte ^^^ bitMask n = byte ^^^ 0 :=
          (List.cons.inj hsame).1.trans UInt8.xor_zero.symm
        exact (UInt8.xor_right_inj byte).mp hbyte
      have hmasks : ∀ n < 8, bitMask n ≠ 0 := by decide
      exact hmasks n hn hmask
    · next hn =>
      intro hsame
      rw [List.length_cons] at h
      exact ih (by omega) (List.cons.inj hsame).2

end Bytes

namespace Gcm

/-! ## The coefficients of the tag -/

/-- A byte that is put behind an element is added to it. -/
theorem shiftLeft_or_byte (element : Element) (byte : UInt8) :
    (element <<< 8) ||| BitVec.ofNat 128 byte.toNat =
      (element <<< 8) ^^^ BitVec.ofNat 128 byte.toNat := by
  apply BitVec.eq_of_getLsbD_eq
  intro i hi
  rw [BitVec.getLsbD_or, BitVec.getLsbD_xor, BitVec.getLsbD_shiftLeft]
  by_cases hlow : i < 8
  · simp [hlow]
  · have hbyte : (BitVec.ofNat 128 byte.toNat).getLsbD i = false := by
      rw [BitVec.getLsbD_ofNat]
      have hbound : byte.toNat < 2 ^ i :=
        Nat.lt_of_lt_of_le byte.toNat_lt (Nat.pow_le_pow_right (by decide) (by omega))
      rw [Nat.testBit_lt_two_pow hbound, Bool.and_false]
    rw [hbyte, Bool.or_false, Bool.xor_false]

/-- What is added to an element is shifted by the bytes that are put behind it. -/
theorem foldl_xor (bytes : Bytes) (element change : Element) :
    bytes.foldl (fun (element : Element) byte => (element <<< 8) ||| BitVec.ofNat 128 byte.toNat)
        (element ^^^ change) =
      bytes.foldl (fun (element : Element) byte => (element <<< 8) ||| BitVec.ofNat 128 byte.toNat)
        element ^^^ (change <<< (8 * bytes.length)) := by
  induction bytes generalizing element change with
  | nil =>
    rw [List.foldl_nil, List.foldl_nil, List.length_nil, Nat.mul_zero, BitVec.shiftLeft_zero]
  | cons byte bytes ih =>
    have hstep : ((element ^^^ change) <<< 8) ||| BitVec.ofNat 128 byte.toNat =
        ((element <<< 8) ||| BitVec.ofNat 128 byte.toNat) ^^^ (change <<< 8) := by
      rw [shiftLeft_or_byte, shiftLeft_or_byte, BitVec.shiftLeft_xor_distrib, BitVec.xor_assoc,
        BitVec.xor_comm (change <<< 8), BitVec.xor_assoc]
    have hshift : (change <<< 8) <<< (8 * bytes.length) = change <<< (8 * (bytes.length + 1)) := by
      rw [← BitVec.shiftLeft_add, Nat.mul_succ, Nat.add_comm]
    rw [List.foldl_cons, List.foldl_cons, hstep, ih, List.length_cons, hshift]

/-- To flip a bit of sixteen bytes adds a power of `x` to their element. -/
theorem elementOfBytes_flip {bytes : Bytes} (hlength : bytes.length = 16) {n : Nat} (h : n < 128) :
    elementOfBytes (bytes.flip n) = elementOfBytes bytes ^^^ power n := by
  -- The byte in which the bit is, with the bytes before and after it.
  obtain ⟨before, byte, after, rfl, hbefore⟩ :
      ∃ before byte after, bytes = before ++ byte :: after ∧ before.length = n / 8 := by
    refine ⟨bytes.take (n / 8), bytes[n / 8], bytes.drop (n / 8 + 1), ?_, ?_⟩
    · rw [List.cons_getElem_drop_succ, List.take_append_drop]
    · rw [List.length_take]
      omega
  rw [List.length_append, List.length_cons] at hlength
  have hsplit : n - 8 * before.length = n % 8 := by omega
  have hmask : BitVec.ofNat 128 (Bytes.bitMask (n % 8)).toNat <<< (8 * after.length) = power n := by
    have hpowers : ∀ n < 128,
        BitVec.ofNat 128 (Bytes.bitMask (n % 8)).toNat <<< (8 * (15 - n / 8)) = power n := by
      decide +kernel
    rw [show after.length = 15 - n / 8 by omega]
    exact hpowers n h
  have hbyte : ∀ element : Element,
      (element <<< 8) ||| BitVec.ofNat 128 (byte ^^^ Bytes.bitMask (n % 8)).toNat =
        ((element <<< 8) ||| BitVec.ofNat 128 byte.toNat) ^^^
          BitVec.ofNat 128 (Bytes.bitMask (n % 8)).toNat := by
    intro element
    rw [shiftLeft_or_byte, shiftLeft_or_byte, UInt8.toNat_xor, BitVec.ofNat_xor, BitVec.xor_assoc]
  rw [Bytes.flip_append_right (by omega), hsplit, Bytes.flip, if_pos (by omega), elementOfBytes,
    elementOfBytes, List.foldl_append, List.foldl_append, List.foldl_cons, List.foldl_cons, hbyte,
    foldl_xor, hmask]

/-- To flip a bit adds a power of `x` to one of the elements of a byte string. -/
theorem elements_flip {count : Nat} {bytes : Bytes} (hcount : bytes.length ≤ 16 * count) {n : Nat}
    (h : n < 8 * bytes.length) :
    ∃ before element after m, m < 128 ∧ elements count bytes = before ++ element :: after ∧
      elements count (bytes.flip n) = before ++ (element ^^^ power m) :: after := by
  induction count generalizing bytes n with
  | zero => omega
  | succ count ih =>
    have hne : bytes ≠ [] := by
      rintro rfl
      cases h
    have hflipped : bytes.flip n ≠ [] := by
      intro hnil
      have hlength := bytes.length_flip n
      rw [hnil] at hlength
      exact hne (List.eq_nil_of_length_eq_zero hlength.symm)
    rw [elements, elements, if_neg hne, if_neg hflipped]
    dsimp only
    by_cases hfirst : n < 128
    · -- The bit is in the first sixteen bytes, which are filled up.
      obtain ⟨htake, hdrop⟩ := Bytes.flip_before (show n < 8 * 16 by omega) bytes
      have hgroup : n < 8 * (bytes.take 16).length := by
        rw [List.length_take]
        omega
      have hfilled : (bytes.take 16 ++ List.replicate (16 - (bytes.take 16).length) 0).length = 16 := by
        rw [List.length_append, List.length_replicate, List.length_take]
        omega
      refine ⟨[], _, elements count (bytes.drop 16), n, hfirst, rfl, ?_⟩
      rw [htake, hdrop, Bytes.length_flip, ← Bytes.flip_append_left hgroup,
        elementOfBytes_flip hfilled hfirst, List.nil_append]
    · -- The bit is in the bytes after them.
      obtain ⟨htake, hdrop⟩ := Bytes.flip_after (show 8 * 16 ≤ n by omega) bytes
      have hrest : (bytes.drop 16).length ≤ 16 * count := by
        rw [List.length_drop]
        omega
      have hbit : n - 8 * 16 < 8 * (bytes.drop 16).length := by
        rw [List.length_drop]
        omega
      obtain ⟨before, element, after, m, hm, hbytes, hflip⟩ := ih hrest hbit
      rw [htake, hdrop, hbytes, hflip]
      exact ⟨_ :: before, element, after, m, hm, rfl, rfl⟩

/-- To flip a bit of a ciphertext adds a power of `x` to one coefficient of its tag. -/
theorem coefficients_flip (aad : Bytes) {ciphertext : Bytes} {n : Nat}
    (h : n < 8 * ciphertext.length) :
    ∃ before element after m, m < 128 ∧
      coefficients aad ciphertext = before ++ element :: after ∧
      coefficients aad (ciphertext.flip n) = before ++ (element ^^^ power m) :: after := by
  obtain ⟨before, element, after, m, hm, hbytes, hflip⟩ :=
    elements_flip (show ciphertext.length ≤ 16 * ciphertext.length by omega) h
  have hlengths : lengths aad (ciphertext.flip n) = lengths aad ciphertext := by
    rw [lengths, lengths, Bytes.length_flip]
  refine ⟨elements aad.length aad ++ before, element, after ++ [lengths aad ciphertext], m, hm, ?_, ?_⟩
  · rw [coefficients, hbytes]
    simp only [List.append_assoc, List.cons_append]
  · rw [coefficients, Bytes.length_flip, hflip, hlengths]
    simp only [List.append_assoc, List.cons_append]

/-! ## The tag -/

/-- The point at which the polynomials of the tags under a key are evaluated: the image of the zero
block. -/
def point (key : Bytes) : Element := image (Aes.roundKeys key) 0

/-- To flip a bit of a ciphertext changes its tag, unless the point of the key is zero. -/
theorem tag_flip {key : Bytes} (hpoint : point key ≠ 0) (iv aad : Bytes) {ciphertext : Bytes} {n : Nat}
    (h : n < 8 * ciphertext.length) :
    tag (Aes.roundKeys key) iv aad (ciphertext.flip n) ≠ tag (Aes.roundKeys key) iv aad ciphertext := by
  obtain ⟨before, element, after, m, hm, hbytes, hflip⟩ := coefficients_flip aad h
  intro hsame
  have hvalue := (BitVec.xor_left_inj _).mp (bytesOfElement_injective hsame)
  rw [hbytes, hflip] at hvalue
  exact evaluate_ne hpoint hm before after element hvalue

end Gcm

/-! ## Opening -/

/-- A sealed text that opens does not open any more when one of its bits is flipped, unless the
point of the key is zero. -/
theorem Aead.decrypt_of_flip {key aad iv sealed plaintext : Bytes} (hpoint : Gcm.point key ≠ 0)
    (h : decrypt key aad iv sealed = .ok plaintext) {n : Nat} (hn : n < 8 * sealed.length) :
    decrypt key aad iv (sealed.flip n) = .error .integrity := by
  obtain ⟨-, -, hauthentic⟩ := authentic_of_decrypt h
  have hsize := hauthentic.size
  rcases Nat.lt_or_ge n (8 * (sealed.length - Gcm.tagSize)) with hin | hout
  · -- The bit is in the ciphertext, and the tag behind it is not that of the new one.
    refine decrypt_of_not_authentic fun hagain => ?_
    obtain ⟨htake, hdrop⟩ := Bytes.flip_before hin sealed
    have hbit : n < 8 * (sealed.take (sealed.length - Gcm.tagSize)).length := by
      rw [List.length_take]
      omega
    have htag := hagain.tag
    rw [Bytes.length_flip, htake, hdrop, hauthentic.tag] at htag
    exact Gcm.tag_flip hpoint iv aad hbit htag.symm
  · -- The bit is in the tag.
    obtain ⟨htake, -⟩ := Bytes.flip_after hout sealed
    exact decrypt_of_tag_ne h (Bytes.length_flip sealed n) htake (Bytes.flip_ne hn)

end CredentialVault
