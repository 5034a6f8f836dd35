import CredentialVault.Hex
import CredentialVault.Proofs.Operation
import CredentialVault.Proofs.Text.Utf8

/-!
# Hexadecimal text in either case

A text denotes a byte string when it is the lower-case form of the bytes but for the case of its
letters (`Denotes`). A text that is read as so many bytes denotes them, with two digits for each
(`decodeExact_ok`).
-/

namespace CredentialVault

/-- Characters whose forms are bytes below 128 are below 128. -/
theorem Bytes.lt_of_ofChars_lt {chars : List Char} (h : ∀ byte ∈ ofChars chars, byte.toNat < 128) :
    ∀ c ∈ chars, c.toNat < 128 := by
  intro c hc
  refine Nat.lt_of_not_le fun hge => ?_
  have hsize : 0 < (String.utf8EncodeChar c).length := by
    rw [String.length_utf8EncodeChar]
    exact c.utf8Size_pos
  obtain ⟨byte, hbyte⟩ := List.exists_mem_of_length_pos hsize
  have hlt := h byte (List.mem_flatMap.mpr ⟨c, hc, hbyte⟩)
  have hle := le_of_mem_utf8EncodeChar hge hbyte
  omega

namespace Hex

open Operation

/-- A text is the hexadecimal form of a byte string, with letters in either case. -/
def Denotes (text : String) (bytes : Bytes) : Prop :=
  text.toList.map Char.toLower = (encode bytes).toList

/-- What holds of the bytes that are digits, found by looking at each byte. -/
theorem digitValue?_facts : ∀ n < 256, (digitValue? (UInt8.ofNat n)).all
    (fun value => n < 128 && value < 16 && (Char.ofNat n).toLower == digit value) = true := by
  decide +kernel

/-- A byte that has a value as a digit is below 128, and is the digit of the value in either
case. -/
theorem digitValue?_eq_some {byte : UInt8} {value : Nat} (h : digitValue? byte = some value) :
    byte.toNat < 128 ∧ value < 16 ∧ (Char.ofNat byte.toNat).toLower = digit value := by
  have hfacts := digitValue?_facts byte.toNat byte.toNat_lt
  rw [UInt8.ofNat_toNat, h] at hfacts
  simpa [and_assoc] using hfacts

/-- Pairs of digits that were read are digits of the bytes, in either case. -/
theorem decodePairs_ok {position : Nat} {digits bytes : Bytes} (heven : digits.length % 2 = 0)
    (h : decodePairs position digits = .ok bytes) :
    digits.length = 2 * bytes.length ∧ (∀ byte ∈ digits, byte.toNat < 128) ∧
      digits.map (fun byte => (Char.ofNat byte.toNat).toLower) = bytes.flatMap byteDigits := by
  fun_induction decodePairs position digits generalizing bytes with
  | case1 => cases h
  | case2 => cases h
  | case3 position high low rest high' low' hlow hhigh ih =>
    rcases hrest : decodePairs (position + 2) rest with e | others <;> rw [hrest] at h <;> cases h
    obtain ⟨hlength, hascii, hdigits⟩ := ih (by simp only [List.length_cons] at heven; omega) hrest
    obtain ⟨hhighAscii, hhighLt, hhigh⟩ := digitValue?_eq_some hhigh
    obtain ⟨hlowAscii, hlowLt, hlow⟩ := digitValue?_eq_some hlow
    have hbyte : byteDigits (UInt8.ofNat (16 * high' + low')) = [digit high', digit low'] := by
      have hvalue : (UInt8.ofNat (16 * high' + low')).toNat = 16 * high' + low' := by
        rw [UInt8.toNat_ofNat']
        omega
      have hhalves : (16 * high' + low') / 16 = high' ∧ (16 * high' + low') % 16 = low' := by
        omega
      rw [byteDigits, hvalue, hhalves.1, hhalves.2]
    refine ⟨?_, ?_, ?_⟩
    · simp only [List.length_cons]
      omega
    · simp only [List.forall_mem_cons]
      exact ⟨hhighAscii, hlowAscii, hascii⟩
    · rw [List.map_cons, List.map_cons, List.flatMap_cons, hdigits, hbyte, hhigh, hlow]
      rfl
  | case4 digits position hpairs =>
    -- There are not two digits, nor one, so there are none.
    rcases digits with _ | ⟨high, _ | ⟨low, rest⟩⟩
    · cases h
      exact ⟨rfl, nofun, rfl⟩
    · cases heven
    · exact absurd rfl (hpairs high low rest)

/-- A text that was read as bytes denotes them, with two digits for each. -/
theorem decodeExact_ok {length : Nat} {text : String} {bytes : Bytes}
    (h : decodeExact length text = .ok bytes) :
    Denotes text bytes ∧ text.length = 2 * length := by
  unfold decodeExact at h
  dsimp only at h
  split at h
  · cases h
  · split at h
    · cases h
    · next heven hlength =>
      obtain ⟨hcount, hascii, hdigits⟩ := decodePairs_ok (by omega) h
      rw [Bytes.ofText_eq_ofChars] at hlength hcount hascii hdigits
      -- The bytes are below 128, so they are the characters.
      have hchars := Bytes.lt_of_ofChars_lt hascii
      rw [Bytes.ofChars_of_lt hchars] at hlength hcount hdigits
      refine ⟨?_, ?_⟩
      · rw [Denotes, encode, String.toList_ofList, ← hdigits, List.map_map]
        refine List.map_congr_left fun c hc => ?_
        have hbyte : (UInt8.ofNat c.toNat).toNat = c.toNat := by
          rw [UInt8.toNat_ofNat']
          have := hchars c hc
          omega
        rw [Function.comp_apply, hbyte, Char.ofNat_toNat]
      · rw [← String.length_toList]
        rw [List.length_map] at hlength
        omega

end Hex

end CredentialVault
