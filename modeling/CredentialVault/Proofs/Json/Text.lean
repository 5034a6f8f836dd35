import CredentialVault.Json.Printer
import CredentialVault.Json.Scan
import CredentialVault.Proofs.Text.Utf8

/-!
# Strings of JSON are read back

A string is read back from between its quotes (`scanString_flatMap`), whatever characters it has.
The proof goes character by character: each is spelt by an escape, by its own byte, or by bytes from
128 on that no scanner takes for a quote, a backslash or a control character.
-/

namespace CredentialVault.Json

/-- A scan that goes on puts the bytes of a character before what it finds. -/
def putBefore (bytes : Bytes) : Except Malformed (Bytes × Bytes) → Except Malformed (Bytes × Bytes)
  | .ok (more, rest) => .ok (bytes ++ more, rest)
  | .error fault => .error fault

/-- Bytes that stand for themselves inside a string. -/
def IsPlain (byte : UInt8) : Prop :=
  byte ≠ 34 ∧ byte ≠ 92 ∧ ¬byte < 32

/-! ## Bytes -/

/-- A byte that stands for itself is found. -/
theorem scanStringBytes_plain {byte : UInt8} (h : IsPlain byte) (rest : Bytes) :
    scanStringBytes (byte :: rest) = putBefore [byte] (scanStringBytes rest) := by
  obtain ⟨hquote, hbackslash, hcontrol⟩ := h
  rw [scanStringBytes, if_neg hquote, if_neg hbackslash, if_neg hcontrol]
  rcases scanStringBytes rest with _ | ⟨_, _⟩ <;> rfl

/-- Bytes that stand for themselves are found. -/
theorem scanStringBytes_append {bytes : Bytes} (h : ∀ byte ∈ bytes, IsPlain byte) (rest : Bytes) :
    scanStringBytes (bytes ++ rest) = putBefore bytes (scanStringBytes rest) := by
  induction bytes with
  | nil => rcases hrest : scanStringBytes rest with _ | ⟨_, _⟩ <;> simp [putBefore, hrest]
  | cons byte bytes ih =>
    rw [List.cons_append, scanStringBytes_plain (h byte (by simp)), ih fun b hb => h b (by simp [hb])]
    rcases scanStringBytes rest with _ | ⟨_, _⟩ <;> rfl

/-- An escape gives the bytes that it stands for. -/
theorem scanStringBytes_escape (letters : Bytes) {escaped rest : Bytes}
    (h : scanEscape (letters ++ rest) = .ok (escaped, letters.length)) :
    scanStringBytes (92 :: (letters ++ rest)) = putBefore escaped (scanStringBytes rest) := by
  rw [scanStringBytes, if_neg (by decide), if_pos rfl, h]
  simp only [List.drop_left]
  rcases scanStringBytes rest with _ | ⟨_, _⟩ <;> rfl

/-! ## Characters -/

/-- The escape of a control character by its code point is read back. -/
theorem scanEscape_control {n : Nat} (h : n < 32) (rest : Bytes) :
    scanEscape (Bytes.ofChars ['u', '0', '0', Nat.digitChar (n / 16), Nat.digitChar (n % 16)] ++
      rest) = .ok (codePointBytes n, 5) := by
  -- The two digits of each of the 32 code points, as bytes and as values.
  have hdigits : ∀ n < 32,
      Bytes.ofChars ['u', '0', '0', Nat.digitChar (n / 16), Nat.digitChar (n % 16)] =
        [117, 48, 48, UInt8.ofNat (Nat.digitChar (n / 16)).toNat,
          UInt8.ofNat (Nat.digitChar (n % 16)).toNat] ∧
      hexValue? (UInt8.ofNat (Nat.digitChar (n / 16)).toNat) = some (n / 16) ∧
      hexValue? (UInt8.ofNat (Nat.digitChar (n % 16)).toNat) = some (n % 16) := by
    decide
  obtain ⟨hchars, hhigh, hlow⟩ := hdigits n h
  have hzero : hexValue? 48 = some 0 := rfl
  have hunit : hexUnit (48 :: 48 :: UInt8.ofNat (Nat.digitChar (n / 16)).toNat ::
      UInt8.ofNat (Nat.digitChar (n % 16)).toNat :: rest) = .ok n := by
    simp only [hexUnit, hzero, hhigh, hlow, Except.ok.injEq]
    omega
  have hescape : hexEscape (48 :: 48 :: UInt8.ofNat (Nat.digitChar (n / 16)).toNat ::
      UInt8.ofNat (Nat.digitChar (n % 16)).toNat :: rest) = .ok (codePointBytes n, 4) := by
    unfold hexEscape
    rw [hunit]
    dsimp only [bind, Except.bind]
    rw [if_neg (by omega), if_pos (by omega)]
    rfl
  rw [hchars]
  simp only [List.cons_append, List.nil_append, scanEscape, hescape]
  rfl

/-- The bytes of a character are those of its code point. -/
theorem codePointBytes_toNat (c : Char) : codePointBytes c.toNat = Bytes.ofChars [c] := by
  rw [codePointBytes, Char.ofNat_toNat, Bytes.ofText_eq_ofChars, String.toList_singleton]

/-- A character that is not escaped is spelt by bytes that stand for themselves. -/
theorem isPlain_of_mem {c : Char} (hquote : c ≠ '"') (hbackslash : c ≠ '\\')
    (hcontrol : ¬c.toNat < 0x20) {byte : UInt8} (h : byte ∈ String.utf8EncodeChar c) :
    IsPlain byte := by
  -- A character below 128 is its own byte; the bytes of the others are 128 at least.
  by_cases hlt : c.toNat < 128
  · rw [Bytes.utf8EncodeChar_of_lt hlt, List.mem_singleton] at h
    have hbyte : byte.toNat = c.toNat := by
      rw [h, UInt8.toNat_ofNat']
      omega
    refine ⟨?_, ?_, ?_⟩
    · rintro rfl
      exact hquote (Char.toNat_inj.mp hbyte.symm)
    · rintro rfl
      exact hbackslash (Char.toNat_inj.mp hbyte.symm)
    · rw [UInt8.lt_iff_toNat_lt, hbyte]
      exact hcontrol
  · have hle := Bytes.le_of_mem_utf8EncodeChar (by omega) h
    refine ⟨?_, ?_, ?_⟩
    · rintro rfl
      exact absurd hle (by decide)
    · rintro rfl
      exact absurd hle (by decide)
    · rw [UInt8.lt_iff_toNat_lt]
      have : (32 : UInt8).toNat = 32 := rfl
      omega

/-- A character is read back as it stands inside a string. -/
theorem scanStringBytes_escapeChar (c : Char) (rest : Bytes) :
    scanStringBytes (Bytes.ofChars (escapeChar c) ++ rest) =
      putBefore (Bytes.ofChars [c]) (scanStringBytes rest) := by
  have hshort : ∀ (letter byte : UInt8), shortEscape? letter = some byte →
      scanStringBytes (92 :: letter :: rest) = putBefore [byte] (scanStringBytes rest) := by
    intro letter byte h
    refine scanStringBytes_escape [letter] ?_
    simp only [List.cons_append, scanEscape, h]
    rfl
  unfold escapeChar
  -- The seven characters with an escape of one letter.
  split
  · next h => subst h; exact hshort 34 34 rfl
  split
  · next h => subst h; exact hshort 92 92 rfl
  split
  · next h => subst h; exact hshort 98 8 rfl
  split
  · next h => subst h; exact hshort 102 12 rfl
  split
  · next h => subst h; exact hshort 110 10 rfl
  split
  · next h => subst h; exact hshort 114 13 rfl
  split
  · next h => subst h; exact hshort 116 9 rfl
  -- The other control characters, and then all that stands for itself.
  split
  · next hcontrol =>
    have hbackslash : String.utf8EncodeChar '\\' = [92] := by decide
    rw [Bytes.ofChars_cons, hbackslash, List.singleton_append, List.cons_append,
      ← codePointBytes_toNat]
    refine scanStringBytes_escape _ ?_
    rw [scanEscape_control hcontrol]
    have hlength : ∀ n < 32, (Bytes.ofChars
        ['u', '0', '0', Nat.digitChar (n / 16), Nat.digitChar (n % 16)]).length = 5 := by
      decide
    rw [hlength _ hcontrol]
  · next hquote hbackslash _ _ _ _ _ hcontrol =>
    have hbytes : Bytes.ofChars [c] = String.utf8EncodeChar c := by simp [Bytes.ofChars]
    rw [hbytes]
    exact scanStringBytes_append (fun _ => isPlain_of_mem hquote hbackslash hcontrol) rest

/-! ## Strings -/

/-- The characters of a string are read back up to its closing quote. -/
theorem scanStringBytes_flatMap (chars : List Char) (rest : Bytes) :
    scanStringBytes (Bytes.ofChars (chars.flatMap escapeChar) ++ 34 :: rest) =
      .ok (Bytes.ofChars chars, rest) := by
  induction chars with
  | nil => simp [scanStringBytes]
  | cons c chars ih =>
    rw [List.flatMap_cons, Bytes.ofChars_append, List.append_assoc, scanStringBytes_escapeChar, ih]
    simp [putBefore, Bytes.ofChars]

/-- A string is read back after its opening quote. -/
theorem scanString_flatMap (text : String) (rest : Bytes) :
    scanString (Bytes.ofChars (text.toList.flatMap escapeChar) ++ 34 :: rest) =
      .ok (text, rest) := by
  unfold scanString
  rw [scanStringBytes_flatMap]
  dsimp only [bind, Except.bind]
  rw [← Bytes.ofText_eq_ofChars, Bytes.toText?_ofText]
  rfl

/-- The bytes of a string between its quotes. -/
theorem ofChars_quote (text : String) :
    Bytes.ofChars (quote text) = 34 :: (Bytes.ofChars (text.toList.flatMap escapeChar) ++ [34]) := by
  have hquote : String.utf8EncodeChar '"' = [34] := by decide
  simp [quote, Bytes.ofChars, hquote]

end CredentialVault.Json
