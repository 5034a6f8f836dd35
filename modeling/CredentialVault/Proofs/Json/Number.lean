import CredentialVault.Json.Printer
import CredentialVault.Json.Scan
import CredentialVault.Proofs.Text.Utf8

/-!
# Whole numbers of JSON are read back

A whole number is read back from its decimal digits (`scanNumber_decimal`, and with a sign
`scanNumber_negative`), provided that what comes after it ends the number: a comma, the end of a
list or an object, white space, or nothing at all (`Ends`).
-/

namespace CredentialVault.Json

/-- What may come after a value: the text ends, or a byte follows that cannot belong to it. -/
def Ends (rest : Bytes) : Prop :=
  ∀ byte, rest.head? = some byte → byte = 44 ∨ byte = 93 ∨ byte = 125 ∨ isSpace byte = true

/-- The end of the text may come after a value. -/
theorem ends_nil : Ends [] := nofun

/-- A byte that may come after a value, whatever comes after it. -/
theorem ends_cons {byte : UInt8} (rest : Bytes)
    (h : byte = 44 ∨ byte = 93 ∨ byte = 125 ∨ isSpace byte = true) : Ends (byte :: rest) := by
  rintro b ⟨⟩
  exact h

/-- The byte after a value belongs to no number. -/
theorem Ends.head {rest : Bytes} (h : Ends rest) {byte : UInt8} (hbyte : rest.head? = some byte) :
    isDigit byte = false ∧ byte ≠ 46 ∧ (byte == 101 || byte == 69) = false := by
  have hspace : isSpace byte = true → byte = 32 ∨ byte = 10 ∨ byte = 9 ∨ byte = 13 := by
    simp only [isSpace, Bool.or_eq_true, beq_iff_eq, or_assoc]
    exact id
  rcases h byte hbyte with rfl | rfl | rfl | hs
  · decide
  · decide
  · decide
  · rcases hspace hs with rfl | rfl | rfl | rfl <;> decide

/-! ## Digits -/

/-- The decimal digits of a natural number. -/
def decimalBytes (n : Nat) : Bytes :=
  (Nat.toDigits 10 n).map fun c => UInt8.ofNat c.toNat

/-- The digits are their own UTF-8 form. -/
theorem ofChars_toDigits (n : Nat) : Bytes.ofChars (Nat.toDigits 10 n) = decimalBytes n := by
  refine Bytes.ofChars_of_lt fun c hc => ?_
  have hdigit := Nat.isDigit_of_mem_toDigits (by decide) (by decide) hc
  simp only [Char.isDigit, Bool.and_eq_true, decide_eq_true_eq] at hdigit
  exact Nat.lt_of_le_of_lt hdigit.2 (by decide)

/-- A decimal digit as a byte. -/
theorem digit_facts : ∀ d < 10, isDigit (UInt8.ofNat (Nat.digitChar d).toNat) = true ∧
    (UInt8.ofNat (Nat.digitChar d).toNat).toNat - 48 = d ∧
      (UInt8.ofNat (Nat.digitChar d).toNat = 48 → d = 0) := by
  decide

/-- The last digit comes after the digits of a tenth. -/
theorem decimalBytes_eq (n : Nat) :
    decimalBytes n =
      (if n < 10 then [] else decimalBytes (n / 10)) ++
        [UInt8.ofNat (Nat.digitChar (n % 10)).toNat] := by
  unfold decimalBytes
  rw [Nat.toDigits_eq_if (by decide)]
  split
  · next h => rw [Nat.mod_eq_of_lt h]; rfl
  · rw [List.map_append]; rfl

/-- The digits are digits. -/
theorem isDigit_of_mem_decimalBytes {n : Nat} {byte : UInt8} (h : byte ∈ decimalBytes n) :
    isDigit byte = true := by
  -- By induction along the tenths.
  induction n using Nat.strongRecOn with
  | ind n ih =>
    rw [decimalBytes_eq, List.mem_append, List.mem_singleton] at h
    rcases h with h | rfl
    · split at h
      · cases h
      · exact ih (n / 10) (by omega) h
    · exact (digit_facts _ (Nat.mod_lt _ (by decide))).1

/-- The digits start with one that is zero only if it is the only one. -/
theorem decimalBytes_cons (n : Nat) :
    ∃ first rest, decimalBytes n = first :: rest ∧ (first = 48 → n = 0 ∧ rest = []) := by
  induction n using Nat.strongRecOn with
  | ind n ih =>
    rw [decimalBytes_eq]
    split
    · next h =>
      refine ⟨_, [], rfl, fun hzero => ⟨?_, rfl⟩⟩
      have := (digit_facts _ (Nat.mod_lt n (by decide))).2.2 hzero
      omega
    · obtain ⟨first, rest, heq, hzero⟩ := ih (n / 10) (by omega)
      rw [heq]
      exact ⟨first, _, rfl, fun h => by have := (hzero h).1; omega⟩

/-! ## Values -/

/-- The value of digits after others. -/
theorem accumulate_append {significand value : Nat} {digits : Bytes} (more : Bytes)
    (h : accumulate significand digits = (value, digits.length)) :
    accumulate significand (digits ++ more) =
      ((accumulate value more).1, (accumulate value more).2 + digits.length) := by
  induction digits generalizing significand with
  | nil =>
    cases h
    simp
  | cons digit digits ih =>
    simp only [accumulate] at h
    split at h
    · next hlt =>
      simp only [Prod.mk.injEq, List.length_cons, Nat.add_right_cancel_iff] at h
      simp only [List.cons_append, accumulate, if_pos hlt, List.length_cons,
        ih (Prod.ext h.1 h.2)]
      rfl
    · simp only [Prod.mk.injEq, List.length_cons] at h
      omega

/-- The value of the digits of a number of 64 bits. -/
theorem accumulate_decimalBytes {n : Nat} (h : n < Nat.pow 2 64) :
    accumulate 0 (decimalBytes n) = (n, (decimalBytes n).length) := by
  -- The last digit is taken in when what was read before it is a tenth of the number.
  have hlast : ∀ significand, significand * 10 + n % 10 = n →
      accumulate significand [UInt8.ofNat (Nat.digitChar (n % 10)).toNat] = (n, 1) := by
    intro significand hvalue
    have hdigit := (digit_facts (n % 10) (Nat.mod_lt n (by decide))).2.1
    simp only [accumulate, hdigit, hvalue, if_pos h]
  induction n using Nat.strongRecOn with
  | ind n ih =>
    rw [decimalBytes_eq]
    split
    · exact hlast 0 (by omega)
    · have htenth := ih (n / 10) (by omega) (by omega) fun significand hvalue => by
        have hdigit := (digit_facts (n / 10 % 10) (Nat.mod_lt _ (by decide))).2.1
        simp only [accumulate, hdigit, hvalue, if_pos (show n / 10 < Nat.pow 2 64 by omega)]
      rw [accumulate_append _ htenth, hlast (n / 10) (by omega), List.length_append]
      simp [Nat.add_comm]

/-! ## Numbers -/

/-- What is read of a number that starts with its digits. -/
theorem span_decimalBytes (n : Nat) {rest : Bytes} (h : Ends rest) :
    (decimalBytes n ++ rest).takeWhile isDigit = decimalBytes n ∧
      (decimalBytes n ++ rest).dropWhile isDigit = rest := by
  have hdigits : ∀ byte ∈ decimalBytes n, isDigit byte = true :=
    fun _ => isDigit_of_mem_decimalBytes
  rw [List.takeWhile_append_of_pos hdigits, List.dropWhile_append_of_pos hdigits]
  rcases rest with _ | ⟨byte, rest⟩
  · simp
  · have hbyte := (h.head rfl).1
    rw [List.takeWhile_cons_of_neg (by simp [hbyte]), List.dropWhile_cons_of_neg (by simp [hbyte])]
    simp

/-- The number that the digits of a number of 64 bits stand for. -/
theorem scanNumber_digits (isNegative : Bool) {n : Nat} (hn : n < Nat.pow 2 64) {rest : Bytes}
    (h : Ends rest) :
    scanNumber isNegative (decimalBytes n ++ rest) =
      if isNegative = false then .ok (.integer n, rest)
      else if n = 0 ∨ Nat.pow 2 63 < n then .ok (.real (-n.toUInt64.toFloat), rest)
      else .ok (.integer (-n), rest) := by
  obtain ⟨htake, hdrop⟩ := span_decimalBytes n h
  obtain ⟨first, others, heq, hzero⟩ := decimalBytes_cons n
  have hfirst : isDigit first = true := isDigit_of_mem_decimalBytes (by rw [heq]; simp)
  -- No digit comes after a leading zero.
  have hlead : ¬(first = 48 ∧ ((others ++ rest).head?.any isDigit) = true) := by
    rintro ⟨h48, hany⟩
    obtain ⟨-, rfl⟩ := hzero h48
    rcases rest with _ | ⟨byte, rest⟩
    · simp at hany
    · simp [(h.head rfl).1] at hany
  -- The number has no fraction and no exponent.
  have hpoint : rest.head? ≠ some 46 := fun h46 => (h.head h46).2.1 rfl
  have hexponent : startsExponent rest = false := by
    rcases rest with _ | ⟨byte, rest⟩
    · rfl
    · exact (h.head rfl).2.2
  have hvalue := accumulate_decimalBytes hn
  rw [heq, List.cons_append] at htake hdrop ⊢
  rw [heq] at hvalue
  simp only [scanNumber, hfirst, not_true_eq_false, if_false, if_neg hlead, htake, hdrop, hvalue,
    if_neg hpoint, hexponent, Int.sub_self, ne_eq]
  cases isNegative
  · rfl
  · by_cases hreal : n = 0 ∨ Nat.pow 2 63 < n <;> simp [hreal] <;> rfl

/-- A natural number of 64 bits is read back. -/
theorem scanNumber_decimal {n : Nat} (hn : n < Nat.pow 2 64) {rest : Bytes} (h : Ends rest) :
    scanNumber false (decimalBytes n ++ rest) = .ok (.integer n, rest) := by
  rw [scanNumber_digits false hn h, if_pos rfl]

/-- The opposite of a natural number of 63 bits is read back. -/
theorem scanNumber_negative {n : Nat} (hpos : 0 < n) (hn : n ≤ Nat.pow 2 63) {rest : Bytes}
    (h : Ends rest) :
    scanNumber true (decimalBytes n ++ rest) = .ok (.integer (-n), rest) := by
  have hn64 : n < Nat.pow 2 64 := Nat.lt_of_le_of_lt hn (by decide)
  rw [scanNumber_digits true hn64 h, if_neg (by simp), if_neg (by omega)]

end CredentialVault.Json
