import CredentialVault.Json.Reader
import CredentialVault.Proofs.Json.Number
import CredentialVault.Proofs.Json.Text

/-!
# What readers read

A reader `Reads` a value from bytes when it finds the value there and stops behind them, whatever
white space comes before and whatever may come after a value. Sequences of readers read in turn
(`Reads.bind`), and the plain values are texts (`reads_text`) and integers (`reads_integer`).
-/

namespace CredentialVault.Json

variable {α β σ : Type}

/-- Bytes that are white space between tokens. -/
def IsSpace (space : Bytes) : Prop :=
  ∀ byte ∈ space, isSpace byte = true

/-- No bytes are white space. -/
theorem isSpace_nil : IsSpace [] := by simp [IsSpace]

/-- A reader finds a value in bytes, whatever white space comes before them, and leaves what comes
after them. -/
def Reads (reader : Reader α) (value : α) (bytes : Bytes) : Prop :=
  ∀ space rest, IsSpace space → Ends rest → reader (space ++ (bytes ++ rest)) = .ok (value, rest)

/-! ## Sequences -/

/-- A sequence of readers goes on with what the first one found. -/
theorem Reader.bind_of_ok {x : Reader α} {f : α → Reader β} {bytes rest : Bytes} {a : α}
    (h : x bytes = .ok (a, rest)) : (x >>= f) bytes = f a rest := by
  simp only [bind, StateT.bind, h, Except.bind]

/-- The value of a reader may be put into another form. -/
theorem Reads.map {reader : Reader α} {value : α} {bytes : Bytes} (h : Reads reader value bytes)
    (f : α → β) : Reads (do return f (← reader)) (f value) bytes := by
  intro space rest hspace hrest
  rw [Reader.bind_of_ok (h space rest hspace hrest)]
  rfl

/-- The value of a reader may be checked. -/
theorem Reads.bind {reader : Reader α} {value : α} {bytes : Bytes} {f : α → Reader β} {result : β}
    (h : Reads reader value bytes) (hf : f value = pure result) :
    Reads (reader >>= f) result bytes := by
  intro space rest hspace hrest
  rw [Reader.bind_of_ok (h space rest hspace hrest), hf]
  rfl

/-! ## Tokens -/

/-- White space before a token is left out. -/
theorem skipSpace_append {space : Bytes} (hspace : IsSpace space) {byte : UInt8}
    (hbyte : isSpace byte = false) (rest : Bytes) :
    skipSpace (space ++ byte :: rest) = byte :: rest := by
  rw [skipSpace, List.dropWhile_append_of_pos hspace, List.dropWhile_cons_of_neg (by simp [hbyte])]

/-- The byte with which the next token starts. -/
theorem Reader.peek_append {space : Bytes} (hspace : IsSpace space) {byte : UInt8}
    (hbyte : isSpace byte = false) (rest : Bytes) :
    Reader.peek (space ++ byte :: rest) = .ok (some byte, byte :: rest) := by
  have h := skipSpace_append hspace hbyte rest
  have hmodify : (modify skipSpace : Reader PUnit) (space ++ byte :: rest) =
      .ok (⟨⟩, byte :: rest) := by
    show Except.ok (_, skipSpace (space ++ byte :: rest)) = _
    rw [h]
  unfold Reader.peek
  rw [Reader.bind_of_ok hmodify]
  rfl

/-- The next byte, when no white space comes before it. -/
theorem Reader.peek_cons {byte : UInt8} (hbyte : isSpace byte = false) (rest : Bytes) :
    Reader.peek (byte :: rest) = .ok (some byte, byte :: rest) :=
  @Reader.peek_append [] isSpace_nil byte hbyte rest

/-- The next byte is left out. -/
theorem Reader.advance_cons (byte : UInt8) (rest : Bytes) :
    Reader.advance (byte :: rest) = .ok ((), rest) := rfl

/-- A string is read back. -/
theorem reads_text (text : String) : Reads Reader.text text (Bytes.ofChars (quote text)) := by
  intro space rest hspace _
  rw [ofChars_quote, List.cons_append, List.append_assoc, List.singleton_append]
  unfold Reader.text
  rw [Reader.bind_of_ok (Reader.peek_append hspace (by decide) _)]
  dsimp only
  rw [if_pos rfl, Reader.bind_of_ok (Reader.advance_cons ..), Reader.token, scanString_flatMap]
  rfl

/-- A whole number of 64 bits without sign or with it is read back. -/
theorem number_integer {value : Int} (hlow : -Nat.pow 2 63 ≤ value) (hhigh : value < Nat.pow 2 64)
    {rest : Bytes} (hrest : Ends rest) :
    Reader.number (Bytes.ofChars (integerChars value) ++ rest) = .ok (.integer value, rest) := by
  unfold Reader.number Reader.token
  dsimp only
  rw [integerChars]
  split
  · next hneg =>
    have hminus : String.utf8EncodeChar '-' = [45] := by decide
    have hvalue : -(value.natAbs : Int) = value := by omega
    rw [Bytes.ofChars_cons, hminus, ofChars_toDigits, List.singleton_append, List.cons_append,
      if_pos (List.head?_cons ..), List.drop_one, List.tail_cons,
      scanNumber_negative (by omega) (by omega) hrest, hvalue]
    rfl
  · have hvalue : (value.natAbs : Int) = value := by omega
    obtain ⟨first, others, heq, -⟩ := decimalBytes_cons value.natAbs
    have hdigit : isDigit first = true := isDigit_of_mem_decimalBytes (by rw [heq]; simp)
    -- The first digit is not taken for a sign.
    have hsign : (decimalBytes value.natAbs ++ rest).head? ≠ some 45 := by
      rw [heq, List.cons_append, List.head?_cons]
      rintro ⟨⟩
      exact absurd hdigit (by decide)
    rw [ofChars_toDigits, if_neg hsign, scanNumber_decimal (by omega) hrest, hvalue]
    rfl

/-- The first byte of a whole number. -/
theorem ofChars_integerChars_cons (value : Int) : ∃ first rest,
    Bytes.ofChars (integerChars value) = first :: rest ∧ (first = 45 ∨ isDigit first = true) ∧
      isSpace first = false := by
  rw [integerChars]
  split
  · have hminus : String.utf8EncodeChar '-' = [45] := by decide
    rw [Bytes.ofChars_cons, hminus]
    exact ⟨45, _, rfl, .inl rfl, by decide⟩
  · obtain ⟨first, others, heq, -⟩ := decimalBytes_cons value.natAbs
    have hdigit : isDigit first = true := isDigit_of_mem_decimalBytes (by rw [heq]; simp)
    refine ⟨first, others, by rw [ofChars_toDigits, heq], .inr hdigit, ?_⟩
    -- Digits are from 48 on, and white space is below.
    revert hdigit
    simp only [isDigit, isSpace, Bool.and_eq_true, decide_eq_true_eq, Bool.or_eq_false_iff,
      beq_eq_false_iff_ne, ne_eq, UInt8.le_iff_toNat_le, ← UInt8.toNat_inj]
    rintro ⟨h48, -⟩
    have hfirst : 48 ≤ first.toNat := h48
    refine ⟨⟨⟨?_, ?_⟩, ?_⟩, ?_⟩
    · show first.toNat ≠ 32
      omega
    · show first.toNat ≠ 10
      omega
    · show first.toNat ≠ 9
      omega
    · show first.toNat ≠ 13
      omega

/-- A whole number between bounds is read back. -/
theorem reads_integer {low high value : Int} (expected : String) (hlow : low ≤ value)
    (hhigh : value ≤ high) (hlow64 : -Nat.pow 2 63 ≤ value) (hhigh64 : value < Nat.pow 2 64) :
    Reads (Reader.integer low high expected) value (Bytes.ofChars (integerChars value)) := by
  intro space rest hspace hrest
  have hnumber := number_integer hlow64 hhigh64 hrest
  obtain ⟨first, others, heq, hfirst, hblank⟩ := ofChars_integerChars_cons value
  rw [heq, List.cons_append] at hnumber ⊢
  unfold Reader.integer
  rw [Reader.bind_of_ok (Reader.peek_append hspace hblank _)]
  dsimp only
  rw [if_pos hfirst, Reader.bind_of_ok hnumber]
  dsimp only
  rw [if_pos ⟨hlow, hhigh⟩]
  rfl

/-- A whole number of 32 bits is read back. -/
theorem reads_natural32 (value : UInt32) :
    Reads Reader.natural32 value (Bytes.ofChars (integerChars value.toNat)) := by
  have hlt := value.toNat_lt
  have h32 : Nat.pow 2 32 = 4294967296 := rfl
  have h64 : Nat.pow 2 64 = 18446744073709551616 := rfl
  have hread : Reads (Reader.integer 0 (Nat.pow 2 32 - 1) "u32") value.toNat
      (Bytes.ofChars (integerChars value.toNat)) :=
    reads_integer "u32" (by omega) (by omega) (by omega) (by omega)
  have hmap := hread.map fun n => UInt32.ofNat n.toNat
  rwa [Int.toNat_natCast, UInt32.ofNat_toNat] at hmap

/-- A whole number of 64 bits with sign is read back. -/
theorem reads_integer64 (value : Int64) :
    Reads Reader.integer64 value (Bytes.ofChars (integerChars value.toInt)) := by
  have hlow := value.le_toInt
  have hhigh := value.toInt_lt
  have h63 : Nat.pow 2 63 = 9223372036854775808 := rfl
  have h64 : Nat.pow 2 64 = 18446744073709551616 := rfl
  have hread : Reads (Reader.integer (-Nat.pow 2 63) (Nat.pow 2 63 - 1) "i64") value.toInt
      (Bytes.ofChars (integerChars value.toInt)) :=
    reads_integer "i64" (by omega) (by omega) (by omega) (by omega)
  have hmap := hread.map Int64.ofInt
  rwa [Int64.ofInt_toInt] at hmap

end CredentialVault.Json
