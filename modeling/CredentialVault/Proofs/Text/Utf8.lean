import CredentialVault.Bytes
import CredentialVault.Proofs.Text.Strip

/-!
# The UTF-8 form of a text

The form of a text is the forms of its characters, one after another (`ofText_ofList`). A character
below 128 is one byte, its code point, and any other character is spelt by bytes from 128 on, so
that a byte below 128 in a form always stands for a character of its own. What is left of a text
without its outer white space is told by what surrounds it (`trim_eq_iff`).
-/

namespace CredentialVault

namespace Bytes

/-- The form of a list of characters. -/
def ofChars (chars : List Char) : Bytes :=
  chars.flatMap String.utf8EncodeChar

/-- No characters have no bytes. -/
@[simp]
theorem ofChars_nil : ofChars [] = [] := rfl

/-- The first character has the first bytes. -/
theorem ofChars_cons (c : Char) (chars : List Char) :
    ofChars (c :: chars) = String.utf8EncodeChar c ++ ofChars chars := by
  simp [ofChars]

/-- The form of characters after others comes after the form of those. -/
@[simp]
theorem ofChars_append (chars more : List Char) :
    ofChars (chars ++ more) = ofChars chars ++ ofChars more := by
  simp [ofChars]

/-- A text has the form of its characters. -/
theorem ofText_ofList (chars : List Char) : ofText (String.ofList chars) = ofChars chars := by
  rw [ofText, String.toByteArray_ofList, List.utf8Encode, ofChars]
  simp

/-- A text has the form of its characters. -/
theorem ofText_eq_ofChars (text : String) : ofText text = ofChars text.toList := by
  rw [← ofText_ofList, String.ofList_toList]

/-- A character below 128 is one byte. -/
theorem utf8EncodeChar_of_lt {c : Char} (h : c.toNat < 128) :
    String.utf8EncodeChar c = [UInt8.ofNat c.toNat] := by
  have hle : c.val.toNat ≤ 0x7f := by
    have : c.val.toNat < 128 := h
    omega
  simp only [String.utf8EncodeChar, if_pos hle]
  rfl

/-- The bytes of a character from 128 on are from 128 on. -/
theorem le_of_mem_utf8EncodeChar {c : Char} (h : 128 ≤ c.toNat) {byte : UInt8}
    (hbyte : byte ∈ String.utf8EncodeChar c) : 128 ≤ byte.toNat := by
  have hlt : ¬c.val.toNat ≤ 0x7f := by
    have : 128 ≤ c.val.toNat := h
    omega
  -- Two, three or four bytes, each with its highest bit set.
  simp only [String.utf8EncodeChar, if_neg hlt] at hbyte
  split at hbyte
  · simp only [List.mem_cons, List.not_mem_nil, or_false] at hbyte
    rcases hbyte with rfl | rfl <;> simp only [UInt8.toNat_ofNat'] <;> omega
  · split at hbyte <;> simp only [List.mem_cons, List.not_mem_nil, or_false] at hbyte
    · rcases hbyte with rfl | rfl | rfl <;> simp only [UInt8.toNat_ofNat'] <;> omega
    · rcases hbyte with rfl | rfl | rfl | rfl <;> simp only [UInt8.toNat_ofNat'] <;> omega

/-- Characters below 128 are their code points. -/
theorem ofChars_of_lt {chars : List Char} (h : ∀ c ∈ chars, c.toNat < 128) :
    ofChars chars = chars.map fun c => UInt8.ofNat c.toNat := by
  induction chars with
  | nil => rfl
  | cons c chars ih =>
    rw [ofChars_cons, utf8EncodeChar_of_lt (h c (by simp)), ih fun d hd => h d (by simp [hd])]
    rfl

end Bytes

/-! ## White space at the ends -/

namespace Text

/-- Nothing is stripped off a list whose elements are all to be kept. -/
theorem strip_of_forall {α : Type} {p : α → Bool} {xs : List α} (h : ∀ x ∈ xs, p x = false) :
    strip p xs = xs :=
  strip_eq_iff_bare.mpr ⟨.of_forall h, [], [], nofun, nofun, by simp⟩

/-- A text without white space is left as it is. -/
theorem trim_of_forall {chars : List Char} (h : ∀ c ∈ chars, isBlank c = false) :
    trim (String.ofList chars) = String.ofList chars := by
  rw [trim, String.toList_ofList, strip_of_forall h]

/-- What is left of a list, when it has nothing to be stripped off, comes with elements to be
stripped off before and after it. -/
theorem strip_eq_iff {α : Type} {p : α → Bool} {xs core : List α} (h : ∀ x ∈ core, p x = false) :
    strip p xs = core ↔ ∃ before after, (∀ x ∈ before, p x = true) ∧ (∀ x ∈ after, p x = true) ∧
      xs = before ++ core ++ after := by
  rw [strip_eq_iff_bare, and_iff_right (Bare.of_forall h)]

/-- A text that is `core` with white space, or nothing, before and after it. -/
def Surrounded (core text : String) : Prop :=
  ∃ before after : String, (∀ c ∈ before.toList, isBlank c = true) ∧
    (∀ c ∈ after.toList, isBlank c = true) ∧ text = before ++ core ++ after

/-- A text without white space is what is left of a text exactly when white space surrounds it. -/
theorem trim_eq_iff {core text : String} (h : ∀ c ∈ core.toList, isBlank c = false) :
    trim text = core ↔ Surrounded core text := by
  have hlists : trim text = core ↔ strip isBlank text.toList = core.toList := by
    rw [trim, ← String.toList_inj, String.toList_ofList]
  rw [hlists, strip_eq_iff h]
  constructor
  · rintro ⟨before, after, hbefore, hafter, htext⟩
    refine ⟨String.ofList before, String.ofList after, ?_, ?_, ?_⟩
    · rwa [String.toList_ofList]
    · rwa [String.toList_ofList]
    · rw [← String.toList_inj, htext]
      simp only [String.toList_append, String.toList_ofList]
  · rintro ⟨before, after, hbefore, hafter, rfl⟩
    exact ⟨before.toList, after.toList, hbefore, hafter, by simp only [String.toList_append]⟩

end Text

end CredentialVault
