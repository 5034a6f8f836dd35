/-!
# Byte strings

A byte string is a list of bytes, and a text has one byte string, its UTF-8 form. `ofText_toText?`
says that reading UTF-8 is exact: a byte string that reads as a text is that text's form.
-/

namespace CredentialVault

/-- A byte string. -/
abbrev Bytes := List UInt8

namespace Bytes

/-- The UTF-8 form of a text. -/
def ofText (text : String) : Bytes :=
  text.toByteArray.data.toList

/-- The text whose UTF-8 form is given, if the bytes are well-formed UTF-8. -/
def toText? (bytes : Bytes) : Option String :=
  String.fromUTF8? ⟨bytes.toArray⟩

/-- Reading the UTF-8 form of a text gives the text. -/
theorem toText?_ofText (text : String) : toText? (ofText text) = some text := by
  simp [toText?, ofText, String.fromUTF8?, text.isValidUTF8, String.fromUTF8]

/-- Bytes that read as a text are the UTF-8 form of that text. -/
theorem ofText_toText? {bytes : Bytes} {text : String} (h : toText? bytes = some text) :
    ofText text = bytes := by
  unfold toText? String.fromUTF8? at h
  split at h
  · simp only [Option.some.injEq] at h
    subst h
    simp [ofText, String.fromUTF8]
  · simp at h

/-- Two texts with one UTF-8 form are equal. -/
theorem ofText_injective {s t : String} (h : ofText s = ofText t) : s = t := by
  have hs := toText?_ofText s
  rw [h, toText?_ofText] at hs
  exact (Option.some.inj hs).symm

/-- Some copies of a byte string, one after another. -/
def replicate (count : Nat) (bytes : Bytes) : Bytes :=
  (List.replicate count bytes).flatten

end Bytes

end CredentialVault
