import CredentialVault.Text.Escaped

/-!
# Quoted text

A value shown inside a message is quoted: the quote, the backslash and the usual controls have
short escapes, and any other character without a glyph is written by its code point in braces.
-/

namespace CredentialVault.Text

/-- A code point in braces, after a backslash and the letter u. -/
def codePointEscape (c : Char) : List Char :=
  ['\\', 'u', '\x7b'] ++ Nat.toDigits 16 c.toNat ++ ['\x7d']

/-- One character as it stands between the two copies of `mark`. -/
def quoteChar (mark c : Char) : List Char :=
  if c = mark || c = '\\' then ['\\', c]
  else if c = '\x00' then ['\\', '0']
  else if c = '\t' then ['\\', 't']
  else if c = '\n' then ['\\', 'n']
  else if c = '\r' then ['\\', 'r']
  else if isEscaped c then codePointEscape c
  else [c]

/-- The text between double quotes. -/
def quoted (text : String) : String :=
  String.ofList ('"' :: text.toList.flatMap (quoteChar '"') ++ ['"'])

/-- The character between single quotes. -/
def quotedChar (c : Char) : String :=
  String.ofList ('\'' :: quoteChar '\'' c ++ ['\''])

end CredentialVault.Text
