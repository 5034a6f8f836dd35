import CredentialVault.Text.Blank
import CredentialVault.Text.HexDigit

/-!
# The atoms of patterns

An atom of a pattern stands for one character, for a class of characters or for a position. Which
atoms there may be depends on the options in force: matches are UTF-8 texts, so that without Unicode
nothing may match a single byte beyond ASCII, and with Unicode no property of characters beyond
ASCII is known, neither their case nor their class.
-/

namespace CredentialVault.Pattern

/-- The options in force at a place of a pattern. -/
structure Options where
  /-- Whether letters match in either case. -/
  ignoresCase : Bool
  /-- Whether characters are matched, and not bytes. -/
  isUnicode : Bool
  /-- Whether white space and comments are left out. -/
  isSpaced : Bool
deriving DecidableEq, Repr

namespace Options

/-- The options at the start of a pattern. -/
def start : Options := ⟨false, true, false⟩

/-- The letters of the options. -/
def letters : List Char := ['i', 'm', 's', 'U', 'u', 'R', 'x']

/-- The options with that of a letter switched; the others have no bearing on the form of a
pattern. -/
def switch (options : Options) (letter : Char) (isOn : Bool) : Options :=
  match letter with
  | 'i' => { options with ignoresCase := isOn }
  | 'u' => { options with isUnicode := isOn }
  | 'x' => { options with isSpaced := isOn }
  | _ => options

end Options

/-- The text after white space and comments, each from a hash sign to the end of its line. -/
def skipSpaced (isComment : Bool) : List Char → List Char
  | [] => []
  | c :: rest =>
    if isComment then skipSpaced (c ≠ '\n') rest
    else if c = '#' then skipSpaced true rest
    else if Text.isBlank c then skipSpaced false rest
    else c :: rest

/-- The text after what the options leave out. -/
def skip (options : Options) (text : List Char) : List Char :=
  if options.isSpaced then skipSpaced false text else text

/-- The parts of a pattern that have no parts. -/
inductive Atom where
  /-- A character, which may be given as a byte. -/
  | literal (c : Char) (isByte : Bool)
  /-- The digits, the blanks or the letters of words, or all other characters. -/
  | category (isNegated : Bool)
  /-- A place at the end of a word, or not at one. -/
  | boundary
  /-- The start or the end of a line or of the text. -/
  | anchor
  /-- Any character. -/
  | any
deriving DecidableEq, Repr

namespace Atom

/-- Whether an atom can stand outside of brackets. -/
def isAllowed (options : Options) : Atom → Bool
  | literal c isByte =>
    if options.isUnicode then !options.ignoresCase else !isByte || c.toNat ≤ 0x7f
  | category isNegated => !options.isUnicode && !isNegated
  | boundary => !options.isUnicode
  | anchor => true
  | any => options.isUnicode

/-- Whether an atom can stand between brackets. -/
def isMember (options : Options) : Atom → Bool
  | literal c _ => if options.isUnicode then !options.ignoresCase else c.toNat ≤ 0x7f
  | category isNegated => !options.isUnicode && !isNegated
  | _ => false

end Atom

/-- Reads some digits to base 16. -/
def readDigits? (options : Options) : Nat → List Char → Option (List Char × List Char)
  | 0, text => some ([], text)
  | count + 1, text =>
    match skip options text with
    | [] => none
    | c :: rest =>
      if (Text.hexValue? c).isSome then
        (readDigits? options count rest).map fun (digits, left) => (c :: digits, left)
      else none

/-- Reads a code point of some digits. -/
def readCodePoint? (options : Options) (count : Nat) (text : List Char) :
    Option (Atom × List Char) := do
  let (digits, rest) ← readDigits? options count text
  return (.literal (← Text.codePoint? digits) (count = 2), rest)

/-- Reads an escape after its backslash. Punctuation stands for itself, angle brackets apart. -/
def readEscape? (options : Options) : List Char → Option (Atom × List Char)
  | [] => none
  | c :: rest =>
    if c = 'x' then readCodePoint? options 2 rest
    else if c = 'u' then readCodePoint? options 4 rest
    else if c = 'U' then readCodePoint? options 8 rest
    else if c = 'd' || c = 's' || c = 'w' then some (.category false, rest)
    else if c = 'D' || c = 'S' || c = 'W' then some (.category true, rest)
    else if c = 'A' || c = 'z' then some (.anchor, rest)
    else if c = 'b' || c = 'B' || c = '<' || c = '>' then some (.boundary, rest)
    else if ['a', 'f', 't', 'n', 'r', 'v'].contains c then some (.literal '\n' false, rest)
    else if c.toNat < 0x80 && !c.isAlphanum then some (.literal c false, rest)
    else none

/-- Reads a character or an escape, of which no other character has a meaning of its own. -/
def readLiteral? (options : Options) : List Char → Option (Atom × List Char)
  | [] => none
  | '\\' :: rest => readEscape? options rest
  | c :: rest => some (.literal c false, rest)

end CredentialVault.Pattern
