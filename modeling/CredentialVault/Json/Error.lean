import CredentialVault.Text.Quoted

/-!
# Errors of reading JSON

A text fails either because it is no JSON, or because the value that stands at some place has
another shape than the one wanted there. `Error.message` is the wording of both.
-/

namespace CredentialVault.Json

/-- Why a text is no JSON. -/
inductive Malformed where
  /-- The text ends where a value should stand. -/
  | endInValue
  /-- The text ends inside a string. -/
  | endInString
  /-- The text ends inside an object. -/
  | endInObject
  /-- The text ends inside a list. -/
  | endInList
  /-- No value starts here. -/
  | expectedValue
  /-- A word starts like one of the three words of JSON and is none of them. -/
  | expectedWord
  /-- A key is not followed by a colon. -/
  | expectedColon
  /-- A member of an object is not followed by a comma or the end of the object. -/
  | expectedObjectCommaOrEnd
  /-- An element of a list is not followed by a comma or the end of the list. -/
  | expectedListCommaOrEnd
  /-- A key of an object is no string. -/
  | keyNotString
  /-- A comma is followed by the end of its object or list. -/
  | trailingComma
  /-- Something follows the value. -/
  | trailingCharacters
  /-- A number is not written as one. -/
  | invalidNumber
  /-- A number is too large for a floating-point value. -/
  | numberOutOfRange
  /-- A backslash is not followed by an escape. -/
  | invalidEscape
  /-- The first half of a surrogate pair is not followed by an escape. -/
  | endOfHexEscape
  /-- A half of a surrogate pair stands alone. -/
  | loneSurrogate
  /-- A control character stands inside a string. -/
  | controlCharacter
  /-- The bytes of a string are not UTF-8. -/
  | invalidUtf8
deriving DecidableEq, Repr

/-- The wording of a fault in the text. -/
def Malformed.message : Malformed → String
  | .endInValue => "EOF while parsing a value"
  | .endInString => "EOF while parsing a string"
  | .endInObject => "EOF while parsing an object"
  | .endInList => "EOF while parsing a list"
  | .expectedValue => "expected value"
  | .expectedWord => "expected ident"
  | .expectedColon => "expected `:`"
  | .expectedObjectCommaOrEnd => "expected `,` or `\x7d`"
  | .expectedListCommaOrEnd => "expected `,` or `]`"
  | .keyNotString => "key must be a string"
  | .trailingComma => "trailing comma"
  | .trailingCharacters => "trailing characters"
  | .invalidNumber => "invalid number"
  | .numberOutOfRange => "number out of range"
  | .invalidEscape => "invalid escape"
  | .endOfHexEscape => "unexpected end of hex escape"
  | .loneSurrogate => "lone leading surrogate in hex escape"
  | .controlCharacter => "control character (\\u0000-\\u001F) found while parsing a string"
  | .invalidUtf8 => "invalid unicode code point"

/-- A value as an error shows it. -/
inductive Found where
  /-- The null value. -/
  | null
  /-- A truth value. -/
  | boolean (value : Bool)
  /-- A whole number of at most 64 bits. -/
  | integer (value : Int)
  /-- Any other number, in its shortest decimal text. -/
  | real (digits : String)
  /-- A string. -/
  | text (value : String)
  /-- A list. -/
  | list
  /-- An object. -/
  | object
deriving DecidableEq, Repr

/-- The wording for a value that was found. -/
def Found.message : Found → String
  | .null => "null"
  | .boolean value => "boolean `" ++ (if value then "true" else "false") ++ "`"
  | .integer value => "integer `" ++ toString value ++ "`"
  | .real digits => "floating point `" ++ digits ++ "`"
  | .text value => "string " ++ CredentialVault.Text.quoted value
  | .list => "sequence"
  | .object => "map"

/-- Why a text is not the JSON form of a value of the wanted shape. -/
inductive Error where
  /-- The text is no JSON. -/
  | malformed (fault : Malformed)
  /-- A value of another kind stands where one described by `expected` should. -/
  | wrongKind (found : Found) (expected : String)
  /-- A whole number lies outside the range of the kind `expected`. -/
  | outOfRange (value : Int) (expected : String)
  /-- A list has fewer elements than the value has fields. -/
  | tooShort (length : Nat) (expected : String)
  /-- A field is given twice. -/
  | duplicateField (name : String)
  /-- A field is not given. -/
  | missingField (name : String)
  /-- A string is not the text of a value, for the reason given. -/
  | invalidText (reason : String)
deriving DecidableEq, Repr

/-- The wording of an error. -/
def Error.message : Error → String
  | .malformed fault => fault.message
  | .wrongKind found expected => "invalid type: " ++ found.message ++ ", expected " ++ expected
  | .outOfRange value expected =>
    "invalid value: integer `" ++ toString value ++ "`, expected " ++ expected
  | .tooShort length expected =>
    "invalid length " ++ toString length ++ ", expected " ++ expected
  | .duplicateField name => "duplicate field `" ++ name ++ "`"
  | .missingField name => "missing field `" ++ name ++ "`"
  | .invalidText reason => reason

end CredentialVault.Json
