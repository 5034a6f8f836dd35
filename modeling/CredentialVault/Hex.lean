import CredentialVault.Bytes
import CredentialVault.Text.Quoted

/-!
# Hexadecimal text

Bytes are written as two lower-case digits each. Reading a text of known length accepts both
cases; its faults are found in a fixed order: an odd number of digits, a wrong length, and then the
first character that is no digit.
-/

namespace CredentialVault.Hex

/-- The lower-case digit of a value below sixteen. -/
def digit (value : Nat) : Char :=
  Nat.digitChar value

/-- The two digits of a byte. -/
def byteDigits (byte : UInt8) : List Char :=
  [digit (byte.toNat / 16), digit (byte.toNat % 16)]

/-- The digits of a byte string. -/
def encode (bytes : Bytes) : String :=
  String.ofList (bytes.flatMap byteDigits)

/-- Why a text is not the hexadecimal form of a byte string of the wanted length. -/
inductive Error where
  /-- The number of digits is odd. -/
  | oddLength
  /-- The number of digits is not twice the wanted length. -/
  | wrongLength
  /-- The byte at the position is no digit. -/
  | invalidDigit (byte : UInt8) (position : Nat)

/-- The wording of an error. -/
def Error.message : Error → String
  | .oddLength => "Odd number of digits"
  | .wrongLength => "Invalid string length"
  | .invalidDigit byte position =>
    s!"Invalid character {Text.quotedChar (Char.ofNat byte.toNat)} at position {position}"

/-- The value of a digit in either case. -/
def digitValue? (byte : UInt8) : Option Nat :=
  let n := byte.toNat
  if 48 ≤ n && n ≤ 57 then some (n - 48)
  else if 65 ≤ n && n ≤ 70 then some (n - 55)
  else if 97 ≤ n && n ≤ 102 then some (n - 87)
  else none

/-- The bytes of pairs of digits, the first of which stands at `position`. -/
def decodePairs (position : Nat) : Bytes → Except Error Bytes
  | high :: low :: rest =>
    match digitValue? high, digitValue? low with
    | none, _ => .error (.invalidDigit high position)
    | some _, none => .error (.invalidDigit low (position + 1))
    | some h, some l => do
      let bytes ← decodePairs (position + 2) rest
      return UInt8.ofNat (16 * h + l) :: bytes
  | _ => .ok []

/-- The `length` bytes whose hexadecimal form is the text. -/
def decodeExact (length : Nat) (text : String) : Except Error Bytes :=
  let digits := Bytes.ofText text
  if digits.length % 2 = 1 then .error .oddLength
  else if digits.length ≠ 2 * length then .error .wrongLength
  else decodePairs 0 digits

end CredentialVault.Hex
