import CredentialVault.Bytes
import CredentialVault.Error
import CredentialVault.Text.Blank

/-!
# Base64 with the URL-safe alphabet

Three bytes become four symbols of six bits; one or two bytes at the end become two or three
symbols, whose unused bits are zero. `encode` writes no padding. `decode` ignores white space
around the text, and takes it either without padding or, when it ends in an equals sign, with
exactly the padding that fills the last group of four.
-/

namespace CredentialVault.Base64Url

/-- The symbol of a value below 64. -/
def symbol (value : Nat) : Char :=
  if value < 26 then Char.ofNat (65 + value)
  else if value < 52 then Char.ofNat (71 + value)
  else if value < 62 then Char.ofNat (value - 4)
  else if value = 62 then '-'
  else '_'

/-- The value of a symbol, read from its byte. -/
def value? (byte : UInt8) : Option Nat :=
  let n := byte.toNat
  if 65 ≤ n && n ≤ 90 then some (n - 65)
  else if 97 ≤ n && n ≤ 122 then some (n - 71)
  else if 48 ≤ n && n ≤ 57 then some (n + 4)
  else if n = 45 then some 62
  else if n = 95 then some 63
  else none

/-- The six-bit values of a byte string, the last filled up with zero bits. -/
def sextets : Bytes → List Nat
  | a :: b :: c :: rest =>
    a.toNat / 4 :: (a.toNat % 4 * 16 + b.toNat / 16) :: (b.toNat % 16 * 4 + c.toNat / 64) ::
      c.toNat % 64 :: sextets rest
  | [a, b] => [a.toNat / 4, a.toNat % 4 * 16 + b.toNat / 16, b.toNat % 16 * 4]
  | [a] => [a.toNat / 4, a.toNat % 4 * 16]
  | [] => []

/-- The symbols of a byte string. -/
def encodeChars (bytes : Bytes) : List Char :=
  (sextets bytes).map symbol

/-- The text of a byte string, without padding. -/
def encode (bytes : Bytes) : String :=
  String.ofList (encodeChars bytes)

/-- Why a text is not the encoding of a byte string. -/
inductive Error where
  /-- The byte at the offset is no symbol, or is padding out of place. -/
  | invalidSymbol (byte : UInt8) (offset : Nat)
  /-- The text ends after a single symbol of its last group; the length counts up to it. -/
  | invalidLength (length : Nat)
  /-- The padding does not fill the last group. -/
  | invalidPadding
  /-- The last symbol, at the offset, has unused bits that are not zero. -/
  | invalidLastSymbol (byte : UInt8) (offset : Nat)
deriving DecidableEq, Repr

/-- The wording of an error. -/
def Error.message : Error → String
  | .invalidSymbol byte offset => s!"Invalid symbol {byte.toNat}, offset {offset}."
  | .invalidLength length => s!"Invalid input length: {length}"
  | .invalidPadding => "Invalid padding"
  | .invalidLastSymbol byte offset => s!"Invalid last symbol {byte.toNat}, offset {offset}."

/-- The byte of the padding sign. -/
def paddingByte : UInt8 := 61

/-- The values of a run of symbols, the first of which stands at `offset`. -/
def symbolValues (offset : Nat) : Bytes → Except Error (List Nat)
  | [] => .ok []
  | byte :: rest =>
    match value? byte with
    | none => .error (.invalidSymbol byte offset)
    | some value => do
      let values ← symbolValues (offset + 1) rest
      return value :: values

/-- Checks that only padding follows once padding has begun at `first`. -/
def paddingCount (first : Nat) : Bytes → Except Error Nat
  | [] => .ok 0
  | byte :: rest =>
    if byte = paddingByte then do return (← paddingCount first rest) + 1
    else .error (.invalidSymbol paddingByte first)

/-- The values of the last group, which starts at `start`, and the number of padding signs after
them; `seen` symbols of the group were read before. -/
def lastGroup (start seen : Nat) : Bytes → Except Error (List Nat × Nat)
  | [] => .ok ([], 0)
  | byte :: rest =>
    if byte = paddingByte then
      if seen < 2 then .error (.invalidSymbol paddingByte (start + seen))
      else do return ([], (← paddingCount (start + seen) rest) + 1)
    else
      match value? byte with
      | none => .error (.invalidSymbol byte (start + seen))
      | some value => do
        let (values, padding) ← lastGroup start (seen + 1) rest
        return (value :: values, padding)

/-- The bytes that six-bit values hold; bits that fill no byte are dropped. -/
def bytesOfSextets : List Nat → Bytes
  | a :: b :: c :: d :: rest =>
    UInt8.ofNat (a * 4 + b / 16) :: UInt8.ofNat (b % 16 * 16 + c / 4) ::
      UInt8.ofNat (c % 4 * 64 + d) :: bytesOfSextets rest
  | [a, b, c] => [UInt8.ofNat (a * 4 + b / 16), UInt8.ofNat (b % 16 * 16 + c / 4)]
  | [a, b] => [UInt8.ofNat (a * 4 + b / 16)]
  | _ => []

/-- The bits of the last group that fill no byte. -/
def unusedBits : List Nat → Nat
  | [_, b] => b % 16
  | [_, _, c] => c % 4
  | _ => 0

/-- Where the last group of a text of the given length starts. -/
def lastGroupStart (length : Nat) : Nat :=
  length - (if length % 4 = 0 then 4 else length % 4)

/-- The bytes whose encoding is the text, given as bytes and without white space around it. The
faults are found from left to right, but for a lone last symbol outside the alphabet, which comes
before all others. -/
def decodeBytes (text : Bytes) : Except Error Bytes := do
  let start := lastGroupStart text.length
  let group := text.drop start
  if group.length = 1 then
    match group.head? with
    | some byte =>
      if byte ≠ paddingByte ∧ value? byte = none then throw (.invalidSymbol byte start)
    | none => pure ()
  let values ← symbolValues 0 (text.take start)
  let (lastValues, padding) ← lastGroup start 0 group
  if group ≠ [] ∧ lastValues.length < 2 then
    throw (.invalidLength (start + lastValues.length))
  if padding ≠ 0 ∧ (lastValues.length + padding) % 4 ≠ 0 then
    throw .invalidPadding
  if unusedBits lastValues ≠ 0 then
    let place := lastValues.length - 1
    throw (.invalidLastSymbol (group.getD place 0) (start + place))
  return bytesOfSextets (values ++ lastValues)

/-- The bytes whose encoding is the text, up to white space around it. -/
def decode (text : String) : Except VaultError Bytes :=
  match decodeBytes (Bytes.ofText (Text.trim text)) with
  | .ok bytes => .ok bytes
  | .error e => .error (.serialization ("invalid base64url text: " ++ e.message))

/-- The bytes of a text that must hold exactly `length` of them. -/
def decodeExact (length : Nat) (text : String) : Except VaultError Bytes := do
  let bytes ← decode text
  if bytes.length = length then return bytes
  else throw (.serialization s!"expected {length} bytes, got {bytes.length}")

end CredentialVault.Base64Url
