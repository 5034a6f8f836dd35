import CredentialVault.Bytes
import CredentialVault.Decimal.Shortest
import CredentialVault.Json.Error

/-!
# The tokens of JSON

JSON is read from its UTF-8 bytes. Every function here takes the bytes that are left, reads one
token from their front, and returns the token with what is left after it. `skipValue` reads a value
of any depth for its form alone, with the open lists and objects kept on a stack of its own.
-/

namespace CredentialVault.Json

/-- Whether the byte is white space between tokens. -/
def isSpace (byte : UInt8) : Bool :=
  byte == 32 || byte == 10 || byte == 9 || byte == 13

/-- The bytes from the next token on. -/
def skipSpace (bytes : Bytes) : Bytes :=
  bytes.dropWhile isSpace

/-- Whether the byte is a decimal digit. -/
def isDigit (byte : UInt8) : Bool :=
  48 ≤ byte && byte ≤ 57

/-- Reads the rest of a word whose first letter was read. -/
def scanWord : Bytes → Bytes → Except Malformed Bytes
  | [], bytes => .ok bytes
  | _ :: _, [] => .error .endInValue
  | letter :: letters, byte :: rest =>
    if byte = letter then scanWord letters rest else .error .expectedWord

/-- The value of a hexadecimal digit in either case. -/
def hexValue? (byte : UInt8) : Option Nat :=
  let n := byte.toNat
  if 48 ≤ n && n ≤ 57 then some (n - 48)
  else if 65 ≤ n && n ≤ 70 then some (n - 55)
  else if 97 ≤ n && n ≤ 102 then some (n - 87)
  else none

/-- The code unit that the next four bytes spell. -/
def hexUnit : Bytes → Except Malformed Nat
  | a :: b :: c :: d :: _ =>
    match hexValue? a, hexValue? b, hexValue? c, hexValue? d with
    | some a, some b, some c, some d => .ok (((a * 16 + b) * 16 + c) * 16 + d)
    | _, _, _, _ => .error .invalidEscape
  | _ => .error .endInString

/-- The byte that a backslash and the given letter stand for. -/
def shortEscape? (letter : UInt8) : Option UInt8 :=
  if letter = 34 then some 34
  else if letter = 92 then some 92
  else if letter = 47 then some 47
  else if letter = 98 then some 8
  else if letter = 102 then some 12
  else if letter = 110 then some 10
  else if letter = 114 then some 13
  else if letter = 116 then some 9
  else none

/-- The UTF-8 form of a code point. -/
def codePointBytes (n : Nat) : Bytes :=
  Bytes.ofText (String.singleton (Char.ofNat n))

/-- Reads a code point after the letter u of its escape: the bytes of the character and how many
bytes spell it. A code point beyond 16 bits is spelt by two surrogates, which must come together. -/
def hexEscape (bytes : Bytes) : Except Malformed (Bytes × Nat) := do
  let first ← hexUnit bytes
  if 0xdc00 ≤ first ∧ first ≤ 0xdfff then throw .loneSurrogate
  if first < 0xd800 ∨ 0xdbff < first then return (codePointBytes first, 4)
  match bytes.drop 4 with
  | [] => throw .endInString
  | backslash :: rest =>
    if backslash ≠ 92 then throw .endOfHexEscape
    match rest with
    | [] => throw .endInString
    | letter :: rest =>
      if letter ≠ 117 then throw .endOfHexEscape
      let second ← hexUnit rest
      if second < 0xdc00 ∨ 0xdfff < second then throw .loneSurrogate
      return (codePointBytes ((first - 0xd800) * 0x400 + (second - 0xdc00) + 0x10000), 10)

/-- Reads an escape after its backslash: the bytes it stands for and how many bytes spell it. -/
def scanEscape : Bytes → Except Malformed (Bytes × Nat)
  | [] => .error .endInString
  | letter :: rest =>
    match shortEscape? letter with
    | some byte => .ok ([byte], 1)
    | none =>
      if letter = 117 then do
        let (bytes, used) ← hexEscape rest
        return (bytes, used + 1)
      else .error .invalidEscape

/-- Reads the bytes of a string after its opening quote, and the closing quote. -/
def scanStringBytes (bytes : Bytes) : Except Malformed (Bytes × Bytes) :=
  match bytes with
  | [] => .error .endInString
  | byte :: rest =>
    if byte = 34 then .ok ([], rest)
    else if byte = 92 then
      match scanEscape rest with
      | .error fault => .error fault
      | .ok (escaped, used) =>
        match scanStringBytes (rest.drop used) with
        | .error fault => .error fault
        | .ok (more, left) => .ok (escaped ++ more, left)
    else if byte < 32 then .error .controlCharacter
    else
      match scanStringBytes rest with
      | .error fault => .error fault
      | .ok (more, left) => .ok (byte :: more, left)
termination_by bytes.length
decreasing_by all_goals (simp only [List.length_cons, List.length_drop]; omega)

/-- Reads a string after its opening quote. -/
def scanString (bytes : Bytes) : Except Malformed (String × Bytes) := do
  let (content, rest) ← scanStringBytes bytes
  match Bytes.toText? content with
  | some text => return (text, rest)
  | none => throw .invalidUtf8

/-- How many bytes an escape takes after its backslash, if it has the form of one; any code unit
will do. -/
def escapeLength : Bytes → Except Malformed Nat
  | [] => .error .endInString
  | letter :: rest =>
    if (shortEscape? letter).isSome then .ok 1
    else if letter = 117 then do
      let _ ← hexUnit rest
      return 5
    else .error .invalidEscape

/-- What is left after a string whose opening quote was read, the string being looked at for its
form alone. -/
def skipString (bytes : Bytes) : Except Malformed Bytes :=
  match bytes with
  | [] => .error .endInString
  | byte :: rest =>
    if byte = 34 then .ok rest
    else if byte = 92 then
      match escapeLength rest with
      | .error fault => .error fault
      | .ok used => skipString (rest.drop used)
    else if byte < 32 then .error .controlCharacter
    else skipString rest
termination_by bytes.length
decreasing_by all_goals (simp only [List.length_cons, List.length_drop]; omega)

/-! ## Numbers -/

/-- A number: a whole one of at most 64 bits, or a floating-point value. -/
inductive Number where
  /-- A whole number of at most 64 bits. -/
  | integer (value : Int)
  /-- Any other number. -/
  | real (value : Float)

/-- The number as an error shows it. -/
def Number.found : Number → Found
  | .integer value => .integer value
  | .real value => .real (Decimal.ofFloat value)

/-- The value of a run of digits that follow those of `significand`, as far as it stays within 64
bits, and how many digits entered it. -/
def accumulate (significand : Nat) : Bytes → Nat × Nat
  | [] => (significand, 0)
  | digit :: digits =>
    let next := significand * 10 + (digit.toNat - 48)
    if next < Nat.pow 2 64 then
      let (value, used) := accumulate next digits
      (value, used + 1)
    else (significand, 0)

/-- The floating-point value `x * 10^exponent`, or none when it is too large. A power of ten beyond
the range of floating-point values is applied in steps; from `x` below `2^64`, two steps down reach
zero. -/
def scaleByTen (x : Float) (exponent : Int) : Nat → Option Float
  | 0 => some x
  | steps + 1 =>
    if exponent.natAbs ≤ 308 then
      let power := Float.ofScientific 1 false exponent.natAbs
      if 0 ≤ exponent then
        let y := x * power
        if y.isInf then none else some y
      else some (x / power)
    else if x == 0 then some x
    else if 0 ≤ exponent then none
    else scaleByTen (x / Float.ofScientific 1 false 308) (exponent + 308) steps

/-- The value of an exponent's digits; none when it does not fit 31 bits. -/
def exponentValue? (digits : Bytes) : Option Nat :=
  let value := digits.foldl (fun n digit => n * 10 + (digit.toNat - 48)) 0
  if value < Nat.pow 2 31 then some value else none

/-- The floating-point number of the given sign, significand and power of ten. -/
def realNumber (isNegative : Bool) (significand : Nat) (exponent : Int) :
    Except Malformed Number :=
  match scaleByTen significand.toUInt64.toFloat exponent 4 with
  | some x => .ok (.real (if isNegative then -x else x))
  | none => .error .numberOutOfRange

/-- Reads the exponent of a number, after the letter e, and applies it. -/
def scanExponent (isNegative : Bool) (significand : Nat) (shift : Int) (bytes : Bytes) :
    Except Malformed (Number × Bytes) :=
  let (isDown, bytes) :=
    match bytes with
    | sign :: rest =>
      if sign = 43 then (false, rest) else if sign = 45 then (true, rest) else (false, bytes)
    | [] => (false, bytes)
  match bytes with
  | [] => .error .endInValue
  | first :: _ =>
    if isDigit first then do
      let rest := bytes.dropWhile isDigit
      match exponentValue? (bytes.takeWhile isDigit) with
      | some value =>
        let exponent := if isDown then shift - value else shift + value
        let number ← realNumber isNegative significand exponent
        return (number, rest)
      | none =>
        if significand ≠ 0 ∧ ¬isDown then throw .numberOutOfRange
        return (.real (if isNegative then -0.0 else 0.0), rest)
    else .error .invalidNumber

/-- Whether the next byte is the letter e in either case. -/
def startsExponent : Bytes → Bool
  | byte :: _ => byte == 101 || byte == 69
  | [] => false

/-- Reads a number after its sign. -/
def scanNumber (isNegative : Bool) (bytes : Bytes) : Except Malformed (Number × Bytes) := do
  match bytes with
  | [] => throw .endInValue
  | first :: rest =>
    if ¬isDigit first then throw .invalidNumber
    if first = 48 ∧ (rest.head?.any isDigit) then throw .invalidNumber
    let whole := bytes.takeWhile isDigit
    let rest := bytes.dropWhile isDigit
    let (significand, used) := accumulate 0 whole
    let shift : Int := whole.length - used
    if rest.head? = some 46 then
      let fraction := (rest.drop 1).takeWhile isDigit
      let rest := (rest.drop 1).dropWhile isDigit
      if fraction = [] then throw (if rest = [] then .endInValue else .invalidNumber)
      let (significand, used) := accumulate significand fraction
      let shift := shift - used
      if startsExponent rest then scanExponent isNegative significand shift (rest.drop 1)
      else return (← realNumber isNegative significand shift, rest)
    else if startsExponent rest then scanExponent isNegative significand shift (rest.drop 1)
    else if shift ≠ 0 then return (← realNumber isNegative significand shift, rest)
    else if ¬isNegative then return (.integer significand, rest)
    else if significand = 0 ∨ Nat.pow 2 63 < significand then
      return (.real (-significand.toUInt64.toFloat), rest)
    else return (.integer (-significand), rest)

/-- What is left after the exponent of a number, after the letter e. -/
def skipExponent (bytes : Bytes) : Except Malformed Bytes :=
  let bytes :=
    match bytes with
    | sign :: rest => if sign = 43 ∨ sign = 45 then rest else bytes
    | [] => bytes
  if bytes.head?.any isDigit then .ok (bytes.dropWhile isDigit) else .error .invalidNumber

/-- What is left after a number whose sign was read, the number being looked at for its form
alone. -/
def skipNumber (bytes : Bytes) : Except Malformed Bytes :=
  match bytes with
  | [] => .error .invalidNumber
  | first :: rest =>
    if ¬isDigit first then .error .invalidNumber
    else if first = 48 ∧ rest.head?.any isDigit then .error .invalidNumber
    else
      let rest := bytes.dropWhile isDigit
      if rest.head? = some 46 then
        let fraction := rest.drop 1
        let rest := fraction.dropWhile isDigit
        if ¬fraction.head?.any isDigit then .error .invalidNumber
        else if startsExponent rest then skipExponent (rest.drop 1)
        else .ok rest
      else if startsExponent rest then skipExponent (rest.drop 1)
      else .ok rest

/-! ## Values of unknown keys -/

/-- A list or an object that is open. -/
inductive Frame where
  /-- A list. -/
  | list
  /-- An object. -/
  | object

/-- The fault of a text that ends inside the frame. -/
def Frame.endFault : Frame → Malformed
  | .list => .endInList
  | .object => .endInObject

/-- The fault of an element that is followed by neither a comma nor the end of the frame. -/
def Frame.commaFault : Frame → Malformed
  | .list => .expectedListCommaOrEnd
  | .object => .expectedObjectCommaOrEnd

/-- Whether the byte closes the frame. -/
def Frame.isClosedBy : Frame → UInt8 → Bool
  | .list, byte => byte == 93
  | .object, byte => byte == 125

/-- What is left after an element's key and colon, if the frame is an object. -/
def Frame.skipKey (frame : Frame) (bytes : Bytes) : Except Malformed Bytes :=
  match frame with
  | .list => .ok bytes
  | .object => do
    match skipSpace bytes with
    | [] => throw .endInObject
    | quote :: rest =>
      if quote ≠ 34 then throw .keyNotString
      match skipSpace (← skipString rest) with
      | [] => throw .endInObject
      | colon :: rest => if colon = 58 then return rest else throw .expectedColon

/-- What a skipping reader waits for. -/
inductive Awaited where
  /-- A value. -/
  | value
  /-- The first element of the innermost frame, or its end. -/
  | first
  /-- What follows a value. -/
  | next

/-- What is left after the awaited and all that the open frames need. Every step but that from a
list to its first element reads a byte, so `2 * bytes.length + 2` steps are enough. -/
def skipFrames : Nat → Awaited → List Frame → Bytes → Except Malformed Bytes
  | 0, _, _, _ => .error .endInValue
  | steps + 1, .value, frames, bytes =>
    match skipSpace bytes with
    | [] => .error .endInValue
    | byte :: rest =>
      if byte = 110 then do skipFrames steps .next frames (← scanWord [117, 108, 108] rest)
      else if byte = 116 then do skipFrames steps .next frames (← scanWord [114, 117, 101] rest)
      else if byte = 102 then
        do skipFrames steps .next frames (← scanWord [97, 108, 115, 101] rest)
      else if byte = 45 then do skipFrames steps .next frames (← skipNumber rest)
      else if isDigit byte then do skipFrames steps .next frames (← skipNumber (byte :: rest))
      else if byte = 34 then do skipFrames steps .next frames (← skipString rest)
      else if byte = 91 then skipFrames steps .first (.list :: frames) rest
      else if byte = 123 then skipFrames steps .first (.object :: frames) rest
      else .error .expectedValue
  | steps + 1, .first, frames, bytes =>
    match frames with
    | [] => .ok bytes
    | frame :: outer =>
      match skipSpace bytes with
      | [] => .error frame.endFault
      | byte :: rest =>
        if frame.isClosedBy byte then skipFrames steps .next outer rest
        else do skipFrames steps .value frames (← frame.skipKey (byte :: rest))
  | steps + 1, .next, frames, bytes =>
    match frames with
    | [] => .ok bytes
    | frame :: outer =>
      match skipSpace bytes with
      | [] => .error frame.endFault
      | byte :: rest =>
        if byte = 44 then do skipFrames steps .value frames (← frame.skipKey rest)
        else if frame.isClosedBy byte then skipFrames steps .next outer rest
        else .error frame.commaFault

/-- What is left after a value that is looked at for its form alone. -/
def skipValue (bytes : Bytes) : Except Malformed Bytes :=
  skipFrames (2 * bytes.length + 2) .value [] bytes

end CredentialVault.Json
