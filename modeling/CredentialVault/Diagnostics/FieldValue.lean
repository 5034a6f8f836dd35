import CredentialVault.Decimal.Nearest
import CredentialVault.Diagnostics.Pattern.WellFormed

/-!
# Values of fields

A filter may ask for the value of a field: a truth value, a number, or a text that matches a
pattern. `FieldValue.ofText?` takes a text for the first of these that it spells.
-/

namespace CredentialVault

/-- The value of a field that is asked for. -/
inductive FieldValue where
  /-- A truth value. -/
  | truth (value : Bool)
  /-- A floating-point number, by its sign and shortest decimal. -/
  | real (isNegative : Bool) (magnitude : Decimal.Scaled)
  /-- A floating-point number beyond all others. -/
  | infinite (isNegative : Bool)
  /-- What is no number among the floating-point ones. -/
  | notNumber
  /-- A natural number of at most 64 bits. -/
  | natural (value : Nat)
  /-- An integer of at most 64 bits with a minus sign. -/
  | negative (value : Int)
  /-- A text that matches a pattern. -/
  | pattern (text : String)
deriving DecidableEq, Repr

namespace FieldValue

/-- Whether a text is a number in decimal digits, at least one. -/
def isDigits (text : List Char) : Bool :=
  text ≠ [] && text.all Char.isDigit

/-- The number of decimal digits. -/
def digitsValue (digits : List Char) : Nat :=
  digits.foldl (fun n c => 10 * n + (c.toNat - 48)) 0

/-- The sign of a number, whether it is negative, and the rest of its text. -/
def splitSign : List Char → Bool × List Char
  | '-' :: rest => (true, rest)
  | '+' :: rest => (false, rest)
  | text => (false, text)

/-- The whole number of at most 64 bits that a text spells. -/
def wholeOf? (text : List Char) : Option FieldValue :=
  let (isNegative, digits) := splitSign text
  let value := digitsValue digits
  if !isDigits digits then none
  else if isNegative then
    if value ≤ Nat.pow 2 63 then some (.negative (-value)) else none
  else if value < Nat.pow 2 64 then some (.natural value)
  else none

/-- The decimal that a text without a sign spells: digits with a point, of which one may be missing
on either side, and an exponent. -/
def decimalOf? (text : List Char) : Option Decimal.Scaled :=
  let isMark (c : Char) : Bool := c = 'e' || c = 'E'
  let digits := text.takeWhile (!isMark ·)
  let (isSmall, power) := splitSign ((text.dropWhile (!isMark ·)).drop 1)
  let whole := digits.takeWhile (· ≠ '.')
  let fraction := (digits.dropWhile (· ≠ '.')).drop 1
  let exponent : Int := if isSmall then -digitsValue power else digitsValue power
  if isDigits (whole ++ fraction) && (!text.any isMark || isDigits power) then
    some ⟨digitsValue (whole ++ fraction), exponent - fraction.length⟩
  else none

/-- The floating-point number that a text spells. -/
def realOf? (text : List Char) : Option FieldValue :=
  let (isNegative, rest) := splitSign text
  let word := String.ofList (rest.map Char.toLower)
  if word = "inf" || word = "infinity" then some (.infinite isNegative)
  else if word = "nan" then some .notNumber
  else
    (decimalOf? rest).map fun d =>
      ((d.shorten? .up).map (real isNegative)).getD (infinite isNegative)

/-- The value that a text spells. -/
def ofText? (text : String) : Option FieldValue :=
  if text = "true" then some (.truth true)
  else if text = "false" then some (.truth false)
  else
    match (wholeOf? text.toList).or (realOf? text.toList) with
    | some value => some value
    | none => if Pattern.isWellFormed text then some (.pattern text) else none

/-- The text of a value. -/
def render : FieldValue → String
  | truth value => if value then "true" else "false"
  | real isNegative d => (if isNegative then "-" else "") ++ d.renderPositional
  | infinite isNegative => if isNegative then "-inf" else "inf"
  | notNumber => "NaN"
  | natural value => toString value
  | negative value => toString value
  | pattern text => text

/-- The kind of a value in the order of values. -/
def rank : FieldValue → Nat
  | truth _ => 0
  | real _ _ => 1
  | infinite _ => 1
  | notNumber => 2
  | natural _ => 3
  | negative _ => 4
  | pattern _ => 5

/-- The place of a value among those of its kind. Floating-point numbers are counted in steps that
are small enough for all of them. -/
def place : FieldValue → Int
  | truth value => if value then 1 else 0
  | real isNegative d =>
    let steps : Int := d.digits * Nat.pow 10 (d.exponent + 400).toNat
    if isNegative then -steps else steps
  | infinite isNegative =>
    let steps : Int := Nat.pow 10 800
    if isNegative then -steps else steps
  | natural value => value
  | negative value => value
  | _ => 0

/-- The text of a pattern. -/
def patternText : FieldValue → String
  | pattern text => text
  | _ => ""

/-- Compares two values: by their kind, and those of a kind by their size or text. -/
def order (a b : FieldValue) : Ordering :=
  (compare a.rank b.rank).then
    ((compare a.place b.place).then (compare a.patternText b.patternText))

end FieldValue

end CredentialVault
