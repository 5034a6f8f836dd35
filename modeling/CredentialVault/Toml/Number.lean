import CredentialVault.Decimal.Range
import CredentialVault.Toml.Text

/-!
# Numbers and times of a TOML document

Numbers and times are read for their form and range alone: a whole number has 64 bits, a fraction is
not too large, and a time is one of the calendar.
-/

namespace CredentialVault.Toml

/-- The digits at the front of the text, which underscores may part, and the text after them. With
`needsDigit` a digit has to come next. -/
def scanDigits? (isDigit : Char → Bool) (needsDigit : Bool) :
    List Char → Option (List Char × List Char)
  | [] => if needsDigit then none else some ([], [])
  | c :: rest =>
    if isDigit c then (scanDigits? isDigit false rest).map fun (more, left) => (c :: more, left)
    else if needsDigit then none
    else if c = '_' then scanDigits? isDigit true rest
    else some ([], c :: rest)

/-- Reads digits of a base. -/
def digitsOf (isDigit : Char → Bool) : Reader (List Char) :=
  scanDigits? isDigit true

/-- Whether a character is a decimal digit. -/
def isDecimal (c : Char) : Bool := '0' ≤ c && c ≤ '9'

/-- The number that digits of a base spell. -/
def valueOf (base : Nat) (digits : List Char) : Nat :=
  digits.foldl (fun n c => base * n + (Text.hexValue? c).getD 0) 0

/-- Reads a whole number after the mark of its base. -/
def basedInteger (base : Nat) : Reader Unit := do
  Reader.expect ((← get).take 2)
  let digits ← digitsOf fun c => (Text.hexValue? c).any (· < base)
  if valueOf base digits ≥ Nat.pow 2 63 then failure

/-- Reads the digits of a decimal number before its fraction: a zero, or digits that do not start
with one. -/
def wholeDigits : Reader (List Char) := do
  if ← Reader.accept '0' then return ['0']
  digitsOf isDecimal

/-- Reads the exponent of a number, if there is one; the sign and the digits. -/
def exponentPart : Reader (Option Int) := do
  let c ← Reader.peek
  if c ≠ some 'e' ∧ c ≠ some 'E' then return none
  modify (·.drop 1)
  let isNegative := (← Reader.peek) = some '-'
  if isNegative ∨ (← Reader.peek) = some '+' then modify (·.drop 1)
  let value : Int := valueOf 10 (← digitsOf isDecimal)
  return some (if isNegative then -value else value)

/-- Reads a decimal number. A fraction that is too large is refused unless it is negative. -/
def decimalNumber : Reader Unit := do
  let isNegative := (← Reader.peek) = some '-'
  if isNegative ∨ (← Reader.peek) = some '+' then modify (·.drop 1)
  match ← Reader.peek with
  | some 'i' => Reader.expect ['i', 'n', 'f']
  | some 'n' => Reader.expect ['n', 'a', 'n']
  | _ =>
    let whole ← wholeDigits
    let fraction ←
      if ← Reader.accept '.' then pure (some (← digitsOf isDecimal)) else pure none
    let exponent ← exponentPart
    if fraction.isNone && exponent.isNone then
      let value := valueOf 10 whole
      if value > (if isNegative then Nat.pow 2 63 else Nat.pow 2 63 - 1) then failure
    else
      let fraction := fraction.getD []
      let scaled : Decimal.Scaled :=
        ⟨valueOf 10 (whole ++ fraction), exponent.getD 0 - fraction.length⟩
      if !isNegative && scaled.overflows then failure

/-! ## Times -/

/-- Reads a number of exactly `count` digits between the bounds. -/
def fixedNumber (count low high : Nat) : Reader Nat := do
  let digits := (← get).take count
  if digits.length ≠ count || !digits.all isDecimal then failure
  modify (·.drop count)
  let value := valueOf 10 digits
  if low ≤ value ∧ value ≤ high then return value else failure

/-- The number of days of a month. -/
def daysOf (year month : Nat) : Nat :=
  if month = 2 then
    if year % 4 = 0 ∧ (year % 100 ≠ 0 ∨ year % 400 = 0) then 29 else 28
  else if month = 4 ∨ month = 6 ∨ month = 9 ∨ month = 11 then 30
  else 31

/-- Whether a time of day comes next: two digits and a colon. -/
def startsTime : List Char → Bool
  | a :: b :: ':' :: _ => isDecimal a && isDecimal b
  | _ => false

/-- Whether a date comes next: four digits and a hyphen. -/
def startsDate : List Char → Bool
  | a :: b :: c :: d :: '-' :: _ => [a, b, c, d].all isDecimal
  | _ => false

/-- Reads a time of day. A second may be a leap second. -/
def timeOfDay : Reader Unit := do
  let _ ← fixedNumber 2 0 23
  Reader.expect [':']
  let _ ← fixedNumber 2 0 59
  Reader.expect [':']
  let _ ← fixedNumber 2 0 60
  if ← Reader.accept '.' then
    if (← Reader.takeWhile isDecimal) = [] then failure

/-- Reads the distance from universal time, if there is one. -/
def offset : Reader Unit := do
  match ← Reader.peek with
  | some 'Z' => modify (·.drop 1)
  | some 'z' => modify (·.drop 1)
  | some c =>
    if c = '+' ∨ c = '-' then
      modify (·.drop 1)
      let _ ← fixedNumber 2 0 23
      Reader.expect [':']
      let _ ← fixedNumber 2 0 59
  | none => return

/-- Reads a date, with a time if one follows. -/
def dateAndTime : Reader Unit := do
  let year ← fixedNumber 4 0 9999
  Reader.expect ['-']
  let month ← fixedNumber 2 1 12
  Reader.expect ['-']
  let _ ← fixedNumber 2 1 (daysOf year month)
  match ← get with
  | c :: rest =>
    if (c = 'T' ∨ c = 't' ∨ c = ' ') ∧ startsTime rest then
      set rest
      timeOfDay
      offset
  | [] => return

/-- Reads a number or a time, whichever comes next. -/
def numberOrTime : Reader Unit := do
  let text ← get
  if startsDate text then dateAndTime
  else if startsTime text then timeOfDay
  else
    match text with
    | '0' :: 'x' :: _ => basedInteger 16
    | '0' :: 'o' :: _ => basedInteger 8
    | '0' :: 'b' :: _ => basedInteger 2
    | _ => decimalNumber

end CredentialVault.Toml
