import CredentialVault.Error
import CredentialVault.Instant
import CredentialVault.Text.Blank

/-!
# Spans back in time

The audit log can be asked for the attempts since some time ago. The time is written as a number of
days, hours or minutes.
-/

namespace CredentialVault.Audit

/-- The milliseconds of a unit. -/
def unitMs? : Char → Option Nat
  | 'd' => some 86400000
  | 'h' => some 3600000
  | 'm' => some 60000
  | _ => none

/-- The value of a non-empty row of ASCII digits. -/
def digitsValue? (digits : List Char) : Option Nat :=
  if digits.isEmpty || !digits.all Char.isDigit then none
  else some (digits.foldl (fun n c => n * 10 + (c.toNat - '0'.toNat)) 0)

/-- The longest span and the greatest number, in milliseconds and in units. -/
def maxSpan : Nat := Nat.pow 2 63 - 1

/-- The value of digits after an optional sign. Only zero may be negative. -/
def amount? (text : List Char) : Option Nat :=
  match text with
  | '-' :: digits => (digitsValue? digits).filter (· = 0)
  | '+' :: digits => (digitsValue? digits).filter (· ≤ maxSpan)
  | digits => (digitsValue? digits).filter (· ≤ maxSpan)

/-- The milliseconds of a number and a unit. -/
def spanMs? (text : List Char) : Option Nat := do
  let unit ← text.getLast?
  let amount ← amount? text.dropLast
  let scale ← unitMs? unit
  if amount * scale ≤ maxSpan then some (amount * scale) else none

/-- The error of a text that is no span. -/
def invalidSpan (text : List Char) : VaultError :=
  .commandFailed s!"invalid duration '{String.ofList text}', use a format like 7d, 24h, or 30m"

/-- The instant that lies a written span before another one. -/
def since (text : String) (now : Instant) : Except VaultError Instant :=
  let span := Text.strip Text.isBlank text.toList
  match spanMs? span with
  | some ms =>
    if Instant.minMs ≤ (now.before ms).ms then .ok (now.before ms) else .error (invalidSpan span)
  | none => .error (invalidSpan span)

end CredentialVault.Audit
