/-!
# Levels of diagnostics

A level says which messages are kept. It is given by its name in any case, or by its number.
-/

namespace CredentialVault

/-- The levels of messages, from none to all. -/
inductive LogLevel where
  /-- No message is kept. -/
  | off
  /-- Errors are kept. -/
  | error
  /-- Warnings are kept, too. -/
  | warn
  /-- Notices are kept, too. -/
  | info
  /-- What helps to find mistakes is kept, too. -/
  | debug
  /-- Everything is kept. -/
  | trace
deriving DecidableEq, Repr

namespace LogLevel

/-- The levels; the place of each is its number. -/
def all : List LogLevel := [off, error, warn, info, debug, trace]

/-- The name of a level. -/
def name : LogLevel → String
  | off => "off"
  | error => "error"
  | warn => "warn"
  | info => "info"
  | debug => "debug"
  | trace => "trace"

/-- The level of a name in any case. -/
def ofName? (text : String) : Option LogLevel :=
  all.find? fun level => level.name = text.map Char.toLower

/-- The level of a number, which may have a plus sign and leading zeros. -/
def ofNumber? (text : String) : Option LogLevel :=
  let digits := if text.startsWith "+" then text.toList.drop 1 else text.toList
  if digits ≠ [] ∧ digits.all Char.isDigit then
    (String.ofList digits).toNat?.bind (all[·]?)
  else none

/-- The level of a name or of a number. -/
def ofText? (text : String) : Option LogLevel :=
  (ofNumber? text).or (ofName? text)

end LogLevel

end CredentialVault
