/-!
# Writing JSON

A `Value` is written either compactly, or with each member on a line of its own. In a string the
quote, the backslash and the control characters are escaped, and every other character stands for
itself.
-/

namespace CredentialVault.Json

/-- A value to be written. -/
inductive Value where
  /-- A string. -/
  | text (value : String)
  /-- A whole number. -/
  | integer (value : Int)
  /-- An object, with its members in order. -/
  | object (members : List (String × Value))

/-- One character as it stands inside a string. -/
def escapeChar (c : Char) : List Char :=
  if c = '"' then ['\\', '"']
  else if c = '\\' then ['\\', '\\']
  else if c = '\x08' then ['\\', 'b']
  else if c = '\x0c' then ['\\', 'f']
  else if c = '\n' then ['\\', 'n']
  else if c = '\r' then ['\\', 'r']
  else if c = '\t' then ['\\', 't']
  else if c.toNat < 0x20 then
    ['\\', 'u', '0', '0', Nat.digitChar (c.toNat / 16), Nat.digitChar (c.toNat % 16)]
  else [c]

/-- A string between its quotes. -/
def quote (text : String) : List Char :=
  '"' :: text.toList.flatMap escapeChar ++ ['"']

/-- The decimal digits of a whole number, with a sign if it is negative. -/
def integerChars (value : Int) : List Char :=
  if value < 0 then '-' :: Nat.toDigits 10 value.natAbs else Nat.toDigits 10 value.natAbs

namespace Value

mutual

/-- The value without white space. -/
def compactChars : Value → List Char
  | text value => quote value
  | integer value => integerChars value
  | object members => '\x7b' :: compactMembers members ++ ['\x7d']

/-- The members of an object, with commas between them. -/
def compactMembers : List (String × Value) → List Char
  | [] => []
  | [(key, value)] => quote key ++ ':' :: compactChars value
  | (key, value) :: rest => quote key ++ ':' :: compactChars value ++ ',' :: compactMembers rest

end

/-- The start of a line at the given depth, two spaces for each level. -/
def newLine (depth : Nat) : List Char :=
  '\n' :: List.replicate (2 * depth) ' '

mutual

/-- The value with its members on lines of their own, one level deeper than `depth`. -/
def indentedChars (depth : Nat) : Value → List Char
  | text value => quote value
  | integer value => integerChars value
  | object [] => ['\x7b', '\x7d']
  | object (member :: rest) =>
    '\x7b' :: indentedMembers (depth + 1) (member :: rest) ++ newLine depth ++ ['\x7d']

/-- The members of an object, each on a line at the given depth. -/
def indentedMembers (depth : Nat) : List (String × Value) → List Char
  | [] => []
  | [(key, value)] => newLine depth ++ quote key ++ ':' :: ' ' :: indentedChars depth value
  | (key, value) :: rest =>
    newLine depth ++ quote key ++ ':' :: ' ' :: indentedChars depth value ++
      ',' :: indentedMembers depth rest

end

/-- The text of the value without white space. -/
def compact (value : Value) : String :=
  String.ofList value.compactChars

/-- The text of the value with its members on lines of their own. -/
def indented (value : Value) : String :=
  String.ofList (value.indentedChars 0)

end Value

end CredentialVault.Json
