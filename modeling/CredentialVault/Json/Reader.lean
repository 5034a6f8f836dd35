import CredentialVault.Json.Scan

/-!
# Reading values of a known shape

A `Reader` takes a value of one shape from the front of the bytes. Faults of the text and of the
shape are found in the order in which they stand in the text. `Fields.read` reads a value with named
fields, written either as an object, with its keys in any order and unknown keys skipped, or as the
list of its fields.
-/

namespace CredentialVault.Json

/-- Takes a value from the front of the bytes and leaves the rest. -/
abbrev Reader (α : Type) := StateT Bytes (Except Error) α

namespace Reader

/-- The error of a fault in the text. -/
def malformed {α : Type} (fault : Malformed) : Reader α :=
  throw (.malformed fault)

/-- Runs a scanner of one token. -/
def token {α : Type} (scan : Bytes → Except Malformed (α × Bytes)) : Reader α := fun bytes =>
  (scan bytes).mapError .malformed

/-- The byte with which the next token starts, which is left in place. -/
def peek : Reader (Option UInt8) := do
  modify skipSpace
  return (← get).head?

/-- Leaves out the next byte. -/
def advance : Reader Unit :=
  modify (·.drop 1)

/-- Reads the rest of a word whose first letter is the next byte. -/
def word (letters : Bytes) : Reader Unit :=
  token fun bytes => (scanWord letters (bytes.drop 1)).map ((), ·)

/-- Reads a number that starts with the next byte. -/
def number : Reader Number :=
  token fun bytes =>
    if bytes.head? = some 45 then scanNumber true (bytes.drop 1) else scanNumber false bytes

/-- Fails on a value that is not of the wanted kind. A word, number or string is read first, so that
a fault in its text goes before. -/
def wrongKind {α : Type} (byte : UInt8) (expected : String) : Reader α := do
  let fail (found : Found) : Reader α := throw (.wrongKind found expected)
  if byte = 110 then
    word [117, 108, 108]
    fail .null
  else if byte = 116 then
    word [114, 117, 101]
    fail (.boolean true)
  else if byte = 102 then
    word [97, 108, 115, 101]
    fail (.boolean false)
  else if byte = 45 ∨ isDigit byte then
    fail (← number).found
  else if byte = 34 then
    advance
    fail (.text (← token scanString))
  else if byte = 91 then fail .list
  else if byte = 123 then fail .object
  else malformed .expectedValue

/-- Reads a string. -/
def text : Reader String := do
  match ← peek with
  | none => malformed .endInValue
  | some byte =>
    if byte = 34 then
      advance
      token scanString
    else wrongKind byte "a string"

/-- Reads a whole number between the bounds, which belong to the kind `expected`. -/
def integer (low high : Int) (expected : String) : Reader Int := do
  match ← peek with
  | none => malformed .endInValue
  | some byte =>
    if byte = 45 ∨ isDigit byte then
      match ← number with
      | .integer value =>
        if low ≤ value ∧ value ≤ high then return value else throw (.outOfRange value expected)
      | .real value => throw (.wrongKind (Number.real value).found expected)
    else wrongKind byte expected

/-- Reads a whole number of 32 bits without sign. -/
def natural32 : Reader UInt32 := do
  return UInt32.ofNat (← integer 0 (Nat.pow 2 32 - 1) "u32").toNat

/-- Reads a whole number of 64 bits with sign. -/
def integer64 : Reader Int64 := do
  return Int64.ofInt (← integer (-Nat.pow 2 63) (Nat.pow 2 63 - 1) "i64")

/-- Reads null as none, and anything else as a value. -/
def optional {α : Type} (value : Reader α) : Reader (Option α) := do
  if (← peek) = some 110 then
    word [117, 108, 108]
    return none
  else return some (← value)

/-- Reads the colon after a key. -/
def colon : Reader Unit := do
  match ← peek with
  | none => malformed .endInObject
  | some byte => if byte = 58 then advance else malformed .expectedColon

/-- Whether another member of an object follows; `isFirst` says that none was read yet. The quote
of its key is left in place. -/
def nextMember (isFirst : Bool) : Reader Bool := do
  match ← peek with
  | none => malformed .endInObject
  | some byte =>
    if byte = 125 then return false
    else if isFirst then
      if byte = 34 then return true else malformed .keyNotString
    else if byte ≠ 44 then malformed .expectedObjectCommaOrEnd
    else
      advance
      match ← peek with
      | none => malformed .endInValue
      | some byte =>
        if byte = 34 then return true
        else if byte = 125 then malformed .trailingComma
        else malformed .keyNotString

/-- Whether another element of a list follows; `isFirst` says that none was read yet. -/
def nextElement (isFirst : Bool) : Reader Bool := do
  match ← peek with
  | none => malformed .endInList
  | some byte =>
    if byte = 93 then return false
    else if isFirst then return true
    else if byte ≠ 44 then malformed .expectedListCommaOrEnd
    else
      advance
      match ← peek with
      | none => malformed .endInValue
      | some byte => if byte = 93 then malformed .trailingComma else return true

/-- Reads the end of a list after all elements that it may have. -/
def listEnd : Reader Unit := do
  match ← peek with
  | none => malformed .endInList
  | some byte =>
    if byte = 93 then advance
    else if byte = 44 then
      advance
      if (← peek) = some 93 then malformed .trailingComma else malformed .trailingCharacters
    else malformed .trailingCharacters

/-- The members of an object, each read into the state by `member` from its key on; at most `steps`
of them. -/
def members {σ : Type} (member : String → σ → Reader σ) : Nat → Bool → σ → Reader σ
  | 0, _, _ => malformed .endInObject
  | steps + 1, isFirst, state => do
    if ← nextMember isFirst then
      advance
      let key ← token scanString
      members member steps false (← member key state)
    else
      advance
      return state

/-- Reads an object after its opening brace. Every member takes a byte at least, which bounds their
number. -/
def objectBody {σ : Type} (member : String → σ → Reader σ) (state : σ) : Reader σ := do
  members member ((← get).length + 1) true state

/-- Reads an object whose keys and values are all of one shape; of two equal keys the later one
counts. -/
def dictionary {α : Type} (value : Reader α) : Reader (List (String × α)) := do
  match ← peek with
  | none => malformed .endInValue
  | some byte =>
    if byte = 123 then
      advance
      objectBody (fun key entries => do
        colon
        let item ← value
        return entries.filter (·.1 ≠ key) ++ [(key, item)]) []
    else wrongKind byte "a map"

/-- Reads a text that is one value and nothing else. -/
def run {α : Type} (value : Reader α) (bytes : Bytes) : Except Error α := do
  let (result, rest) ← value bytes
  if skipSpace rest = [] then return result else throw (.malformed .trailingCharacters)

end Reader

/-! ## Values with named fields -/

/-- A field of a value that is gathered in a draft of type `σ`. -/
structure Field (σ : Type) where
  /-- The key of the field. -/
  name : String
  /-- Whether the draft has the field. -/
  isGiven : σ → Bool
  /-- Whether the value may lack the field. -/
  isOptional : Bool
  /-- Reads the field into the draft. -/
  read : σ → Reader σ

/-- The fields of a value, gathered in a draft of type `σ`. -/
structure Fields (σ : Type) where
  /-- What the value is called in errors. -/
  name : String
  /-- The fields in the order of their declaration. -/
  fields : List (Field σ)
  /-- The draft without any field. -/
  empty : σ

namespace Fields

variable {σ : Type}

/-- What the value is called when a list is too short for it. -/
def lengthName (shape : Fields σ) : String :=
  let count := shape.fields.length
  shape.name ++ " with " ++ toString count ++ (if count = 1 then " element" else " elements")

/-- Reads one member of the object form after its key. -/
def member (shape : Fields σ) (key : String) (draft : σ) : Reader σ := do
  match shape.fields.find? (·.name = key) with
  | none =>
    Reader.colon
    Reader.token fun bytes => (skipValue bytes).map ((), ·)
    return draft
  | some field =>
    if field.isGiven draft then throw (.duplicateField key)
    Reader.colon
    field.read draft

/-- Reads the elements of the list form, `count` of which were read. -/
def elements (shape : Fields σ) (count : Nat) (draft : σ) : List (Field σ) → Reader σ
  | [] => do
    Reader.listEnd
    return draft
  | field :: rest => do
    if ← Reader.nextElement (count = 0) then
      elements shape (count + 1) (← field.read draft) rest
    else if field.isOptional then elements shape (count + 1) draft rest
    else throw (.tooShort count shape.lengthName)

/-- Reads the fields into a draft; the first one, in order of declaration, that an object lacks is
an error. -/
def read (shape : Fields σ) : Reader σ := do
  match ← Reader.peek with
  | none => Reader.malformed .endInValue
  | some byte =>
    if byte = 123 then
      Reader.advance
      let draft ← Reader.objectBody shape.member shape.empty
      match shape.fields.find? fun field => !field.isOptional && !field.isGiven draft with
      | some field => throw (.missingField field.name)
      | none => return draft
    else if byte = 91 then
      Reader.advance
      elements shape 0 shape.empty shape.fields
    else Reader.wrongKind byte shape.name

end Fields

end CredentialVault.Json
