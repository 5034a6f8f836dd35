import CredentialVault.Diagnostics.FieldValue
import CredentialVault.Diagnostics.LogLevel

/-!
# Directives of filters

A directive says down to which level messages are kept: all of them, those of a target, or those
inside of a span, of which a name and a field may be asked for. `Directive.ofText?` reads one.
-/

namespace CredentialVault

/-- A field of a span that is asked for. -/
structure FieldMatch where
  /-- The name of the field. -/
  name : String
  /-- Its value; any if there is none. -/
  value : Option FieldValue
deriving DecidableEq, Repr

namespace FieldMatch

/-- Reads a field, with a value after an equality sign. What follows a second sign does not
count. -/
def ofText? (text : List Char) : Option FieldMatch :=
  let name := String.ofList (text.takeWhile (· ≠ '='))
  match text.dropWhile (· ≠ '=') with
  | [] => some ⟨name, none⟩
  | _ :: rest => do
    let value ← FieldValue.ofText? (String.ofList (rest.takeWhile (· ≠ '=')))
    return ⟨name, some value⟩

/-- The text of a field. -/
def render (field : FieldMatch) : String :=
  field.name ++ field.value.elim "" fun value => "=" ++ value.render

/-- Compares two fields. One with a value is greater than one without. -/
def order (a b : FieldMatch) : Ordering :=
  let values :=
    match a.value, b.value with
    | some a, some b => a.order b
    | _, _ => .eq
  (compare a.value.isSome b.value.isSome).then ((compare a.name b.name).then values)

end FieldMatch

/-- Down to which level some messages are kept. -/
structure Directive where
  /-- The target of the messages; any if there is none. -/
  target : Option String
  /-- The name of a span around them. -/
  span : Option String
  /-- A field of such a span. -/
  field : Option FieldMatch
  /-- The level. -/
  level : LogLevel
deriving DecidableEq, Repr

namespace Directive

/-- The directive for all messages. -/
def forAll (level : LogLevel) : Directive := ⟨none, none, none, level⟩

/-! ## Reading -/

/-- Whether a directive can start with the character, if not with a bracket. -/
def isStart (c : Char) : Bool :=
  c = '_' || c = '-' || c = ':' || Text.isAlphanumeric c

/-- Whether the character ends the target of a directive. -/
def isTargetEnd (c : Char) : Bool := c = '=' || c = '['

/-- The number of bytes of a text. -/
def byteCount (text : List Char) : Nat :=
  text.foldl (fun count c => count + c.utf8Size) 0

/-- The text after a number of bytes, unless a character stands across that place. -/
def dropBytes? : Nat → List Char → Option (List Char)
  | 0, text => some text
  | _ + 1, [] => none
  | count + 1, c :: rest =>
    if c.utf8Size ≤ count + 1 then dropBytes? (count + 1 - c.utf8Size) rest else none

/-- The first bytes of a text, unless a character stands across their end. -/
def takeBytes? : Nat → List Char → Option (List Char)
  | 0, _ => some []
  | _ + 1, [] => none
  | count + 1, c :: rest =>
    if c.utf8Size ≤ count + 1 then (takeBytes? (count + 1 - c.utf8Size) rest).map (c :: ·) else none

/-- The part of a text between two places, counted in bytes. -/
def slice? (text : List Char) (start stop : Nat) : Option (List Char) :=
  (dropBytes? start text).bind (takeBytes? (stop - start))

/-- The level from a place on; without a text, everything is kept. -/
def levelFrom? (text : List Char) (start : Nat) : Option LogLevel := do
  let level ← dropBytes? start text
  if level = [] then return .trace else LogLevel.ofText? (String.ofList level)

/-- The level after a span: what is left at the given place is nothing or an equality sign and a
level. -/
def afterSpan? (text : List Char) (place : Nat) : List Char → Option LogLevel
  | [] => some .trace
  | '=' :: _ => levelFrom? text (place + 1)
  | _ => none

/-- Reads a span after its opening bracket, and the level. The characters left are those from the
given place on. -/
def spanFrom? (text : List Char) (target : Option String) (place : Nat) (left : List Char) :
    Option Directive := do
  let name := left.takeWhile fun c => c ≠ ']' && c ≠ '\x7b'
  let stop := place + byteCount name
  let span := String.ofList (← slice? text place stop)
  match left.drop name.length with
  | ']' :: rest => return ⟨target, some span, none, ← afterSpan? text (stop + 1) rest⟩
  | '\x7b' :: rest =>
    let field := rest.takeWhile (· ≠ '\x7d')
    let fieldStop := stop + 1 + byteCount field
    match rest.drop field.length with
    | '\x7d' :: ']' :: rest =>
      if field = [] then none
      else
        let field ← FieldMatch.ofText? (← slice? text (stop + 1) fieldStop)
        return ⟨target, if name = [] then none else some span, some field,
          ← afterSpan? text (fieldStop + 2) rest⟩
    | _ => none
  | _ => none

/-- Reads a directive that starts with a target; a level alone is for all messages. -/
def targetFrom? (text left : List Char) : Option Directive := do
  let stop := byteCount (left.takeWhile (!isTargetEnd ·))
  match left.dropWhile (!isTargetEnd ·) with
  | [] =>
    let whole := String.ofList text
    match LogLevel.ofText? whole with
    | some level => return forAll level
    | none => return ⟨some whole, none, none, .trace⟩
  | c :: rest =>
    let target := String.ofList (← slice? text 0 stop)
    if c = '=' then return ⟨some target, none, none, ← levelFrom? text (stop + 1)⟩
    else spanFrom? text (some target) (stop + 1) rest

/-- Reads a directive. The places of its parts are found in the text without the white space at its
ends, but the parts are cut from the whole text at these places. -/
def ofText? (text : String) : Option Directive :=
  let chars := text.toList
  match Text.strip Text.isBlank chars with
  | [] => none
  | c :: rest =>
    if c = '[' then spanFrom? chars none 1 rest
    else if isStart c then targetFrom? chars (c :: rest)
    else none

/-! ## Order and text -/

/-- Whether the directive depends on the spans around a message. -/
def isDynamic (d : Directive) : Bool := d.span.isSome || d.field.isSome

/-- Whether the directive can be decided for a message alone: it asks for no span by name and for no
value. -/
def isStatic (d : Directive) : Bool :=
  d.span.isNone && d.field.all (·.value.isNone)

/-- The text of a directive. -/
def render (d : Directive) : String :=
  let field := d.field.elim "" fun field => "\x7b" ++ field.render ++ "\x7d"
  let span := if d.isDynamic then "[" ++ d.span.getD "" ++ field ++ "]" else ""
  let scope := d.target.getD "" ++ span
  (if d.target.isSome || d.isDynamic then scope ++ "=" else "") ++ d.level.name

/-- Compares the fields of two directives; having none is least. -/
def compareFields : Option FieldMatch → Option FieldMatch → Ordering
  | some a, some b => a.order b
  | a, b => compare a.isSome b.isSome

/-- Compares two directives by what they apply to: the more specific one is greater. -/
def specificity (a b : Directive) : Ordering :=
  (compare (a.target.map (·.utf8ByteSize)) (b.target.map (·.utf8ByteSize))).then
    ((compare a.span.isSome b.span.isSome).then
      ((compare a.field.isSome b.field.isSome).then
        ((compare a.target b.target).then
          ((compare a.span b.span).then (compareFields a.field b.field)))))

/-- Adds a directive to a list with the most specific ones first. It takes the place of one that
applies to the same. -/
def insert (d : Directive) : List Directive → List Directive
  | [] => [d]
  | e :: rest =>
    match specificity d e with
    | .gt => d :: e :: rest
    | .eq => d :: rest
    | .lt => e :: insert d rest

end Directive

end CredentialVault
