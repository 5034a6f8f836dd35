import CredentialVault.Diagnostics.Pattern.Atom

/-!
# Sets of characters between brackets

A set lists characters, ranges, named classes and other sets, and operators of two signs join such
lists. `readSet?` reads one and tells how deep its parts are nested.
-/

namespace CredentialVault.Pattern

/-- The list of members after an opening bracket or an operator. -/
structure SetPart where
  /-- The number of members. -/
  count : Nat
  /-- The depth of the deepest member. -/
  depth : Nat
  /-- The depth of what stands before the operator, if there is one. -/
  left : Option Nat
  /-- Whether the bracket was opened just before, so that hyphens and a closing bracket stand for
  themselves. -/
  isOpening : Bool
deriving DecidableEq, Repr

namespace SetPart

/-- The list after an opening bracket. -/
def opened : SetPart := ⟨0, 0, none, true⟩

/-- The list with another member. -/
def add (part : SetPart) (depth : Nat) : SetPart :=
  { part with count := part.count + 1, depth := max part.depth depth }

/-- The depth of the list and of what it is joined to. A list of several members counts. -/
def totalDepth (part : SetPart) : Nat :=
  let own := if 2 ≤ part.count then part.depth + 1 else part.depth
  match part.left with
  | none => own
  | some left => max left own + 1

/-- The list after an operator that follows the given one. -/
def operated (part : SetPart) : SetPart := ⟨0, 0, some part.totalDepth, false⟩

end SetPart

/-- The names of classes. -/
def classNames : List String :=
  ["alnum", "alpha", "ascii", "blank", "cntrl", "digit", "graph", "lower", "print", "punct",
    "space", "upper", "word", "xdigit"]

/-- Reads a named class after its opening bracket: a name between colons and a closing bracket. -/
def readClass? : List Char → Option (Bool × List Char)
  | ':' :: rest =>
    let isNegated := rest.head? = some '^'
    let rest := if isNegated then rest.drop 1 else rest
    let name := rest.takeWhile (· ≠ ':')
    match rest.drop name.length with
    | ':' :: ']' :: left =>
      if classNames.contains (String.ofList name) then some (isNegated, left) else none
    | _ => none
  | _ => none

/-- Whether a named class can stand in a set. -/
def allowsClass (options : Options) (isNegated : Bool) : Bool :=
  if options.isUnicode then !options.ignoresCase else !isNegated

/-- The text after an opening bracket and the sign of a negation, which needs Unicode. -/
def enterSet? (options : Options) (text : List Char) : Option (List Char) :=
  match skip options text with
  | '^' :: rest => if options.isUnicode then some rest else none
  | rest => some rest

/-- Whether a hyphen is a member of its own: it stands before a closing bracket or another hyphen.
Of a comment between them only the first character that is not blank counts. -/
def isLoneHyphen (options : Options) (rest : List Char) : Bool :=
  let next :=
    if options.isSpaced then
      match rest.dropWhile Text.isBlank with
      | '#' :: comment => comment.dropWhile Text.isBlank
      | text => text
    else rest
  next.head? = some ']' || next.head? = some '-'

/-- Reads a character, a category or a range. -/
def readMember? (options : Options) (text : List Char) : Option (List Char) := do
  let (first, rest) ← readLiteral? options text
  let '-' :: upper := skip options rest | if first.isMember options then some rest else none
  if isLoneHyphen options upper then
    if first.isMember options then some rest else none
  else
    let (last, rest) ← readLiteral? options (skip options upper)
    match first, last with
    | .literal low _, .literal high _ =>
      if low ≤ high && first.isMember options && last.isMember options then some rest else none
    | _, _ => none

/-- Reads what is left of a set, and of the sets around it: its depth and the text after it. Each
character of the text takes one step at most. -/
def readSetParts? (options : Options) :
    Nat → SetPart → List SetPart → List Char → Option (Nat × List Char)
  | 0, _, _, _ => none
  | steps + 1, part, outer, text =>
    match skip options text with
    | [] => none
    | c :: rest =>
      let closed := { part with isOpening := false }
      let isPlain := (Atom.literal c false).isMember options
      if part.isOpening && c = '-' then
        if isPlain then readSetParts? options steps (part.add 0) outer rest else none
      else if part.isOpening && part.count = 0 && c = ']' then
        if isPlain then readSetParts? options steps (closed.add 0) outer rest else none
      else if c = '[' then
        match readClass? rest with
        | some (isNegated, rest) =>
          if allowsClass options isNegated then
            readSetParts? options steps (closed.add 0) outer rest
          else none
        | none =>
          (enterSet? options rest).bind (readSetParts? options steps .opened (closed :: outer))
      else if c = ']' then
        let depth := closed.totalDepth + 1
        match outer with
        | [] => some (depth, rest)
        | parent :: outer => readSetParts? options steps (parent.add depth) outer rest
      else if (c = '&' || c = '-' || c = '~') && rest.head? = some c then
        readSetParts? options steps closed.operated outer (rest.drop 1)
      else
        (readMember? options (c :: rest)).bind (readSetParts? options steps (closed.add 0) outer)

/-- Reads a set after its opening bracket: its depth and the text after it. -/
def readSet? (options : Options) (text : List Char) : Option (Nat × List Char) :=
  (enterSet? options text).bind (readSetParts? options (text.length + 1) .opened [])

end CredentialVault.Pattern
