import CredentialVault.Diagnostics.Pattern.Bracket
import CredentialVault.Text.Alphanumeric

/-!
# Well-formed patterns

A pattern is a sequence of parts or a choice between sequences: atoms, sets, groups, and repetitions
of those. `isWellFormed` reads a pattern in one pass, with a stack of the open groups. Parts may be
nested only so deep, and no part may be repeated a counted number of times, since a pattern cannot
hold the brace that would end the count.
-/

namespace CredentialVault.Pattern

/-- How deep the parts of a pattern can be nested. -/
def maxDepth : Nat := 250

/-- A part of a sequence. -/
structure Part where
  /-- How deep its parts are nested. -/
  depth : Nat
  /-- Whether it can be repeated. -/
  isRepeatable : Bool
deriving DecidableEq, Repr

/-- A sequence of parts. -/
structure Run where
  /-- The number of parts. -/
  count : Nat
  /-- The depth of the deepest part. -/
  depth : Nat
  /-- The last part. -/
  last : Option Part
deriving DecidableEq, Repr

namespace Run

/-- The sequence without parts. -/
def empty : Run := ⟨0, 0, none⟩

/-- The sequence with another part. -/
def add (run : Run) (part : Part) : Run :=
  ⟨run.count + 1, max run.depth part.depth, some part⟩

/-- The depth of a sequence; one of several parts counts. -/
def totalDepth (run : Run) : Nat :=
  if 2 ≤ run.count then run.depth + 1 else run.depth

/-- The sequence with its last part repeated. -/
def repeated? (run : Run) : Option Run := do
  let part ← run.last
  if part.isRepeatable then
    return ⟨run.count, max run.depth (part.depth + 1), some ⟨part.depth + 1, true⟩⟩
  else none

end Run

/-- The sequences of a choice. -/
structure Choice where
  /-- The depth of the deepest finished sequence, if there is one. -/
  finished : Option Nat
  /-- The sequence that is being read. -/
  run : Run
deriving DecidableEq, Repr

namespace Choice

/-- The choice at the start of a group. -/
def empty : Choice := ⟨none, .empty⟩

/-- The choice with another part. -/
def add (choice : Choice) (part : Part) : Choice :=
  { choice with run := choice.run.add part }

/-- The choice after a bar. -/
def divided (choice : Choice) : Choice :=
  ⟨some (max (choice.finished.getD 0) choice.run.totalDepth), .empty⟩

/-- The depth of a choice; one of several sequences counts. -/
def totalDepth (choice : Choice) : Nat :=
  match choice.finished with
  | none => choice.run.totalDepth
  | some depth => max depth choice.run.totalDepth + 1

end Choice

/-- What is known of a pattern after some of its text. -/
structure Progress where
  /-- The options in force. -/
  options : Options
  /-- The names of groups. -/
  names : List (List Char)
  /-- The innermost open group. -/
  choice : Choice
  /-- The groups around it, each with the options to return to. -/
  outer : List (Options × Choice)
deriving DecidableEq, Repr

namespace Progress

/-- At the start of a pattern. -/
def start : Progress := ⟨.start, [], .empty, []⟩

/-- With another part. -/
def add (progress : Progress) (part : Part) : Progress :=
  { progress with choice := progress.choice.add part }

/-- Inside of a new group. -/
def enter (progress : Progress) (options : Options) : Progress :=
  { progress with
    options
    choice := .empty
    outer := (progress.options, progress.choice) :: progress.outer }

/-- After the end of the innermost group. -/
def leave? (progress : Progress) : Option Progress :=
  match progress.outer with
  | [] => none
  | (options, choice) :: outer =>
    some { progress with
      options
      choice := choice.add ⟨progress.choice.totalDepth + 1, true⟩
      outer }

end Progress

/-- Options that were read: whether there are any, and whether a group with them follows. -/
structure OptionList where
  /-- The options then in force. -/
  options : Options
  /-- Whether any option was given. -/
  isEmpty : Bool
  /-- Whether they are those of a group. -/
  isGroup : Bool
deriving DecidableEq, Repr

/-- Reads letters of options and the sign that ends them. The letters after a hyphen are switched
off; no sign may come twice, and a letter has to follow the hyphen. -/
def readOptions? (options : Options) (seen : List Char) :
    List Char → Option (OptionList × List Char)
  | [] => none
  | c :: rest =>
    if c = ':' || c = ')' then
      if seen.head? = some '-' then none
      else some (⟨options, seen.isEmpty, c = ':'⟩, rest)
    else if seen.contains c then none
    else if c = '-' then readOptions? options (c :: seen) rest
    else if Options.letters.contains c then
      readOptions? (options.switch c (!seen.contains '-')) (c :: seen) rest
    else none

/-- Whether a character can stand in the name of a group. -/
def isNameChar (c : Char) : Bool :=
  c = '_' || c = '.' || c = '[' || c = ']' || Text.isAlphanumeric c

/-- Whether a character can start the name of a group. -/
def isNameStart (c : Char) : Bool := c = '_' || Text.isAlphabetic c

/-- Reads the name of a group and the bracket after it. -/
def readName? (text : List Char) : Option (List Char × List Char) :=
  let name := text.takeWhile (· ≠ '>')
  match text.drop name.length with
  | '>' :: rest =>
    if name.head?.any isNameStart && name.all isNameChar then some (name, rest) else none
  | _ => none

/-- Enters a group of a name, which no other group has. -/
def enterNamed? (progress : Progress) (text : List Char) : Option (Progress × List Char) := do
  let (name, rest) ← readName? text
  if progress.names.contains name then none
  else
    let entered := progress.enter progress.options
    return ({ entered with names := name :: progress.names }, rest)

/-- Reads what follows an opening parenthesis: a group, or options for the rest of the group that is
open. There are no groups that look ahead or behind. -/
def readGroup? (progress : Progress) (text : List Char) : Option (Progress × List Char) :=
  match skip progress.options text with
  | '?' :: 'P' :: '<' :: rest => enterNamed? progress rest
  | '?' :: '<' :: rest => enterNamed? progress rest
  | '?' :: rest => do
    let (list, rest) ← readOptions? progress.options [] rest
    if list.isGroup then return (progress.enter list.options, rest)
    else if list.isEmpty then none
    else return ({ progress with options := list.options }.add ⟨0, false⟩, rest)
  | rest => some (progress.enter progress.options, rest)

/-- Reads a sign of repetition, which a question mark may follow. -/
def readRepetition? (progress : Progress) (rest : List Char) : Option (Progress × List Char) := do
  let run ← progress.choice.run.repeated?
  let rest := if rest.head? = some '?' then rest.drop 1 else rest
  return ({ progress with choice.run := run }, rest)

/-- Reads an atom. -/
def readAtom? (options : Options) : List Char → Option (Atom × List Char)
  | '.' :: rest => some (.any, rest)
  | '^' :: rest => some (.anchor, rest)
  | '$' :: rest => some (.anchor, rest)
  | text => readLiteral? options text

/-- Reads one part, or one sign between parts. -/
def readPart? (progress : Progress) (text : List Char) : Option (Progress × List Char) :=
  match text with
  | [] => none
  | '(' :: rest => readGroup? progress rest
  | ')' :: rest => progress.leave?.map (·, rest)
  | '|' :: rest => some ({ progress with choice := progress.choice.divided }, rest)
  | '?' :: rest => readRepetition? progress rest
  | '*' :: rest => readRepetition? progress rest
  | '+' :: rest => readRepetition? progress rest
  | '\x7b' :: _ => none
  | '[' :: rest =>
    (readSet? progress.options rest).map fun (depth, left) => (progress.add ⟨depth, true⟩, left)
  | _ => do
    let (atom, rest) ← readAtom? progress.options text
    if atom.isAllowed progress.options then return (progress.add ⟨0, true⟩, rest) else none

/-- Reads the rest of a pattern. Each character takes one step at most. -/
def readParts? : Nat → Progress → List Char → Option Progress
  | 0, _, _ => none
  | steps + 1, progress, text =>
    match skip progress.options text with
    | [] => some progress
    | text => (readPart? progress text).bind fun (progress, rest) => readParts? steps progress rest

/-- Whether a text is a pattern. -/
def isWellFormed (text : String) : Bool :=
  match readParts? (text.length + 1) .start text.toList with
  | some progress => progress.outer.isEmpty && progress.choice.totalDepth ≤ maxDepth
  | none => false

end CredentialVault.Pattern
