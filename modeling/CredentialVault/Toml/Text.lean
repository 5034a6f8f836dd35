import CredentialVault.Text.HexDigit

/-!
# Strings and keys of a TOML document

A `Reader` takes something from the front of the text. Strings stand between quotes or apostrophes,
on one line between single marks or on several between triple ones; between quotes there are
escapes. Keys are bare words or strings on one line, joined by dots.
-/

namespace CredentialVault.Toml

/-- Takes something from the front of the text and leaves the rest, or fails. -/
abbrev Reader := StateT (List Char) Option

namespace Reader

/-- The next character, which is left in place. -/
def peek : Reader (Option Char) := do
  return (← get).head?

/-- Leaves out a word, which must come next. -/
def expect (word : List Char) : Reader Unit := do
  let text ← get
  if word.isPrefixOf text then set (text.drop word.length) else failure

/-- Leaves out a character if it comes next, and says whether it did. -/
def accept (c : Char) : Reader Bool := do
  match ← get with
  | next :: rest =>
    if next = c then
      set rest
      return true
    else return false
  | [] => return false

/-- Takes the characters that satisfy `p`. -/
def takeWhile (p : Char → Bool) : Reader (List Char) :=
  modifyGet fun text => (text.takeWhile p, text.dropWhile p)

/-- Leaves out spaces and tabs. -/
def skipBlank : Reader Unit :=
  modify (·.dropWhile fun c => c = ' ' || c = '\t')

/-- Leaves out the end of a line if it comes next, and says whether it did. -/
def acceptNewLine : Reader Bool := do
  match ← get with
  | '\n' :: rest =>
    set rest
    return true
  | '\r' :: '\n' :: rest =>
    set rest
    return true
  | _ => return false

end Reader

/-- Whether a character may stand for itself in strings and comments: a tab, or none of the ASCII
controls. -/
def isPrintable (c : Char) : Bool :=
  c = '\t' || (0x20 ≤ c.toNat && c ≠ '\x7f')

/-- Leaves out a comment, if one comes next. -/
def skipComment : Reader Unit := do
  if (← Reader.peek) = some '#' then let _ ← Reader.takeWhile isPrintable

/-- Leaves out the rest of a line, in which only a comment may stand. -/
def endOfLine : Reader Unit := do
  Reader.skipBlank
  skipComment
  if (← get) ≠ [] then
    if !(← Reader.acceptNewLine) then failure

/-! ## Strings -/

/-- The marks around a string, and whether it has escapes. -/
structure Quoting where
  /-- The character on both sides. -/
  mark : Char
  /-- Whether a backslash starts an escape. -/
  hasEscapes : Bool

/-- The form of strings that start with a character. -/
def Quoting.ofMark? (c : Char) : Option Quoting :=
  if c = '"' then some ⟨'"', true⟩
  else if c = '\'' then some ⟨'\'', false⟩
  else none

/-- Whether a character stands for itself in a string. -/
def Quoting.isPlain (quoting : Quoting) (c : Char) : Bool :=
  isPrintable c && c ≠ quoting.mark && !(quoting.hasEscapes && c = '\\')

/-- The character of an escape after its backslash, and how many characters spell it. -/
def escape? : List Char → Option (Char × Nat)
  | 'b' :: _ => some ('\x08', 1)
  | 't' :: _ => some ('\t', 1)
  | 'n' :: _ => some ('\n', 1)
  | 'f' :: _ => some ('\x0c', 1)
  | 'r' :: _ => some ('\r', 1)
  | '"' :: _ => some ('"', 1)
  | '\\' :: _ => some ('\\', 1)
  | 'u' :: rest =>
    if (rest.take 4).length = 4 then (Text.codePoint? (rest.take 4)).map (·, 5) else none
  | 'U' :: rest =>
    if (rest.take 8).length = 8 then (Text.codePoint? (rest.take 8)).map (·, 9) else none
  | _ => none

/-- The characters of a string on one line after its opening mark, and the text after its closing
mark. -/
def scanLine? (quoting : Quoting) (text : List Char) : Option (List Char × List Char) :=
  match text with
  | [] => none
  | c :: rest =>
    if c = quoting.mark then some ([], rest)
    else if quoting.isPlain c then
      (scanLine? quoting rest).map fun (more, left) => (c :: more, left)
    else if c = '\\' then
      match escape? rest with
      | none => none
      | some (escaped, used) =>
        (scanLine? quoting (rest.drop used)).map fun (more, left) => (escaped :: more, left)
    else none
termination_by text.length
decreasing_by all_goals (simp only [List.length_cons, List.length_drop]; omega)

/-- The number of spaces, tabs and ends of lines at the front of the text. -/
def blankLength : List Char → Nat
  | ' ' :: rest => blankLength rest + 1
  | '\t' :: rest => blankLength rest + 1
  | '\n' :: rest => blankLength rest + 1
  | '\r' :: '\n' :: rest => blankLength rest + 2
  | _ => 0

/-- Whether only spaces and tabs stand before the end of the line. -/
def endsLine (text : List Char) : Bool :=
  match text.dropWhile fun c => c = ' ' || c = '\t' with
  | '\n' :: _ => true
  | '\r' :: '\n' :: _ => true
  | _ => false

/-- The characters of a string on several lines, and the text after its closing marks. One or two
marks stand for themselves, also right before the closing three. A backslash at the end of a line
joins the next word to it. -/
def scanLines? (quoting : Quoting) (text : List Char) : Option (List Char × List Char) :=
  match text with
  | [] => none
  | '\n' :: rest => (scanLines? quoting rest).map fun (more, left) => ('\n' :: more, left)
  | '\r' :: '\n' :: rest => (scanLines? quoting rest).map fun (more, left) => ('\n' :: more, left)
  | c :: rest =>
    if c = quoting.mark then
      let run := (rest.takeWhile (· = c)).length + 1
      if run < 3 then (scanLines? quoting rest).map fun (more, left) => (c :: more, left)
      else
        let extra := min (run - 3) 2
        some (List.replicate extra c, rest.drop (extra + 2))
    else if quoting.isPlain c then
      (scanLines? quoting rest).map fun (more, left) => (c :: more, left)
    else if c = '\\' then
      if endsLine rest then scanLines? quoting (rest.drop (blankLength rest))
      else
        match escape? rest with
        | none => none
        | some (escaped, used) =>
          (scanLines? quoting (rest.drop used)).map fun (more, left) => (escaped :: more, left)
    else none
termination_by text.length
decreasing_by all_goals (simp only [List.length_cons, List.length_drop]; omega)

/-- Reads a string on one line. -/
def lineText : Reader String := fun text => do
  let c :: rest := text | none
  let quoting ← Quoting.ofMark? c
  let (content, left) ← scanLine? quoting rest
  return (String.ofList content, left)

/-- Reads a string, on one line or on several. The end of the line after opening marks does not
count. -/
def text : Reader String := fun text => do
  let c :: rest := text | none
  let quoting ← Quoting.ofMark? c
  let (content, left) ←
    if [c, c].isPrefixOf rest then
      match rest.drop 2 with
      | '\n' :: body => scanLines? quoting body
      | '\r' :: '\n' :: body => scanLines? quoting body
      | body => scanLines? quoting body
    else scanLine? quoting rest
  return (String.ofList content, left)

/-! ## Keys -/

/-- Whether a character may stand in a bare key. -/
def isBare (c : Char) : Bool :=
  ('A' ≤ c && c ≤ 'Z') || ('a' ≤ c && c ≤ 'z') || ('0' ≤ c && c ≤ '9') || c = '-' || c = '_'

/-- Reads one part of a key. -/
def simpleKey : Reader String := do
  match ← Reader.peek with
  | some '"' => lineText
  | some '\'' => lineText
  | _ =>
    let word ← Reader.takeWhile isBare
    if word = [] then failure else return String.ofList word

/-- Reads the parts of a key, of which there are at most `count`. -/
def keyParts : Nat → Reader (List String)
  | 0 => failure
  | count + 1 => do
    Reader.skipBlank
    let part ← simpleKey
    Reader.skipBlank
    if ← Reader.accept '.' then return part :: (← keyParts count)
    return [part]

/-- How deep keys and values can be nested. -/
def maxDepth : Nat := 79

/-- Reads a key. -/
def key : Reader (List String) :=
  keyParts maxDepth

end CredentialVault.Toml
