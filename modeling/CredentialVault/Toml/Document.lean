import CredentialVault.Toml.Entry
import CredentialVault.Toml.Number

/-!
# TOML documents

A document is a sequence of lines: blank ones, comments, headers of tables, and keys with values.
`parse?` gives the entries of the top table of a well-formed document.
-/

namespace CredentialVault.Toml

/-! ## Values -/

/-- What is left of a text after blanks, ends of lines and comments; `inComment` says whether the
text starts inside a comment. -/
def dropSpace? (inComment : Bool) : List Char → Option (List Char)
  | [] => some []
  | '\n' :: rest => dropSpace? false rest
  | '\r' :: '\n' :: rest => dropSpace? false rest
  | c :: rest =>
    if inComment then if isPrintable c then dropSpace? true rest else none
    else if c = ' ' ∨ c = '\t' then dropSpace? false rest
    else if c = '#' then dropSpace? true rest
    else some (c :: rest)

/-- Leaves out blanks, ends of lines and comments. -/
def skipSpace : Reader Unit := do
  set (← (dropSpace? false (← get) : Option (List Char)))

/-- Reads the elements of an array and its end; at most `steps` of them. -/
def elements (value : Reader Entry) : Nat → Reader Unit
  | 0 => failure
  | steps + 1 => do
    skipSpace
    if ← Reader.accept ']' then return
    let _ ← value
    skipSpace
    if ← Reader.accept ',' then elements value steps else Reader.expect [']']

/-- Reads a key, the sign after it, and a value. -/
def keyAndValue (value : Reader Entry) : Reader (List String × Entry) := do
  let path ← key
  Reader.expect ['=']
  Reader.skipBlank
  return (path, ← value)

/-- Reads the members of an inline table and its end; at most `steps` of them. -/
def members (value : Reader Entry) : Nat → Entries → Reader Unit
  | 0, _ => failure
  | steps + 1, entries => do
    let (path, entry) ← keyAndValue value
    Reader.skipBlank
    match entries.assign? entry path with
    | none => failure
    | some entries =>
      if ← Reader.accept ',' then members value steps entries else Reader.expect ['\x7d']

/-- Reads an array or an inline table that starts with a character. -/
def container (value : Reader Entry) (c : Char) : Reader Unit := do
  Reader.expect [c]
  if c = '[' then elements value ((← get).length + 1)
  else
    Reader.skipBlank
    if !(← Reader.accept '\x7d') then members value ((← get).length + 1) []

/-- Reads a value; `nested` reads one that starts with a bracket or a brace. -/
def valueWith (nested : Char → Reader Unit) : Reader Entry := do
  match ← Reader.peek with
  | none => failure
  | some c =>
    if c = '"' ∨ c = '\'' then return .text (← text)
    else if c = 't' then
      Reader.expect ['t', 'r', 'u', 'e']
      return .boolean true
    else if c = 'f' then
      Reader.expect ['f', 'a', 'l', 's', 'e']
      return .boolean false
    else
      if c = '[' ∨ c = '\x7b' then nested c else numberOrTime
      return .other

/-- Reads a value in which arrays and inline tables are nested at most `levels` deep. -/
def value : Nat → Reader Entry
  | 0 => valueWith fun _ => failure
  | levels + 1 => valueWith (container (value levels))

/-! ## Lines -/

/-- The part of a document that was read. -/
structure Draft where
  /-- The entries of the top table. -/
  root : Entries
  /-- The table to which keys belong. -/
  current : List String

/-- Reads the header of a table. -/
def header (draft : Draft) : Reader Draft := do
  Reader.expect ['[']
  let isArray ← Reader.accept '['
  let path ← key
  Reader.expect (if isArray then [']', ']'] else [']'])
  endOfLine
  match draft.root.openTable? isArray path with
  | some root => return ⟨root, path⟩
  | none => failure

/-- Reads a key and its value, and the rest of the line. -/
def assignment (draft : Draft) : Reader Draft := do
  let (path, entry) ← keyAndValue (value maxDepth)
  endOfLine
  match draft.root.changeAt? (·.assign? entry path) draft.current with
  | some root => return { draft with root }
  | none => failure

/-- Reads the lines of a document; at most `steps` of them. -/
def lines : Nat → Draft → Reader Draft
  | 0, _ => failure
  | steps + 1, draft => do
    Reader.skipBlank
    match ← Reader.peek with
    | none => return draft
    | some c =>
      if c = '#' then
        endOfLine
        lines steps draft
      else if c = '[' then lines steps (← header draft)
      else if c = '\n' ∨ c = '\r' then
        if ← Reader.acceptNewLine then lines steps draft else failure
      else lines steps (← assignment draft)

/-- The entries of the top table of a document, which may start with a mark of the byte order. -/
def parse? (document : String) : Option Entries :=
  let text := document.toList
  let text := if text.head? = some '\ufeff' then text.drop 1 else text
  (lines (text.length + 1) ⟨[], []⟩ text).map (·.1.root)

end CredentialVault.Toml
