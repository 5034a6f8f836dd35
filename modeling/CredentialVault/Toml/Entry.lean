/-!
# Entries of a TOML document

A document is a tree of tables. A table comes to be by its header, as a step on the way to another
header, or as a step of a dotted key, and this origin decides whether it can still be extended:
`assign?` says where a key may be set, and `openTable?` which header may follow.
-/

namespace CredentialVault.Toml

/-- How a table came to be. -/
inductive Origin where
  /-- By its own header. -/
  | header
  /-- On the way to the header of another table. -/
  | implied
  /-- By a dotted key. -/
  | dotted
deriving DecidableEq, Repr

/-- What a key stands for. -/
inductive Entry where
  /-- A string. -/
  | text (value : String)
  /-- A truth value. -/
  | boolean (value : Bool)
  /-- A value of another kind: a number, a time, an array or an inline table. -/
  | other
  /-- A table with its entries. -/
  | table (origin : Origin) (entries : List (String × Entry))
  /-- Tables under one header, of which the latest has the given entries. -/
  | tables (latest : List (String × Entry))

/-- The entries of a table. -/
abbrev Entries := List (String × Entry)

namespace Entries

/-- The entries with the entry as that of the key. -/
def set (entries : Entries) (key : String) (entry : Entry) : Entries :=
  entries.filter (·.1 ≠ key) ++ [(key, entry)]

/-- The entries with a value at a dotted key; none if it is taken, or passes through a table that a
dotted key must not extend. -/
def assign? (value : Entry) : List String → Entries → Option Entries
  | [], _ => none
  | [key], entries =>
    if (entries.lookup key).isSome then none else some (entries.set key value)
  | key :: next :: rest, entries =>
    let go (inner : Entries) : Option Entries := assign? value (next :: rest) inner
    match entries.lookup key with
    | none => (go []).map fun inner => entries.set key (.table .dotted inner)
    | some (.table .dotted inner) =>
      (go inner).map fun inner => entries.set key (.table .dotted inner)
    | some (.table .implied inner) =>
      if rest = [] then none
      else (go inner).map fun inner => entries.set key (.table .implied inner)
    | some (.tables inner) =>
      if rest = [] then none else (go inner).map fun inner => entries.set key (.tables inner)
    | _ => none

/-- The entries with the table of a header, which is one of several if `isArray`; none if there is
already something else. -/
def openTable? (isArray : Bool) : List String → Entries → Option Entries
  | [], _ => none
  | [key], entries =>
    match entries.lookup key with
    | none => some (entries.set key (if isArray then .tables [] else .table .header []))
    | some (.table .implied inner) =>
      if isArray then none else some (entries.set key (.table .header inner))
    | some (.tables _) => if isArray then some (entries.set key (.tables [])) else none
    | _ => none
  | key :: next :: rest, entries =>
    let go (inner : Entries) : Option Entries := openTable? isArray (next :: rest) inner
    match entries.lookup key with
    | none => (go []).map fun inner => entries.set key (.table .implied inner)
    | some (.table origin inner) =>
      (go inner).map fun inner => entries.set key (.table origin inner)
    | some (.tables inner) => (go inner).map fun inner => entries.set key (.tables inner)
    | _ => none

/-- The entries with a change of the table to which a header leads. -/
def changeAt? (change : Entries → Option Entries) : List String → Entries → Option Entries
  | [], entries => change entries
  | key :: rest, entries =>
    match entries.lookup key with
    | some (.table origin inner) =>
      (changeAt? change rest inner).map fun inner => entries.set key (.table origin inner)
    | some (.tables inner) =>
      (changeAt? change rest inner).map fun inner => entries.set key (.tables inner)
    | _ => none

end Entries

end CredentialVault.Toml
