import CredentialVault.Error
import CredentialVault.Files.Tree
import CredentialVault.Instant

/-!
# The audit log

Every attempt to create, open or delete a vault leaves a row in a database beside the vault, with
the kind of the error if it failed. A row holds no secret. `AuditLog.query` gives the rows that
match a filter, the latest first.
-/

namespace CredentialVault

namespace Audit

/-- What is noted in the log. -/
inductive Operation where
  /-- A vault is created. -/
  | create
  /-- A vault is opened. -/
  | unlock
  /-- A vault is deleted. -/
  | delete
deriving DecidableEq, Repr

/-- The name of an operation. -/
def Operation.name : Operation → String
  | create => "init"
  | unlock => "unlock"
  | delete => "delete"

/-- An attempt that is to be noted. -/
structure Attempt where
  /-- What was attempted. -/
  operation : Operation
  /-- The id of the vault. -/
  vaultId : String
  /-- The error, if the attempt failed. -/
  error : Option VaultError
  /-- The public key of the vault, if it is known. -/
  publicKeyHex : Option String
  /-- Further details. -/
  detail : Option String
deriving DecidableEq, Repr

/-- An attempt of which only its outcome is known. -/
def Attempt.plain (operation : Operation) (vaultId : String) (error : Option VaultError) :
    Attempt :=
  ⟨operation, vaultId, error, none, none⟩

/-- Which rows are wanted. -/
structure Filter where
  /-- How many rows there may be. -/
  limit : Nat
  /-- The earliest time, if there is one. -/
  since : Option Instant
  /-- The id of the vault; any if there is none. -/
  vaultId : Option String
  /-- Whether only failed attempts are wanted. -/
  failuresOnly : Bool
deriving DecidableEq, Repr

/-- The filter that is meant when nothing is asked for. -/
def Filter.default : Filter := ⟨50, none, none, false⟩

/-- Whether a filter lets a row pass. -/
def Filter.accepts (filter : Filter) (row : Row) : Bool :=
  filter.since.all (·.ms ≤ row.atMs) && filter.vaultId.all (· = row.vaultId) &&
    (!filter.failuresOnly || !row.succeeded)

/-- The rows that match a filter, the latest first. -/
def Rows.query (rows : Rows) (filter : Filter) : List Row :=
  (rows.rows.filter filter.accepts).take filter.limit

/-- The row of an attempt that was made at an instant; its number is yet to be set. -/
def Attempt.row (attempt : Attempt) (now : Instant) : Row where
  id := 0
  atMs := now.ms
  vaultId := attempt.vaultId
  operation := attempt.operation.name
  errorKind := attempt.error.map (·.kind)
  publicKeyHex := attempt.publicKeyHex
  detail := attempt.detail

end Audit

/-- An audit log that was opened. -/
structure AuditLog where
  /-- The path of its database. -/
  path : String
  /-- Whether its table was there when it was last looked at. -/
  hadTable : Bool
deriving DecidableEq, Repr

/-- Works with an audit log in the files, or fails. -/
abbrev AuditM := ExceptT VaultError (StateM Files)

namespace AuditLog

/-- The name of the database file of the log in the directory of the vault. -/
def fileName : String := "audit.db"

/-- The path of the log in the directory of the vault. -/
def pathIn (directory : String) : String :=
  Files.join directory fileName

/-- Opens the log in a directory, which must be there; the log is made if it is missing. -/
def openAt (directory : String) : AuditM AuditLog := do
  let path := pathIn directory
  match (← get).openDatabase path with
  | .unavailable => throw (.audit s!"cannot open {path}: {Database.unavailable path}")
  | .foreign => throw (.audit ("schema setup: " ++ Database.foreign))
  | .content content =>
    modify (·.saveDatabase path content.withAuditTable)
    return ⟨path, true⟩

/-- The database of the log. -/
def database (log : AuditLog) : AuditM Database := do
  match (← get).openDatabase log.path with
  | .content content => return content
  | _ => throw (.audit Database.foreign)

/-- Appends a row, which gets the next number. -/
def append (log : AuditLog) (row : Audit.Row) : AuditM Unit := do
  let content ← log.database
  match content.audit with
  | none => throw (.audit ("write: " ++ Database.missingTable .audit))
  | some rows =>
    match content.forbids? .insert .audit with
    | some message => throw (.audit ("write: " ++ message))
    | none =>
      modify (·.saveDatabase log.path { content with audit := some (rows.append row) })

/-- Notes an attempt. -/
def record (log : AuditLog) (attempt : Audit.Attempt) (now : Instant) : AuditM Unit :=
  log.append (attempt.row now)

/-- The rows that match a filter, the latest first. That the table is gone shows only when rows are
read, unless it was already gone before. -/
def query (log : AuditLog) (filter : Audit.Filter) : AuditM (List Audit.Row) := do
  match (← log.database).audit with
  | some rows => return rows.query filter
  | none =>
    let action := if log.hadTable then "row parse: " else "query prepare: "
    throw (.audit (action ++ Database.missingTable .audit))

/-- The log after it was used: it has looked at its table. -/
def afterUse (log : AuditLog) (files : Files) : AuditLog :=
  match files.openDatabase log.path with
  | .content content => { log with hadTable := content.audit.isSome }
  | _ => log

/-- Notes an attempt in the log of a directory, if that is possible. -/
def noteIn (directory : String) (attempt : Audit.Attempt) (now : Instant) (files : Files) : Files :=
  let act : AuditM Unit := do
    let log ← openAt directory
    log.record attempt now
  (act files).2

end AuditLog

end CredentialVault
