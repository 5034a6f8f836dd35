import CredentialVault.Audit.Row
import CredentialVault.Table

/-!
# Databases

A database file holds tables: the records and the flags of vaults, or the rows of an audit log. A
table may be missing, and a trigger may forbid a kind of change of a table with a message.
-/

namespace CredentialVault

/-- The tables of a database. -/
inductive TableName where
  /-- The records of vaults. -/
  | records
  /-- The flags of vaults. -/
  | flags
  /-- The rows of an audit log. -/
  | audit
deriving DecidableEq, Repr

/-- The name of a table in messages. -/
def TableName.text : TableName → String
  | .records => "vault_records"
  | .flags => "vault_flags"
  | .audit => "vault_audit"

/-- The kinds of changes that a trigger can forbid. -/
inductive Change where
  /-- A row is inserted or replaced. -/
  | insert
  /-- A row is deleted. -/
  | delete
deriving DecidableEq, Repr

/-- Forbids a kind of change of a table. -/
structure Trigger where
  /-- The kind of change. -/
  change : Change
  /-- The table. -/
  table : TableName
  /-- The message of the error. -/
  message : String
deriving DecidableEq, Repr

/-- The content of a database. -/
structure Database where
  /-- The records of vaults, by id. -/
  records : Option (Table String)
  /-- The flags of vaults, by key. -/
  flags : Option (Table String)
  /-- The rows of an audit log. -/
  audit : Option Audit.Rows
  /-- The triggers, the latest first. -/
  triggers : List Trigger
deriving DecidableEq, Repr

namespace Database

/-- The database of an empty file. -/
def empty : Database := ⟨none, none, none, []⟩

/-- The database with the tables of a vault store, which are made if they are missing. -/
def withVaultTables (database : Database) : Database :=
  { database with
    records := some (database.records.getD .empty)
    flags := some (database.flags.getD .empty) }

/-- The database with the table of an audit log, which is made if it is missing. -/
def withAuditTable (database : Database) : Database :=
  { database with audit := some (database.audit.getD .empty) }

/-- The message of a missing table. -/
def missingTable (table : TableName) : String :=
  "no such table: " ++ table.text

/-- The message with which a trigger forbids a change of a table, if one does. -/
def forbids? (database : Database) (change : Change) (table : TableName) : Option String :=
  (database.triggers.find? fun t => t.change = change ∧ t.table = table).map (·.message)

/-- The database without a table and its triggers. -/
def drop (database : Database) (table : TableName) : Database :=
  let database :=
    { database with triggers := database.triggers.filter (·.table ≠ table) }
  match table with
  | .records => { database with records := none }
  | .flags => { database with flags := none }
  | .audit => { database with audit := none }

end Database

end CredentialVault
