import CredentialVault.Instant

/-!
# Rows of the audit log

Every attempt to create, open or delete a vault leaves a row, with the kind of its error if it
failed. Rows are numbered in the order in which they were appended.
-/

namespace CredentialVault.Audit

/-- A row of the audit log. -/
structure Row where
  /-- The number of the row; later rows have higher numbers. -/
  id : Nat
  /-- When the attempt was made, in milliseconds of Unix time. -/
  atMs : Int
  /-- The id of the vault. -/
  vaultId : String
  /-- The name of the operation. -/
  operation : String
  /-- The kind of the error, if the attempt failed. -/
  errorKind : Option String
  /-- The public key of the vault, if it is known. -/
  publicKeyHex : Option String
  /-- Further details. -/
  detail : Option String
deriving DecidableEq, Repr

/-- Whether the attempt succeeded. -/
def Row.succeeded (row : Row) : Bool := row.errorKind.isNone

/-- When the attempt was made. -/
def Row.time (row : Row) : Instant := Instant.ofStored row.atMs

/-- The rows of an audit log. -/
structure Rows where
  /-- The rows, the latest first. -/
  rows : List Row
  /-- The number of the next row. -/
  nextId : Nat
deriving DecidableEq, Repr

/-- An audit log without rows. -/
def Rows.empty : Rows := ⟨[], 1⟩

/-- The log with one more row, which gets the next number. -/
def Rows.append (rows : Rows) (row : Row) : Rows :=
  ⟨{ row with id := rows.nextId } :: rows.rows, rows.nextId + 1⟩

end CredentialVault.Audit
