import CredentialVault.Files.Database
import CredentialVault.Json.Printer
import CredentialVault.Json.Reader

/-!
# The stored form of databases

A database file is a JSON object of objects of texts: a mark that tells it from other files, each
table that is there, and the number of the next row of the audit log. Triggers are not stored.
-/

namespace CredentialVault

namespace Audit.Row

/-- The fields of a row, without those that it lacks. -/
def storedFields (row : Row) : List (String × String) :=
  [("at_ms", toString row.atMs), ("vault_id", row.vaultId), ("operation", row.operation)] ++
    row.errorKind.toList.map ("error_kind", ·) ++
    row.publicKeyHex.toList.map ("public_key_hex", ·) ++ row.detail.toList.map ("detail", ·)

/-- The row of stored fields. -/
def ofStoredFields? (id : Nat) (fields : List (String × String)) : Option Row := do
  return {
    id
    atMs := ← (← fields.lookup "at_ms").toInt?
    vaultId := ← fields.lookup "vault_id"
    operation := ← fields.lookup "operation"
    errorKind := fields.lookup "error_kind"
    publicKeyHex := fields.lookup "public_key_hex"
    detail := fields.lookup "detail" }

end Audit.Row

namespace Database

/-- The JSON form of texts under keys. -/
def textsJson (entries : List (String × String)) : Json.Value :=
  .object (entries.map fun (key, value) => (key, .text value))

/-- Reads texts under keys. -/
def textsReader : Json.Reader (List (String × String)) :=
  Json.Reader.dictionary Json.Reader.text

/-- The mark of a database file. -/
def mark : String × List (String × String) := ("database", [("format", "1")])

/-- The parts of an audit log. -/
def auditParts (rows : Audit.Rows) : List (String × List (String × String)) :=
  [("vault_audit", rows.rows.map fun row =>
      (toString row.id, (textsJson row.storedFields).compact)),
    ("vault_audit_next", [("id", toString rows.nextId)])]

/-- The stored form of a database. -/
def stored (database : Database) : String :=
  let parts :=
    mark :: database.records.toList.map (fun table => (TableName.records.text, table.rows)) ++
      database.flags.toList.map (fun table => (TableName.flags.text, table.rows)) ++
      database.audit.toList.flatMap auditParts
  (Json.Value.object (parts.map fun (name, entries) => (name, textsJson entries))).compact

/-- Reads a row of an audit log. -/
def rowOf? (entry : String × String) : Option Audit.Row := do
  let fields ← (textsReader.run (Bytes.ofText entry.2)).toOption
  Audit.Row.ofStoredFields? (← entry.1.toNat?) fields

/-- Reads an audit log, if it is among the parts. -/
def auditOf? (parts : List (String × List (String × String))) : Option Audit.Rows := do
  let rows ← (← parts.lookup "vault_audit").mapM rowOf?
  return ⟨rows, ← (← (← parts.lookup "vault_audit_next").lookup "id").toNat?⟩

/-- Reads the stored form of a database. -/
def ofStored? (content : Bytes) : Option Database := do
  let parts ← ((Json.Reader.dictionary textsReader).run content).toOption
  if parts.lookup mark.1 ≠ some mark.2 then none
  else
    return {
      records := (parts.lookup TableName.records.text).map Table.mk
      flags := (parts.lookup TableName.flags.text).map Table.mk
      audit := auditOf? parts
      triggers := [] }

end Database

end CredentialVault
