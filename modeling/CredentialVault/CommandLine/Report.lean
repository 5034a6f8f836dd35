import CredentialVault.Audit.Since
import CredentialVault.CommandLine.Shell
import CredentialVault.Text.Grid

/-!
# Commands that report

The commands that show the state of the vault, the rows of the audit log and the version. None of
them runs a ceremony.
-/

namespace CredentialVault

/-- What stands for a value that is not there. -/
def absentCell : String := "-"

/-- The table of the state of a vault. -/
def VaultStatus.grid (status : VaultStatus) (vaultId : String) (state : VaultState) :
    Text.Grid where
  header := ["Field", "Value"]
  rows := [
      ["Vault id", vaultId],
      ["State", state.text],
      ["Enabled", if status.isEnabled then "true" else "false"],
      ["Active vault", status.activeId.getD absentCell],
      ["Credential", status.credentialId.getD absentCell],
      ["Public key", status.publicKeyHex.getD absentCell]] ++
    if status.hasLegacyKey then
      [["Legacy key", "present (run `passkey-vault init --migrate`)"]]
    else []

/-- Shows the state of the vault. -/
def StatusCommand.run (context : Context) : CommandM Unit := do
  let store ← context.openStore
  let ask {α : Type} (act : StoreM α) : CommandM α := CommandM.ofExcept (act store).1
  let status ← ask StoreM.readStatus
  let state := if ← ask (StoreM.contains context.vaultId) then .locked else .absent
  CommandM.print (status.grid context.vaultId state).render
  if state = .absent then CommandM.say .tip "Run `passkey-vault init` to create a vault."

namespace Audit

/-- The first and the last characters of a public key that is too long for a cell. -/
def shortKey (key : String) : String :=
  let chars := key.toList
  if chars.length ≤ 20 then key
  else String.ofList (chars.take 8 ++ '…' :: chars.drop (chars.length - 8))

/-- The cells of a row of the log. -/
def Row.cells (row : Row) : List String :=
  [row.time.display, row.vaultId, row.operation, row.errorKind.getD "ok",
    row.publicKeyHex.elim absentCell shortKey, row.detail.getD absentCell]

/-- The table of rows of the log. -/
def grid (rows : List Row) : Text.Grid where
  header := ["When", "Vault", "Operation", "Result", "Public key", "Detail"]
  rows := rows.map (·.cells)

end Audit

/-! ## Listing the audit log -/

namespace AuditCommand

/-- Says that there is nothing to list. -/
def sayNone : CommandM Unit := CommandM.say .info "No audit entries found."

/-- Lists rows, and counts those of failed attempts if there are others, too. -/
def list (rows : List Audit.Row) (failuresOnly : Bool) : CommandM Unit := do
  CommandM.print s!"{rows.length} audit entries:\n"
  CommandM.print (Audit.grid rows).render
  let failed := (rows.filter fun row => !row.succeeded).length
  if failed > 0 && !failuresOnly then
    CommandM.say .warning
      s!"{failed} failed attempt(s) above. Use --failures to list only those."

/-- Lists the latest rows of the audit log. Only a vault that the invocation names restricts
them. -/
def run (context : Context) (vaultId : Option String) (last : Nat) (since : Option String)
    (failuresOnly : Bool) : CommandM Unit := do
  let shell ← get
  if !shell.files.exists? (AuditLog.pathIn context.directory) then sayNone
  else
    let since ← CommandM.ofExcept (since.mapM (Audit.since · shell.now))
    let rows ← CommandM.onFiles do
      (← AuditLog.openAt context.directory).query ⟨last, since, vaultId, failuresOnly⟩
    if rows.isEmpty then sayNone else list rows failuresOnly

end AuditCommand

/-- The name and the version of the program. -/
def programVersion : String := "passkey-vault 0.1.0"

/-- Shows the version of the program and of its formats. -/
def VersionCommand.run : CommandM Unit :=
  CommandM.print (programVersion ++ "\n" ++
    s!"  formats: record v{VaultRecord.currentVersion}, bundle v{SecretBundle.currentVersion}\n" ++
    "  audit log: enabled\n")

end CredentialVault
