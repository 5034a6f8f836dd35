import CredentialVault.Credential.Ceremony
import CredentialVault.Files.Tree
import CredentialVault.Text.Blank
import CredentialVault.Toml.Document
import CredentialVault.Vault.Record

/-!
# Settings of a project

A project can say in a settings file where its vault is and for which party its credential is made.
Whatever the file does not say has a default, and so has everything without a file.
-/

namespace CredentialVault

/-- What a project sets. -/
structure Settings where
  /-- The directory of the vault, as seen from the project. -/
  vaultDirectory : String
  /-- The id of the vault. -/
  vaultId : String
  /-- The party for which credentials are made. -/
  rp : RelyingParty
  /-- Whether the secret of a vault may be a stored seed. -/
  allowsLargeBlob : Bool
deriving DecidableEq, Repr

namespace Settings

/-- The settings of a project without a file. -/
def default : Settings := ⟨".passkey-vault", VaultRecord.defaultId, .default, true⟩

/-- The name of the settings file. -/
def fileName : String := ".passkey-vault.toml"

/-- The text of a key, with a default; none if the key stands for something else. -/
def textAt? (entries : Toml.Entries) (key default : String) : Option String :=
  match entries.lookup key with
  | none => some default
  | some (.text value) => some value
  | some _ => none

/-- The truth value of a key, with a default; none if the key stands for something else. -/
def booleanAt? (entries : Toml.Entries) (key : String) (default : Bool) : Option Bool :=
  match entries.lookup key with
  | none => some default
  | some (.boolean value) => some value
  | some _ => none

/-- The settings of the entries of a file; unknown keys do not matter. -/
def ofEntries? (entries : Toml.Entries) : Option Settings := do
  return {
    vaultDirectory := ← textAt? entries "vault_dir" default.vaultDirectory
    vaultId := ← textAt? entries "vault_id" default.vaultId
    rp := {
      id := ← textAt? entries "relying_party_id" default.rp.id
      name := ← textAt? entries "relying_party_name" default.rp.name
      userName := ← textAt? entries "user_name" default.rp.userName }
    allowsLargeBlob :=
      ← booleanAt? entries "allow_large_blob_fallback" default.allowsLargeBlob }

/-- The settings of a text; `path` is that of its file. -/
def ofText (path text : String) : Except VaultError Settings :=
  match (Toml.parse? text).bind ofEntries? with
  | none => .error (.configuration s!"Failed to parse {path}: TOML parse error")
  | some settings =>
    if Text.trim settings.vaultId = "" then
      .error (.configuration s!"{path}: vault_id cannot be empty")
    else .ok settings

/-- The settings of a project. -/
def load (files : Files) (project : String) : Except VaultError Settings :=
  let path := Files.join project fileName
  if files.exists? path then
    match files.readText path with
    | .error e => .error (.fileAccess e.message)
    | .ok text => ofText path text
  else .ok default

/-- The path of the vault's directory. -/
def directoryIn (settings : Settings) (project : String) : String :=
  Files.join project settings.vaultDirectory

end Settings

end CredentialVault
