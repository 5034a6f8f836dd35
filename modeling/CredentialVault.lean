import CredentialVault.Audit.Log
import CredentialVault.Audit.Row
import CredentialVault.Audit.Since
import CredentialVault.Base64Url
import CredentialVault.Bytes
import CredentialVault.CommandLine.Arguments
import CredentialVault.CommandLine.Completion
import CredentialVault.CommandLine.Console
import CredentialVault.CommandLine.Invocation
import CredentialVault.CommandLine.Lifecycle
import CredentialVault.CommandLine.Program
import CredentialVault.CommandLine.Report
import CredentialVault.CommandLine.Shell
import CredentialVault.CommandLine.Terminal
import CredentialVault.Credential.Ceremony
import CredentialVault.Credential.Id
import CredentialVault.Credential.Platform
import CredentialVault.Credential.Provider
import CredentialVault.Credential.Virtual
import CredentialVault.Crypto.Aead
import CredentialVault.Crypto.Aes
import CredentialVault.Crypto.Ed25519
import CredentialVault.Crypto.Gcm
import CredentialVault.Crypto.Hmac
import CredentialVault.Crypto.Keys
import CredentialVault.Crypto.Sha256
import CredentialVault.Crypto.Sha512
import CredentialVault.Decimal.Nearest
import CredentialVault.Decimal.Range
import CredentialVault.Decimal.Shortest
import CredentialVault.Diagnostics.Directive
import CredentialVault.Diagnostics.FieldValue
import CredentialVault.Diagnostics.LogFilter
import CredentialVault.Diagnostics.LogLevel
import CredentialVault.Diagnostics.Pattern.Atom
import CredentialVault.Diagnostics.Pattern.Bracket
import CredentialVault.Diagnostics.Pattern.WellFormed
import CredentialVault.Error
import CredentialVault.Files.Database
import CredentialVault.Files.Stored
import CredentialVault.Files.Tree
import CredentialVault.Hex
import CredentialVault.IgnoreFile
import CredentialVault.Instant
import CredentialVault.Json.Error
import CredentialVault.Json.Printer
import CredentialVault.Json.Reader
import CredentialVault.Json.Scan
import CredentialVault.Main
import CredentialVault.Proofs.Operation
import CredentialVault.Proofs.Store.Call
import CredentialVault.Proofs.Text.Strip
import CredentialVault.Proofs.Text.Lines
import CredentialVault.Proofs.Text.Utf8
import CredentialVault.Proofs.Text.Base64Url
import CredentialVault.Proofs.Text.CanonicalBase64
import CredentialVault.Proofs.Text.Hex
import CredentialVault.Proofs.Json.Text
import CredentialVault.Proofs.Json.Number
import CredentialVault.Proofs.Json.Reads
import CredentialVault.Proofs.Json.Object
import CredentialVault.Proofs.Json.Yields
import CredentialVault.Proofs.Files.Tree
import CredentialVault.Proofs.Files.Path
import CredentialVault.Proofs.Files.Others
import CredentialVault.Proofs.Files.Directory
import CredentialVault.Proofs.Files.Writable
import CredentialVault.Proofs.Files.Hidden
import CredentialVault.Proofs.IgnoreFile.Rules
import CredentialVault.Proofs.IgnoreFile.Ensure
import CredentialVault.Proofs.Store.Sound
import CredentialVault.Proofs.Vault.Record
import CredentialVault.Proofs.Credential.Stored
import CredentialVault.Proofs.Credential.Virtual
import CredentialVault.Proofs.Credential.Provider
import CredentialVault.Proofs.Credential.Approval
import CredentialVault.Proofs.Crypto.Aead
import CredentialVault.Proofs.Crypto.Aes
import CredentialVault.Proofs.Crypto.Tag
import CredentialVault.Proofs.Crypto.Sealed
import CredentialVault.Proofs.Crypto.Field
import CredentialVault.Proofs.Crypto.BitFlip
import CredentialVault.Proofs.Credential.Ceremony
import CredentialVault.Proofs.Credential.Enrollment
import CredentialVault.Proofs.Credential.Refusal
import CredentialVault.Proofs.Credential.Fallback
import CredentialVault.Proofs.Credential.Calls
import CredentialVault.Proofs.Credential.StateFile
import CredentialVault.Proofs.Credential.Cooperation
import CredentialVault.Proofs.Credential.FailedCall
import CredentialVault.Proofs.Credential.Scope
import CredentialVault.Proofs.Vault.Bundle
import CredentialVault.Proofs.Vault.Sealing
import CredentialVault.Proofs.Vault.World
import CredentialVault.Proofs.Vault.SessionCache
import CredentialVault.Proofs.Vault.Observers
import CredentialVault.Proofs.Vault.Persist
import CredentialVault.Proofs.Vault.Create
import CredentialVault.Proofs.Vault.Migration
import CredentialVault.Proofs.Credential.Device
import CredentialVault.Proofs.Vault.Lifecycle
import CredentialVault.Proofs.Vault.LegacyKey
import CredentialVault.Proofs.Vault.MigrationUndo
import CredentialVault.Proofs.Vault.Flags
import CredentialVault.Proofs.Vault.Capability
import CredentialVault.Proofs.Vault.Tampering
import CredentialVault.Proofs.Vault.FlippedBit
import CredentialVault.Proofs.Vault.Undo
import CredentialVault.Proofs.Vault.FailedCreate
import CredentialVault.Proofs.Vault.Approval
import CredentialVault.Proofs.Vault.PublicFlags
import CredentialVault.Proofs.Vault.Created
import CredentialVault.Proofs.Vault.EnabledFlag
import CredentialVault.Proofs.Vault.FlagHolder
import CredentialVault.Proofs.Vault.Isolation
import CredentialVault.Proofs.Store.Fault
import CredentialVault.Proofs.Store.Open
import CredentialVault.Proofs.Store.Reopen
import CredentialVault.Proofs.Store.Maps
import CredentialVault.Proofs.Vault.Device
import CredentialVault.Proofs.Vault.Files
import CredentialVault.Proofs.CommandLine.Desk
import CredentialVault.Proofs.CommandLine.AuditTrail
import CredentialVault.Proofs.CommandLine.Outcome
import CredentialVault.Proofs.CommandLine.Project
import CredentialVault.Proofs.CommandLine.ProjectDesk
import CredentialVault.Proofs.CommandLine.Refinement
import CredentialVault.Proofs.Audit.Log
import CredentialVault.Proofs.Audit.Query
import CredentialVault.Proofs.Audit.Since
import CredentialVault.Proofs.Vault.Held
import CredentialVault.Proofs.Vault.Success
import CredentialVault.Proofs.Vault.Recreation
import CredentialVault.Proofs.Vault.History
import CredentialVault.Proofs.Vault.Opening
import CredentialVault.Proofs.Vault.KeyMap
import CredentialVault.Random
import CredentialVault.Settings
import CredentialVault.Store.Basic
import CredentialVault.Store.Status
import CredentialVault.Table
import CredentialVault.Text.Alphanumeric
import CredentialVault.Text.Blank
import CredentialVault.Text.Cased
import CredentialVault.Text.CodePoints
import CredentialVault.Text.Emoji
import CredentialVault.Text.Escaped
import CredentialVault.Text.Grid
import CredentialVault.Text.HexDigit
import CredentialVault.Text.Lines
import CredentialVault.Text.Lowercase
import CredentialVault.Text.Quoted
import CredentialVault.Text.Wide
import CredentialVault.Text.Width
import CredentialVault.Text.ZeroWidth
import CredentialVault.Toml.Document
import CredentialVault.Toml.Entry
import CredentialVault.Toml.Number
import CredentialVault.Toml.Text
import CredentialVault.Vault.Bundle
import CredentialVault.Vault.Lifecycle
import CredentialVault.Vault.Migration
import CredentialVault.Vault.Name
import CredentialVault.Vault.Record
import CredentialVault.Vault.Session
import CredentialVault.Vault.SessionCache
import CredentialVault.Vault.World
