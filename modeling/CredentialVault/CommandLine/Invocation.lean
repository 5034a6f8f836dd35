/-!
# Invocations

What a user asks of the program: a command with its options, and which vault it is about. Arguments
that make no invocation have a `UsageError`, which is also how a user asks for help.
-/

namespace CredentialVault

/-- The commands. -/
inductive Command where
  /-- Creates a vault; it can take over a legacy key. -/
  | init (migrates : Bool)
  /-- Opens the vault to show that its passkey works. -/
  | unlock
  /-- Shows the state of the vault. -/
  | status
  /-- Deletes the vault; if it is forced, without a question. -/
  | delete (isForced : Bool)
  /-- Shows the version. -/
  | version
  /-- Prints a script that completes commands for a shell. -/
  | completions (shell : String)
  /-- Lists the latest attempts of the audit log. -/
  | audit (last : Nat) (since : Option String) (failuresOnly : Bool)
deriving DecidableEq, Repr

/-- A command and the vault that it is about. -/
structure Invocation where
  /-- The command. -/
  command : Command
  /-- The directory of the vault, in place of that of the settings. -/
  vaultDirectory : Option String
  /-- The id of the vault, in place of that of the settings. -/
  vaultId : Option String
  /-- Whether diagnostics are wanted. -/
  isVerbose : Bool
deriving DecidableEq, Repr

/-- Why arguments are no invocation. -/
inductive UsageError where
  /-- Help is asked for. -/
  | displayHelp
  /-- The version is asked for. -/
  | displayVersion
  /-- There is nothing to go by. -/
  | displayHelpOnMissingArgumentOrSubcommand
  /-- There is no command. -/
  | missingSubcommand
  /-- There is no such command. -/
  | invalidSubcommand
  /-- An argument is not known where it stands. -/
  | unknownArgument
  /-- An option is given twice. -/
  | argumentConflict
  /-- A value is given to an option that takes none. -/
  | tooManyValues
  /-- An option lacks its value. -/
  | invalidValue
  /-- A value is not of the form that its option wants. -/
  | valueValidation
  /-- The command lacks an argument. -/
  | missingRequiredArgument
deriving DecidableEq, Repr

/-- The code with which the program ends. -/
def UsageError.exitCode : UsageError → Nat
  | displayHelp | displayVersion => 0
  | _ => 2

end CredentialVault
