import CredentialVault.CommandLine.Arguments
import CredentialVault.CommandLine.Completion
import CredentialVault.CommandLine.Lifecycle
import CredentialVault.CommandLine.Report

/-!
# The program

`Invocation.run` carries out a command, and `Program.run` is the whole program: it reads the
arguments, carries out the command, shows its error, and ends with a code that is zero on success.
-/

namespace CredentialVault

/-- Carries out the command of an invocation. -/
def Invocation.run (invocation : Invocation) : CommandM Unit := do
  match invocation.command with
  | .version => VersionCommand.run
  | .completions shell => Completion.run shell
  | .init migrates => InitCommand.run (← Context.load invocation) migrates
  | .unlock => UnlockCommand.run (← Context.load invocation)
  | .status => StatusCommand.run (← Context.load invocation)
  | .delete isForced => DeleteCommand.run (← Context.load invocation) isForced
  | .audit last since failuresOnly =>
    AuditCommand.run (← Context.load invocation) invocation.vaultId last since failuresOnly

namespace Program

/-- The help text. -/
def help : String :=
  "Signing keys sealed behind a passkey\n\n" ++
    "Usage: passkey-vault [OPTIONS] <COMMAND>\n\n" ++
    "Commands:\n" ++
    "  init         Create a vault bound to a new passkey\n" ++
    "  unlock       Unlock the vault with the passkey and show its public key\n" ++
    "  status       Show vault state without touching the passkey\n" ++
    "  delete       Delete the vault record and its flags\n" ++
    "  version      Show version\n" ++
    "  completions  Generate shell completion scripts\n" ++
    "  audit        Review init, unlock and delete attempts, including failed ones\n" ++
    "  help         Print this message\n\n" ++
    "Options:\n" ++
    "      --vault-dir <VAULT_DIR>  Vault directory\n" ++
    "      --vault-id <VAULT_ID>    Vault id to operate on\n" ++
    "  -v, --verbose                Print debug logs to stderr\n" ++
    "  -h, --help                   Print help\n" ++
    "  -V, --version                Print version\n"

/-- Prints what belongs to arguments that make no invocation. -/
def showUsage (e : UsageError) (console : Console) : Console :=
  match e with
  | .displayHelp => console.print .output help
  | .displayVersion => console.print .output (programVersion ++ "\n")
  | _ => console.print .errors help

/-- The program: the code with which it ends, and what it leaves. -/
def run (arguments : List String) (shell : Shell) : Nat × Shell :=
  match Invocation.ofArguments arguments with
  | .error e => (e.exitCode, { shell with console := showUsage e shell.console })
  | .ok invocation =>
    match invocation.run shell with
    | (.ok (), shell) => (0, shell)
    | (.error e, shell) => (1, { shell with console := shell.console.say .error e.message })

end Program

end CredentialVault
