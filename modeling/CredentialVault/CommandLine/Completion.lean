import CredentialVault.CommandLine.Shell
import CredentialVault.Text.Lowercase

/-!
# Completion of commands

A shell can complete the names of commands with a script that is made for it.
-/

namespace CredentialVault.Completion

/-- The shells for which there is a script. -/
inductive ShellKind where
  /-- The shell `bash`. -/
  | bash
  /-- The shell `zsh`. -/
  | zsh
  /-- The shell `fish`. -/
  | fish
  /-- The shell `powershell`. -/
  | powershell
  /-- The shell `elvish`. -/
  | elvish
deriving DecidableEq, Repr

/-- The shell of a name in any case. -/
def ShellKind.ofName (name : String) : Except VaultError ShellKind :=
  match Text.lowercase name with
  | "bash" => .ok .bash
  | "zsh" => .ok .zsh
  | "fish" => .ok .fish
  | "powershell" | "ps" => .ok .powershell
  | "elvish" => .ok .elvish
  | other =>
    .error (.commandFailed
      s!"unknown shell '{other}', supported: bash, zsh, fish, powershell, elvish")

/-- The names that are completed. -/
def commands : List String :=
  ["init", "unlock", "status", "delete", "version", "completions", "audit", "help"]

/-- The script for a shell. -/
def script (kind : ShellKind) : String :=
  let words := " ".intercalate commands
  match kind with
  | .bash => "complete -W \"" ++ words ++ "\" passkey-vault\n"
  | .zsh => "#compdef passkey-vault\n_arguments '1:command:(" ++ words ++ ")'\n"
  | .fish => "complete -c passkey-vault -n __fish_use_subcommand -f -a \"" ++ words ++ "\"\n"
  | .powershell =>
    "Register-ArgumentCompleter -Native -CommandName passkey-vault -ScriptBlock \x7b\n" ++
      "  param($word)\n  -split \"" ++ words ++
      "\" | Where-Object \x7b $_ -like \"$word*\" \x7d\n\x7d\n"
  | .elvish =>
    "set edit:completion:arg-completer[passkey-vault] = \x7b|@words| put " ++ words ++ " \x7d\n"

/-- Prints the script for the shell of a name. -/
def run (name : String) : CommandM Unit := do
  CommandM.print (script (← CommandM.ofExcept (ShellKind.ofName name)))

end CredentialVault.Completion
