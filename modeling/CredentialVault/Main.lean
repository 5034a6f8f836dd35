import CredentialVault.CommandLine.Program
import CredentialVault.Files.Stored
import Std.Time.DateTime.Timestamp

/-!
# The command line

The outer layer of the program: it reads the files that a command can touch, lets `Program.run` do
its work on them, and writes back what has changed. When a question comes up that the user has not
answered yet, it is put, and the work begins anew with the answer (`converse`).
-/

namespace CredentialVault.CommandLine

/-- The variable that lets the user agree to every ceremony in advance. -/
def approvalVariable : String := "PASSKEY_VAULT_AUTO_APPROVE"

/-- The node of a file as it is on the disk. -/
def nodeOf (content : Bytes) : Node :=
  match Database.ofStored? content with
  | some database => .database database
  | none => .file content

/-- The content of a file as it goes to the disk. -/
def contentOf : Node → Option Bytes
  | .directory => none
  | .file content | .unreadable content => some content
  | .database database => some (Bytes.ofText database.stored)

/-- Whether a node is a database. -/
def isDatabase : Node → Bool
  | .database _ => true
  | _ => false

/-- Reads what is at a path, if anything is. -/
def readNode (path : String) : IO (Option Node) := do
  try
    return some (nodeOf (← IO.FS.readBinFile path).toList)
  catch e =>
    match e with
    | .inappropriateType none _ _ => return some .directory
    | .permissionDenied .. => return some (.unreadable [])
    | _ => return none

/-- Reads what is at a path into the tree, and the directories that lead to it. -/
def readPath (files : Files) (path : String) : IO Files := do
  let mut files := files
  let names := Files.components path
  for count in List.range names.length do
    let location := names.take (count + 1)
    if let some node ← readNode ("/" ++ "/".intercalate location) then
      files := files.setNode location node
  return files

/-- Writes the nodes that have changed. Nobody but the owner can read a database. -/
def writeChanges (before after : Files) : IO Unit := do
  for (location, node) in after.nodes.reverse do
    if before.node? location ≠ some node then
      let path := "/" ++ "/".intercalate location
      match contentOf node with
      | none => IO.FS.createDirAll path
      | some content =>
        IO.FS.createDirAll ("/" ++ "/".intercalate location.dropLast)
        IO.FS.writeBinFile path ⟨content.toArray⟩
        if isDatabase node then
          let nothing : IO.AccessRight := ⟨false, false, false⟩
          IO.setAccessRights path ⟨⟨true, true, false⟩, nothing, nothing⟩

/-- The directory of the vault that the arguments and the settings name, if they do. -/
def directoryOf? (arguments : List String) (shell : Shell) : Option String := do
  let invocation ← (Invocation.ofArguments arguments).toOption
  let context ← ((Context.load invocation).run shell).1.toOption
  return context.directory

/-- The number of random bytes at hand, of which no command draws as many. -/
def randomSize : USize := 1024

/-- The shell of the process, with the files that a command can touch. -/
def openShell (arguments : List String) : IO Shell := do
  let project := (← IO.currentDir).toString
  let random := (← IO.getRandomBytes randomSize).toList
  let now ← Std.Time.Timestamp.now
  let shell : Shell := {
    files := .empty
    random := .ofBytes random
    now := ⟨now.toNanosecondsSinceUnixEpoch.val⟩
    project
    approves := Shell.isApproval (← IO.getEnv approvalVariable)
    terminal := .absent
    console := .empty }
  let mut files := shell.files
  for name in [Settings.fileName, IgnoreFile.fileName] do
    files ← readPath files (Files.join project name)
  if let some directory := directoryOf? arguments { shell with files } then
    for name in [Store.fileName, AuditLog.fileName, Desk.authenticatorFile] do
      files ← readPath files (Files.join directory name)
  return { shell with files }

/-! ## Questions -/

/-- What shows the answer that a question offers. -/
def offer (question : Question) : String := if question.default then " [Y/n] " else " [y/N] "

/-- The number of times that a question is put, and that of the questions that are put. -/
def maxTries : Nat := 100

/-- Puts a question until it is answered. -/
def readReply (question : Question) : Nat → IO Reply
  | 0 => return .failure "IO error: not answered"
  | tries + 1 => do
    IO.eprint (question.prompt ++ offer question)
    let line ← (← IO.getStdin).getLine
    if line.isEmpty then return .failure "IO error: unexpected end of file"
    match line.trimAscii.toString.toLower with
    | "" => return .default
    | "y" | "yes" => return .yes
    | "n" | "no" => return .no
    | _ => readReply question tries

/-- Runs the program, and runs it anew with one more reply as long as there is a question
without. -/
def converse (arguments : List String) (shell : Shell) : Nat → IO (Nat × Shell)
  | 0 => return Program.run arguments shell
  | tries + 1 => do
    let (code, after) := Program.run arguments shell
    match after.terminal.asked[shell.terminal.replies.length]? with
    | none => return (code, after)
    | some question =>
      let reply ← readReply question maxTries
      let terminal := { shell.terminal with replies := shell.terminal.replies ++ [reply] }
      converse arguments { shell with terminal } tries

end CredentialVault.CommandLine

open CredentialVault CommandLine in
/-- Runs the program on the arguments of the process. -/
def main (arguments : List String) : IO UInt32 := do
  let shell ← openShell arguments
  let tries := if ← (← IO.getStderr).isTty then maxTries else 0
  let (code, after) ← converse arguments shell tries
  writeChanges shell.files after.files
  for (stream, text) in after.console.printed do
    match stream with
    | .output => IO.print text
    | .errors => IO.eprint text
  return UInt32.ofNat code
