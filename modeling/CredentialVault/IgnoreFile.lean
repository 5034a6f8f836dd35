import CredentialVault.Files.Tree
import CredentialVault.Text.Blank
import CredentialVault.Text.Lines

/-!
# The ignore file of a project

An ignore file lists, line by line, what version control leaves out. The directory of a vault holds
secrets, so that `IgnoreFile.ensure` adds a rule for it unless an equivalent one is there. Rules are
equivalent that differ only in the white space and then the slashes at their ends.
-/

namespace CredentialVault.IgnoreFile

/-- The name of the ignore file. -/
def fileName : String := ".gitignore"

/-- The essence of a rule: it without surrounding white space, and then without surrounding
slashes. -/
def normalize (rule : List Char) : List Char :=
  Text.strip (· = '/') (Text.strip Text.isBlank rule)

/-- Whether a text has a line that is equivalent to a normalized rule. -/
def covers (text wanted : List Char) : Bool :=
  (Text.splitLines text).any (normalize · = wanted)

/-- The text with one more line for a normalized rule. -/
def appendRule (text wanted : List Char) : List Char :=
  text ++ (if Text.endsLine text then [] else ['\n']) ++ wanted ++ ['/', '\n']

/-- What was done. -/
inductive Outcome where
  /-- The rule was added. -/
  | added
  /-- An equivalent rule was there. -/
  | present
  /-- The file could not be written. -/
  | failed
deriving DecidableEq, Repr

/-- The path of the ignore file of a project. -/
def pathIn (project : String) : String := Files.join project fileName

/-- Sees to it that a rule is in the ignore file of a project. A file that cannot be read as text
counts as empty. -/
def ensure (project rule : String) : StateM Files Outcome := fun files =>
  let path := pathIn project
  let text := ((files.readText path).toOption.getD "").toList
  let wanted := normalize rule.toList
  if covers text wanted then (.present, files)
  else
    match FilesM.write path (Bytes.ofText (String.ofList (appendRule text wanted))) files with
    | (.ok (), files) => (.added, files)
    | (.error _, files) => (.failed, files)

end CredentialVault.IgnoreFile
