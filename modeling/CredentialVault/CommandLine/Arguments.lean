import CredentialVault.CommandLine.Invocation

/-!
# Reading arguments

Arguments are read at two levels: options of the program, the name of a command, and then the
options of the command. `Invocation.ofArguments` reads both. An option that takes a value may wait
for it; the value is only looked at when the next option comes or the level ends, so that of two
faults an earlier one can be reported later.
-/

namespace CredentialVault

namespace Arguments

/-- The names of commands. -/
inductive CommandName where
  /-- The name `init`. -/
  | init
  /-- The name `unlock`. -/
  | unlock
  /-- The name `status`. -/
  | status
  /-- The name `delete`. -/
  | delete
  /-- The name `version`. -/
  | version
  /-- The name `completions`. -/
  | completions
  /-- The name `audit`. -/
  | audit
  /-- The name `help`. -/
  | help
deriving DecidableEq, Repr

/-- The command of a name. -/
def CommandName.ofText? : String → Option CommandName
  | "init" => some .init
  | "unlock" => some .unlock
  | "status" => some .status
  | "delete" => some .delete
  | "version" => some .version
  | "completions" => some .completions
  | "audit" => some .audit
  | "help" => some .help
  | _ => none

/-- Where arguments are read. -/
inductive Level where
  /-- Before the name of a command. -/
  | program
  /-- After the name of a command. -/
  | command (name : CommandName)
deriving DecidableEq, Repr

/-- The options that take a value. -/
inductive ValueOption where
  /-- The directory of the vault. -/
  | vaultDirectory
  /-- The id of the vault. -/
  | vaultId
  /-- How many rows are shown. -/
  | last
  /-- Since when rows are shown. -/
  | since
deriving DecidableEq, Repr

/-- The options that take no value. -/
inductive Switch where
  /-- Diagnostics are wanted. -/
  | verbose
  /-- The legacy key is taken over. -/
  | migrate
  /-- No question is asked. -/
  | force
  /-- Only failed attempts are shown. -/
  | failures
  /-- Help is wanted. -/
  | help
  /-- The version is wanted. -/
  | version
deriving DecidableEq, Repr

/-- An option of either kind. -/
inductive AnyOption where
  /-- One that takes a value. -/
  | valued (option : ValueOption)
  /-- One that takes no value. -/
  | switch (switch : Switch)
deriving DecidableEq, Repr

/-- The option of a long name at a level. -/
def longOption? (level : Level) : String → Option AnyOption
  | "vault-dir" => some (.valued .vaultDirectory)
  | "vault-id" => some (.valued .vaultId)
  | "verbose" => some (.switch .verbose)
  | "help" => some (.switch .help)
  | "version" => if level = .program then some (.switch .version) else none
  | "migrate" => if level = .command .init then some (.switch .migrate) else none
  | "force" => if level = .command .delete then some (.switch .force) else none
  | "last" => if level = .command .audit then some (.valued .last) else none
  | "since" => if level = .command .audit then some (.valued .since) else none
  | "failures" => if level = .command .audit then some (.switch .failures) else none
  | _ => none

/-- The option of a letter at a level. -/
def shortOption? (level : Level) : Char → Option Switch
  | 'v' => some .verbose
  | 'h' => some .help
  | 'V' => if level = .program then some .version else none
  | 'f' => if level = .command .delete then some .force else none
  | _ => none

/-- What was read at a level. -/
structure Reading where
  /-- The options that were given a value. -/
  values : List (ValueOption × String)
  /-- The options without a value that were given. -/
  switches : List Switch
  /-- The argument that is no option. -/
  operand : Option String
  /-- The last option that takes a value, with the value if it came. -/
  pending : Option (ValueOption × Option String)
  /-- Whether all further arguments are no options. -/
  isTrailing : Bool
deriving DecidableEq, Repr

/-- The greatest count of rows. -/
def maxCount : Nat := Nat.pow 2 64 - 1

/-- The count that a text gives: digits after an optional plus sign. -/
def count? (text : String) : Option Nat :=
  let digits := if text.toList.head? = some '+' then text.toList.drop 1 else text.toList
  if digits.isEmpty || !digits.all Char.isDigit then none
  else some (digits.foldl (fun n c => n * 10 + (c.toNat - '0'.toNat)) 0) |>.filter (· ≤ maxCount)

namespace Reading

/-- Nothing was read. -/
def empty : Reading := ⟨[], [], none, none, false⟩

/-- Whether no option was given. -/
def isEmpty (reading : Reading) : Bool :=
  reading.values.isEmpty && reading.switches.isEmpty

/-- The value of an option. -/
def value? (reading : Reading) (option : ValueOption) : Option String :=
  reading.values.lookup option

/-- Whether the last option still waits for its value. -/
def isWaiting (reading : Reading) : Bool :=
  reading.pending.any (·.2.isNone)

/-- Gives a value to an option. -/
def setValue (reading : Reading) (option : ValueOption) (value : String) :
    Except UsageError Reading :=
  if (reading.value? option).isSome then .error .argumentConflict
  else if option = .last && (count? value).isNone then .error .valueValidation
  else .ok { reading with values := (option, value) :: reading.values }

/-- Gives the last option its value. -/
def resolve (reading : Reading) : Except UsageError Reading :=
  match reading.pending with
  | none => .ok reading
  | some (_, none) => .error .invalidValue
  | some (option, some value) => { reading with pending := none }.setValue option value

/-- Turns an option on. -/
def turnOn (reading : Reading) (switch : Switch) : Except UsageError Reading := do
  let reading ← reading.resolve
  match switch with
  | .help => throw .displayHelp
  | .version => throw .displayVersion
  | switch =>
    if reading.switches.contains switch then throw .argumentConflict
    return { reading with switches := switch :: reading.switches }

/-- Reads an argument that starts with two hyphens, of which the rest is given. -/
def readLong (reading : Reading) (level : Level) (rest : List Char) :
    Except UsageError Reading := do
  let name := String.ofList (rest.takeWhile (· ≠ '='))
  match longOption? level name, rest.dropWhile (· ≠ '=') with
  | none, _ => throw .unknownArgument
  | some (.valued option), [] => return { ← reading.resolve with pending := some (option, none) }
  | some (.valued option), _ :: value =>
    (← reading.resolve).setValue option (String.ofList value)
  | some (.switch switch), [] => reading.turnOn switch
  | some (.switch _), _ => throw .tooManyValues

/-- Reads the letters of an argument that starts with one hyphen. -/
def readShort (reading : Reading) (level : Level) : List Char → Except UsageError Reading
  | [] => .ok reading
  | c :: rest => do
    match shortOption? level c with
    | none => throw .unknownArgument
    | some switch => (← reading.turnOn switch).readShort level rest

/-- Reads an argument that is no option and no name of a command to go on with. -/
def readOperand (reading : Reading) (level : Level) (argument : String) :
    Except UsageError Reading :=
  match level with
  | .program =>
    if reading.isTrailing && (CommandName.ofText? argument).isSome then .error .unknownArgument
    else .error .invalidSubcommand
  | .command .completions =>
    if reading.operand.isSome then .error .unknownArgument
    else do return { ← reading.resolve with operand := some argument }
  | .command _ => .error .unknownArgument

/-- Reads one argument that does not name a command to go on with. -/
def readArgument (reading : Reading) (level : Level) (argument : String) :
    Except UsageError Reading :=
  if reading.isTrailing then reading.readOperand level argument
  else
    match argument.toList with
    | ['-', '-'] => .ok { reading with isTrailing := true }
    | '-' :: '-' :: rest => reading.readLong level rest
    | '-' :: c :: rest => reading.readShort level (c :: rest)
    | _ =>
      match reading.pending with
      | some (option, none) => .ok { reading with pending := some (option, some argument) }
      | _ => reading.readOperand level argument

end Reading

/-- The command that an argument names, if one is looked for: at the level of the program, where no
option waits for a value. -/
def commandAt? (reading : Reading) (level : Level) (argument : String) : Option CommandName :=
  if level = .program && !reading.isTrailing && !reading.isWaiting then
    CommandName.ofText? argument
  else none

/-- Reads the arguments of a level, up to the name of a command. -/
def readLevel (level : Level) (reading : Reading) :
    List String → Except UsageError (Reading × Option (CommandName × List String))
  | [] => .ok (reading, none)
  | argument :: rest =>
    match commandAt? reading level argument with
    | some name => .ok (reading, some (name, rest))
    | none => do readLevel level (← reading.readArgument level argument) rest

/-- The error of a question for help about the commands of a list; no command has commands of its
own. -/
def helpError : List String → UsageError
  | [] => .displayHelp
  | [name] => if (CommandName.ofText? name).isSome then .displayHelp else .invalidSubcommand
  | _ => .invalidSubcommand

/-- The command of a name with the options that were read for it. -/
def commandOf (name : CommandName) (reading : Reading) : Except UsageError Command :=
  let has (switch : Switch) : Bool := reading.switches.contains switch
  match name with
  | .init => .ok (.init (has .migrate))
  | .unlock => .ok .unlock
  | .status => .ok .status
  | .delete => .ok (.delete (has .force))
  | .version => .ok .version
  | .completions =>
    match reading.operand with
    | some shell => .ok (.completions shell)
    | none => .error .missingRequiredArgument
  | .audit =>
    let last := ((reading.value? .last).bind count?).getD 50
    .ok (.audit last (reading.value? .since) (has .failures))
  | .help => .error .displayHelp

end Arguments

open Arguments

/-- Reads the arguments of the program. What the command says of the vault counts before what the
program says. -/
def Invocation.ofArguments (arguments : List String) : Except UsageError Invocation := do
  match ← readLevel .program .empty arguments with
  | (outer, none) =>
    let outer ← outer.resolve
    throw (if outer.isEmpty then .displayHelpOnMissingArgumentOrSubcommand else .missingSubcommand)
  | (_, some (.help, topics)) => throw (helpError topics)
  | (outer, some (name, rest)) =>
    let (inner, _) ← readLevel (.command name) .empty rest
    let inner ← inner.resolve
    let command ← commandOf name inner
    let outer ← outer.resolve
    let pick (option : ValueOption) : Option String :=
      (inner.value? option).or (outer.value? option)
    return {
      command
      vaultDirectory := pick .vaultDirectory
      vaultId := pick .vaultId
      isVerbose := (inner.switches ++ outer.switches).contains .verbose }

end CredentialVault
