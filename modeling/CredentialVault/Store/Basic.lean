import CredentialVault.Files.Tree
import CredentialVault.Vault.Record

/-!
# The store

A store keeps the records of vaults, by id, and plain flags, by key; neither holds a secret in the
clear. It lives in memory or in a database, and both kinds keep the stored text of a record, so that
both read it the same way. An operation (`StoreM`) that fails leaves the content as it was.

An operation is written once for both kinds, since they do the same to their tables: a write takes
the place of what was there under its key. What only one kind can meet is a step that the other one
passes. A store in memory can refuse writes (`requireWritable`), before a record is checked; in a
database a table can be missing (`recordTable`, `flagTable`) or a trigger forbid a change
(`requireAllowed`). And only a database has a file, from which it is opened and to which it is saved
(`Store.openAt`, `Store.save`).

A store can be given faults, each of which makes certain calls fail, and it keeps a journal of the
writes that were attempted.
-/

namespace CredentialVault

/-- The calls of a store. -/
inductive StoreCall where
  /-- Reads a record. -/
  | get
  /-- Looks whether there is a record. -/
  | contains
  /-- Writes a record. -/
  | put
  /-- Deletes a record. -/
  | delete
  /-- Reads a flag. -/
  | getFlag
  /-- Writes a flag. -/
  | setFlag
  /-- Removes a flag. -/
  | removeFlag
deriving DecidableEq, Repr

/-- Makes calls of a store fail. -/
structure Fault where
  /-- The kind of call that fails. -/
  call : StoreCall
  /-- The id or key on which it fails; all if there is none. -/
  key : Option String
  /-- The message of the error. -/
  message : String
  /-- How many matching calls pass before the first that fails. -/
  skip : Nat
  /-- How many matching calls fail; all if there is no number. -/
  times : Option Nat
deriving DecidableEq, Repr

namespace Fault

/-- Whether a fault concerns a call on a key. -/
def concerns (fault : Fault) (call : StoreCall) (key : String) : Bool :=
  fault.call = call && fault.key.all (· = key)

/-- The message with which the first fault that fails a call does so, if there is one, and the
faults after the call. A fault that lets a call pass hands it on to the next. -/
def check (call : StoreCall) (key : String) : List Fault → Option String × List Fault
  | [] => (none, [])
  | fault :: rest =>
    let pass (fault : Fault) : Option String × List Fault :=
      let (message, rest) := check call key rest
      (message, fault :: rest)
    if !fault.concerns call key then pass fault
    else
      match fault.skip, fault.times with
      | skip + 1, _ => pass { fault with skip }
      | 0, some 0 => pass fault
      | 0, some (times + 1) => (some fault.message, { fault with times := some times } :: rest)
      | 0, none => (some fault.message, fault :: rest)

end Fault

/-- An attempted write. -/
inductive StoreWrite where
  /-- Writes the record of an id. -/
  | put (id : String)
  /-- Deletes the record of an id. -/
  | delete (id : String)
  /-- Writes a flag. -/
  | setFlag (key value : String)
  /-- Removes a flag. -/
  | removeFlag (key : String)
deriving DecidableEq, Repr

/-- Where a store lives. -/
inductive Backend where
  /-- In memory; a store that is read-only refuses every write. -/
  | memory (isReadOnly : Bool)
  /-- In a database, with the path of its file unless it is private to the process. -/
  | database (path : Option String)
deriving DecidableEq, Repr

/-- A store of records and flags. -/
structure Store where
  /-- Where the store lives. -/
  backend : Backend
  /-- The tables of the store. -/
  content : Database
  /-- The faults, checked in order before every call. -/
  faults : List Fault
  /-- The attempted writes, the latest last. -/
  journal : List StoreWrite
deriving DecidableEq, Repr

namespace Store

/-- A fresh store with the tables it needs. -/
def fresh (backend : Backend) (content : Database) : Store where
  backend
  content := content.withVaultTables
  faults := []
  journal := []

/-- A fresh store in memory. -/
def memory : Store := fresh (.memory false) .empty

/-- A fresh store in a database that is private to the process. -/
def privateDatabase : Store := fresh (.database none) .empty

/-- The name of the database file of a store in its directory. -/
def fileName : String := "vault.db"

/-- The stored text of a record. -/
def recordText? (store : Store) (id : String) : Option String :=
  store.content.records.bind (·.get? id)

/-- The value of a flag. -/
def flag? (store : Store) (key : String) : Option String :=
  store.content.flags.bind (·.get? key)

/-- The store after an attempted write was noted. -/
def note (store : Store) (write : StoreWrite) : Store :=
  { store with journal := store.journal ++ [write] }

/-- The store with the stored text of a record, whatever it is. -/
def setRecordText (store : Store) (id text : String) : Store :=
  { store with
    content := { store.content with records := store.content.records.map (·.insert id text) } }

/-- The store that refuses writes or accepts them; only a store in memory can refuse them. -/
def setReadOnly (store : Store) (isReadOnly : Bool) : Store :=
  match store.backend with
  | .memory _ => { store with backend := .memory isReadOnly }
  | .database _ => store

/-- The path of the file of a store. -/
def path? (store : Store) : Option String :=
  match store.backend with
  | .memory _ => none
  | .database path => path

end Store

/-- Works with a store, or fails. -/
abbrev StoreM := ExceptT VaultError (StateM Store)

namespace StoreM

/-- Begins a call, which fails if a fault says so. -/
def begin (call : StoreCall) (key : String) : StoreM Unit := do
  let store ← get
  let (message, faults) := Fault.check call key store.faults
  set { store with faults }
  match message with
  | some message => throw (.storage message)
  | none => return

/-- Begins a call that writes. -/
def beginWrite (call : StoreCall) (key : String) (write : StoreWrite) : StoreM Unit := do
  modify (·.note write)
  begin call key

/-- Fails if the store refuses writes. -/
def requireWritable : StoreM Unit := do
  if (← get).backend = .memory true then throw (.storageUnavailable "memory store is read-only")

/-- The error of a table that cannot be used; `context` says for what. -/
def fail {α : Type} (context message : String) : StoreM α :=
  throw (.storage (context ++ ": " ++ message))

/-- The table of the records. -/
def recordTable (context : String) : StoreM (Table String) := do
  match (← get).content.records with
  | some table => return table
  | none => fail context (Database.missingTable .records)

/-- The table of the flags. -/
def flagTable (context : String) : StoreM (Table String) := do
  match (← get).content.flags with
  | some table => return table
  | none => fail context (Database.missingTable .flags)

/-- Fails if a trigger forbids a change. -/
def requireAllowed (context : String) (change : Change) (table : TableName) : StoreM Unit := do
  match (← get).content.forbids? change table with
  | some message => fail context message
  | none => return

/-- Replaces the table of the records. -/
def setRecordTable (table : Table String) : StoreM Unit :=
  modify fun store => { store with content := { store.content with records := some table } }

/-- Replaces the table of the flags. -/
def setFlagTable (table : Table String) : StoreM Unit :=
  modify fun store => { store with content := { store.content with flags := some table } }

/-! ## Records -/

/-- The record of an id; one that cannot be read is an error. -/
def getRecord (id : String) : StoreM (Option VaultRecord) := do
  begin .get id
  match (← recordTable "read vault record").get? id with
  | some text =>
    match VaultRecord.ofStored text with
    | .ok record => return some record
    | .error e => throw e
  | none => return none

/-- Whether there is a record of an id, be it readable or not. -/
def contains (id : String) : StoreM Bool := do
  begin .contains id
  return (← recordTable "look up vault record").contains id

/-- Writes a valid record in place of any other with its id. -/
def putRecord (record : VaultRecord) : StoreM Unit := do
  beginWrite .put record.id (.put record.id)
  requireWritable
  match record.validate with
  | .ok () => pure ()
  | .error e => throw e
  let table ← recordTable "write vault record"
  requireAllowed "write vault record" .insert .records
  setRecordTable (table.insert record.id record.toStored)

/-- Deletes the record of an id, if there is one. -/
def deleteRecord (id : String) : StoreM Unit := do
  beginWrite .delete id (.delete id)
  requireWritable
  let table ← recordTable "delete vault record"
  if table.contains id then requireAllowed "delete vault record" .delete .records
  setRecordTable (table.erase id)

/-! ## Flags -/

/-- The value of a flag. -/
def getFlag (key : String) : StoreM (Option String) := do
  begin .getFlag key
  return (← flagTable "read flag").get? key

/-- Writes a flag. -/
def setFlag (key value : String) : StoreM Unit := do
  beginWrite .setFlag key (.setFlag key value)
  requireWritable
  let table ← flagTable "write flag"
  requireAllowed "write flag" .insert .flags
  setFlagTable (table.insert key value)

/-- Removes a flag, if it is there. -/
def removeFlag (key : String) : StoreM Unit := do
  beginWrite .removeFlag key (.removeFlag key)
  requireWritable
  let table ← flagTable "remove flag"
  if table.contains key then requireAllowed "remove flag" .delete .flags
  setFlagTable (table.erase key)

end StoreM

/-! ## Opening -/

/-- Opens the store in a directory, which is made if it is missing, as is the database. -/
def Store.openAt (directory : String) : ExceptT VaultError (StateM Files) Store := do
  if !(← get).exists? directory then
    ExceptT.adapt (fun e : FileError => VaultError.fileAccess e.message)
      (FilesM.createDirectories directory)
  let path := Files.join directory Store.fileName
  match (← get).openDatabase path with
  | .unavailable =>
    throw (.storageUnavailable s!"cannot open {path}: {Database.unavailable path}")
  | .foreign => throw (.storageUnavailable ("schema setup: " ++ Database.foreign))
  | .content content =>
    let store := Store.fresh (.database (some path)) content
    modify (·.saveDatabase path store.content)
    return store

/-- The files after the content of a store was written to its file, if it has one. -/
def Store.save (store : Store) (files : Files) : Files :=
  match store.path? with
  | some path => files.saveDatabase path store.content
  | none => files

end CredentialVault
