import CredentialVault.Credential.Ceremony
import CredentialVault.Crypto.Keys
import CredentialVault.Files.Tree
import CredentialVault.Table

/-!
# The virtual authenticator

An authenticator in software. Each credential has a random secret, and what the mechanisms yield is
a function of that secret and the caller's salt. Mechanisms can be switched off, ceremonies are
counted, and the presence of the user is a list of answers.

The credentials can be kept in a file, which is replaced in one step, so that it always holds one
complete state.
-/

namespace CredentialVault

/-- What an authenticator can do. -/
structure Capabilities where
  /-- Whether there are credentials at all. -/
  isAvailable : Bool
  /-- Whether there is a pseudo-random function. -/
  prf : Bool
  /-- Whether there is a keyed hash. -/
  hmacSecret : Bool
  /-- Whether credentials have storage. -/
  largeBlob : Bool
deriving DecidableEq, Repr

namespace Capabilities

/-- Everything. -/
def full : Capabilities := ⟨true, true, true, true⟩

/-- Credentials, but no mechanism. -/
def bare : Capabilities := ⟨true, false, false, false⟩

/-- Nothing at all. -/
def absent : Capabilities := ⟨false, false, false, false⟩

/-- Credentials with one mechanism. -/
def only (method : SecretMethod) : Capabilities :=
  ⟨true, method = .prf, method = .hmacSecret, method = .largeBlob⟩

end Capabilities

/-- A credential, as its authenticator holds it. -/
structure StoredCredential where
  /-- The id of the relying party. -/
  rpId : String
  /-- The name of the user. -/
  userName : String
  /-- The secret. -/
  secret : Bytes
  /-- The base64 text of the stored data. -/
  largeBlob : Option String
deriving DecidableEq, Repr

namespace StoredCredential

/-- The JSON form of a credential. -/
def toJson (credential : StoredCredential) : Json.Value :=
  .object ([("rpId", .text credential.rpId), ("userName", .text credential.userName),
      ("secret", .text (Base64Url.encode credential.secret))] ++
    credential.largeBlob.toList.map fun blob => ("largeBlob", .text blob))

/-- The fields of a credential that were read so far. -/
structure Draft where
  /-- The relying party. -/
  rpId : Option String
  /-- The user. -/
  userName : Option String
  /-- The secret. -/
  secret : Option Bytes
  /-- The stored data, which may be null. -/
  largeBlob : Option (Option String)

/-- The fields of a credential. -/
def fields : Json.Fields Draft where
  name := "struct StoredCredential"
  empty := ⟨none, none, none, none⟩
  fields := [
    ⟨"rpId", (·.rpId.isSome), false, fun draft => do
      return { draft with rpId := some (← Json.Reader.text) }⟩,
    ⟨"userName", (·.userName.isSome), false, fun draft => do
      return { draft with userName := some (← Json.Reader.text) }⟩,
    ⟨"secret", (·.secret.isSome), false, fun draft => do
      return { draft with secret := some (← Json.Reader.bytes) }⟩,
    ⟨"largeBlob", (·.largeBlob.isSome), true, fun draft => do
      return { draft with largeBlob := some (← Json.Reader.optional Json.Reader.text) }⟩]

/-- The credential of a draft that has all fields. -/
def Draft.finish (draft : Draft) : StoredCredential where
  rpId := draft.rpId.getD ""
  userName := draft.userName.getD ""
  secret := draft.secret.getD []
  largeBlob := draft.largeBlob.getD none

/-- Reads the JSON form of a credential. -/
def reader : Json.Reader StoredCredential := do
  return (← fields.read).finish

end StoredCredential

/-- The credentials of an authenticator, by the texts of their names. -/
abbrev Credentials := Table StoredCredential

namespace Credentials

/-- The JSON form of credentials. -/
def toJson (credentials : Credentials) : Json.Value :=
  .object [("credentials", .object (credentials.rows.map fun (key, c) => (key, c.toJson)))]

/-- The fields of the file of an authenticator. -/
def fields : Json.Fields (Option Credentials) where
  name := "struct AuthenticatorState"
  empty := none
  fields := [
    ⟨"credentials", (·.isSome), false, fun _ => do
      return some ⟨← Json.Reader.dictionary StoredCredential.reader⟩⟩]

/-- Reads the JSON form of credentials. -/
def reader : Json.Reader Credentials := do
  return (← fields.read).getD .empty

end Credentials

/-- What the user is asked to agree to. -/
inductive Ceremony where
  /-- Make a credential. -/
  | create (rpId rpName : String)
  /-- Derive a secret from a credential. -/
  | unlock (rpId : String) (credential : CredentialId)
  /-- Read the data stored with a credential. -/
  | readBlob (rpId : String) (credential : CredentialId)
  /-- Store data with a credential. -/
  | writeBlob (rpId : String) (credential : CredentialId)
deriving DecidableEq, Repr

/-- The question that the user sees. -/
def Ceremony.prompt : Ceremony → String
  | create _ rpName => "Create a passkey for " ++ rpName
  | unlock .. => "Unlock with your passkey"
  | readBlob .. => "Read passkey data"
  | writeBlob .. => "Save passkey data"

/-- How the user answers. -/
structure Presence where
  /-- The next answers. -/
  queue : List Bool
  /-- The answer after those. -/
  approve : Bool
deriving DecidableEq, Repr

namespace Presence

/-- Agrees to everything. -/
def always : Presence := ⟨[], true⟩

/-- The next answer, and those after it. -/
def next (presence : Presence) : Bool × Presence :=
  match presence.queue with
  | [] => (presence.approve, presence)
  | answer :: rest => (answer, { presence with queue := rest })

end Presence

/-- An authenticator in software. -/
structure VirtualAuthenticator where
  /-- What it can do. -/
  capabilities : Capabilities
  /-- The credentials. -/
  credentials : Credentials
  /-- How the user answers. -/
  presence : Presence
  /-- The number of ceremonies so far. -/
  ceremonies : Nat
  /-- What the user was asked and answered, the latest last. -/
  asked : List (Ceremony × Bool)
  /-- The path of the file that keeps the credentials. -/
  path : Option String
deriving DecidableEq, Repr

/-- What surrounds a device: the files and the source of random bytes. -/
structure Host where
  /-- The files. -/
  files : Files
  /-- The source of random bytes. -/
  random : RandomStream

/-- A virtual authenticator and what surrounds it. -/
structure VirtualDevice where
  /-- The authenticator. -/
  authenticator : VirtualAuthenticator
  /-- What surrounds it. -/
  host : Host

/-- Runs a ceremony of a virtual authenticator. -/
abbrev VirtualM := ExceptT CeremonyError (StateM VirtualDevice)

namespace VirtualAuthenticator

/-- The size of the name of a credential. -/
def credentialIdSize : Nat := 16

/-- The size of the secret of a credential. -/
def secretSize : Nat := 32

/-- What is put before a salt to keep the pseudo-random function apart from other uses. -/
def prfContext : Bytes := Bytes.ofText "WebAuthn PRF\x00"

/-- An authenticator without credentials that keeps no file and whose user agrees to everything. -/
def fresh (capabilities : Capabilities) : VirtualAuthenticator where
  capabilities
  credentials := .empty
  presence := .always
  ceremonies := 0
  asked := []
  path := none

/-- The authenticator with the credentials of a file, which it keeps; without credentials if there
is no file. -/
def openAt (path : String) (capabilities : Capabilities) (files : Files) :
    Except VaultError VirtualAuthenticator :=
  if files.exists? path then
    match files.readText path with
    | .error e => .error (.fileAccess e.message)
    | .ok text =>
      match Credentials.reader.run (Bytes.ofText text) with
      | .error e => .error (.storageUnavailable s!"authenticator state {path}: {e.message}")
      | .ok credentials => .ok { fresh capabilities with credentials, path := some path }
  else .ok { fresh capabilities with path := some path }

/-- The secret that a pseudo-random function yields for a salt. -/
def prfOutput (secret salt : Bytes) : Bytes :=
  Hmac.mac secret (Sha256.digest (prfContext ++ salt))

/-- The secret that a keyed hash yields for a salt. -/
def hmacOutput (secret salt : Bytes) : Bytes :=
  Hmac.mac secret salt

/-- Changes the authenticator. -/
def update (change : VirtualAuthenticator → VirtualAuthenticator) : VirtualM Unit :=
  modify fun device => { device with authenticator := change device.authenticator }

/-- Draws random bytes. -/
def drawBytes (count : Nat) : VirtualM Bytes :=
  modifyGet fun device =>
    let (bytes, random) := device.host.random.draw count
    (bytes, { device with host := { device.host with random } })

/-- Begins a ceremony: it is counted, and the user is asked. -/
def begin (ceremony : Ceremony) : VirtualM Unit := do
  update fun a => { a with ceremonies := a.ceremonies + 1 }
  let authenticator := (← get).authenticator
  if !authenticator.capabilities.isAvailable then
    throw (.unavailable "virtual authenticator is disabled")
  let (approved, presence) := authenticator.presence.next
  update fun a => { a with presence, asked := a.asked ++ [(ceremony, approved)] }
  if !approved then throw (.notAllowed "user declined the authenticator prompt")

/-- The credential of a name, which must belong to the relying party. -/
def known (rpId : String) (credential : CredentialId) : VirtualM StoredCredential := do
  match ((← get).authenticator.credentials.get? credential.text).filter (·.rpId = rpId) with
  | some stored => return stored
  | none => throw (.notAllowed "credential is not known to this authenticator")

/-- Replaces the file of the credentials: a new file beside it takes its place. -/
def replaceFile (path : String) (credentials : Credentials) : FilesM Unit := do
  let directory := Files.parent path
  if !(← get).exists? directory then FilesM.createDirectories directory
  let temporary := Files.join directory s!".{Files.fileName path}.tmp"
  FilesM.write temporary (Bytes.ofText credentials.toJson.indented)
  FilesM.grantOwner temporary
  FilesM.rename temporary path

/-- Writes the credentials to the file, if there is one. -/
def save : VirtualM Unit := do
  let device ← get
  match device.authenticator.path with
  | none => return
  | some path =>
    let (result, files) := replaceFile path device.authenticator.credentials device.host.files
    set { device with host := { device.host with files } }
    match result with
    | .ok () => return
    | .error e =>
      throw (.failed
        ("failed to save authenticator state: " ++ (VaultError.fileAccess e.message).message))

/-- Makes a credential with a random name and secret. -/
def create (options : CreationOptions) : VirtualM CredentialId := do
  begin (.create options.rpId options.rpName)
  let credential : CredentialId := ⟨← drawBytes credentialIdSize⟩
  let secret ← drawBytes secretSize
  let stored := ⟨options.rpId, options.userName, secret, none⟩
  update fun a => { a with credentials := a.credentials.insert credential.text stored }
  save
  return credential

/-- Evaluates the pseudo-random function of a credential at a salt. -/
def evaluatePrf (rpId : String) (credential : CredentialId) (salt : Bytes) : VirtualM Bytes := do
  if !(← get).authenticator.capabilities.prf then throw (.extensionUnsupported .prf)
  begin (.unlock rpId credential)
  return prfOutput (← known rpId credential).secret salt

/-- Evaluates the keyed hash of a credential at a salt. -/
def evaluateHmac (rpId : String) (credential : CredentialId) (salt : Bytes) : VirtualM Bytes := do
  if !(← get).authenticator.capabilities.hmacSecret then throw (.extensionUnsupported .hmacSecret)
  begin (.unlock rpId credential)
  return hmacOutput (← known rpId credential).secret salt

/-- Reads the data stored with a credential. -/
def readBlob (rpId : String) (credential : CredentialId) : VirtualM (Option Bytes) := do
  if !(← get).authenticator.capabilities.largeBlob then throw (.extensionUnsupported .largeBlob)
  begin (.readBlob rpId credential)
  match (← known rpId credential).largeBlob with
  | none => return none
  | some text =>
    match Base64Url.decode text with
    | .ok blob => return some blob
    | .error e => throw (.failed ("corrupt large blob: " ++ e.message))

/-- Stores data with a credential in place of any other. -/
def writeBlob (rpId : String) (credential : CredentialId) (blob : Bytes) : VirtualM Unit := do
  if !(← get).authenticator.capabilities.largeBlob then throw (.extensionUnsupported .largeBlob)
  begin (.writeBlob rpId credential)
  let stored ← known rpId credential
  let stored := { stored with largeBlob := some (Base64Url.encode blob) }
  update fun a => { a with credentials := a.credentials.insert credential.text stored }
  save

end VirtualAuthenticator

end CredentialVault
