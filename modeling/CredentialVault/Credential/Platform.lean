import CredentialVault.Credential.Virtual

/-!
# Platforms

A platform offers the ceremonies. It is a virtual authenticator, or it is scripted: then the outcome
of each call is given, whatever it may be, and the calls are noted.
-/

namespace CredentialVault

/-- The outcome of reading stored data, in a script. -/
inductive ScriptedRead where
  /-- What was written last. -/
  | stored
  /-- The given outcome. -/
  | outcome (result : Except CeremonyError (Option Bytes))

/-- The outcome of every call, by its turn: the number of calls before it. -/
structure Script where
  /-- Whether there are credentials at all. -/
  isAvailable : Nat → Bool
  /-- The outcome of making a credential. -/
  create : Nat → Except CeremonyError Bytes
  /-- The outcome of evaluating the pseudo-random function. -/
  prf : Nat → Except CeremonyError Bytes
  /-- The outcome of evaluating the keyed hash. -/
  hmacSecret : Nat → Except CeremonyError Bytes
  /-- The outcome of reading stored data. -/
  readBlob : Nat → ScriptedRead
  /-- The error of storing data; without one the data is stored. -/
  writeBlob : Nat → Option CeremonyError

/-- A ceremony that a scripted platform was asked for. -/
inductive PlatformCall where
  /-- Make a credential. -/
  | create (options : CreationOptions)
  /-- Evaluate the pseudo-random function. -/
  | prf (rpId : String) (credential : CredentialId) (salt : Bytes)
  /-- Evaluate the keyed hash. -/
  | hmacSecret (rpId : String) (credential : CredentialId) (salt : Bytes)
  /-- Read stored data. -/
  | readBlob (rpId : String) (credential : CredentialId)
  /-- Store data. -/
  | writeBlob (rpId : String) (credential : CredentialId) (blob : Bytes)
deriving DecidableEq, Repr

/-- A platform whose outcomes are given. -/
structure ScriptedPlatform where
  /-- The outcomes. -/
  script : Script
  /-- The data that was stored last. -/
  blob : Option Bytes
  /-- The ceremonies that were asked for, the latest last. -/
  calls : List PlatformCall

/-- A platform that offers ceremonies. -/
inductive Platform where
  /-- A virtual authenticator. -/
  | virtual (authenticator : VirtualAuthenticator)
  /-- A platform whose outcomes are given. -/
  | scripted (platform : ScriptedPlatform)

/-- A platform and what surrounds it. -/
structure Device where
  /-- The platform. -/
  platform : Platform
  /-- What surrounds it. -/
  host : Host

/-- Runs a ceremony of a platform. -/
abbrev CeremonyM := ExceptT CeremonyError (StateM Device)

namespace Platform

/-- Whether the platform has credentials at all. -/
def isAvailable : Platform → Bool
  | virtual authenticator => authenticator.capabilities.isAvailable
  | scripted platform => platform.script.isAvailable platform.calls.length

/-- Runs the ceremony of a virtual authenticator, or takes the outcome that a script has at the turn
of the call, which is noted. -/
def perform {α : Type} (ceremony : VirtualM α) (call : PlatformCall)
    (outcome : Nat → ScriptedPlatform → Except CeremonyError α × ScriptedPlatform) :
    CeremonyM α := fun device =>
  match device.platform with
  | virtual authenticator =>
    let (result, after) := ceremony ⟨authenticator, device.host⟩
    (result, ⟨virtual after.authenticator, after.host⟩)
  | scripted platform =>
    let (result, platform) :=
      outcome platform.calls.length { platform with calls := platform.calls ++ [call] }
    (result, { device with platform := scripted platform })

/-- Makes a credential. -/
def create (options : CreationOptions) : CeremonyM CredentialId :=
  perform (VirtualAuthenticator.create options) (.create options) fun turn platform =>
    ((platform.script.create turn).map CredentialId.mk, platform)

/-- Evaluates the pseudo-random function of a credential at a salt. -/
def evaluatePrf (rpId : String) (credential : CredentialId) (salt : Bytes) : CeremonyM Bytes :=
  perform (VirtualAuthenticator.evaluatePrf rpId credential salt) (.prf rpId credential salt)
    fun turn platform => (platform.script.prf turn, platform)

/-- Evaluates the keyed hash of a credential at a salt. -/
def evaluateHmac (rpId : String) (credential : CredentialId) (salt : Bytes) : CeremonyM Bytes :=
  perform (VirtualAuthenticator.evaluateHmac rpId credential salt)
    (.hmacSecret rpId credential salt)
    fun turn platform => (platform.script.hmacSecret turn, platform)

/-- Reads the data stored with a credential. -/
def readBlob (rpId : String) (credential : CredentialId) : CeremonyM (Option Bytes) :=
  perform (VirtualAuthenticator.readBlob rpId credential) (.readBlob rpId credential)
    fun turn platform =>
      match platform.script.readBlob turn with
      | .stored => (.ok platform.blob, platform)
      | .outcome result => (result, platform)

/-- Stores data with a credential. -/
def writeBlob (rpId : String) (credential : CredentialId) (blob : Bytes) : CeremonyM Unit :=
  perform (VirtualAuthenticator.writeBlob rpId credential blob) (.writeBlob rpId credential blob)
    fun turn platform =>
      match platform.script.writeBlob turn with
      | some e => (.error e, platform)
      | none => (.ok (), { platform with blob := some blob })

end Platform

end CredentialVault
