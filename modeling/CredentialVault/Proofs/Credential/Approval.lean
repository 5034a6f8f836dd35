import CredentialVault.Proofs.Credential.Ceremony

/-!
# What the user approved

A virtual authenticator counts its ceremonies and notes what its user was asked and answered
(`CeremonyLog`). A ceremony that succeeds was counted once and approved (`begin_ok`), and one that
is passed over because its mechanism is not there was not counted. So a credential that is made, and
a secret that is derived, are known by the ceremonies that were approved for them (`enroll_log`,
`deriveSecret_log`). Whatever fails, nothing is taken back from the log (`Device.LogExtends`).
-/

namespace CredentialVault

open Operation

/-! ## The log -/

/-- How many ceremonies there were, and what the user was asked and answered in them. -/
structure CeremonyLog where
  /-- The number of ceremonies. -/
  count : Nat
  /-- The questions and answers, the latest last. -/
  asked : List (Ceremony × Bool)
deriving DecidableEq, Repr

namespace CeremonyLog

/-- The log after ceremonies each of which was approved. -/
def approve (log : CeremonyLog) (ceremonies : List Ceremony) : CeremonyLog :=
  ⟨log.count + ceremonies.length, log.asked ++ ceremonies.map (·, true)⟩

/-- Ceremonies are approved one after another. -/
theorem approve_append (log : CeremonyLog) (first second : List Ceremony) :
    log.approve (first ++ second) = (log.approve first).approve second := by
  simp [approve, Nat.add_assoc]

/-- Nothing is taken back from a log: there are as many ceremonies or more, and to what was asked
comes what is asked then. -/
structure Extends (log later : CeremonyLog) : Prop where
  /-- No ceremony is uncounted. -/
  count : log.count ≤ later.count
  /-- What was asked stays. -/
  asked : log.asked <+: later.asked

namespace Extends

/-- Nothing is asked. -/
theorem refl (log : CeremonyLog) : log.Extends log :=
  ⟨Nat.le_refl _, List.prefix_refl _⟩

/-- Something is asked, and then more. -/
theorem trans {log later last : CeremonyLog} (h : log.Extends later) (h' : later.Extends last) :
    log.Extends last :=
  ⟨Nat.le_trans h.count h'.count, h.asked.trans h'.asked⟩

end Extends

end CeremonyLog

/-- The log of an authenticator. -/
def VirtualAuthenticator.log (authenticator : VirtualAuthenticator) : CeremonyLog :=
  ⟨authenticator.ceremonies, authenticator.asked⟩

/-- The log of a device, if its platform is a virtual authenticator. -/
def Device.log? (device : Device) : Option CeremonyLog :=
  device.authenticator?.map (·.log)

/-- A device with a log has a virtual authenticator. -/
theorem Device.platform_of_log? {device : Device} {log : CeremonyLog} (h : device.log? = some log) :
    ∃ authenticator, device.platform = .virtual authenticator ∧ authenticator.log = log := by
  obtain ⟨authenticator, hauthenticator, hlog⟩ := Option.map_eq_some_iff.mp h
  exact ⟨authenticator, Device.platform_of_authenticator? hauthenticator, hlog⟩

/-- The log does not depend on the source of random bytes. -/
@[simp]
theorem Device.log?_withRandom (device : Device) (random : RandomStream) :
    (device.withRandom random).log? = device.log? := rfl

namespace VirtualAuthenticator

variable {device device' : VirtualDevice}

/-- Nothing is taken back from the log of an authenticator. -/
def LogExtends (device device' : VirtualDevice) : Prop :=
  device.authenticator.log.Extends device'.authenticator.log

instance : Sequential LogExtends where
  refl _ := .refl _
  trans h h' := h.trans h'

/-! ## Ceremonies that succeed -/

/-- A ceremony that begins is counted and approved. -/
theorem begin_ok {ceremony : Ceremony} (h : begin ceremony device = (.ok (), device')) :
    device'.authenticator.log = device.authenticator.log.approve [ceremony] := by
  obtain ⟨_, counted, hcount, h₁⟩ := bind_ok h
  obtain ⟨_, _, hget, h₂⟩ := bind_ok h₁
  cases hcount
  cases hget
  dsimp only at h₂
  split at h₂
  · cases h₂
  obtain ⟨_, asked, hask, h₃⟩ := bind_ok h₂
  cases hask
  -- The ceremony goes on only if the user agreed.
  split at h₃
  · cases h₃
  · next hagreed =>
    cases h₃
    have hagreed : device.authenticator.presence.next.1 = true := by simpa using hagreed
    simp [log, CeremonyLog.approve, hagreed]

/-- To put a credential in place leaves the log. -/
theorem preserves_log_hold (credential : CredentialId) (stored : StoredCredential) :
    Preserves (fun device : VirtualDevice => device.authenticator.log) (hold credential stored) := by
  refine Within.bind (.modify fun _ => rfl) fun _ device => ?_
  rcases hsave : save device with ⟨r, saved⟩
  exact congrArg log (save_run hsave).1

/-- To draw bytes leaves the log. -/
theorem preserves_log_drawBytes (count : Nat) :
    Preserves (fun device : VirtualDevice => device.authenticator.log) (drawBytes count) :=
  .modifyGet fun _ => rfl

/-- A credential may be used after a ceremony that was approved. -/
theorem ask_log {method : SecretMethod} {ceremony : Ceremony} {rpId : String}
    {credential : CredentialId} {stored : StoredCredential}
    (h : ask method ceremony rpId credential device = (.ok stored, device')) :
    device'.authenticator.log = device.authenticator.log.approve [ceremony] := by
  rcases hmethod : device.authenticator.capabilities.supports method with _ | _
  · rw [ask_of_unsupported hmethod] at h
    cases h
  · rw [ask_of_supported hmethod] at h
    obtain ⟨_, begun, hbegin, hknown⟩ := bind_ok h
    have hkept := (preserves_known (·.authenticator.log) rpId credential).of_run hknown
    exact hkept.trans (begin_ok hbegin)

/-- What a credential was looked up for took a ceremony that was approved. -/
theorem look_log {α : Type} {method : SecretMethod} {ceremony : Ceremony} {rpId : String}
    {credential : CredentialId} {yields : StoredCredential → Except CeremonyError α} {value : α}
    (h : look method ceremony rpId credential yields device = (.ok value, device')) :
    device'.authenticator.log = device.authenticator.log.approve [ceremony] := by
  obtain ⟨stored, asked, hask, h₁⟩ := bind_ok h
  obtain rfl : asked = device' := congrArg Prod.snd h₁
  exact ask_log hask

/-- Data was stored in a ceremony that was approved. -/
theorem writeBlob_log {rpId : String} {credential : CredentialId} {blob : Bytes}
    (h : writeBlob rpId credential blob device = (.ok (), device')) :
    device'.authenticator.log =
      device.authenticator.log.approve [.writeBlob rpId credential] := by
  rw [writeBlob_eq] at h
  obtain ⟨stored, asked, hask, hhold⟩ := bind_ok h
  have hkept := (preserves_log_hold _ _).of_run hhold
  exact hkept.trans (ask_log hask)

/-- A credential was made in a ceremony that was approved. -/
theorem create_log {options : CreationOptions} {credential : CredentialId}
    (h : create options device = (.ok credential, device')) :
    device'.authenticator.log =
      device.authenticator.log.approve [.create options.rpId options.rpName] := by
  rw [create_eq] at h
  obtain ⟨_, begun, hbegin, h₁⟩ := bind_ok h
  have hrest : Preserves (fun device : VirtualDevice => device.authenticator.log) (do
      let name ← drawBytes credentialIdSize
      let secret ← drawBytes secretSize
      hold ⟨name⟩ ⟨options.rpId, options.userName, secret, none⟩
      return (⟨name⟩ : CredentialId)) :=
    (preserves_log_drawBytes _).bind fun _ => (preserves_log_drawBytes _).bind fun _ =>
      (preserves_log_hold _ _).bind fun _ => .pure _
  exact (hrest.of_run h₁).trans (begin_ok hbegin)

/-! ## Every ceremony -/

/-- No step of a ceremony takes anything back from the log. -/
theorem ceremonySteps_logExtends : CeremonySteps LogExtends where
  count := .modify fun _ => ⟨Nat.le_succ _, List.prefix_refl _⟩
  ask _ _ := ⟨Nat.le_refl _, List.prefix_append _ _⟩
  draw _ _ := .refl _
  insert _ _ := .modify fun _ => .refl _
  save device := by
    rcases hsave : save device with ⟨r, saved⟩
    unfold LogExtends
    rw [(save_run hsave).1]
    exact .refl _

end VirtualAuthenticator

/-! ## Ceremonies of a platform -/

namespace Platform

variable {device device' : Device} {log : CeremonyLog}

/-- What an authenticator adds to its log when it succeeds, a device adds. -/
theorem perform_log {α : Type} {ceremony : VirtualM α} {call : PlatformCall}
    {outcome : Nat → ScriptedPlatform → Except CeremonyError α × ScriptedPlatform} {value : α}
    {ceremonies : List Ceremony} (hlog : device.log? = some log)
    (hceremony : ∀ virtual virtual', ceremony virtual = (.ok value, virtual') →
      virtual'.authenticator.log = virtual.authenticator.log.approve ceremonies)
    (h : perform ceremony call outcome device = (.ok value, device')) :
    device'.log? = some (log.approve ceremonies) := by
  obtain ⟨authenticator, hplatform, rfl⟩ := Device.platform_of_log? hlog
  obtain ⟨after, hrun, rfl⟩ := perform_run hplatform h
  exact congrArg some (hceremony _ _ hrun)

/-- The pseudo-random function is evaluated in a ceremony that was approved. -/
theorem evaluatePrf_log {rpId : String} {credential : CredentialId} {salt bytes : Bytes}
    (hlog : device.log? = some log)
    (h : evaluatePrf rpId credential salt device = (.ok bytes, device')) :
    device'.log? = some (log.approve [.unlock rpId credential]) := by
  rw [evaluatePrf_eq] at h
  exact perform_log hlog (fun _ _ => VirtualAuthenticator.look_log) h

/-- The keyed hash is evaluated in a ceremony that was approved. -/
theorem evaluateHmac_log {rpId : String} {credential : CredentialId} {salt bytes : Bytes}
    (hlog : device.log? = some log)
    (h : evaluateHmac rpId credential salt device = (.ok bytes, device')) :
    device'.log? = some (log.approve [.unlock rpId credential]) := by
  rw [evaluateHmac_eq] at h
  exact perform_log hlog (fun _ _ => VirtualAuthenticator.look_log) h

/-- A mechanism that is passed over since it is not there leaves the device as it is. -/
theorem evaluatePrf_unsupported {rpId : String} {credential : CredentialId} {salt : Bytes}
    {missing : SecretMethod} (hlog : device.log? = some log)
    (h : evaluatePrf rpId credential salt device =
      (.error (.extensionUnsupported missing), device')) : device' = device := by
  obtain ⟨platform, host⟩ := device
  obtain ⟨authenticator, rfl, -⟩ := Device.platform_of_log? hlog
  rw [evaluatePrf_eq] at h
  exact (look_unsupported h nofun).2

/-- A mechanism that is passed over since it is not there leaves the device as it is. -/
theorem evaluateHmac_unsupported {rpId : String} {credential : CredentialId} {salt : Bytes}
    {missing : SecretMethod} (hlog : device.log? = some log)
    (h : evaluateHmac rpId credential salt device =
      (.error (.extensionUnsupported missing), device')) : device' = device := by
  obtain ⟨platform, host⟩ := device
  obtain ⟨authenticator, rfl, -⟩ := Device.platform_of_log? hlog
  rw [evaluateHmac_eq] at h
  exact (look_unsupported h nofun).2

end Platform

namespace RelyingParty

variable {rp : RelyingParty} {credential : CredentialId} {d d' : Device} {log : CeremonyLog}

/-! ## Credentials and secrets -/

/-- A credential is made in one ceremony, which was approved. -/
theorem enroll_log (hlog : d.log? = some log) (h : rp.enroll d = (.ok credential, d')) :
    d'.log? = some (log.approve [.create rp.id rp.name]) := by
  obtain ⟨_, _, hget, h₁⟩ := bind_ok h
  cases hget
  dsimp only at h₁
  split at h₁
  · cases h₁
  obtain ⟨userId, drawn, hdraw, h₂⟩ := bind_ok h₁
  obtain ⟨_, random, -, rfl⟩ := DeviceM.drawBytes_run hdraw
  have hdrawn : (d.withRandom random).log? = some log := hlog
  obtain ⟨result, made, houtcome, h₃⟩ := bind_ok h₂
  obtain ⟨_, hr, hcreate⟩ := DeviceM.outcome_run houtcome
  obtain rfl := Except.ok.inj hr
  rcases result with e | made
  · cases h₃
  · cases h₃
    exact Platform.perform_log hdrawn
      (fun _ _ => VirtualAuthenticator.create_log) hcreate

/-- A stored seed is read in one ceremony, which was approved. -/
theorem readSeed_log {seed : Bytes} (hlog : d.log? = some log)
    (h : readSeed rp credential d = (.ok seed, d')) :
    d'.log? = some (log.approve [.readBlob rp.id credential]) := by
  obtain ⟨result, read, houtcome, h₁⟩ := bind_ok h
  obtain ⟨_, hr, hread⟩ := DeviceM.outcome_run houtcome
  obtain rfl := Except.ok.inj hr
  rcases result with e | _ | blob
  · cases h₁
  · cases h₁
  · dsimp only at h₁
    split at h₁ <;> cases h₁
    rw [Platform.readBlob_eq] at hread
    exact Platform.perform_log hlog (fun _ _ => VirtualAuthenticator.look_log) hread

/-- A seed is stored in one ceremony and read back in another, and both were approved. -/
theorem writeSeed_log {seed : Bytes} (hlog : d.log? = some log)
    (h : writeSeed rp credential d = (.ok seed, d')) :
    d'.log? = some (log.approve [.writeBlob rp.id credential, .readBlob rp.id credential]) := by
  obtain ⟨drawn, d₁, hdraw, h₁⟩ := bind_ok h
  obtain ⟨_, random, -, rfl⟩ := DeviceM.drawBytes_run hdraw
  have hdrawn : (d.withRandom random).log? = some log := hlog
  obtain ⟨result, written, houtcome, h₂⟩ := bind_ok h₁
  obtain ⟨_, hr, hwrite⟩ := DeviceM.outcome_run houtcome
  obtain rfl := Except.ok.inj hr
  rcases result with e | _
  · cases h₂
  · have hwritten :=
      Platform.perform_log hdrawn (fun _ _ => VirtualAuthenticator.writeBlob_log) hwrite
    obtain ⟨found, read, hread, h₃⟩ := bind_ok h₂
    have hdone := readSeed_log hwritten hread
    rw [← CeremonyLog.approve_append] at hdone
    split at h₃ <;> cases h₃
    exact hdone

/-- The ceremonies in which a secret is derived from a credential, by the mechanism. -/
def derivation (rp : RelyingParty) (credential : CredentialId) (purpose : CeremonyPurpose) :
    SecretMethod → List Ceremony
  | .prf | .hmacSecret => [.unlock rp.id credential]
  | .largeBlob =>
    match purpose with
    | .enrollment => [.writeBlob rp.id credential, .readBlob rp.id credential]
    | .unlock => [.readBlob rp.id credential]

/-- A secret is derived in the ceremonies of its mechanism, which were approved; a mechanism that is
passed over takes none. -/
theorem deriveSecret_log {salt : Bytes} {options : DeriveOptions} {secret : DerivedSecret}
    (hlog : d.log? = some log)
    (h : rp.deriveSecret credential salt options d = (.ok secret, d')) :
    d'.log? = some (log.approve (rp.derivation credential options.purpose secret.method)) := by
  cases deriveSecret_run h with
  | prf hprf => exact Platform.evaluatePrf_log hlog hprf
  | hmac hprf hhmac =>
    obtain rfl := Platform.evaluatePrf_unsupported hlog hprf
    exact Platform.evaluateHmac_log hlog hhmac
  | seed hprf hhmac hseed =>
    -- The first two mechanisms are not there, so no ceremony was begun for them.
    obtain rfl := Platform.evaluatePrf_unsupported hlog hprf
    obtain rfl := Platform.evaluateHmac_unsupported hlog hhmac
    unfold derivation
    cases hpurpose : options.purpose with
    | enrollment =>
      rw [hpurpose] at hseed
      exact writeSeed_log hlog hseed
    | unlock =>
      rw [hpurpose] at hseed
      exact readSeed_log hlog hseed

end RelyingParty

/-! ## Nothing is taken back -/

/-- A device that has a log still has one, and nothing was taken back from it. -/
def Device.LogExtends (device device' : Device) : Prop :=
  ∀ log, device.log? = some log → ∃ later, device'.log? = some later ∧ log.Extends later

/-- What takes nothing back from the log of an authenticator takes nothing back from that of a
device. -/
theorem Device.LogExtends.of_lifts {device device' : Device}
    (h : device.Lifts VirtualAuthenticator.LogExtends device') : device.LogExtends device' := by
  intro log hlog
  obtain ⟨authenticator, hplatform, rfl⟩ := Device.platform_of_log? hlog
  obtain ⟨after, hafter, hextends⟩ := h authenticator hplatform
  refine ⟨after.log, ?_, hextends⟩
  unfold log? authenticator?
  rw [hafter]
  rfl

end CredentialVault
