import CredentialVault.Proofs.Credential.Device
import CredentialVault.Proofs.Credential.Virtual

/-!
# Secrets of a virtual authenticator

A credential of a virtual authenticator yields the same secret for a salt at every time
(`StoredCredential.secretFor`): what `deriveSecret` found when the credential was made
(`enroll_run`, `deriveSecret_enrollment`), it finds again (`deriveSecret_unlock`) as long as the
first mechanism of the authenticator is the same (`deriveSecret_of_first`). The secrets of other
credentials do not matter (`maintains_deriveSecret`).
-/

namespace CredentialVault

open Operation

/-- A device holds a credential when its platform is a virtual authenticator that does. -/
def Device.Holds (device : Device) (key : String) (stored : StoredCredential) : Prop :=
  ∃ authenticator, device.platform = .virtual authenticator ∧
    VirtualDevice.Holds ⟨authenticator, device.host⟩ key stored

/-- The authenticator of a device whose platform is a virtual one. -/
def Device.authenticator? (device : Device) : Option VirtualAuthenticator :=
  match device.platform with
  | .virtual authenticator => some authenticator
  | .scripted _ => none

/-- The platform is the authenticator, if there is one. -/
theorem Device.platform_of_authenticator? {device : Device} {authenticator : VirtualAuthenticator}
    (h : device.authenticator? = some authenticator) :
    device.platform = .virtual authenticator := by
  unfold authenticator? at h
  split at h
  · next hplatform =>
    cases h
    exact hplatform
  · cases h

/-- The first mechanism of a device whose platform is a virtual authenticator. -/
def Device.first? (device : Device) : Option SecretMethod :=
  match device.platform with
  | .virtual authenticator => authenticator.capabilities.first?
  | .scripted _ => none

/-- The name that the next credential of a virtual authenticator will have: the bytes that are drawn
after the opaque id of the user. -/
def Device.nextCredential (device : Device) : CredentialId :=
  ⟨((device.host.random.draw RelyingParty.userIdSize).2.draw
    VirtualAuthenticator.credentialIdSize).1⟩

variable {key : String} {stored : StoredCredential}

/-- What is held does not depend on the source of random bytes. -/
theorem Device.Holds.withRandom {device : Device} (h : device.Holds key stored)
    (random : RandomStream) : (device.withRandom random).Holds key stored := by
  obtain ⟨authenticator, hplatform, hheld⟩ := h
  exact ⟨authenticator, hplatform, hheld.memory, hheld.file⟩

/-! ## Ceremonies -/

namespace Platform

/-- A ceremony of a virtual authenticator is run by it. -/
theorem perform_of_virtual {α : Type} {device : Device} {authenticator : VirtualAuthenticator}
    (h : device.platform = .virtual authenticator) (ceremony : VirtualM α) (call : PlatformCall)
    (outcome : Nat → ScriptedPlatform → Except CeremonyError α × ScriptedPlatform) :
    perform ceremony call outcome device =
      ((ceremony ⟨authenticator, device.host⟩).1,
        ⟨.virtual (ceremony ⟨authenticator, device.host⟩).2.authenticator,
          (ceremony ⟨authenticator, device.host⟩).2.host⟩) := by
  unfold perform
  rw [h]
  rfl

/-- A ceremony that was run on a device was run by its authenticator. -/
theorem perform_run {α : Type} {device device' : Device} {authenticator : VirtualAuthenticator}
    {ceremony : VirtualM α} {call : PlatformCall}
    {outcome : Nat → ScriptedPlatform → Except CeremonyError α × ScriptedPlatform}
    {r : Except CeremonyError α} (h : device.platform = .virtual authenticator)
    (hrun : perform ceremony call outcome device = (r, device')) :
    ∃ after, ceremony ⟨authenticator, device.host⟩ = (r, after) ∧
      device' = ⟨.virtual after.authenticator, after.host⟩ := by
  rw [perform_of_virtual h] at hrun
  obtain ⟨rfl, rfl⟩ := Prod.mk.inj hrun
  exact ⟨_, rfl, rfl⟩

/-- A ceremony that keeps a credential in an authenticator keeps it on a device. -/
theorem maintains_perform {α : Type} {ceremony : VirtualM α}
    (h : Maintains (VirtualDevice.Holds · key stored) ceremony) (call : PlatformCall)
    (outcome : Nat → ScriptedPlatform → Except CeremonyError α × ScriptedPlatform) :
    Maintains (Device.Holds · key stored) (perform ceremony call outcome) := by
  rintro device ⟨authenticator, hplatform, hheld⟩
  rw [perform_of_virtual hplatform]
  exact ⟨_, rfl, h _ hheld⟩

/-- A credential that a virtual authenticator makes has the name that is drawn, and is held for the
party; the others stay. -/
theorem create_run {options : CreationOptions} {device device' : Device}
    {result : Except CeremonyError CredentialId} (h : create options device = (result, device')) :
    (∀ credential authenticator, result = .ok credential →
      device.platform = .virtual authenticator →
        credential = ⟨(device.host.random.draw VirtualAuthenticator.credentialIdSize).1⟩ ∧
          ∃ stored, device'.Holds credential.text stored ∧ stored.rpId = options.rpId) ∧
      ∀ key stored, CredentialId.text
        ⟨(device.host.random.draw VirtualAuthenticator.credentialIdSize).1⟩ ≠ key →
          device.Holds key stored → device'.Holds key stored := by
  constructor
  · intro credential authenticator hcredential hplatform
    obtain ⟨after, hran, rfl⟩ := perform_run hplatform h
    obtain ⟨hname, secret, hheld⟩ :=
      (VirtualAuthenticator.create_run hran).1 credential hcredential
    exact ⟨hname, _, ⟨after.authenticator, rfl, hheld⟩, rfl⟩
  · rintro key stored hother ⟨authenticator, hplatform, hheld⟩
    obtain ⟨after, hran, rfl⟩ := perform_run hplatform h
    exact ⟨after.authenticator, rfl,
      (VirtualAuthenticator.create_run hran).2 key stored hother hheld⟩

/-! ### Uses that change nothing -/

/-- To evaluate the pseudo-random function changes nothing. -/
theorem evaluatePrf_eq (rpId : String) (credential : CredentialId) (salt : Bytes) :
    evaluatePrf rpId credential salt =
      perform (VirtualAuthenticator.look .prf (.unlock rpId credential) rpId credential
        fun stored => .ok (VirtualAuthenticator.prfOutput stored.secret salt))
        (.prf rpId credential salt) fun turn platform => (platform.script.prf turn, platform) := by
  unfold evaluatePrf
  rw [VirtualAuthenticator.evaluatePrf_eq]

/-- To evaluate the keyed hash changes nothing. -/
theorem evaluateHmac_eq (rpId : String) (credential : CredentialId) (salt : Bytes) :
    evaluateHmac rpId credential salt =
      perform (VirtualAuthenticator.look .hmacSecret (.unlock rpId credential) rpId credential
        fun stored => .ok (VirtualAuthenticator.hmacOutput stored.secret salt))
        (.hmacSecret rpId credential salt)
        fun turn platform => (platform.script.hmacSecret turn, platform) := by
  unfold evaluateHmac
  rw [VirtualAuthenticator.evaluateHmac_eq]

/-- To read stored data changes nothing. -/
theorem readBlob_eq (rpId : String) (credential : CredentialId) :
    readBlob rpId credential =
      perform (VirtualAuthenticator.look .largeBlob (.readBlob rpId credential) rpId credential
        VirtualAuthenticator.blobOf) (.readBlob rpId credential) fun turn platform =>
          match platform.script.readBlob turn with
          | .stored => (.ok platform.blob, platform)
          | .outcome result => (result, platform) :=
  congrArg (fun ceremony => perform ceremony _ _)
    (VirtualAuthenticator.readBlob_eq rpId credential)

section Look

variable {α : Type} {method : SecretMethod} {ceremony : Ceremony} {rpId : String}
  {credential : CredentialId} {yields : StoredCredential → Except CeremonyError α}
  {call : PlatformCall} {outcome : Nat → ScriptedPlatform → Except CeremonyError α × ScriptedPlatform}
  {authenticator : VirtualAuthenticator} {host : Host} {device' : Device}

/-- To look at any credential keeps a credential. -/
theorem maintains_look (method : SecretMethod) (ceremony : Ceremony) (rpId : String)
    (credential : CredentialId) (yields : StoredCredential → Except CeremonyError α)
    (call : PlatformCall)
    (outcome : Nat → ScriptedPlatform → Except CeremonyError α × ScriptedPlatform) :
    Maintains (Device.Holds · key stored)
      (perform (VirtualAuthenticator.look method ceremony rpId credential yields) call outcome) :=
  maintains_perform (VirtualAuthenticator.maintains_look method ceremony rpId credential yields)
    call outcome

/-- What was looked up is what the credential says that is held. -/
theorem look_ok {value : α}
    (hheld : VirtualDevice.Holds ⟨authenticator, host⟩ credential.text stored)
    (h : perform (VirtualAuthenticator.look method ceremony rpId credential yields) call outcome
      ⟨.virtual authenticator, host⟩ = (.ok value, device')) :
    authenticator.capabilities.supports method = true ∧ stored.rpId = rpId ∧
      yields stored = .ok value := by
  obtain ⟨after, hran, -⟩ := perform_run rfl h
  exact VirtualAuthenticator.look_ok hheld.memory hran

/-- A mechanism is said not to be there only if it is not, unless a credential says so. -/
theorem look_unsupported {missing : SecretMethod}
    (h : perform (VirtualAuthenticator.look method ceremony rpId credential yields) call outcome
      ⟨.virtual authenticator, host⟩ = (.error (.extensionUnsupported missing), device'))
    (hyields : ∀ found, yields found ≠ .error (.extensionUnsupported missing)) :
    authenticator.capabilities.supports method = false ∧
      device' = ⟨.virtual authenticator, host⟩ := by
  obtain ⟨after, hran, rfl⟩ := perform_run rfl h
  obtain ⟨hmethod, rfl⟩ := VirtualAuthenticator.look_unsupported hyields hran
  exact ⟨hmethod, rfl⟩

/-- A mechanism that is not there is told apart at once. -/
theorem look_of_unsupported (h : authenticator.capabilities.supports method = false) :
    perform (VirtualAuthenticator.look method ceremony rpId credential yields) call outcome
      ⟨.virtual authenticator, host⟩ =
        (.error (.extensionUnsupported method), ⟨.virtual authenticator, host⟩) := by
  rw [perform_of_virtual rfl, VirtualAuthenticator.look_of_unsupported h]

/-- What a credential says that is held is found, when the mechanism is offered and the relying
party of the credential asks. -/
theorem look_of_offers (hoffers : authenticator.Offers method)
    (hheld : VirtualDevice.Holds ⟨authenticator, host⟩ credential.text stored)
    (hrp : stored.rpId = rpId) :
    ∃ device', perform (VirtualAuthenticator.look method ceremony rpId credential yields) call
      outcome ⟨.virtual authenticator, host⟩ = (yields stored, device') := by
  obtain ⟨after, hran⟩ :=
    VirtualAuthenticator.look_of_offers hoffers hheld.memory hrp ceremony yields
  refine ⟨⟨.virtual after.authenticator, after.host⟩, ?_⟩
  rw [perform_of_virtual rfl, hran]

/-- The pseudo-random function is evaluated when it is offered. -/
theorem evaluatePrf_of_offers (hoffers : authenticator.Offers .prf)
    (hheld : VirtualDevice.Holds ⟨authenticator, host⟩ credential.text stored)
    (hrp : stored.rpId = rpId) (salt : Bytes) :
    ∃ device', evaluatePrf rpId credential salt ⟨.virtual authenticator, host⟩ =
      (.ok (VirtualAuthenticator.prfOutput stored.secret salt), device') := by
  rw [evaluatePrf_eq]
  exact look_of_offers hoffers hheld hrp

/-- The keyed hash is evaluated when it is offered. -/
theorem evaluateHmac_of_offers (hoffers : authenticator.Offers .hmacSecret)
    (hheld : VirtualDevice.Holds ⟨authenticator, host⟩ credential.text stored)
    (hrp : stored.rpId = rpId) (salt : Bytes) :
    ∃ device', evaluateHmac rpId credential salt ⟨.virtual authenticator, host⟩ =
      (.ok (VirtualAuthenticator.hmacOutput stored.secret salt), device') := by
  rw [evaluateHmac_eq]
  exact look_of_offers hoffers hheld hrp

/-- The pseudo-random function is passed over when another mechanism is the first. -/
theorem evaluatePrf_of_first (hfirst : authenticator.capabilities.first? = some method)
    (h : method ≠ .prf) (salt : Bytes) :
    evaluatePrf rpId credential salt ⟨.virtual authenticator, host⟩ =
      (.error (.extensionUnsupported .prf), ⟨.virtual authenticator, host⟩) := by
  rw [evaluatePrf_eq]
  exact look_of_unsupported ((Capabilities.first?_eq_some.mp hfirst).2.1 h)

/-- The keyed hash is passed over when stored data is the first mechanism. -/
theorem evaluateHmac_of_first (hfirst : authenticator.capabilities.first? = some .largeBlob)
    (salt : Bytes) :
    evaluateHmac rpId credential salt ⟨.virtual authenticator, host⟩ =
      (.error (.extensionUnsupported .hmacSecret), ⟨.virtual authenticator, host⟩) := by
  rw [evaluateHmac_eq]
  exact look_of_unsupported ((Capabilities.first?_eq_some.mp hfirst).2.2 rfl)

end Look

end Platform

namespace DeviceM

/-- The outcome of a ceremony is a result, whatever it is. -/
theorem outcome_run {α : Type} {ceremony : CeremonyM α} {d d' : Device}
    {r : Except VaultError (Except CeremonyError α)} (h : outcome ceremony d = (r, d')) :
    ∃ result, r = .ok result ∧ ceremony d = (result, d') := by
  obtain ⟨rfl, rfl⟩ := Prod.mk.inj h
  exact ⟨_, rfl, rfl⟩

/-- A ceremony that was run has its result as the outcome. -/
theorem outcome_of_run {α : Type} {ceremony : CeremonyM α} {d d' : Device}
    {result : Except CeremonyError α} (h : ceremony d = (result, d')) :
    outcome ceremony d = (.ok result, d') := by
  show (Except.ok (ceremony d).1, (ceremony d).2) = _
  rw [h]

/-- A ceremony whose failures are not raised stays within a relation if it does when they are. -/
theorem within_outcome {α : Type} {R : Device → Device → Prop} {ceremony : CeremonyM α}
    (h : Within R ceremony) : Within R (outcome ceremony) := fun d => h d

/-- To draw bytes keeps a credential. -/
theorem maintains_drawBytes (count : Nat) :
    Maintains (Device.Holds · key stored) (drawBytes count) :=
  within_drawBytes (fun _ random hheld => hheld.withRandom random) count

end DeviceM

namespace RelyingParty

/-! ## Mechanisms -/

/-- An attempt that does not fail yields the result of the ceremony, or the platform does not have
the mechanism. -/
theorem attempt_ok {method : SecretMethod} {ceremony : CeremonyM Bytes} {d d' : Device}
    {found : Option DerivedSecret} (h : attempt method ceremony d = (.ok found, d')) :
    (∃ bytes, ceremony d = (.ok bytes, d') ∧ found = some ⟨method, bytes⟩) ∨
      ∃ missing, ceremony d = (.error (.extensionUnsupported missing), d') ∧ found = none := by
  obtain ⟨result, d₁, houtcome, h₁⟩ := bind_ok h
  obtain ⟨_, hr, hceremony⟩ := DeviceM.outcome_run houtcome
  obtain rfl := Except.ok.inj hr
  rcases result with e | bytes
  · rcases e with missing | reason | reason | reason <;> cases h₁
    exact .inr ⟨missing, hceremony, rfl⟩
  · cases h₁
    exact .inl ⟨bytes, hceremony, rfl⟩

/-- An attempt whose ceremony succeeds yields the secret. -/
theorem attempt_of_ok {method : SecretMethod} {ceremony : CeremonyM Bytes} {d d' : Device}
    {bytes : Bytes} (h : ceremony d = (.ok bytes, d')) :
    attempt method ceremony d = (.ok (some ⟨method, bytes⟩), d') := by
  unfold attempt
  rw [run_bind_of_ok (DeviceM.outcome_of_run h)]
  rfl

/-- An attempt whose mechanism is not there yields nothing. -/
theorem attempt_of_unsupported {method missing : SecretMethod} {ceremony : CeremonyM Bytes}
    {d d' : Device} (h : ceremony d = (.error (.extensionUnsupported missing), d')) :
    attempt method ceremony d = (.ok none, d') := by
  unfold attempt
  rw [run_bind_of_ok (DeviceM.outcome_of_run h)]
  rfl

section Within

variable {R : Device → Device → Prop} [Sequential R] {rp : RelyingParty} {credential : CredentialId}
  {salt : Bytes} {options : DeriveOptions}

/-- An attempt stays within a relation if its ceremony does. -/
theorem within_attempt (method : SecretMethod) {ceremony : CeremonyM Bytes}
    (h : Within R ceremony) : Within R (attempt method ceremony) := by
  refine (DeviceM.within_outcome h).bind fun result => ?_
  split
  · exact .pure _
  · exact .pure _
  · exact .throw _

/-- To read a seed stays within a relation if the reading of stored data does. -/
theorem within_readSeed (hread : Within R (Platform.readBlob rp.id credential)) :
    Within R (readSeed rp credential) := by
  refine (DeviceM.within_outcome hread).bind fun result => ?_
  split
  · split
    · exact .throw _
    · exact .pure _
  · exact .throw _
  · exact .throw _

/-- To write a seed stays within a relation if its parts do: the drawing of the seed, the storing of
data, and the reading. -/
theorem within_writeSeed (hdraw : Within R (DeviceM.drawBytes seedSize))
    (hwrite : ∀ seed, Within R (Platform.writeBlob rp.id credential seed))
    (hread : Within R (Platform.readBlob rp.id credential)) :
    Within R (writeSeed rp credential) := by
  refine hdraw.bind fun seed => (DeviceM.within_outcome (hwrite seed)).bind fun result => ?_
  split
  · refine (within_readSeed hread).bind fun found => ?_
    split
    · exact .pure _
    · exact .throw _
  · exact .throw _

/-- To derive a secret stays within a relation if every mechanism does. -/
theorem within_deriveSecret (hprf : Within R (Platform.evaluatePrf rp.id credential salt))
    (hhmac : Within R (Platform.evaluateHmac rp.id credential salt))
    (hwrite : options.purpose = .enrollment → Within R (writeSeed rp credential))
    (hread : Within R (readSeed rp credential)) :
    Within R (rp.deriveSecret credential salt options) := by
  refine (within_attempt .prf hprf).bind fun found => ?_
  split
  · exact .pure _
  · refine (within_attempt .hmacSecret hhmac).bind fun found => ?_
    split
    · exact .pure _
    · dsimp only
      split
      · exact .throw_bind _ _
      · split
        · next hpurpose => exact (hwrite hpurpose).bind fun _ => .pure _
        · exact hread.bind fun _ => .pure _

end Within

/-- To read the data of any credential keeps a credential. -/
theorem maintains_readBlob (rpId : String) (credential : CredentialId) :
    Maintains (Device.Holds · key stored) (Platform.readBlob rpId credential) := by
  rw [Platform.readBlob_eq]
  exact Platform.maintains_look _ _ _ _ _ _ _

/-- To read the seed of any credential keeps a credential. -/
theorem maintains_readSeed (rp : RelyingParty) (credential : CredentialId) :
    Maintains (Device.Holds · key stored) (readSeed rp credential) :=
  within_readSeed (maintains_readBlob _ _)

/-- To write a seed for a credential keeps the others. -/
theorem maintains_writeSeed (rp : RelyingParty) {credential : CredentialId}
    (hother : credential.text ≠ key) :
    Maintains (Device.Holds · key stored) (writeSeed rp credential) :=
  within_writeSeed (DeviceM.maintains_drawBytes _)
    (fun _ => Platform.maintains_perform (VirtualAuthenticator.maintains_writeBlob _ _ hother) _ _)
    (maintains_readBlob _ _)

/-- To derive the secret of a credential keeps the others; and for a known credential, all. -/
theorem maintains_deriveSecret (rp : RelyingParty) (credential : CredentialId) (salt : Bytes)
    (options : DeriveOptions) (hother : credential.text ≠ key ∨ options.purpose = .unlock) :
    Maintains (Device.Holds · key stored) (rp.deriveSecret credential salt options) := by
  refine within_deriveSecret ?_ ?_ (fun hpurpose => ?_) (maintains_readSeed rp credential)
  · rw [Platform.evaluatePrf_eq]
    exact Platform.maintains_look _ _ _ _ _ _ _
  · rw [Platform.evaluateHmac_eq]
    exact Platform.maintains_look _ _ _ _ _ _ _
  · refine maintains_writeSeed rp (hother.resolve_right ?_)
    rw [hpurpose]
    exact nofun

/-! ## The secret of a credential -/

/-- The ways in which a secret is derived: each mechanism is taken when those before it are not
there. -/
inductive DeriveRun (rp : RelyingParty) (credential : CredentialId) (salt : Bytes)
    (options : DeriveOptions) (d : Device) : DerivedSecret → Device → Prop where
  /-- By the pseudo-random function. -/
  | prf {bytes : Bytes} {d' : Device}
    (hprf : Platform.evaluatePrf rp.id credential salt d = (.ok bytes, d')) :
    DeriveRun rp credential salt options d ⟨.prf, bytes⟩ d'
  /-- By the keyed hash. -/
  | hmac {missing : SecretMethod} {bytes : Bytes} {d₁ d' : Device}
    (hprf : Platform.evaluatePrf rp.id credential salt d =
      (.error (.extensionUnsupported missing), d₁))
    (hhmac : Platform.evaluateHmac rp.id credential salt d₁ = (.ok bytes, d')) :
    DeriveRun rp credential salt options d ⟨.hmacSecret, bytes⟩ d'
  /-- By the stored seed. -/
  | seed {missing missing' : SecretMethod} {seed : Bytes} {d₁ d₂ d' : Device}
    (hprf : Platform.evaluatePrf rp.id credential salt d =
      (.error (.extensionUnsupported missing), d₁))
    (hhmac : Platform.evaluateHmac rp.id credential salt d₁ =
      (.error (.extensionUnsupported missing'), d₂))
    (hseed : (match options.purpose with
      | .enrollment => writeSeed rp credential
      | .unlock => readSeed rp credential) d₂ = (.ok seed, d')) :
    DeriveRun rp credential salt options d ⟨.largeBlob, seed⟩ d'

/-- A secret is derived in one of these ways. -/
theorem deriveSecret_run {rp : RelyingParty} {credential : CredentialId} {salt : Bytes}
    {options : DeriveOptions} {d d' : Device} {secret : DerivedSecret}
    (h : rp.deriveSecret credential salt options d = (.ok secret, d')) :
    DeriveRun rp credential salt options d secret d' := by
  obtain ⟨found, d₁, hfirst, h₁⟩ := bind_ok h
  rcases attempt_ok hfirst with ⟨bytes, hprf, rfl⟩ | ⟨missing, hprf, rfl⟩
  · cases h₁
    exact .prf hprf
  obtain ⟨found, d₂, hsecond, h₂⟩ := bind_ok h₁
  rcases attempt_ok hsecond with ⟨bytes, hhmac, rfl⟩ | ⟨missing', hhmac, rfl⟩
  · cases h₂
    exact .hmac hprf hhmac
  dsimp only at h₂
  split at h₂
  · cases h₂
  · obtain ⟨purpose, allows⟩ := options
    cases purpose with
    | enrollment =>
      obtain ⟨seed, d₃, hseed, h₃⟩ := bind_ok h₂
      cases h₃
      exact .seed hprf hhmac hseed
    | unlock =>
      obtain ⟨seed, d₃, hseed, h₃⟩ := bind_ok h₂
      cases h₃
      exact .seed hprf hhmac hseed

end RelyingParty

/-- The secret that a credential yields for a salt by a mechanism, if it yields one. -/
def StoredCredential.secretFor (stored : StoredCredential) (salt : Bytes) :
    SecretMethod → Option Bytes
  | .prf => some (VirtualAuthenticator.prfOutput stored.secret salt)
  | .hmacSecret => some (VirtualAuthenticator.hmacOutput stored.secret salt)
  | .largeBlob =>
    match VirtualAuthenticator.blobOf stored with
    | .ok (some seed) => if seed = [] then none else some seed
    | _ => none

namespace RelyingParty

/-- A seed that was read is the one stored with the credential. -/
theorem readSeed_ok {rp : RelyingParty} {credential : CredentialId} {seed : Bytes}
    {authenticator : VirtualAuthenticator} {host : Host} {d' : Device}
    (hheld : VirtualDevice.Holds ⟨authenticator, host⟩ credential.text stored)
    (h : readSeed rp credential ⟨.virtual authenticator, host⟩ = (.ok seed, d')) :
    authenticator.capabilities.supports .largeBlob = true ∧ stored.rpId = rp.id ∧
      ∀ salt, stored.secretFor salt .largeBlob = some seed := by
  obtain ⟨result, d₁, houtcome, h₁⟩ := bind_ok h
  obtain ⟨_, hr, hread⟩ := DeviceM.outcome_run houtcome
  obtain rfl := Except.ok.inj hr
  rw [Platform.readBlob_eq] at hread
  rcases result with e | _ | found
  · cases h₁
  · cases h₁
  · obtain ⟨hmethod, hrp, hblob⟩ := Platform.look_ok hheld hread
    dsimp only at h₁
    split at h₁
    · cases h₁
    · next hseed =>
      cases h₁
      refine ⟨hmethod, hrp, fun salt => ?_⟩
      simp only [StoredCredential.secretFor, hblob, if_neg hseed]

/-- A seed that was written is stored with the credential. -/
theorem writeSeed_ok {rp : RelyingParty} {credential : CredentialId} {seed : Bytes} {d d' : Device}
    (hheld : d.Holds credential.text stored)
    (h : writeSeed rp credential d = (.ok seed, d')) :
    ∃ new, d'.Holds credential.text new ∧ new.rpId = rp.id ∧
      ∀ salt, new.secretFor salt .largeBlob = some seed := by
  obtain ⟨drawn, d₁, hdraw, h₁⟩ := bind_ok h
  obtain ⟨authenticator, hplatform, hheld⟩ := (DeviceM.maintains_drawBytes _).of_run hdraw hheld
  obtain ⟨result, d₂, houtcome, h₂⟩ := bind_ok h₁
  obtain ⟨_, hr, hwrite⟩ := DeviceM.outcome_run houtcome
  obtain rfl := Except.ok.inj hr
  obtain ⟨after, hran, rfl⟩ := Platform.perform_run hplatform hwrite
  rcases result with e | _
  · cases h₂
  obtain ⟨hrp, hnew⟩ := VirtualAuthenticator.writeBlob_ok hheld.memory hran
  -- What was written is read again, and compared with the seed that was drawn.
  obtain ⟨found, d₃, hread, h₃⟩ := bind_ok h₂
  generalize { stored with largeBlob := some (Base64Url.encode drawn) } = new at hnew
  obtain ⟨-, hrp, hsecret⟩ := readSeed_ok hnew hread
  have hlater := (maintains_readSeed rp credential).of_run hread ⟨after.authenticator, rfl, hnew⟩
  split at h₃
  · next hsame =>
    obtain ⟨hseed, rfl⟩ := Prod.mk.inj h₃
    obtain rfl := Except.ok.inj hseed
    exact ⟨new, hlater, hrp, fun salt => by rw [hsecret, hsame]⟩
  · cases h₃

/-- The secret of a known credential is the one that it yields by the first mechanism. -/
theorem deriveSecret_unlock {rp : RelyingParty} {credential : CredentialId} {salt : Bytes}
    {options : DeriveOptions} {d d' : Device} {secret : DerivedSecret}
    (hpurpose : options.purpose = .unlock) (hheld : d.Holds credential.text stored)
    (h : rp.deriveSecret credential salt options d = (.ok secret, d')) :
    d.first? = some secret.method ∧ stored.secretFor salt secret.method = some secret.bytes := by
  obtain ⟨authenticator, hplatform, hheld⟩ := hheld
  obtain ⟨platform, host⟩ := d
  obtain rfl : platform = .virtual authenticator := hplatform
  simp only [Device.first?, Capabilities.first?_eq_some]
  cases deriveSecret_run h with
  | prf hprf =>
    rw [Platform.evaluatePrf_eq] at hprf
    obtain ⟨hmethod, -, hbytes⟩ := Platform.look_ok hheld hprf
    obtain rfl := Except.ok.inj hbytes
    exact ⟨⟨hmethod, fun h => absurd rfl h, nofun⟩, rfl⟩
  | hmac hprf hhmac =>
    rw [Platform.evaluatePrf_eq] at hprf
    obtain ⟨hnoPrf, rfl⟩ := Platform.look_unsupported hprf nofun
    rw [Platform.evaluateHmac_eq] at hhmac
    obtain ⟨hmethod, -, hbytes⟩ := Platform.look_ok hheld hhmac
    obtain rfl := Except.ok.inj hbytes
    exact ⟨⟨hmethod, fun _ => hnoPrf, nofun⟩, rfl⟩
  | seed hprf hhmac hseed =>
    rw [Platform.evaluatePrf_eq] at hprf
    obtain ⟨hnoPrf, rfl⟩ := Platform.look_unsupported hprf nofun
    rw [Platform.evaluateHmac_eq] at hhmac
    obtain ⟨hnoHmac, rfl⟩ := Platform.look_unsupported hhmac nofun
    rw [hpurpose] at hseed
    obtain ⟨hmethod, -, hsecret⟩ := readSeed_ok hheld hseed
    exact ⟨⟨hmethod, fun _ => hnoPrf, fun _ => hnoHmac⟩, hsecret salt⟩

/-- The secret of a new credential is the one that it yields from then on. -/
theorem deriveSecret_enrollment {rp : RelyingParty} {credential : CredentialId} {salt : Bytes}
    {options : DeriveOptions} {d d' : Device} {secret : DerivedSecret}
    (hpurpose : options.purpose = .enrollment) (hheld : d.Holds credential.text stored)
    (h : rp.deriveSecret credential salt options d = (.ok secret, d')) :
    ∃ new, d'.Holds credential.text new ∧ new.rpId = rp.id ∧
      new.secretFor salt secret.method = some secret.bytes := by
  obtain ⟨authenticator, hplatform, hheld⟩ := hheld
  obtain ⟨platform, host⟩ := d
  obtain rfl : platform = .virtual authenticator := hplatform
  cases deriveSecret_run h with
  | prf hprf =>
    rw [Platform.evaluatePrf_eq] at hprf
    obtain ⟨-, hrp, hbytes⟩ := Platform.look_ok hheld hprf
    obtain rfl := Except.ok.inj hbytes
    have hkept := (Platform.maintains_look _ _ _ _ _ _ _).of_run hprf ⟨authenticator, rfl, hheld⟩
    exact ⟨stored, hkept, hrp, rfl⟩
  | hmac hprf hhmac =>
    rw [Platform.evaluatePrf_eq] at hprf
    obtain ⟨-, rfl⟩ := Platform.look_unsupported hprf nofun
    rw [Platform.evaluateHmac_eq] at hhmac
    obtain ⟨-, hrp, hbytes⟩ := Platform.look_ok hheld hhmac
    obtain rfl := Except.ok.inj hbytes
    have hkept := (Platform.maintains_look _ _ _ _ _ _ _).of_run hhmac ⟨authenticator, rfl, hheld⟩
    exact ⟨stored, hkept, hrp, rfl⟩
  | seed hprf hhmac hseed =>
    rw [Platform.evaluatePrf_eq] at hprf
    obtain ⟨-, rfl⟩ := Platform.look_unsupported hprf nofun
    rw [Platform.evaluateHmac_eq] at hhmac
    obtain ⟨-, rfl⟩ := Platform.look_unsupported hhmac nofun
    rw [hpurpose] at hseed
    obtain ⟨new, hnew, hrp, hsecret⟩ := writeSeed_ok ⟨authenticator, rfl, hheld⟩ hseed
    exact ⟨new, hnew, hrp, hsecret salt⟩

/-- A seed is written only where credentials have storage. -/
theorem writeSeed_supports {rp : RelyingParty} {credential : CredentialId} {seed : Bytes}
    {authenticator : VirtualAuthenticator} {host : Host} {d' : Device}
    (h : writeSeed rp credential ⟨.virtual authenticator, host⟩ = (.ok seed, d')) :
    authenticator.capabilities.supports .largeBlob = true := by
  obtain ⟨drawn, d₁, hdraw, h₁⟩ := bind_ok h
  obtain ⟨_, random, -, rfl⟩ := DeviceM.drawBytes_run hdraw
  obtain ⟨result, d₂, houtcome, h₂⟩ := bind_ok h₁
  obtain ⟨_, hr, hwrite⟩ := DeviceM.outcome_run houtcome
  obtain rfl := Except.ok.inj hr
  obtain ⟨after, hran, rfl⟩ := Platform.perform_run rfl hwrite
  rcases result with e | _
  · cases h₂
  · rw [VirtualAuthenticator.writeBlob_eq] at hran
    obtain ⟨found, asked, hask, -⟩ := bind_ok hran
    exact VirtualAuthenticator.ask_supports hask

/-- The mechanism of a secret is the first that there is, for a new credential too. -/
theorem deriveSecret_first {rp : RelyingParty} {credential : CredentialId} {salt : Bytes}
    {options : DeriveOptions} {d d' : Device} {secret : DerivedSecret}
    (hheld : d.Holds credential.text stored)
    (h : rp.deriveSecret credential salt options d = (.ok secret, d')) :
    d.first? = some secret.method := by
  cases hpurpose : options.purpose with
  | unlock => exact (deriveSecret_unlock hpurpose hheld h).1
  | enrollment =>
    obtain ⟨authenticator, hplatform, hheld⟩ := hheld
    obtain ⟨platform, host⟩ := d
    obtain rfl : platform = .virtual authenticator := hplatform
    simp only [Device.first?, Capabilities.first?_eq_some]
    cases deriveSecret_run h with
    | prf hprf =>
      rw [Platform.evaluatePrf_eq] at hprf
      exact ⟨(Platform.look_ok hheld hprf).1, fun h => absurd rfl h, nofun⟩
    | hmac hprf hhmac =>
      rw [Platform.evaluatePrf_eq] at hprf
      obtain ⟨hnoPrf, rfl⟩ := Platform.look_unsupported hprf nofun
      rw [Platform.evaluateHmac_eq] at hhmac
      exact ⟨(Platform.look_ok hheld hhmac).1, fun _ => hnoPrf, nofun⟩
    | seed hprf hhmac hseed =>
      rw [Platform.evaluatePrf_eq] at hprf
      obtain ⟨hnoPrf, rfl⟩ := Platform.look_unsupported hprf nofun
      rw [Platform.evaluateHmac_eq] at hhmac
      obtain ⟨hnoHmac, rfl⟩ := Platform.look_unsupported hhmac nofun
      rw [hpurpose] at hseed
      exact ⟨writeSeed_supports hseed, fun _ => hnoPrf, fun _ => hnoHmac⟩

/-! ## Mechanisms that yield the secret -/

section Chain

variable {rp : RelyingParty} {credential : CredentialId} {salt bytes : Bytes}
  {options : DeriveOptions} {missing missing' : SecretMethod} {d d₁ d₂ d' : Device}

/-- What the pseudo-random function yields is the secret. -/
theorem deriveSecret_of_prf (h : Platform.evaluatePrf rp.id credential salt d = (.ok bytes, d')) :
    rp.deriveSecret credential salt options d = (.ok ⟨.prf, bytes⟩, d') := by
  unfold deriveSecret
  rw [run_bind_of_ok (attempt_of_ok h)]
  rfl

/-- Without the pseudo-random function, what the keyed hash yields is the secret. -/
theorem deriveSecret_of_hmac
    (hprf : Platform.evaluatePrf rp.id credential salt d =
      (.error (.extensionUnsupported missing), d₁))
    (h : Platform.evaluateHmac rp.id credential salt d₁ = (.ok bytes, d')) :
    rp.deriveSecret credential salt options d = (.ok ⟨.hmacSecret, bytes⟩, d') := by
  unfold deriveSecret
  rw [run_bind_of_ok (attempt_of_unsupported hprf)]
  dsimp only
  rw [run_bind_of_ok (attempt_of_ok h)]
  rfl

/-- Without both, a stored seed is the secret, if it may be: a new one, or the one that is there. -/
theorem deriveSecret_of_neither
    (hprf : Platform.evaluatePrf rp.id credential salt d =
      (.error (.extensionUnsupported missing), d₁))
    (hhmac : Platform.evaluateHmac rp.id credential salt d₁ =
      (.error (.extensionUnsupported missing'), d₂)) (hallowed : options.allowsLargeBlob = true) :
    rp.deriveSecret credential salt options d =
      (match options.purpose with
      | .enrollment => do return ⟨.largeBlob, ← writeSeed rp credential⟩
      | .unlock => do return ⟨.largeBlob, ← readSeed rp credential⟩ : DeviceM DerivedSecret) d₂ := by
  unfold deriveSecret
  rw [run_bind_of_ok (attempt_of_unsupported hprf)]
  dsimp only
  rw [run_bind_of_ok (attempt_of_unsupported hhmac)]
  dsimp only
  rw [hallowed]
  rfl

end Chain

/-! ## The mechanism that is offered -/

section Offers

variable {method : SecretMethod} {authenticator : VirtualAuthenticator} {host : Host}
  {rp : RelyingParty} {credential : CredentialId}

/-- The seed that is stored with a credential is read, when the mechanism is offered. -/
theorem readSeed_of_offers {salt seed : Bytes} (hoffers : authenticator.Offers .largeBlob)
    (hheld : VirtualDevice.Holds ⟨authenticator, host⟩ credential.text stored)
    (hrp : stored.rpId = rp.id) (hsecret : stored.secretFor salt .largeBlob = some seed) :
    ∃ d', readSeed rp credential ⟨.virtual authenticator, host⟩ = (.ok seed, d') := by
  -- There is a secret only if the data can be decoded and is not empty.
  have hblob : VirtualAuthenticator.blobOf stored = .ok (some seed) ∧ seed ≠ [] := by
    unfold StoredCredential.secretFor at hsecret
    dsimp only at hsecret
    split at hsecret
    · split at hsecret <;> cases hsecret
      exact ⟨‹_›, ‹_›⟩
    · cases hsecret
  obtain ⟨hblob, hnonempty⟩ := hblob
  have hread : ∃ d', Platform.readBlob rp.id credential ⟨.virtual authenticator, host⟩ =
      (.ok (some seed), d') := by
    rw [Platform.readBlob_eq, ← hblob]
    exact Platform.look_of_offers hoffers hheld hrp
  obtain ⟨d', hread⟩ := hread
  refine ⟨d', ?_⟩
  unfold readSeed
  rw [run_bind_of_ok (DeviceM.outcome_of_run hread)]
  dsimp only
  rw [if_neg hnonempty]
  rfl

/-- The secret that a credential yields by the mechanism that is offered is derived. -/
theorem deriveSecret_of_offers {salt bytes : Bytes} {options : DeriveOptions}
    (hoffers : authenticator.Offers method)
    (hheld : VirtualDevice.Holds ⟨authenticator, host⟩ credential.text stored)
    (hrp : stored.rpId = rp.id) (hsecret : stored.secretFor salt method = some bytes)
    (hpurpose : options.purpose = .unlock)
    (hallowed : method = .largeBlob → options.allowsLargeBlob = true) :
    ∃ d', rp.deriveSecret credential salt options ⟨.virtual authenticator, host⟩ =
      (.ok ⟨method, bytes⟩, d') := by
  -- The mechanisms before the one that is offered are passed over.
  cases method with
  | prf =>
    obtain rfl := Option.some.inj hsecret
    obtain ⟨d', hran⟩ := Platform.evaluatePrf_of_offers hoffers hheld hrp salt
    exact ⟨d', deriveSecret_of_prf hran⟩
  | hmacSecret =>
    obtain rfl := Option.some.inj hsecret
    obtain ⟨d', hran⟩ := Platform.evaluateHmac_of_offers hoffers hheld hrp salt
    exact ⟨d', deriveSecret_of_hmac (Platform.evaluatePrf_of_first hoffers.first nofun salt) hran⟩
  | largeBlob =>
    obtain ⟨d', hread⟩ := readSeed_of_offers hoffers hheld hrp hsecret
    rw [deriveSecret_of_neither (Platform.evaluatePrf_of_first hoffers.first nofun salt)
      (Platform.evaluateHmac_of_first hoffers.first salt) (hallowed rfl), hpurpose]
    exact ⟨d', run_bind_of_ok hread⟩

end Offers

/-! ## Enrollment -/

/-- A credential that is made for a party has the next name and is held for the party; the others
stay. -/
theorem enroll_run {rp : RelyingParty} {d d' : Device} {r : Except VaultError CredentialId}
    (h : rp.enroll d = (r, d')) :
    (∀ credential authenticator, r = .ok credential → d.platform = .virtual authenticator →
      credential = d.nextCredential ∧
        ∃ stored, d'.Holds credential.text stored ∧ stored.rpId = rp.id) ∧
      ∀ key stored, d.nextCredential.text ≠ key → d.Holds key stored → d'.Holds key stored := by
  rcases bind_cases h with ⟨_, -, hget⟩ | ⟨_, _, hget, h₁⟩ <;> cases hget
  dsimp only at h₁
  split at h₁
  · cases h₁
    exact ⟨nofun, fun key stored _ hheld => hheld⟩
  rcases bind_cases h₁ with ⟨e, -, hdraw⟩ | ⟨userId, d₁, hdraw, h₂⟩ <;>
    rw [DeviceM.drawBytes_eq] at hdraw
  · cases (Prod.mk.inj hdraw).1
  obtain ⟨-, rfl⟩ := Prod.mk.inj hdraw
  rcases bind_cases h₂ with ⟨e, -, houtcome⟩ | ⟨result, d₂, houtcome, h₃⟩
  · obtain ⟨_, hr, -⟩ := DeviceM.outcome_run houtcome
    cases hr
  obtain ⟨_, hr, hcreate⟩ := DeviceM.outcome_run houtcome
  obtain rfl := Except.ok.inj hr
  -- What comes after the ceremony only words its failure.
  obtain rfl : d₂ = d' := by
    rcases result with e | credential <;> exact (Prod.mk.inj h₃).2
  -- The name is drawn from what is left after the opaque id.
  obtain ⟨hmade, hkept⟩ := Platform.create_run hcreate
  rw [Device.random_withRandom, Device.platform_withRandom] at hmade
  rw [Device.random_withRandom] at hkept
  refine ⟨fun credential authenticator hcredential hplatform => ?_,
    fun key stored hother hheld => hkept key stored hother (hheld.withRandom _)⟩
  rcases result with e | made
  · cases (Prod.mk.inj h₃).1.trans hcredential
  · obtain rfl : made = credential := Except.ok.inj ((Prod.mk.inj h₃).1.trans hcredential)
    exact hmade made authenticator rfl hplatform

end RelyingParty

end CredentialVault
