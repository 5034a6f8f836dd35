import CredentialVault.Proofs.Credential.Ceremony

/-!
# Calls of a virtual authenticator

A virtual authenticator is called for one ceremony after another. A call that changes a credential
saves the credentials: then the file is replaced, or the call fails and says so
(`PlatformCall.Outcome`). What calls answer is told by what the authenticator can do, its
credentials, its user and its file, and what surrounds it (`answers_eq`); how many ceremonies there
were before does not matter.
-/

namespace CredentialVault

open Operation

/-- What a call of an authenticator gives. -/
inductive CallAnswer where
  /-- A credential that was made. -/
  | credential (credential : CredentialId)
  /-- A secret that was derived. -/
  | secret (secret : Bytes)
  /-- The data stored with a credential. -/
  | blob (blob : Option Bytes)
  /-- Data was stored. -/
  | stored
deriving DecidableEq, Repr

namespace PlatformCall

/-- The ceremony of a virtual authenticator that is called for. -/
def ceremony : PlatformCall → VirtualM CallAnswer
  | create options => do return .credential (← VirtualAuthenticator.create options)
  | prf rpId credential salt => do
    return .secret (← VirtualAuthenticator.evaluatePrf rpId credential salt)
  | hmacSecret rpId credential salt => do
    return .secret (← VirtualAuthenticator.evaluateHmac rpId credential salt)
  | readBlob rpId credential => do return .blob (← VirtualAuthenticator.readBlob rpId credential)
  | writeBlob rpId credential blob => do
    VirtualAuthenticator.writeBlob rpId credential blob
    return .stored

/-- Whether a call saves the credentials. -/
def saves : PlatformCall → Bool
  | create _ | writeBlob .. => true
  | prf .. | hmacSecret .. | readBlob .. => false

/-- A call could not save the credentials: that alone makes a call that saves them fail in this
way. -/
def CannotSave (call : PlatformCall) (answer : Except CeremonyError CallAnswer) : Prop :=
  call.saves = true ∧ ∃ reason, answer = .error (.failed reason)

/-- What is looked up may be put into another form. -/
theorem look_map {α β : Type} (method : SecretMethod) (ceremony : Ceremony) (rpId : String)
    (credential : CredentialId) (yields : StoredCredential → Except CeremonyError α) (f : α → β) :
    (do return f (← VirtualAuthenticator.look method ceremony rpId credential yields)) =
      VirtualAuthenticator.look method ceremony rpId credential fun stored =>
        (yields stored).map f := by
  unfold VirtualAuthenticator.look
  rw [bind_assoc]
  refine congrArg _ (funext fun stored => funext fun device => ?_)
  dsimp only
  cases yields stored <;> rfl

/-- A call that saves nothing looks at a credential. -/
theorem exists_look {call : PlatformCall} (h : call.saves = false) :
    ∃ method ceremony rpId credential yields,
      call.ceremony = VirtualAuthenticator.look method ceremony rpId credential yields := by
  cases call with
  | create options => cases h
  | prf rpId credential salt =>
    refine ⟨.prf, .unlock rpId credential, rpId, credential,
      fun stored => .ok (.secret (VirtualAuthenticator.prfOutput stored.secret salt)), ?_⟩
    rw [ceremony, VirtualAuthenticator.evaluatePrf_eq, look_map]
    rfl
  | hmacSecret rpId credential salt =>
    refine ⟨.hmacSecret, .unlock rpId credential, rpId, credential,
      fun stored => .ok (.secret (VirtualAuthenticator.hmacOutput stored.secret salt)), ?_⟩
    rw [ceremony, VirtualAuthenticator.evaluateHmac_eq, look_map]
    rfl
  | readBlob rpId credential =>
    refine ⟨.largeBlob, .readBlob rpId credential, rpId, credential,
      fun stored => (VirtualAuthenticator.blobOf stored).map .blob, ?_⟩
    rw [ceremony, VirtualAuthenticator.readBlob_eq, look_map]
  | writeBlob rpId credential blob => cases h

/-- A call stays within a relation that holds for the steps of ceremonies. -/
theorem within_ceremony {R : VirtualDevice → VirtualDevice → Prop} [Sequential R]
    (h : VirtualAuthenticator.CeremonySteps R) (call : PlatformCall) : Within R call.ceremony := by
  rcases hsaves : call.saves with _ | _
  · obtain ⟨method, ceremony, rpId, credential, yields, heq⟩ := exists_look hsaves
    rw [heq]
    exact h.within_look method ceremony rpId credential yields
  · cases call with
    | create options => exact (h.within_create options).bind fun _ => .pure _
    | writeBlob rpId credential blob =>
      exact (h.within_writeBlob rpId credential blob).bind fun _ => .pure _
    | prf | hmacSecret | readBlob => cases hsaves

/-- The credential that a call puts in place, with its name; none if there is none to put. -/
def puts? (call : PlatformCall) (device : VirtualDevice) :
    Option (CredentialId × StoredCredential) :=
  match call with
  | create options =>
    let named := device.host.random.draw VirtualAuthenticator.credentialIdSize
    some (⟨named.1⟩, ⟨options.rpId, options.userName,
      (named.2.draw VirtualAuthenticator.secretSize).1, none⟩)
  | writeBlob rpId credential blob =>
    ((device.authenticator.credentials.get? credential.text).filter (·.rpId = rpId)).map
      fun stored => (credential, { stored with largeBlob := some (Base64Url.encode blob) })
  | prf .. | hmacSecret .. | readBlob .. => none

/-- What a call answers when it has put a credential in place. -/
def answerFor (call : PlatformCall) (credential : CredentialId) : CallAnswer :=
  match call with
  | create _ => .credential credential
  | _ => .stored

/-- What a call does. -/
inductive Effect (call : PlatformCall) (answer : Except CeremonyError CallAnswer)
    (device device' : VirtualDevice) : Prop where
  /-- Nothing is changed that is kept. -/
  | kept (hkept : VirtualAuthenticator.kept device' = VirtualAuthenticator.kept device)
      (hcan : ¬call.CannotSave answer) (hfails : call.saves = true → answer.isOk = false)
  /-- A credential is put in place in memory, and then the credentials are saved, or cannot be. -/
  | put {credential : CredentialId} {stored : StoredCredential} {result : Except FileError Unit}
      (hputs : call.puts? device = some (credential, stored))
      (hcredentials : device'.authenticator.credentials =
        device.authenticator.credentials.insert credential.text stored)
      (hreplace : ∀ path, device.authenticator.path = some path →
        VirtualAuthenticator.replaceFile path device'.authenticator.credentials
          device.host.files = (result, device'.host.files))
      (hanswer : result = .ok () ∧ answer = .ok (call.answerFor credential) ∨
        ∃ e reason, result = .error e ∧ answer = .error (.failed reason))

/-- How a call ends on an authenticator that keeps a file. -/
inductive Outcome (path : String) (call : PlatformCall) (answer : Except CeremonyError CallAnswer)
    (device device' : VirtualDevice) : Prop where
  /-- Nothing is changed that would have to be saved. -/
  | kept (hcredentials : device'.authenticator.credentials = device.authenticator.credentials)
      (hfiles : device'.host.files = device.host.files) (hcan : ¬call.CannotSave answer)
      (hfails : call.saves = true → answer.isOk = false)
  /-- The credentials are saved. -/
  | saved (hsaves : call.saves = true) (hok : answer.isOk = true)
      (hreplace : VirtualAuthenticator.replaceFile path device'.authenticator.credentials
        device.host.files = (.ok (), device'.host.files))
  /-- The credentials could not be saved. -/
  | unsaved (hcannot : call.CannotSave answer) (e : FileError)
      (hreplace : VirtualAuthenticator.replaceFile path device'.authenticator.credentials
        device.host.files = (.error e, device'.host.files))

end PlatformCall

namespace VirtualAuthenticator

variable {device device' : VirtualDevice}

/-! ## How calls end -/

/-- To save the credentials is to replace their file, if there is one. -/
theorem save_eq {r : Except CeremonyError Unit} (h : save device = (r, device')) :
    device'.authenticator = device.authenticator ∧ ∃ result,
      (∀ path, device.authenticator.path = some path →
        replaceFile path device.authenticator.credentials device.host.files =
          (result, device'.host.files)) ∧
      (result = .ok () ∧ r = .ok () ∨
        ∃ e reason, result = .error e ∧ r = .error (.failed reason)) := by
  rcases bind_cases h with ⟨_, -, hget⟩ | ⟨_, _, hget, h₁⟩ <;> cases hget
  rcases hpath : device.authenticator.path with _ | path <;> rw [hpath] at h₁
  · cases h₁
    exact ⟨rfl, .ok (), nofun, .inl ⟨rfl, rfl⟩⟩
  dsimp only at h₁
  have heach : ∀ {files result}, replaceFile path device.authenticator.credentials
      device.host.files = (result, files) → ∀ other, some path = some other →
        replaceFile other device.authenticator.credentials device.host.files = (result, files) := by
    rintro files result hreplace other ⟨⟩
    exact hreplace
  rcases hreplace : replaceFile path device.authenticator.credentials device.host.files with
    ⟨e | _, files⟩ <;> rw [hreplace] at h₁ <;> cases h₁
  · exact ⟨rfl, _, heach hreplace, .inr ⟨e, _, rfl, rfl⟩⟩
  · exact ⟨rfl, _, heach hreplace, .inl ⟨rfl, rfl⟩⟩

/-- To put a credential in place is to have it in memory and to replace the file of the credentials,
if there is one. -/
theorem hold_eq {credential : CredentialId} {stored : StoredCredential}
    {r : Except CeremonyError Unit} (h : hold credential stored device = (r, device')) :
    device'.authenticator.credentials =
        device.authenticator.credentials.insert credential.text stored ∧ ∃ result,
      (∀ path, device.authenticator.path = some path →
        replaceFile path device'.authenticator.credentials device.host.files =
          (result, device'.host.files)) ∧
      (result = .ok () ∧ r = .ok () ∨
        ∃ e reason, result = .error e ∧ r = .error (.failed reason)) := by
  rcases bind_cases h with ⟨_, -, hupdate⟩ | ⟨_, changed, hupdate, hsave⟩ <;> cases hupdate
  obtain ⟨hauthenticator, hsaved⟩ := save_eq hsave
  rw [hauthenticator]
  exact ⟨rfl, hsaved⟩

/-- Errors that say that a ceremony may not be, and not that something in it went wrong. -/
def IsDenial : CeremonyError → Prop
  | .failed _ => False
  | .extensionUnsupported _ | .notAllowed _ | .unavailable _ => True

/-- A ceremony that does not begin is denied. -/
theorem begin_failsWith (ceremony : Ceremony) : FailsWith IsDenial (begin ceremony) := by
  refine (FailsWith.modifyGet _).bind fun _ => FailsWith.get.bind fun device => ?_
  dsimp only
  split
  · exact .throw_bind trivial _
  · refine (FailsWith.modifyGet _).bind fun _ => ?_
    split
    · exact .throw trivial
    · exact .pure _

/-- A credential that may not be used is denied. -/
theorem ask_failsWith (method : SecretMethod) (ceremony : Ceremony) (rpId : String)
    (credential : CredentialId) : FailsWith IsDenial (ask method ceremony rpId credential) := by
  refine FailsWith.get.bind fun device => ?_
  dsimp only
  split
  · exact .throw_bind trivial _
  · refine (begin_failsWith ceremony).bind fun _ => FailsWith.get.bind fun device => ?_
    split
    · exact .pure _
    · exact .throw trivial

end VirtualAuthenticator

namespace PlatformCall

open VirtualAuthenticator

variable {path : String} {call : PlatformCall} {answer : Except CeremonyError CallAnswer}
  {device device' : VirtualDevice}

/-- A call that is denied changes nothing that is kept. -/
theorem Effect.of_denial {e : CeremonyError} (hkept : VirtualAuthenticator.kept device' =
    VirtualAuthenticator.kept device) (he : IsDenial e) : Effect call (.error e) device device' := by
  refine .kept hkept ?_ fun _ => rfl
  rintro ⟨-, reason, heq⟩
  cases heq
  exact he

/-- A call that puts a credential in place goes on from what the ceremony left: the credentials, the
path and the files are as they were. -/
theorem Effect.of_hold {credential : CredentialId} {stored : StoredCredential}
    {before : VirtualDevice} (hputs : call.puts? device = some (credential, stored))
    (hcredentials : before.authenticator.credentials = device.authenticator.credentials)
    (hpath : before.authenticator.path = device.authenticator.path)
    (hfiles : before.host.files = device.host.files)
    (h : (hold credential stored >>= fun _ => pure (call.answerFor credential)) before =
      (answer, device')) : Effect call answer device device' := by
  rw [run_bind] at h
  rcases hhold : hold credential stored before with ⟨r, held⟩
  obtain ⟨hheld, result, hreplace, hr⟩ := hold_eq hhold
  rw [hcredentials] at hheld
  rw [hpath, hfiles] at hreplace
  rw [hhold] at h
  rcases hr with ⟨rfl, rfl⟩ | ⟨e, reason, rfl, rfl⟩ <;> cases h
  · exact .put hputs hheld hreplace (.inl ⟨rfl, rfl⟩)
  · exact .put hputs hheld hreplace (.inr ⟨e, reason, rfl, rfl⟩)

/-- What a call does, by what it is. -/
theorem effect_of_run (h : call.ceremony device = (answer, device')) :
    Effect call answer device device' := by
  rcases hsaves : call.saves with _ | _
  · obtain ⟨method, ceremony, rpId, credential, yields, heq⟩ := exists_look hsaves
    rw [heq] at h
    refine .kept ((preserves_look method ceremony rpId credential yields).of_run h) ?_
      (by simp [hsaves])
    rintro ⟨hsaves', -⟩
    rw [hsaves] at hsaves'
    cases hsaves'
  cases call with
  | prf | hmacSecret | readBlob => cases hsaves
  | writeBlob rpId credential blob =>
    rw [ceremony, writeBlob_eq, bind_assoc] at h
    rcases bind_cases h with ⟨e, rfl, hask⟩ | ⟨found, asked, hask, h₁⟩
    · exact .of_denial ((preserves_ask _ _ _ _).of_run hask) (ask_failsWith _ _ _ _ _ _ _ hask)
    · have hkept := (preserves_ask _ _ _ _).of_run hask
      obtain ⟨-, -, -, hget, hrp⟩ := (ask_ok_iff _).mp ⟨asked, hask⟩
      refine .of_hold ?_ (congrArg (·.2.1) hkept) (congrArg (·.2.2.1) hkept)
        (congrArg (·.2.2.2.files) hkept) h₁
      rw [puts?, hget, Option.filter_some, if_pos (by simpa using hrp)]
      rfl
  | create options =>
    rw [ceremony, create_eq, bind_assoc] at h
    rcases bind_cases h with ⟨e, rfl, hbegin⟩ | ⟨_, begun, hbegin, h₁⟩
    · exact .of_denial ((preserves_begin _).of_run hbegin) (begin_failsWith _ _ _ _ hbegin)
    have hkept := (preserves_begin _).of_run hbegin
    have hhost : begun.host = device.host := congrArg (·.2.2.2) hkept
    -- The name and the secret are drawn, which leaves the credentials and the files.
    rcases hname : begun.host.random.draw credentialIdSize with ⟨name, named⟩
    rcases hsecret : named.draw secretSize with ⟨secret, drawn⟩
    simp only [bind_assoc, pure_bind] at h₁
    rw [run_bind_of_ok (drawBytes_of_draw hname), run_bind_of_ok (drawBytes_of_draw hsecret)] at h₁
    rw [hhost] at hname
    refine .of_hold ?_ (congrArg (·.2.1) hkept) (congrArg (·.2.2.1) hkept)
      (congrArg (·.2.2.2.files) hkept) h₁
    simp only [puts?, hname, hsecret]

/-- Where nothing is put, nothing is saved. -/
theorem saves_of_puts? {credential : CredentialId} {stored : StoredCredential}
    (h : call.puts? device = some (credential, stored)) : call.saves = true := by
  cases call with
  | create | writeBlob => rfl
  | prf | hmacSecret | readBlob => cases h

/-- What a call comes to on an authenticator that keeps a file. -/
theorem outcome_of_run (hpath : device.authenticator.path = some path)
    (h : call.ceremony device = (answer, device')) : Outcome path call answer device device' := by
  cases effect_of_run h with
  | kept hkept hcan hfails =>
    exact .kept (congrArg (·.2.1) hkept) (congrArg (·.2.2.2.files) hkept) hcan hfails
  | put hputs _ hreplace hanswer =>
    have hsaves := saves_of_puts? hputs
    rcases hanswer with ⟨rfl, rfl⟩ | ⟨e, reason, rfl, rfl⟩
    · exact .saved hsaves rfl (hreplace path hpath)
    · exact .unsaved ⟨hsaves, reason, rfl⟩ e (hreplace path hpath)

end PlatformCall

/-! ## What calls see -/

namespace VirtualAuthenticator

/-- What an authenticator acts on: all but the number of its ceremonies and what its user was
asked. -/
def grounds (device : VirtualDevice) :
    (Capabilities × Credentials × Option String × Host) × Presence :=
  (kept device, device.authenticator.presence)

/-- Devices that act on the same differ in their ceremonies alone. -/
theorem exists_of_grounds {device other : VirtualDevice} (h : grounds device = grounds other) :
    ∃ ceremonies asked, other = { device with
      authenticator := { device.authenticator with ceremonies, asked } } := by
  obtain ⟨⟨capabilities, credentials, presence, ceremonies, asked, path⟩, host⟩ := device
  obtain ⟨⟨capabilities', credentials', presence', ceremonies', asked', path'⟩, host'⟩ := other
  cases h
  exact ⟨ceremonies', asked', rfl⟩

/-- A change of the authenticator sees only what it acts on, if it does not see the ceremonies. -/
theorem seesOnly_update {change : VirtualAuthenticator → VirtualAuthenticator}
    (h : ∀ (device : VirtualDevice) (ceremonies : Nat) (asked : List (Ceremony × Bool)),
      grounds { device with authenticator := change device.authenticator } =
        grounds { device with
          authenticator := change { device.authenticator with ceremonies, asked } }) :
    SeesOnly grounds (update change) := by
  refine .modify fun device other hsame => ?_
  obtain ⟨ceremonies, asked, rfl⟩ := exists_of_grounds hsame
  exact h device ceremonies asked

/-- To look at the device is to see only what the authenticator acts on, if what follows does not
depend on the ceremonies. -/
theorem seesOnly_get {α : Type} {f : VirtualDevice → VirtualM α}
    (hf : ∀ device, SeesOnly grounds (f device))
    (h : ∀ (device : VirtualDevice) (ceremonies : Nat) (asked : List (Ceremony × Bool)),
      f device = f { device with
        authenticator := { device.authenticator with ceremonies, asked } }) :
    SeesOnly grounds (get >>= f) := by
  refine .get_bind hf fun device other hsame => ?_
  obtain ⟨ceremonies, asked, rfl⟩ := exists_of_grounds hsame
  exact h device ceremonies asked

/-- To begin a ceremony is to see only what the authenticator acts on. -/
theorem seesOnly_begin (ceremony : Ceremony) : SeesOnly grounds (begin ceremony) := by
  refine (seesOnly_update fun _ _ _ => rfl).bind fun _ =>
    seesOnly_get (fun device => ?_) fun _ _ _ => rfl
  dsimp only
  split
  · exact .throw_bind _ _
  · refine (seesOnly_update fun _ _ _ => rfl).bind fun _ => ?_
    split
    · exact .throw _
    · exact .pure _

/-- To ask for the use of a credential is to see only what the authenticator acts on. -/
theorem seesOnly_ask (method : SecretMethod) (ceremony : Ceremony) (rpId : String)
    (credential : CredentialId) : SeesOnly grounds (ask method ceremony rpId credential) := by
  refine seesOnly_get (fun device => ?_) fun _ _ _ => rfl
  dsimp only
  split
  · exact .throw_bind _ _
  · refine (seesOnly_begin ceremony).bind fun _ =>
      seesOnly_get (fun device => ?_) fun _ _ _ => rfl
    split
    · exact .pure _
    · exact .throw _

/-- To look at a credential is to see only what the authenticator acts on. -/
theorem seesOnly_look {α : Type} (method : SecretMethod) (ceremony : Ceremony) (rpId : String)
    (credential : CredentialId) (yields : StoredCredential → Except CeremonyError α) :
    SeesOnly grounds (look method ceremony rpId credential yields) :=
  (seesOnly_ask method ceremony rpId credential).bind fun stored => .of_outcome (yields stored)

/-- To draw bytes is to see only what the authenticator acts on. -/
theorem seesOnly_drawBytes (count : Nat) : SeesOnly grounds (drawBytes count) := by
  intro device other hsame
  obtain ⟨ceremonies, asked, rfl⟩ := exists_of_grounds hsame
  exact ⟨rfl, rfl⟩

/-- To save the credentials is to see only what the authenticator acts on. -/
theorem seesOnly_save : SeesOnly grounds save := by
  intro device other hsame
  obtain ⟨ceremonies, asked, rfl⟩ := exists_of_grounds hsame
  obtain ⟨⟨capabilities, credentials, presence, ceremonies', asked', path⟩, host⟩ := device
  unfold save
  rw [run_bind, run_bind, run_get, run_get]
  rcases path with _ | path
  · exact ⟨rfl, rfl⟩
  · -- The file is replaced in the same way, and if it is not, the failure is the same.
    dsimp only
    generalize replaceFile path credentials host.files = replaced
    obtain ⟨e | _, files⟩ := replaced <;> exact ⟨rfl, rfl⟩

/-- To put a credential in place is to see only what the authenticator acts on. -/
theorem seesOnly_hold (credential : CredentialId) (stored : StoredCredential) :
    SeesOnly grounds (hold credential stored) :=
  (seesOnly_update fun _ _ _ => rfl).bind fun _ => seesOnly_save

end VirtualAuthenticator

namespace PlatformCall

open VirtualAuthenticator

/-- A call sees only what the authenticator acts on. -/
theorem seesOnly_ceremony (call : PlatformCall) : SeesOnly grounds call.ceremony := by
  rcases hsaves : call.saves with _ | _
  · obtain ⟨method, ceremony, rpId, credential, yields, heq⟩ := exists_look hsaves
    rw [heq]
    exact seesOnly_look method ceremony rpId credential yields
  cases call with
  | prf | hmacSecret | readBlob => cases hsaves
  | writeBlob rpId credential blob =>
    rw [ceremony, writeBlob_eq]
    exact ((seesOnly_ask _ _ _ _).bind fun _ => seesOnly_hold _ _).bind fun _ => .pure _
  | create options =>
    rw [ceremony, create_eq]
    refine SeesOnly.bind ?_ fun _ => .pure _
    refine (seesOnly_begin _).bind fun _ => (seesOnly_drawBytes _).bind fun _ => ?_
    exact (seesOnly_drawBytes _).bind fun _ => (seesOnly_hold _ _).bind fun _ => .pure _

/-- What the authenticator answers to calls that are made one after another. -/
def answers : List PlatformCall → VirtualDevice → List (Except CeremonyError CallAnswer)
  | [], _ => []
  | call :: calls, device => (call.ceremony device).1 :: answers calls (call.ceremony device).2

/-- Devices that act on the same answer every sequence of calls alike. -/
theorem answers_eq {device other : VirtualDevice} (h : grounds device = grounds other)
    (calls : List PlatformCall) : answers calls device = answers calls other := by
  induction calls generalizing device other with
  | nil => rfl
  | cons call calls ih =>
    obtain ⟨hanswer, hafter⟩ := call.seesOnly_ceremony device other h
    rw [answers, answers, hanswer, ih hafter]

end PlatformCall

end CredentialVault
