import CredentialVault.Proofs.Credential.Provider

/-!
# The chain of mechanisms

The deriving of a secret goes through steps (`ChainStep`): ceremonies with their outcomes, whatever
they are, and the drawing of a seed. It runs through a chain of them on every device (`Chain`,
`deriveSecret_chain`), and a scripted platform notes exactly these (`Takes.scripted`). So it goes on
from one mechanism to the next only when the platform does not have it, and any other failure ends
it (`deriveSecret_stepsDown`).
-/

namespace CredentialVault

open Operation

/-! ## Steps -/

/-- The mechanism is not there: the only failure with which the chain goes on. -/
def CeremonyError.IsUnsupported : CeremonyError → Prop
  | extensionUnsupported _ => True
  | _ => False

/-- A missing mechanism is not there, whichever it is. -/
@[simp]
theorem CeremonyError.isUnsupported_extensionUnsupported (method : SecretMethod) :
    (extensionUnsupported method).IsUnsupported := trivial

/-- A failure is raised as that of a secret that is not to be had exactly when the mechanism is not
there. -/
@[simp]
theorem CeremonyError.toVaultError_eq_iff {e : CeremonyError} :
    e.toVaultError = .secretUnavailable ↔ e.IsUnsupported := by
  cases e <;> simp [toVaultError, IsUnsupported]

/-- The failure in an outcome. -/
def CeremonyError.of? {α : Type} : Except CeremonyError α → Option CeremonyError
  | .ok _ => none
  | .error e => some e

/-- The failure in an outcome is the outcome. -/
@[simp]
theorem CeremonyError.of?_eq_some_iff {α : Type} {outcome : Except CeremonyError α}
    {e : CeremonyError} : of? outcome = some e ↔ outcome = .error e := by
  cases outcome <;> simp [of?]

/-- A step of the chain: a ceremony with its outcome, or the drawing of a seed. -/
inductive ChainStep where
  /-- The pseudo-random function is evaluated. -/
  | prf (outcome : Except CeremonyError Bytes)
  /-- The keyed hash is evaluated. -/
  | hmacSecret (outcome : Except CeremonyError Bytes)
  /-- A seed is drawn. -/
  | drawSeed (seed : Bytes)
  /-- Data is stored. -/
  | writeBlob (blob : Bytes) (outcome : Except CeremonyError Unit)
  /-- Stored data is read. -/
  | readBlob (outcome : Except CeremonyError (Option Bytes))

namespace ChainStep

/-- The mechanism that a step asks for; none when a seed is drawn. -/
def method? : ChainStep → Option SecretMethod
  | prf _ => some .prf
  | hmacSecret _ => some .hmacSecret
  | writeBlob .. | readBlob _ => some .largeBlob
  | drawSeed _ => none

/-- The failure of a step. -/
def error? : ChainStep → Option CeremonyError
  | prf outcome | hmacSecret outcome => CeremonyError.of? outcome
  | writeBlob _ outcome => CeremonyError.of? outcome
  | readBlob outcome => CeremonyError.of? outcome
  | drawSeed _ => none

/-- The call of the platform that a step is. -/
def call? (rp : RelyingParty) (credential : CredentialId) (salt : Bytes) :
    ChainStep → Option PlatformCall
  | prf _ => some (.prf rp.id credential salt)
  | hmacSecret _ => some (.hmacSecret rp.id credential salt)
  | drawSeed _ => none
  | writeBlob blob _ => some (.writeBlob rp.id credential blob)
  | readBlob _ => some (.readBlob rp.id credential)

/-- The outcome of a step is the one that a script gives at a turn. -/
def Follows (script : Script) (turn : Nat) : ChainStep → Prop
  | prf outcome => outcome = script.prf turn
  | hmacSecret outcome => outcome = script.hmacSecret turn
  | drawSeed _ => True
  | writeBlob _ outcome => outcome = (script.writeBlob turn).elim (.ok ()) .error
  | readBlob outcome => ∀ given, script.readBlob turn = .outcome given → outcome = given

end ChainStep

/-- The outcomes of steps are those that a script gives from a turn on, of which each call takes
one. -/
def FollowFrom (script : Script) : Nat → List ChainStep → Prop
  | _, [] => True
  | turn, .drawSeed _ :: steps => FollowFrom script turn steps
  | turn, step :: steps => step.Follows script turn ∧ FollowFrom script (turn + 1) steps

/-- How often steps ask for a mechanism. -/
def asked (method : SecretMethod) (steps : List ChainStep) : Nat :=
  steps.countP (·.method? = some method)

/-- A step asked for a mechanism, and it is not there. -/
def Lacks (method : SecretMethod) (steps : List ChainStep) : Prop :=
  ∃ step ∈ steps, step.method? = some method ∧ ∃ e, step.error? = some e ∧ e.IsUnsupported

/-- A device goes through a step. -/
inductive ChainStep.Runs (rp : RelyingParty) (credential : CredentialId) (salt : Bytes) :
    ChainStep → Device → Device → Prop where
  /-- The pseudo-random function is evaluated. -/
  | prf {outcome : Except CeremonyError Bytes} {d d' : Device}
    (h : Platform.evaluatePrf rp.id credential salt d = (outcome, d')) :
    Runs rp credential salt (.prf outcome) d d'
  /-- The keyed hash is evaluated. -/
  | hmacSecret {outcome : Except CeremonyError Bytes} {d d' : Device}
    (h : Platform.evaluateHmac rp.id credential salt d = (outcome, d')) :
    Runs rp credential salt (.hmacSecret outcome) d d'
  /-- A seed is drawn from the source of random bytes. -/
  | drawSeed {seed : Bytes} {d d' : Device}
    (h : DeviceM.drawBytes RelyingParty.seedSize d = (.ok seed, d')) :
    Runs rp credential salt (.drawSeed seed) d d'
  /-- Data is stored. -/
  | writeBlob {blob : Bytes} {outcome : Except CeremonyError Unit} {d d' : Device}
    (h : Platform.writeBlob rp.id credential blob d = (outcome, d')) :
    Runs rp credential salt (.writeBlob blob outcome) d d'
  /-- Stored data is read. -/
  | readBlob {outcome : Except CeremonyError (Option Bytes)} {d d' : Device}
    (h : Platform.readBlob rp.id credential d = (outcome, d')) :
    Runs rp credential salt (.readBlob outcome) d d'

/-- A device goes through steps, one after another. -/
inductive Takes (rp : RelyingParty) (credential : CredentialId) (salt : Bytes) :
    List ChainStep → Device → Device → Prop where
  /-- No step. -/
  | nil {d : Device} : Takes rp credential salt [] d d
  /-- A step, and others after it. -/
  | cons {step : ChainStep} {steps : List ChainStep} {d d₁ d' : Device}
    (h : step.Runs rp credential salt d d₁) (hsteps : Takes rp credential salt steps d₁ d') :
    Takes rp credential salt (step :: steps) d d'

/-! ## Runs -/

/-- The seed in stored data: there is none unless the data is there and is not empty. -/
def seedIn : Except CeremonyError (Option Bytes) → Except VaultError Bytes
  | .ok (some (byte :: seed)) => .ok (byte :: seed)
  | .ok _ => .error .secretUnavailable
  | .error e => .error e.toVaultError

/-- The seed in stored data must be the one that was written. -/
def confirmed (seed : Bytes) (outcome : Except CeremonyError (Option Bytes)) :
    Except VaultError Bytes :=
  match seedIn outcome with
  | .ok found => if found = seed then .ok seed else .error .secretUnavailable
  | .error e => .error e

section Seeds

variable {outcome : Except CeremonyError (Option Bytes)} {seed found : Bytes}

/-- A seed that is found is all the stored data, which is not empty. -/
theorem seedIn_eq_ok_iff : seedIn outcome = .ok seed ↔ outcome = .ok (some seed) ∧ seed ≠ [] := by
  rcases outcome with e | _ | _ | ⟨byte, stored⟩
  · exact ⟨nofun, nofun⟩
  · exact ⟨nofun, nofun⟩
  · constructor
    · nofun
    · rintro ⟨h, hne⟩
      cases h
      exact absurd rfl hne
  · constructor
    · intro h
      cases h
      exact ⟨rfl, List.cons_ne_nil _ _⟩
    · rintro ⟨h, -⟩
      cases h
      rfl

/-- When there is no seed to be had in stored data. -/
theorem seedIn_unavailable_iff : seedIn outcome = .error .secretUnavailable ↔
    (∃ e, outcome = .error e ∧ e.IsUnsupported) ∨ outcome = .ok none ∨ outcome = .ok (some []) := by
  rcases outcome with e | _ | _ | ⟨byte, stored⟩ <;> simp [seedIn]

/-- A seed is confirmed when it is what was read, and is not empty. -/
theorem confirmed_eq_ok_iff : confirmed seed outcome = .ok found ↔
    outcome = .ok (some found) ∧ found ≠ [] ∧ found = seed := by
  unfold confirmed
  rw [← and_assoc, ← seedIn_eq_ok_iff]
  rcases seedIn outcome with e | other
  · exact ⟨nofun, nofun⟩
  · dsimp only
    split
    · next hsame =>
      rw [← hsame]
      constructor
      · intro h
        cases h
        exact ⟨rfl, rfl⟩
      · exact fun h => h.1
    · next hsame =>
      constructor
      · nofun
      · rintro ⟨h, hfound⟩
        cases h
        exact absurd hfound hsame

/-- When a seed that was written is not to be had. -/
theorem confirmed_unavailable_iff : confirmed seed outcome = .error .secretUnavailable ↔
    (∃ e, outcome = .error e ∧ e.IsUnsupported) ∨ outcome = .ok none ∨ outcome = .ok (some []) ∨
      ∃ found, outcome = .ok (some found) ∧ found ≠ seed := by
  rcases outcome with e | _ | _ | ⟨byte, stored⟩ <;> simp [confirmed, seedIn]

end Seeds

/-- The secret of a seed is the seed. -/
theorem ofSeed_eq_ok_iff {outcome : Except VaultError Bytes} {secret : DerivedSecret} :
    outcome.map (DerivedSecret.mk .largeBlob) = .ok secret ↔
      outcome = .ok secret.bytes ∧ secret.method = .largeBlob := by
  obtain ⟨method, bytes⟩ := secret
  cases outcome <;> simp [Except.map, eq_comm, and_comm]

/-- A failure to find a seed is one to derive a secret. -/
theorem ofSeed_eq_error_iff {outcome : Except VaultError Bytes} {e : VaultError} :
    outcome.map (DerivedSecret.mk .largeBlob) = .error e ↔ outcome = .error e := by
  cases outcome <;> simp [Except.map]

/-- The steps of the chain, with the result to which their outcomes lead. -/
inductive Chain (options : DeriveOptions) :
    List ChainStep → Except VaultError DerivedSecret → Prop where
  /-- The pseudo-random function yields the secret. -/
  | prf (bytes : Bytes) : Chain options [.prf (.ok bytes)] (.ok ⟨.prf, bytes⟩)
  /-- The pseudo-random function fails. -/
  | prfFails {e : CeremonyError} (h : ¬e.IsUnsupported) :
    Chain options [.prf (.error e)] (.error e.toVaultError)
  /-- The keyed hash yields the secret. -/
  | hmac (missing : SecretMethod) (bytes : Bytes) :
    Chain options [.prf (.error (.extensionUnsupported missing)), .hmacSecret (.ok bytes)]
      (.ok ⟨.hmacSecret, bytes⟩)
  /-- The keyed hash fails. -/
  | hmacFails (missing : SecretMethod) {e : CeremonyError} (h : ¬e.IsUnsupported) :
    Chain options [.prf (.error (.extensionUnsupported missing)), .hmacSecret (.error e)]
      (.error e.toVaultError)
  /-- Neither is there, and stored seeds are not allowed. -/
  | notAllowed (missing missing' : SecretMethod) (h : options.allowsLargeBlob = false) :
    Chain options [.prf (.error (.extensionUnsupported missing)),
      .hmacSecret (.error (.extensionUnsupported missing'))] (.error .secretUnavailable)
  /-- The stored seed is read. -/
  | read (missing missing' : SecretMethod) (outcome : Except CeremonyError (Option Bytes))
    (h : options.allowsLargeBlob = true) (hpurpose : options.purpose = .unlock) :
    Chain options [.prf (.error (.extensionUnsupported missing)),
      .hmacSecret (.error (.extensionUnsupported missing')), .readBlob outcome]
      ((seedIn outcome).map (DerivedSecret.mk .largeBlob))
  /-- A new seed cannot be written. -/
  | writeFails (missing missing' : SecretMethod) {seed : Bytes} (e : CeremonyError)
    (h : options.allowsLargeBlob = true) (hpurpose : options.purpose = .enrollment)
    (hsize : seed.length = RelyingParty.seedSize) :
    Chain options [.prf (.error (.extensionUnsupported missing)),
      .hmacSecret (.error (.extensionUnsupported missing')), .drawSeed seed,
      .writeBlob seed (.error e)] (.error e.toVaultError)
  /-- A new seed is written, and read back. -/
  | write (missing missing' : SecretMethod) {seed : Bytes}
    (outcome : Except CeremonyError (Option Bytes)) (h : options.allowsLargeBlob = true)
    (hpurpose : options.purpose = .enrollment)
    (hsize : seed.length = RelyingParty.seedSize) :
    Chain options [.prf (.error (.extensionUnsupported missing)),
      .hmacSecret (.error (.extensionUnsupported missing')), .drawSeed seed,
      .writeBlob seed (.ok ()), .readBlob outcome]
      ((confirmed seed outcome).map (DerivedSecret.mk .largeBlob))

namespace RelyingParty

/-- An attempt runs its ceremony: it yields the secret, or none if the mechanism is not there, or
the failure is raised. -/
theorem attempt_cases (method : SecretMethod) {ceremony : CeremonyM Bytes} {d d₁ : Device}
    {outcome : Except CeremonyError Bytes} (h : ceremony d = (outcome, d₁)) :
    (∃ bytes, outcome = .ok bytes ∧
        attempt method ceremony d = (.ok (some ⟨method, bytes⟩), d₁)) ∨
      (∃ missing, outcome = .error (.extensionUnsupported missing) ∧
        attempt method ceremony d = (.ok none, d₁)) ∨
      ∃ e, outcome = .error e ∧ ¬e.IsUnsupported ∧
        attempt method ceremony d = (.error e.toVaultError, d₁) := by
  unfold attempt
  rw [run_bind_of_ok (DeviceM.outcome_of_run h)]
  rcases outcome with (missing | reason | reason | reason) | bytes
  · exact .inr (.inl ⟨missing, rfl, rfl⟩)
  · exact .inr (.inr ⟨_, rfl, not_false, rfl⟩)
  · exact .inr (.inr ⟨_, rfl, not_false, rfl⟩)
  · exact .inr (.inr ⟨_, rfl, not_false, rfl⟩)
  · exact .inl ⟨bytes, rfl, rfl⟩

variable {rp : RelyingParty} {credential : CredentialId} {salt : Bytes} {options : DeriveOptions}

/-- To read a seed is to read stored data, in which the seed is looked for. -/
theorem readSeed_eq {d d₁ : Device} {outcome : Except CeremonyError (Option Bytes)}
    (h : Platform.readBlob rp.id credential d = (outcome, d₁)) :
    readSeed rp credential d = (seedIn outcome, d₁) := by
  unfold readSeed
  rw [run_bind_of_ok (DeviceM.outcome_of_run h)]
  rcases outcome with e | _ | _ | ⟨byte, seed⟩
  · rfl
  · rfl
  · rfl
  · dsimp only
    rw [if_neg (List.cons_ne_nil byte seed)]
    rfl

/-- To write a seed that cannot be stored fails. -/
theorem writeSeed_of_error {d d₁ : Device} {e : CeremonyError}
    (h : Platform.writeBlob rp.id credential (d.host.random.draw seedSize).1
      (d.withRandom (d.host.random.draw seedSize).2) = (.error e, d₁)) :
    writeSeed rp credential d = (.error e.toVaultError, d₁) := by
  unfold writeSeed
  rw [run_bind_of_ok (DeviceM.drawBytes_eq _ d), run_bind_of_ok (DeviceM.outcome_of_run h)]
  rfl

/-- A seed that was stored is read back, and has to be the same. -/
theorem writeSeed_of_ok {d d₁ d₂ : Device} {outcome : Except CeremonyError (Option Bytes)}
    (h : Platform.writeBlob rp.id credential (d.host.random.draw seedSize).1
      (d.withRandom (d.host.random.draw seedSize).2) = (.ok (), d₁))
    (hread : Platform.readBlob rp.id credential d₁ = (outcome, d₂)) :
    writeSeed rp credential d = (confirmed (d.host.random.draw seedSize).1 outcome, d₂) := by
  unfold writeSeed
  rw [run_bind_of_ok (DeviceM.drawBytes_eq _ d), run_bind_of_ok (DeviceM.outcome_of_run h)]
  dsimp only
  unfold confirmed
  rcases hseed : seedIn outcome with e | found
  · exact run_bind_of_error (by rw [readSeed_eq hread, hseed])
  · rw [run_bind_of_ok (by rw [readSeed_eq hread, hseed])]
    dsimp only
    split <;> rfl

/-- The secret of a seed is the seed. -/
theorem run_ofSeed {x : DeviceM Bytes} {seed : Except VaultError Bytes} {d d' : Device}
    (h : x d = (seed, d')) :
    (do return DerivedSecret.mk .largeBlob (← x) : DeviceM DerivedSecret) d =
      (seed.map (DerivedSecret.mk .largeBlob), d') := by
  rw [run_bind, h]
  cases seed <;> rfl

/-- The chain as it runs on a device when the first two mechanisms are not there. -/
theorem deriveSeed_chain (missing missing' : SecretMethod) {d d' : Device}
    {result : Except VaultError DerivedSecret} (hallowed : options.allowsLargeBlob = true)
    (h : (match options.purpose with
      | .enrollment => do return ⟨.largeBlob, ← writeSeed rp credential⟩
      | .unlock => do return ⟨.largeBlob, ← readSeed rp credential⟩ : DeviceM DerivedSecret) d =
        (result, d')) :
    ∃ steps, Takes rp credential salt steps d d' ∧
      Chain options (.prf (.error (.extensionUnsupported missing)) ::
        .hmacSecret (.error (.extensionUnsupported missing')) :: steps) result := by
  rcases hpurpose : options.purpose with _ | _ <;> rw [hpurpose] at h <;> dsimp only at h
  · have hsize := RandomStream.length_draw d.host.random seedSize
    have hdraw : ChainStep.Runs rp credential salt _ d _ := .drawSeed (DeviceM.drawBytes_eq _ d)
    rcases hwrite : Platform.writeBlob rp.id credential (d.host.random.draw seedSize).1
      (d.withRandom (d.host.random.draw seedSize).2) with ⟨e | _, d₁⟩
    · rw [run_ofSeed (writeSeed_of_error hwrite)] at h
      cases h
      exact ⟨_, .cons hdraw (.cons (.writeBlob hwrite) .nil),
        .writeFails _ _ e hallowed hpurpose hsize⟩
    · rcases hread : Platform.readBlob rp.id credential d₁ with ⟨outcome, d₂⟩
      rw [run_ofSeed (writeSeed_of_ok hwrite hread)] at h
      cases h
      exact ⟨_, .cons hdraw (.cons (.writeBlob hwrite) (.cons (.readBlob hread) .nil)),
        .write _ _ outcome hallowed hpurpose hsize⟩
  · rcases hread : Platform.readBlob rp.id credential d with ⟨outcome, d₁⟩
    rw [run_ofSeed (readSeed_eq hread)] at h
    cases h
    exact ⟨_, .cons (.readBlob hread) .nil, .read _ _ outcome hallowed hpurpose⟩

/-- The chain as it runs on a device: the steps that are taken, and the result to which they
lead. -/
theorem deriveSecret_chain {d d' : Device} {result : Except VaultError DerivedSecret}
    (h : rp.deriveSecret credential salt options d = (result, d')) :
    ∃ steps, Takes rp credential salt steps d d' ∧ Chain options steps result := by
  unfold deriveSecret at h
  rcases hprf : Platform.evaluatePrf rp.id credential salt d with ⟨prf, d₁⟩
  rcases attempt_cases .prf hprf with
    ⟨bytes, rfl, hrun⟩ | ⟨missing, rfl, hrun⟩ | ⟨e, rfl, he, hrun⟩
  · rw [run_bind_of_ok hrun] at h
    cases h
    exact ⟨_, .cons (.prf hprf) .nil, .prf bytes⟩
  · rw [run_bind_of_ok hrun] at h
    dsimp only at h
    rcases hhmac : Platform.evaluateHmac rp.id credential salt d₁ with ⟨hmac, d₂⟩
    rcases attempt_cases .hmacSecret hhmac with
      ⟨bytes, rfl, hrun⟩ | ⟨missing', rfl, hrun⟩ | ⟨e, rfl, he, hrun⟩
    · rw [run_bind_of_ok hrun] at h
      cases h
      exact ⟨_, .cons (.prf hprf) (.cons (.hmacSecret hhmac) .nil), .hmac missing bytes⟩
    · rw [run_bind_of_ok hrun] at h
      dsimp only at h
      rcases hallowed : options.allowsLargeBlob with _ | _
      · rw [hallowed] at h
        cases h
        exact ⟨_, .cons (.prf hprf) (.cons (.hmacSecret hhmac) .nil),
          .notAllowed missing missing' hallowed⟩
      · rw [hallowed] at h
        obtain ⟨steps, hsteps, hchain⟩ := deriveSeed_chain missing missing' hallowed h
        exact ⟨_, .cons (.prf hprf) (.cons (.hmacSecret hhmac) hsteps), hchain⟩
    · rw [run_bind_of_error hrun] at h
      cases h
      exact ⟨_, .cons (.prf hprf) (.cons (.hmacSecret hhmac) .nil), .hmacFails missing he⟩
  · rw [run_bind_of_error hrun] at h
    cases h
    exact ⟨_, .cons (.prf hprf) .nil, .prfFails he⟩

end RelyingParty

/-! ## The calls that a script notes -/

/-- A ceremony of a scripted platform takes the outcome of the script, and is noted. -/
theorem Platform.perform_of_scripted {α : Type} {d d' : Device} {platform : ScriptedPlatform}
    {ceremony : VirtualM α} {call : PlatformCall}
    {outcome : Nat → ScriptedPlatform → Except CeremonyError α × ScriptedPlatform}
    {r : Except CeremonyError α} (hplatform : d.platform = .scripted platform)
    (h : perform ceremony call outcome d = (r, d')) :
    ∃ after, outcome platform.calls.length
        { platform with calls := platform.calls ++ [call] } = (r, after) ∧
      d'.platform = .scripted after := by
  unfold perform at h
  rw [hplatform] at h
  dsimp only at h
  rcases hrun : outcome platform.calls.length
    { platform with calls := platform.calls ++ [call] } with ⟨r', after⟩
  rw [hrun] at h
  obtain ⟨rfl, rfl⟩ := Prod.mk.inj h
  exact ⟨after, rfl, rfl⟩

/-- A scripted platform answers a step as its script says, and notes the call. -/
theorem ChainStep.Runs.scripted {rp : RelyingParty} {credential : CredentialId} {salt : Bytes}
    {step : ChainStep} {d d' : Device} (h : step.Runs rp credential salt d d')
    {platform : ScriptedPlatform} (hplatform : d.platform = .scripted platform) :
    step.Follows platform.script platform.calls.length ∧ ∃ after,
      d'.platform = .scripted after ∧ after.script = platform.script ∧
      after.calls = platform.calls ++ (step.call? rp credential salt).toList := by
  cases h with
  | prf h | hmacSecret h =>
    obtain ⟨after, houtcome, hafter⟩ := Platform.perform_of_scripted hplatform h
    cases houtcome
    exact ⟨rfl, _, hafter, rfl, rfl⟩
  | drawSeed h =>
    obtain ⟨_, random, -, rfl⟩ := DeviceM.drawBytes_run h
    exact ⟨trivial, platform, hplatform, rfl, (List.append_nil _).symm⟩
  | writeBlob h =>
    obtain ⟨after, houtcome, hafter⟩ := Platform.perform_of_scripted hplatform h
    dsimp only at houtcome
    rcases hscript : platform.script.writeBlob platform.calls.length with _ | e <;>
      rw [hscript] at houtcome <;> cases houtcome
    · exact ⟨by rw [Follows, hscript]; rfl, _, hafter, rfl, rfl⟩
    · exact ⟨by rw [Follows, hscript]; rfl, _, hafter, rfl, rfl⟩
  | readBlob h =>
    obtain ⟨after, houtcome, hafter⟩ := Platform.perform_of_scripted hplatform h
    dsimp only at houtcome
    rcases hscript : platform.script.readBlob platform.calls.length with _ | given <;>
      rw [hscript] at houtcome <;> cases houtcome
    · refine ⟨fun given hgiven => ?_, _, hafter, rfl, rfl⟩
      rw [hscript] at hgiven
      cases hgiven
    · refine ⟨fun other hother => ?_, _, hafter, rfl, rfl⟩
      rw [hscript] at hother
      cases hother
      rfl

/-- A scripted platform answers the steps that are taken as its script says, and notes the calls. -/
theorem Takes.scripted {rp : RelyingParty} {credential : CredentialId} {salt : Bytes}
    {steps : List ChainStep} {d d' : Device} (h : Takes rp credential salt steps d d')
    {platform : ScriptedPlatform} (hplatform : d.platform = .scripted platform) :
    FollowFrom platform.script platform.calls.length steps ∧
      ∃ after, d'.platform = .scripted after ∧
        after.calls = platform.calls ++ steps.filterMap (·.call? rp credential salt) := by
  induction h generalizing platform with
  | nil => exact ⟨trivial, platform, hplatform, (List.append_nil _).symm⟩
  | @cons step steps d d₁ d' h _ ih =>
    obtain ⟨hfollow, noted, hnoted, hscript, hcall⟩ := h.scripted hplatform
    obtain ⟨hfollows, after, hafter, hcalls⟩ := ih hnoted
    refine ⟨?_, after, hafter, ?_⟩
    · -- The turn goes up by one, unless a seed was drawn.
      rw [hscript, hcall, List.length_append] at hfollows
      cases step with
      | drawSeed => exact hfollows
      | _ => exact ⟨hfollow, hfollows⟩
    · rw [hcalls, hcall, List.append_assoc, List.filterMap_cons]
      cases step.call? rp credential salt <;> rfl

/-! ## What the steps say -/

/-- The steps of a chain step down from one mechanism to the next only when it is not there, and
they tell the result. -/
structure StepsDown (options : DeriveOptions) (steps : List ChainStep)
    (result : Except VaultError DerivedSecret) : Prop where
  /-- The pseudo-random function is asked for once, before anything else. -/
  prf_once : asked .prf steps = 1 ∧ ∃ outcome rest, steps = .prf outcome :: rest
  /-- The keyed hash is asked for once if the pseudo-random function is not there, and else never. -/
  hmac_iff : asked .hmacSecret steps ≤ 1 ∧ (asked .hmacSecret steps = 1 ↔ Lacks .prf steps)
  /-- The stored data is touched exactly when both are not there and stored seeds are allowed. -/
  largeBlob_iff : 0 < asked .largeBlob steps ↔
    Lacks .prf steps ∧ Lacks .hmacSecret steps ∧ options.allowsLargeBlob = true
  /-- For a known credential, the stored data is touched by one reading. -/
  unlock_reads : options.purpose = .unlock → 0 < asked .largeBlob steps →
    ∃ outcome, steps.drop 2 = [.readBlob outcome]
  /-- For a new credential, a new seed is written, and read once if it was written. -/
  enrollment_writes : options.purpose = .enrollment → 0 < asked .largeBlob steps →
    ∃ seed, seed.length = RelyingParty.seedSize ∧
      ((∃ e, steps.drop 2 = [.drawSeed seed, .writeBlob seed (.error e)]) ∨
        ∃ outcome, steps.drop 2 = [.drawSeed seed, .writeBlob seed (.ok ()), .readBlob outcome])
  /-- A failure of another kind ends the chain at once, and is raised. -/
  fails_at_once : ∀ step ∈ steps, ∀ e, step.error? = some e → ¬e.IsUnsupported →
    steps.getLast? = some step ∧ result = .error e.toVaultError
  /-- A secret is the bytes of the step that yielded it, with the mechanism of that step. A new seed
  is one only if it was written and then read back. -/
  ok_iff : ∀ secret, result = .ok secret ↔
    .prf (.ok secret.bytes) ∈ steps ∧ secret.method = .prf ∨
    .hmacSecret (.ok secret.bytes) ∈ steps ∧ secret.method = .hmacSecret ∨
    .readBlob (.ok (some secret.bytes)) ∈ steps ∧ secret.bytes ≠ [] ∧
      secret.method = .largeBlob ∧
      (options.purpose = .enrollment → .writeBlob secret.bytes (.ok ()) ∈ steps)
  /-- No secret is to be had exactly when the first two mechanisms are not there, and stored seeds are
  not allowed or not there, or there is no stored data, or it is empty or not what was written. -/
  unavailable_iff : result = .error .secretUnavailable ↔
    Lacks .prf steps ∧ Lacks .hmacSecret steps ∧
      (options.allowsLargeBlob = false ∨ Lacks .largeBlob steps ∨
        .readBlob (.ok none) ∈ steps ∨ .readBlob (.ok (some [])) ∈ steps ∨
        ∃ seed found, .writeBlob seed (.ok ()) ∈ steps ∧ .readBlob (.ok (some found)) ∈ steps ∧
          found ≠ seed)

namespace Chain

variable {options : DeriveOptions} {steps : List ChainStep} {result : Except VaultError DerivedSecret}

/-- A failure of another kind than that the mechanism is not there ends the chain. -/
theorem fails_at_once (h : Chain options steps result) : ∀ step ∈ steps, ∀ e,
    step.error? = some e → ¬e.IsUnsupported →
      steps.getLast? = some step ∧ result = .error e.toVaultError := by
  cases h with
  | read missing missing' outcome =>
    rcases outcome with _ | _ <;> simp_all [ChainStep.error?, seedIn, Except.map]
  | write missing missing' outcome =>
    rcases outcome with _ | _ <;> simp_all [ChainStep.error?, confirmed, seedIn, Except.map]
  | _ => simp_all [ChainStep.error?]

/-- A secret is the bytes of the step that yielded it. -/
theorem ok_iff (h : Chain options steps result) (secret : DerivedSecret) :
    result = .ok secret ↔
      .prf (.ok secret.bytes) ∈ steps ∧ secret.method = .prf ∨
      .hmacSecret (.ok secret.bytes) ∈ steps ∧ secret.method = .hmacSecret ∨
      .readBlob (.ok (some secret.bytes)) ∈ steps ∧ secret.bytes ≠ [] ∧
        secret.method = .largeBlob ∧
        (options.purpose = .enrollment → .writeBlob secret.bytes (.ok ()) ∈ steps) := by
  obtain ⟨method, bytes⟩ := secret
  cases h with
  | read missing missing' outcome h hpurpose =>
    simp [ofSeed_eq_ok_iff, seedIn_eq_ok_iff, hpurpose, eq_comm (b := outcome), and_assoc]
  | write missing missing' outcome h hpurpose =>
    simp [ofSeed_eq_ok_iff, confirmed_eq_ok_iff, hpurpose, eq_comm (b := outcome), and_assoc,
      and_comm]
  | _ => simp [eq_comm, and_comm]

/-- No secret is to be had when every mechanism that may be used is missing, or its data is. -/
theorem unavailable_iff (h : Chain options steps result) :
    result = .error .secretUnavailable ↔
      Lacks .prf steps ∧ Lacks .hmacSecret steps ∧
        (options.allowsLargeBlob = false ∨ Lacks .largeBlob steps ∨
          .readBlob (.ok none) ∈ steps ∨ .readBlob (.ok (some [])) ∈ steps ∨
          ∃ seed found, .writeBlob seed (.ok ()) ∈ steps ∧ .readBlob (.ok (some found)) ∈ steps ∧
            found ≠ seed) := by
  cases h with
  | read missing missing' outcome h hpurpose =>
    simp [ofSeed_eq_error_iff, seedIn_unavailable_iff, Lacks, ChainStep.method?, ChainStep.error?,
      h, eq_comm (b := outcome)]
  | write missing missing' outcome h hpurpose =>
    simp [ofSeed_eq_error_iff, confirmed_unavailable_iff, Lacks, ChainStep.method?,
      ChainStep.error?, h, eq_comm (b := outcome)]
  | _ => simp_all [Lacks, ChainStep.method?, ChainStep.error?]

/-- The steps of a chain step down only from a mechanism that is not there. -/
theorem stepsDown (h : Chain options steps result) : StepsDown options steps result where
  prf_once := by cases h <;> exact ⟨rfl, _, _, rfl⟩
  hmac_iff := by
    cases h <;> simp_all [asked, Lacks, ChainStep.method?, ChainStep.error?]
  largeBlob_iff := by
    cases h <;> simp_all [asked, Lacks, ChainStep.method?, ChainStep.error?]
  unlock_reads := by
    cases h <;> simp_all [asked, ChainStep.method?]
  enrollment_writes := by
    cases h <;> simp_all [asked, ChainStep.method?]
  fails_at_once := h.fails_at_once
  ok_iff := h.ok_iff
  unavailable_iff := h.unavailable_iff

end Chain

/-- Deriving a secret on any device steps down from one mechanism to the next only when it is not
there: it takes steps whose outcomes tell the result. On a scripted platform, which may give any
outcome for any call, the outcomes are those of the script at their turns, and the calls that are
noted are the steps. -/
theorem RelyingParty.deriveSecret_stepsDown {rp : RelyingParty} {credential : CredentialId}
    {salt : Bytes} {options : DeriveOptions} {d d' : Device}
    {result : Except VaultError DerivedSecret}
    (h : rp.deriveSecret credential salt options d = (result, d')) :
    ∃ steps, Takes rp credential salt steps d d' ∧ StepsDown options steps result ∧
      ∀ platform, d.platform = .scripted platform →
        FollowFrom platform.script platform.calls.length steps ∧
          ∃ after, d'.platform = .scripted after ∧
            after.calls = platform.calls ++ steps.filterMap (·.call? rp credential salt) := by
  obtain ⟨steps, hsteps, hchain⟩ := deriveSecret_chain h
  exact ⟨steps, hsteps, hchain.stepsDown, fun _ => hsteps.scripted⟩

/-- A platform that has neither the pseudo-random function nor the keyed hash, and stores data but
gives other data back. -/
def ScriptedPlatform.forgetful : ScriptedPlatform where
  script := {
    isAvailable _ := true
    create _ := .ok [1]
    prf _ := .error (.extensionUnsupported .prf)
    hmacSecret _ := .error (.extensionUnsupported .hmacSecret)
    readBlob _ := .outcome (.ok (some [0]))
    writeBlob _ := none }
  blob := none
  calls := []

/-- A device with such a platform. -/
def Device.forgetful : Device := ⟨.scripted .forgetful, ⟨.empty, .counting 0⟩⟩

/-- The seed that is drawn on the device. -/
def forgottenSeed : Bytes := (Device.forgetful.host.random.draw RelyingParty.seedSize).1

/-- The new seed is written and read back, and no secret is to be had, since it is not what was
written. -/
theorem RelyingParty.deriveSecret_stepsDown_forgetful :
    ∃ steps after, Takes .default ⟨[1]⟩ [2] steps .forgetful after ∧
      StepsDown .enrollment steps (.error .secretUnavailable) ∧
      steps.filterMap (·.call? .default ⟨[1]⟩ [2]) =
        [.prf "localhost" ⟨[1]⟩ [2], .hmacSecret "localhost" ⟨[1]⟩ [2],
          .writeBlob "localhost" ⟨[1]⟩ forgottenSeed, .readBlob "localhost" ⟨[1]⟩] := by
  have hrun : RelyingParty.default.deriveSecret ⟨[1]⟩ [2] .enrollment .forgetful =
      (.error .secretUnavailable, ⟨.scripted { ScriptedPlatform.forgetful with
        blob := some forgottenSeed
        calls := [.prf "localhost" ⟨[1]⟩ [2], .hmacSecret "localhost" ⟨[1]⟩ [2],
          .writeBlob "localhost" ⟨[1]⟩ forgottenSeed, .readBlob "localhost" ⟨[1]⟩] },
        ⟨.empty, (Device.forgetful.host.random.draw RelyingParty.seedSize).2⟩⟩) := by
    rfl
  obtain ⟨steps, hsteps, hdown, hscript⟩ := deriveSecret_stepsDown hrun
  obtain ⟨-, after, hafter, hcalls⟩ := hscript _ rfl
  cases hafter
  exact ⟨steps, _, hsteps, hdown, hcalls.symm⟩

end CredentialVault
