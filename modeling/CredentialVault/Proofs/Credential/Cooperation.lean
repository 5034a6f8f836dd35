import CredentialVault.Proofs.Credential.Fallback
import CredentialVault.Proofs.Credential.Refusal
import CredentialVault.Proofs.Credential.StateFile

/-!
# Platforms that cooperate

A platform cooperates when it has credentials, agrees to everything, and has a mechanism that may be
used (`Device.Cooperates`): a virtual authenticator whose user agrees to everything and whose file,
if it keeps one, can be replaced again and again (`StaysReplaceable`), or a script that says so.
Each step of a ceremony keeps this (`ceremonySteps_cooperates`), and so a credential is made, and a
secret of it is derived by the first mechanism that is there (`exists_secret_of_cooperates`).
-/

namespace CredentialVault

open Operation

/-! ## Users and files -/

namespace Presence

/-- The user agrees to everything. -/
structure Agrees (presence : Presence) : Prop where
  /-- The next answers agree. -/
  queue : ∀ answer ∈ presence.queue, answer = true
  /-- The answers after those agree. -/
  approve : presence.approve = true

/-- A user who agrees to everything agrees to the next ceremony, and to everything after it. -/
theorem Agrees.next {presence : Presence} (h : presence.Agrees) :
    presence.next.1 = true ∧ presence.next.2.Agrees := by
  obtain ⟨queue, approve⟩ := presence
  cases queue with
  | nil => exact ⟨h.approve, h⟩
  | cons answer rest =>
    obtain ⟨hanswer, hrest⟩ := List.forall_mem_cons.mp h.queue
    exact ⟨hanswer, hrest, h.approve⟩

end Presence

namespace VirtualAuthenticator

variable {path : String} {files files' : Files}

/-- The files after the file of an authenticator was replaced any number of times. -/
inductive Replaced (path : String) : Files → Files → Prop where
  /-- Not once. -/
  | refl {files : Files} : Replaced path files files
  /-- Once, and then any number of times. -/
  | step {files files₁ files' : Files} {credentials : Credentials}
    (hrun : replaceFile path credentials files = (.ok (), files₁))
    (h : Replaced path files₁ files') : Replaced path files files'

/-- The file of an authenticator can be replaced, and after that again and again. -/
def StaysReplaceable (path : String) (files : Files) : Prop :=
  ∀ files', Replaced path files files' → ∀ credentials,
    ∃ files₁, replaceFile path credentials files' = (.ok (), files₁)

/-- It can be replaced after it was replaced. -/
theorem StaysReplaceable.after {credentials : Credentials} (h : StaysReplaceable path files)
    (hrun : replaceFile path credentials files = (.ok (), files')) : StaysReplaceable path files' :=
  fun later hlater => h later (.step hrun hlater)

/-- A file that can be replaced stays so when no change of files is to be refused. -/
theorem staysReplaceable_of_canReplace {name : String} (hname : Files.lastName path = some name)
    (hrefusals : files.refusals = []) (h : CanReplace path files) : StaysReplaceable path files := by
  intro files' hreplaced
  -- By induction on the replacements: each touches two files alone, so it can be done again.
  induction hreplaced with
  | refl => exact replaceFile_of_canReplace (lastName_beside path) hrefusals h
  | @step files files₁ _ credentials hrun _ ih =>
    rw [replaceFile_of_directory h.directory] at hrun
    have htouches := (touches_writeBeside hname (lastName_beside path) _).of_run hrun
    exact ih (htouches.refusals hrefusals) (h.of_touches htouches)

/-! ## Virtual authenticators -/

/-- A virtual authenticator cooperates by a mechanism: it is available, its user agrees to
everything, the mechanism is the first that it has, and its file, if it keeps one, can be replaced
again and again. -/
structure Cooperates (method : SecretMethod) (device : VirtualDevice) : Prop where
  /-- There are credentials at all. -/
  isAvailable : device.authenticator.capabilities.isAvailable = true
  /-- The user agrees to everything. -/
  agrees : device.authenticator.presence.Agrees
  /-- The mechanism is the first. -/
  first : device.authenticator.capabilities.first? = some method
  /-- The file can be replaced again and again. -/
  replaces : ∀ path, device.authenticator.path = some path →
    StaysReplaceable path device.host.files

variable {method : SecretMethod} {device : VirtualDevice}

/-- An authenticator that cooperates by a mechanism offers it. -/
theorem Cooperates.offers (h : Cooperates method device) : device.authenticator.Offers method :=
  ⟨h.isAvailable, h.agrees.next.1, h.first⟩

/-- An authenticator that cooperates saves its credentials, and goes on to cooperate. -/
theorem Cooperates.save (h : Cooperates method device) :
    ∃ after, VirtualAuthenticator.save device = (.ok (), after) ∧ Cooperates method after := by
  rcases hpath : device.authenticator.path with _ | path
  · refine ⟨device, ?_, h⟩
    unfold VirtualAuthenticator.save
    rw [run_bind, run_get]
    dsimp only
    rw [hpath]
    rfl
  · obtain ⟨files, hreplace⟩ := h.replaces path hpath _ .refl device.authenticator.credentials
    refine ⟨_, save_of_ok device hpath hreplace, h.isAvailable, h.agrees, h.first, ?_⟩
    intro other hother
    obtain rfl := Option.some.inj (hpath.symm.trans hother)
    exact (h.replaces path hpath).after hreplace

/-- Every step of a ceremony goes on to cooperate. -/
theorem ceremonySteps_cooperates : CeremonySteps (Keeps (Cooperates method)) where
  count := .modify fun _ h => ⟨h.isAvailable, h.agrees, h.first, h.replaces⟩
  ask _ _ h := ⟨h.isAvailable, h.agrees.next.2, h.first, h.replaces⟩
  draw _ _ h := ⟨h.isAvailable, h.agrees, h.first, h.replaces⟩
  insert _ _ := .modify fun _ h => ⟨h.isAvailable, h.agrees, h.first, h.replaces⟩
  save device h := by
    obtain ⟨after, hsave, hafter⟩ := h.save
    rw [hsave]
    exact hafter

/-- An authenticator that cooperates puts a credential in place. -/
theorem Cooperates.hold (h : Cooperates method device) (credential : CredentialId)
    (stored : StoredCredential) :
    ∃ after, VirtualAuthenticator.hold credential stored device = (.ok (), after) := by
  have hinserted := (ceremonySteps_cooperates.insert credential.text stored) device h
  obtain ⟨after, hsave, -⟩ := hinserted.save
  exact ⟨after, (run_bind_of_ok rfl).trans hsave⟩

/-- An authenticator that cooperates makes a credential. -/
theorem Cooperates.create (h : Cooperates method device) (options : CreationOptions) :
    ∃ credential after, VirtualAuthenticator.create options device = (.ok credential, after) := by
  obtain ⟨begun, hbegin⟩ := begin_of_approved (.create options.rpId options.rpName)
    h.isAvailable h.agrees.next.1
  have hbegun := (ceremonySteps_cooperates.within_begin _).of_run hbegin h
  rw [create_eq, run_bind_of_ok hbegin, run_bind_of_ok (drawBytes_eq _ _),
    run_bind_of_ok (drawBytes_eq _ _)]
  obtain ⟨after, hhold⟩ := Cooperates.hold
    (ceremonySteps_cooperates.draw _ _ (ceremonySteps_cooperates.draw _ _ hbegun)) _ _
  exact ⟨_, after, run_bind_of_ok hhold⟩

/-- An authenticator that cooperates by stored data stores data with a credential that it holds, and
holds it. -/
theorem Cooperates.writeBlob (h : Cooperates .largeBlob device) {rpId : String}
    {credential : CredentialId} {stored : StoredCredential}
    (hheld : device.authenticator.credentials.Holds credential.text stored) (hrp : stored.rpId = rpId)
    (blob : Bytes) :
    ∃ after, VirtualAuthenticator.writeBlob rpId credential blob device = (.ok (), after) ∧
      Cooperates .largeBlob after ∧
      after.Holds credential.text { stored with largeBlob := some (Base64Url.encode blob) } := by
  obtain ⟨asked, hask⟩ := (ask_ok_iff (.writeBlob rpId credential)).mpr
    ⟨(Capabilities.first?_eq_some.mp h.first).1, h.isAvailable, h.agrees.next.1, hheld.get?, hrp⟩
  have hasked := (ceremonySteps_cooperates.within_ask _ _ _ _).of_run hask h
  obtain ⟨after, hhold⟩ := hasked.hold credential
    { stored with largeBlob := some (Base64Url.encode blob) }
  have hwrite : VirtualAuthenticator.writeBlob rpId credential blob device = (.ok (), after) := by
    rw [writeBlob_eq, run_bind_of_ok hask]
    exact hhold
  exact ⟨after, hwrite, (ceremonySteps_cooperates.within_writeBlob _ _ _).of_run hwrite h,
    (writeBlob_ok hheld hwrite).2⟩

end VirtualAuthenticator

/-! ## Platforms -/

/-- A script has a mechanism that may be used from a turn on, and lacks those that are tried before
it. -/
inductive Script.Yields (allowsLargeBlob : Bool) (script : Script) (turn : Nat) : Prop where
  /-- The pseudo-random function yields a secret. -/
  | prf {bytes : Bytes} (h : script.prf turn = .ok bytes) (hbytes : bytes ≠ [])
  /-- The keyed hash yields a secret. -/
  | hmacSecret {missing : SecretMethod} {bytes : Bytes}
    (hprf : script.prf turn = .error (.extensionUnsupported missing))
    (h : script.hmacSecret (turn + 1) = .ok bytes) (hbytes : bytes ≠ [])
  /-- Data is stored and read back, and may be. -/
  | largeBlob {missing missing' : SecretMethod}
    (hprf : script.prf turn = .error (.extensionUnsupported missing))
    (hhmac : script.hmacSecret (turn + 1) = .error (.extensionUnsupported missing'))
    (hwrite : script.writeBlob (turn + 2) = none) (hread : script.readBlob (turn + 3) = .stored)
    (hallowed : allowsLargeBlob = true)

/-- The platform of a device cooperates: it has credentials, agrees to everything, and has a
mechanism that may be used. -/
inductive Device.Cooperates (allowsLargeBlob : Bool) : Device → Prop where
  /-- A virtual authenticator cooperates by a mechanism that may be used. -/
  | virtual {authenticator : VirtualAuthenticator} {host : Host} {method : SecretMethod}
    (h : VirtualAuthenticator.Cooperates method ⟨authenticator, host⟩)
    (hallowed : method = .largeBlob → allowsLargeBlob = true) :
    Cooperates allowsLargeBlob ⟨.virtual authenticator, host⟩
  /-- A script makes credentials and has a mechanism that may be used. -/
  | scripted {platform : ScriptedPlatform} {host : Host} {name : Bytes}
    (havailable : platform.script.isAvailable platform.calls.length = true)
    (hcreate : platform.script.create platform.calls.length = .ok name)
    (hyields : platform.script.Yields allowsLargeBlob (platform.calls.length + 1)) :
    Cooperates allowsLargeBlob ⟨.scripted platform, host⟩

/-- A scripted platform after it noted a call. -/
def ScriptedPlatform.noting (platform : ScriptedPlatform) (call : PlatformCall) : ScriptedPlatform :=
  { platform with calls := platform.calls ++ [call] }

/-- A call takes a turn. -/
theorem ScriptedPlatform.length_calls_noting (platform : ScriptedPlatform) (call : PlatformCall) :
    (platform.noting call).calls.length = platform.calls.length + 1 :=
  List.length_append

namespace Platform

variable {platform : ScriptedPlatform} {host : Host} {rpId : String} {credential : CredentialId}
  {salt : Bytes}

/-- A credential is made as the script says. -/
theorem create_of_script {name : Bytes} (h : platform.script.create platform.calls.length = .ok name)
    (options : CreationOptions) (host : Host) :
    create options ⟨.scripted platform, host⟩ =
      (.ok ⟨name⟩, ⟨.scripted (platform.noting (.create options)), host⟩) := by
  unfold create perform
  dsimp only
  rw [h]
  rfl

/-- The pseudo-random function is answered as the script says. -/
theorem evaluatePrf_of_script {answer : Except CeremonyError Bytes}
    (h : platform.script.prf platform.calls.length = answer) :
    evaluatePrf rpId credential salt ⟨.scripted platform, host⟩ =
      (answer, ⟨.scripted (platform.noting (.prf rpId credential salt)), host⟩) := by
  rw [← h]
  rfl

/-- The keyed hash is answered as the script says. -/
theorem evaluateHmac_of_script {answer : Except CeremonyError Bytes}
    (h : platform.script.hmacSecret platform.calls.length = answer) :
    evaluateHmac rpId credential salt ⟨.scripted platform, host⟩ =
      (answer, ⟨.scripted (platform.noting (.hmacSecret rpId credential salt)), host⟩) := by
  rw [← h]
  rfl

/-- A script stores data unless it says otherwise. -/
theorem writeBlob_of_script (h : platform.script.writeBlob platform.calls.length = none)
    (blob : Bytes) :
    writeBlob rpId credential blob ⟨.scripted platform, host⟩ =
      (.ok (), ⟨.scripted { platform.noting (.writeBlob rpId credential blob) with
        blob := some blob }, host⟩) := by
  unfold writeBlob perform
  dsimp only
  rw [h]
  rfl

/-- A script gives back the data that was stored, if it says so. -/
theorem readBlob_of_script (h : platform.script.readBlob platform.calls.length = .stored) :
    readBlob rpId credential ⟨.scripted platform, host⟩ =
      (.ok platform.blob, ⟨.scripted (platform.noting (.readBlob rpId credential)), host⟩) := by
  unfold readBlob perform
  dsimp only
  rw [h]
  rfl

end Platform

namespace RelyingParty

variable {rp : RelyingParty} {credential : CredentialId} {salt bytes : Bytes}
  {options : DeriveOptions} {missing missing' : SecretMethod} {d d₁ d₂ d₃ d' : Device}

/-! ## Chains that yield a secret -/

/-- Without both, a new seed that is stored and read back is the secret. -/
theorem deriveSecret_of_seed {seed : Bytes} {random : RandomStream}
    (hprf : Platform.evaluatePrf rp.id credential salt d =
      (.error (.extensionUnsupported missing), d₁))
    (hhmac : Platform.evaluateHmac rp.id credential salt d₁ =
      (.error (.extensionUnsupported missing'), d₂))
    (hdrawn : d₂.host.random.draw seedSize = (seed, random))
    (hwrite : Platform.writeBlob rp.id credential seed (d₂.withRandom random) = (.ok (), d₃))
    (hread : Platform.readBlob rp.id credential d₃ = (.ok (some seed), d')) :
    rp.deriveSecret credential salt ⟨.enrollment, true⟩ d = (.ok ⟨.largeBlob, seed⟩, d') ∧
      seed ≠ [] := by
  obtain rfl : (d₂.host.random.draw seedSize).1 = seed := by rw [hdrawn]
  obtain rfl : (d₂.host.random.draw seedSize).2 = random := by rw [hdrawn]
  have hseed : (d₂.host.random.draw seedSize).1 ≠ [] := by
    intro hempty
    have hlength := RandomStream.length_draw d₂.host.random seedSize
    rw [hempty] at hlength
    cases hlength
  refine ⟨?_, hseed⟩
  rw [deriveSecret_of_neither hprf hhmac rfl]
  refine (run_ofSeed (writeSeed_of_ok hwrite hread)).trans ?_
  rw [confirmed_eq_ok_iff.mpr ⟨rfl, hseed, rfl⟩]
  rfl

/-! ## Platforms that cooperate -/

/-- On an authenticator that cooperates the secret of a credential that it holds is derived. -/
theorem exists_secret_of_held {authenticator : VirtualAuthenticator} {host : Host}
    {method : SecretMethod} {stored : StoredCredential} {allowsLargeBlob : Bool}
    (h : VirtualAuthenticator.Cooperates method ⟨authenticator, host⟩)
    (hallowed : method = .largeBlob → allowsLargeBlob = true)
    (hheld : VirtualDevice.Holds ⟨authenticator, host⟩ credential.text stored)
    (hrp : stored.rpId = rp.id) (salt : Bytes) :
    ∃ secret d', rp.deriveSecret credential salt ⟨.enrollment, allowsLargeBlob⟩
      ⟨.virtual authenticator, host⟩ = (.ok secret, d') := by
  -- The mechanisms before the one that is offered are passed over.
  cases method with
  | prf =>
    obtain ⟨d', hprf⟩ := Platform.evaluatePrf_of_offers h.offers hheld hrp salt
    exact ⟨_, d', deriveSecret_of_prf hprf⟩
  | hmacSecret =>
    obtain ⟨d', hhmac⟩ := Platform.evaluateHmac_of_offers h.offers hheld hrp salt
    exact ⟨_, d', deriveSecret_of_hmac (Platform.evaluatePrf_of_first h.first nofun salt) hhmac⟩
  | largeBlob =>
    obtain rfl := hallowed rfl
    rcases hdrawn : host.random.draw seedSize with ⟨seed, random⟩
    have hdrew : VirtualAuthenticator.Cooperates .largeBlob ⟨authenticator, host.files, random⟩ :=
      ⟨h.isAvailable, h.agrees, h.first, h.replaces⟩
    obtain ⟨written, hwrite, hwritten, hseed⟩ := hdrew.writeBlob hheld.memory hrp seed
    have hstore : Platform.writeBlob rp.id credential seed
        ⟨.virtual authenticator, host.files, random⟩ =
          (.ok (), ⟨.virtual written.authenticator, written.host⟩) := by
      unfold Platform.writeBlob
      rw [Platform.perform_of_virtual rfl, hwrite]
    -- The seed is read back as it was written.
    have hblob : VirtualAuthenticator.blobOf
        { stored with largeBlob := some (Base64Url.encode seed) } = .ok (some seed) := by
      simp only [VirtualAuthenticator.blobOf, Base64Url.decode_encode]
    obtain ⟨d', hread⟩ : ∃ d', Platform.readBlob rp.id credential
        ⟨.virtual written.authenticator, written.host⟩ = (.ok (some seed), d') := by
      rw [Platform.readBlob_eq, ← hblob]
      exact Platform.look_of_offers hwritten.offers hseed hrp
    exact ⟨_, d', (deriveSecret_of_seed (Platform.evaluatePrf_of_first h.first nofun salt)
      (Platform.evaluateHmac_of_first h.first salt) hdrawn hstore hread).1⟩

/-- On a script with a mechanism that may be used a secret of any credential is derived, which is
not empty. -/
theorem exists_secret_of_script {platform : ScriptedPlatform} {allowsLargeBlob : Bool}
    (h : platform.script.Yields allowsLargeBlob platform.calls.length)
    (credential : CredentialId) (salt : Bytes) (host : Host) :
    ∃ secret d', rp.deriveSecret credential salt ⟨.enrollment, allowsLargeBlob⟩
      ⟨.scripted platform, host⟩ = (.ok secret, d') ∧ secret.bytes ≠ [] := by
  cases h with
  | prf hprf hbytes =>
    exact ⟨_, _, deriveSecret_of_prf (Platform.evaluatePrf_of_script hprf), hbytes⟩
  | hmacSecret hprf hhmac hbytes =>
    refine ⟨_, _, deriveSecret_of_hmac (Platform.evaluatePrf_of_script hprf)
      (Platform.evaluateHmac_of_script ?_), hbytes⟩
    rw [ScriptedPlatform.length_calls_noting]
    exact hhmac
  | largeBlob hprf hhmac hwrite hread hallowed =>
    obtain rfl := hallowed
    rcases hdrawn : host.random.draw seedSize with ⟨seed, random⟩
    have hnoPrf : Platform.evaluatePrf rp.id credential salt ⟨.scripted platform, host⟩ = (_, _) :=
      Platform.evaluatePrf_of_script hprf
    rw [← ScriptedPlatform.length_calls_noting platform (.prf rp.id credential salt)] at hhmac
    -- The calls are noted on the way, so that each mechanism has its turn.
    refine ⟨_, _, deriveSecret_of_seed hnoPrf (Platform.evaluateHmac_of_script hhmac) hdrawn
      (Platform.writeBlob_of_script ?_ seed) (Platform.readBlob_of_script ?_)⟩
    · simp only [ScriptedPlatform.length_calls_noting]
      exact hwrite
    · simp only [ScriptedPlatform.length_calls_noting]
      exact hread

/-- On a platform that cooperates a credential is made, and whatever is drawn then, a secret of it
is derived for any salt, which is not empty. -/
theorem exists_secret_of_cooperates (rp : RelyingParty) {allowsLargeBlob : Bool}
    (h : d.Cooperates allowsLargeBlob) :
    ∃ credential d₁, rp.enroll d = (.ok credential, d₁) ∧ ∀ random salt, ∃ secret d₂,
      rp.deriveSecret credential salt ⟨.enrollment, allowsLargeBlob⟩ (d₁.withRandom random) =
        (.ok secret, d₂) ∧ secret.bytes ≠ [] := by
  rcases hdrawn : d.host.random.draw userIdSize with ⟨userId, later⟩
  cases h with
  | @virtual authenticator host method h hallowed =>
    have hdrew : VirtualAuthenticator.Cooperates method ⟨authenticator, host.files, later⟩ :=
      ⟨h.isAvailable, h.agrees, h.first, h.replaces⟩
    obtain ⟨credential, made, hcreate⟩ := hdrew.create (.forVault rp userId)
    have hmade : Platform.create (.forVault rp userId) ⟨.virtual authenticator, host.files, later⟩ =
        (.ok credential, ⟨.virtual made.authenticator, made.host⟩) := by
      unfold Platform.create
      rw [Platform.perform_of_virtual rfl, hcreate]
    have henroll : rp.enroll ⟨.virtual authenticator, host⟩ = (.ok credential, _) :=
      enroll_of_create h.isAvailable hdrawn hmade
    -- The authenticator still cooperates, and holds the credential.
    obtain ⟨after, hafter, hkept⟩ := (within_enroll
      VirtualAuthenticator.ceremonySteps_cooperates rp).of_run henroll authenticator rfl
    obtain rfl := Platform.virtual.inj hafter
    obtain ⟨-, stored, hheld, hrp⟩ := (enroll_run henroll).1 _ authenticator rfl rfl
    refine ⟨credential, _, henroll, fun random salt => ?_⟩
    obtain ⟨_, hplatform, hheld⟩ := hheld.withRandom random
    obtain rfl := Platform.virtual.inj hplatform
    have hdrawn := VirtualAuthenticator.ceremonySteps_cooperates.draw _ random (hkept h)
    obtain ⟨secret, d₂, hderive⟩ := exists_secret_of_held hdrawn hallowed hheld hrp salt
    exact ⟨secret, d₂, hderive, deriveSecret_ne_nil rfl hderive⟩
  | @scripted platform host name havailable hcreate hyields =>
    have hmade := Platform.create_of_script hcreate (.forVault rp userId) ⟨host.files, later⟩
    refine ⟨_, _, enroll_of_create havailable hdrawn hmade, fun random salt => ?_⟩
    refine exists_secret_of_script ?_ _ _ _
    rw [ScriptedPlatform.length_calls_noting]
    exact hyields

end RelyingParty

end CredentialVault
