import CredentialVault.Proofs.Credential.Enrollment
import CredentialVault.Proofs.Vault.Files
import CredentialVault.Proofs.Vault.Flags
import CredentialVault.Proofs.Vault.Held

/-!
# Operations that succeed

Where the store accepts writes, a vault that is not there is made from a valid draft
(`create_of_draft`), and every vault is deleted (`delete_of_accepting`). There is such a draft when
the authenticator can do everything with a user who agrees, and its file can be replaced
(`World.IsReady`, `create_of_ready`); the new vault has the private key that is drawn next
(`RandomStream.nextPrivateKey`). To open a vault leaves all that is stored (`unlock_files`).
-/

namespace CredentialVault

open Operation VaultM

/-- The private key that a new vault gets unless it takes one over: it is drawn after the credential
and the salt. -/
def RandomStream.nextPrivateKey (random : RandomStream) : Keys.PrivateKey :=
  (Keys.PrivateKey.draw (random.after [RelyingParty.userIdSize,
    VirtualAuthenticator.credentialIdSize, VirtualAuthenticator.secretSize, Keys.saltSize])).1

/-- A world is ready for the operations of vaults: the store can be written to, there is a willing
authenticator, and its file can be replaced. -/
structure World.IsReady (w : World) (path : String) : Prop where
  /-- The store can be written to. -/
  store : w.store.Writable
  /-- There is a willing authenticator. -/
  platform : ∃ authenticator : VirtualAuthenticator, w.device.platform = .virtual authenticator ∧
    authenticator.IsWilling path
  /-- Its file can be replaced. -/
  replaces : ∀ credentials, ∃ files,
    VirtualAuthenticator.replaceFile path credentials w.device.host.files = (.ok (), files)

/-! ## Counters -/

/-- There are no counters, or they can be reset. -/
def Counters.CanReset : Counters → Prop
  | absent => True
  | present outcome _ => ∀ before publicKeyHex, outcome before publicKeyHex = .ok ()

/-- Counters that can be reset are reset, and the store stays. -/
theorem Counters.CanReset.reset {counters : Counters} (h : counters.CanReset) (publicKeyHex : String)
    (w : World) : ∃ w', counters.reset publicKeyHex w = (.ok (), w') ∧ w'.store = w.store := by
  cases counters with
  | absent => exact ⟨w, rfl, rfl⟩
  | present outcome breaksStore =>
    rw [Counters.reset_present, h w.resets publicKeyHex]
    exact ⟨_, rfl, rfl⟩

/-! ## Keys -/

/-- Under a key of the right size a bundle is sealed. -/
theorem SecretBundle.sealFor_of_size {key : Bytes} (hkey : key.length = Aead.keySize)
    (bundle : SecretBundle) (vaultId : String) (random : RandomStream) :
    ∃ envelope later, bundle.sealFor key vaultId random = (.ok envelope, later) ∧
      envelope.iv.length = Gcm.ivSize := by
  unfold sealFor Aead.encrypt
  rw [if_pos hkey]
  exact ⟨_, _, rfl, random.length_draw Gcm.ivSize⟩

namespace Vault

variable {vault : Vault} {w w' : World} {path : String}

/-! ## Flags -/

/-- Whose the flags are is known. -/
theorem ownsFlags_of_sound (vault : Vault) (h : w.store.Sound) :
    ∃ owns, vault.ownsFlags w = (.ok owns, w) := by
  have hflag := onStore_of_run (w := w) (h.getFlag Flags.activeId)
  unfold ownsFlags
  rw [run_bind_of_ok hflag]
  rcases w.store.flag? Flags.activeId with _ | active
  · exact ⟨true, rfl⟩
  · have hcontains := onStore_of_run (w := w) (h.contains active)
    dsimp only
    by_cases hown : active = vault.id
    · rw [if_pos hown]
      exact ⟨true, rfl⟩
    · rw [if_neg hown]
      exact ⟨_, run_bind_of_ok hcontains⟩

/-- A record is described. -/
theorem describe_of_accepting {store : Store} (h : store.Accepting) (record : VaultRecord) :
    ∃ store', describe record store = (.ok (), store') ∧ store'.Accepting := by
  obtain ⟨store₁, hid, h₁⟩ := h.setFlag Flags.activeId record.id
  obtain ⟨store₂, hcredential, h₂⟩ := h₁.setFlag Flags.credentialId record.credentialId.text
  obtain ⟨store₃, hkey, h₃⟩ := h₂.setFlag Flags.publicKeyHex record.publicKeyHex
  unfold describe
  rw [run_bind_of_ok hid, run_bind_of_ok hcredential, run_bind_of_ok hkey]
  exact h₃.setFlag Flags.enabled "true"

/-- Flags are removed. -/
theorem removeFlags_of_accepting {store : Store} (h : store.Accepting) (keys : List String) :
    ∃ store', StoreM.removeFlags keys store = (.ok (), store') ∧ store'.Accepting := by
  induction keys generalizing store with
  | nil => exact ⟨store, rfl, h⟩
  | cons key keys ih =>
    obtain ⟨removed, hremove, hremoved⟩ := h.removeFlag key
    rw [StoreM.removeFlags_cons, run_bind_of_ok hremove]
    exact ih hremoved

/-! ## Making a vault -/

/-- With a secret a bundle of the given key is sealed, and the record is valid. -/
theorem finishDraft_of_secret {secret : DerivedSecret} (hsecret : secret.bytes ≠ [])
    (hid : vault.id ≠ "") {salt : Bytes} (hsalt : salt.length = Keys.saltSize) (now : Instant)
    (credentialId : CredentialId) (primaryKey : Keys.PrivateKey) (d : Device) :
    ∃ draft random, vault.finishDraft now credentialId salt secret primaryKey d =
        (.ok draft, d.withRandom random) ∧ draft.record.validate = .ok () := by
  obtain ⟨key, hkey⟩ := Keys.exists_sealingKey hsecret salt
  rcases hdrawn : Keys.PrivateKey.draw d.host.random with ⟨secondaryKey, random⟩
  obtain ⟨envelope, later, hseal, hiv⟩ := SecretBundle.sealFor_of_size (Keys.length_sealingKey hkey)
    ⟨primaryKey, secondaryKey⟩ vault.id random
  have hdraw : DeviceM.drawPrivateKey d = (.ok secondaryKey, d.withRandom random) := by
    rw [DeviceM.drawPrivateKey_eq, hdrawn]
  have hsealOn : SecretBundle.sealOn ⟨primaryKey, secondaryKey⟩ key vault.id (d.withRandom random) =
      (.ok envelope, d.withRandom later) := by
    unfold SecretBundle.sealOn
    simp only [ExceptT.mk, Device.random_withRandom, hseal]
    rfl
  have hkeyOn : DeviceM.ofExcept (Keys.sealingKey secret.bytes salt) (d.withRandom random) =
      (.ok key, d.withRandom random) := by rw [hkey]; rfl
  unfold finishDraft
  rw [run_bind_of_ok hdraw, run_bind_of_ok hkeyOn, run_bind_of_ok hsealOn]
  exact ⟨_, later, rfl, VaultRecord.validate_eq_ok_iff.mpr ⟨rfl, hsalt, hiv, hid⟩⟩

/-- With a credential and a secret for the salt that is drawn after it, a valid record of both is
sealed for a new vault. -/
theorem draft_of_secret {credential : CredentialId} {enrolled derived : Device} {salt : Bytes}
    {salted : RandomStream} {secret : DerivedSecret} (hid : vault.id ≠ "")
    (henroll : vault.rp.enroll w.device = (.ok credential, enrolled))
    (hsalt : enrolled.host.random.draw Keys.saltSize = (salt, salted))
    (hderive : vault.rp.deriveSecret credential salt (vault.deriveOptions .enrollment)
      (enrolled.withRandom salted) = (.ok secret, derived))
    (hsecret : secret.bytes ≠ []) :
    ∃ draft random, vault.draft none w = (.ok draft, { w with device := derived.withRandom random }) ∧
      draft.record.validate = .ok () ∧
      draft.bundle.primaryKey = (Keys.PrivateKey.draw derived.host.random).1 ∧
      draft.record.credentialId = credential ∧ draft.method = secret.method := by
  have hlength : salt.length = Keys.saltSize := by
    rw [← show (enrolled.host.random.draw Keys.saltSize).1 = salt by rw [hsalt]]
    exact RandomStream.length_draw _ _
  have hdraw : DeviceM.drawBytes Keys.saltSize enrolled = (.ok salt, enrolled.withRandom salted) := by
    rw [DeviceM.drawBytes_eq, hsalt]
  rcases hdrawn : Keys.PrivateKey.draw derived.host.random with ⟨primaryKey, drawn⟩
  have hdrawKey : DeviceM.drawPrivateKey derived = (.ok primaryKey, derived.withRandom drawn) := by
    rw [DeviceM.drawPrivateKey_eq, hdrawn]
  -- The bundle is sealed with what comes after the key.
  obtain ⟨draft, random, hfinish, hvalid⟩ := finishDraft_of_secret hsecret hid hlength w.now credential
    primaryKey (derived.withRandom drawn)
  obtain ⟨-, -, -, hkey, hcredential, -, -, -, hmethod, -⟩ := finishDraft_run hfinish
  refine ⟨draft, random, ?_, hvalid, hkey, hcredential, hmethod⟩
  unfold Vault.draft
  rw [run_bind, run_get]
  refine onDevice_of_run ?_
  rw [run_bind_of_ok henroll, run_bind_of_ok hdraw, run_bind_of_ok hderive]
  exact (run_bind_of_ok hdrawKey).trans hfinish

/-- A valid record is sealed for a new vault, with the credential and the private key that are drawn
next; the secret is that of the pseudo-random function. -/
theorem draft_of_ready (h : w.IsReady path) (hid : vault.id ≠ "") :
    ∃ draft w', vault.draft none w = (.ok draft, w') ∧
      draft.bundle.primaryKey = w.device.host.random.nextPrivateKey ∧
      draft.record.credentialId = w.device.nextCredential ∧ draft.method = .prf ∧
      draft.record.validate = .ok () ∧
      ∃ credentials, VirtualAuthenticator.replaceFile path credentials
        w.device.host.files = (.ok (), w'.device.host.files) := by
  obtain ⟨authenticator, hplatform, hwilling⟩ := h.platform
  obtain ⟨enrolled, henroll, hrandom, credentials, hreplace⟩ :=
    vault.rp.enroll_of_willing hplatform hwilling h.replaces
  obtain ⟨after, hafter, halike⟩ := (RelyingParty.within_enroll
    VirtualAuthenticator.ceremonySteps_setUpAlike vault.rp).of_run henroll authenticator hplatform
  obtain ⟨-, stored, hheld, hrp⟩ :=
    (RelyingParty.enroll_run henroll).1 _ authenticator rfl hplatform
  -- The secret is derived from the device after the salt was drawn.
  rcases hsalt : enrolled.host.random.draw Keys.saltSize with ⟨salt, salted⟩
  obtain ⟨derived, hderive, hhost⟩ := RelyingParty.deriveSecret_of_willing
    (d := enrolled.withRandom salted) hafter (hwilling.of_alike halike) (hheld.withRandom salted) hrp
    salt (vault.deriveOptions .enrollment)
  obtain ⟨draft, random, hdraft, hvalid, hkey, hcredential, hmethod⟩ :=
    draft_of_secret hid henroll hsalt hderive (Hmac.mac_ne_nil _ _)
  have hprimary : draft.bundle.primaryKey = w.device.host.random.nextPrivateKey := by
    rw [hkey, show derived.host.random = (enrolled.host.random.draw Keys.saltSize).2 by
      rw [hhost, hsalt]; rfl, hrandom]
    rfl
  refine ⟨draft, _, hdraft, hprimary, hcredential, hmethod, hvalid, credentials, hreplace.trans ?_⟩
  rw [show enrolled.host.files = derived.host.files by rw [hhost]; rfl]
  rfl

/-- A valid record is stored, the flags are taken if they are free, and the counters are reset. -/
theorem persist_of_accepting (h : w.store.Accepting) (hcounters : vault.counters.CanReset)
    {record : VaultRecord} (hvalid : record.validate = .ok ()) :
    ∃ w', vault.persist record none w = (.ok (), w') ∧ w'.store.Accepting := by
  obtain ⟨owns, howns⟩ := vault.ownsFlags_of_sound h.toSound
  obtain ⟨stored, hput, hstored⟩ := h.putRecord hvalid
  obtain ⟨described, hdescribe, hdescribed⟩ := describe_of_accepting hstored record
  -- Nothing is undone, since nothing fails.
  have hreset : ∀ u : World, u.store.Accepting → ∃ w',
      (tryCatch (vault.counters.reset record.publicKeyHex) fun e => do
        vault.rollBack owns
        throw e) u = (.ok (), w') ∧ w'.store.Accepting := by
    intro u hu
    obtain ⟨w', hran, hstore⟩ := hcounters.reset record.publicKeyHex u
    refine ⟨w', ?_, by rwa [hstore]⟩
    rw [run_tryCatch, hran]
  unfold persist
  rw [run_bind_of_ok howns, run_bind_of_ok (onStore_of_run hput)]
  dsimp only
  -- Flags that another vault has are left to it.
  cases owns with
  | false => exact hreset { w with store := stored } hstored
  | true =>
    have htaken := onStore_of_run (w := { w with store := stored }) hdescribe
    rw [if_pos rfl, run_bind, run_tryCatch, htaken]
    exact hreset { w with store := described } hdescribed

/-- From a valid draft a vault is made that is not there, without a legacy key to take over. -/
theorem create_of_draft {draft : Draft} {drafted : World} (migrates : Bool)
    (h : w.store.Accepting) (hcounters : vault.counters.CanReset)
    (habsent : w.store.recordText? vault.id = none)
    (hlegacy : migrates = true → w.store.flag? Flags.legacyPrivateKey = none)
    (hdraft : vault.draft none w = (.ok draft, drafted)) (hvalid : draft.record.validate = .ok ()) :
    ∃ stored, vault.persist draft.record none drafted = (.ok (), stored) ∧ stored.store.Accepting ∧
      let session := Session.ofBundle vault.id draft.record.credentialId draft.bundle stored.now
      vault.create migrates w =
        (.ok ⟨session, draft.method, false⟩, { stored with cache := stored.cache.set session }) := by
  have hcontains : onStore (StoreM.contains vault.id) w = (.ok false, w) := by
    have hlooked := onStore_of_run (w := w) (h.contains vault.id)
    rwa [habsent] at hlooked
  have hfind : (if migrates then LegacyKey.find else pure none : VaultM (Option LegacyKey)) w =
      (.ok none, w) := by
    cases migrates with
    | false => rfl
    | true =>
      have hflag := onStore_of_run (w := w) (h.getFlag Flags.legacyPrivateKey)
      rw [hlegacy rfl] at hflag
      exact run_bind_of_ok hflag
  have hpreserves : Preserves World.store (vault.draft none) :=
    Within.get.bind fun _ => preserves_onDevice (fun _ _ => rfl) _
  have hstore : drafted.store = w.store := hpreserves.of_run hdraft
  obtain ⟨stored, hpersist, haccepting⟩ :=
    persist_of_accepting (w := drafted) (by rw [hstore]; exact h) hcounters hvalid
  refine ⟨stored, hpersist, haccepting, ?_⟩
  rw [create_of_absent hcontains, run_bind_of_ok hfind]
  unfold createWith
  exact (run_bind_of_ok hdraft).trans (run_bind_of_ok hpersist)

/-- In a world that is ready a vault is made that is not there, without a legacy key to take over.
It has the credential and the private key that are drawn next, and the file of the authenticator is
replaced. -/
theorem create_of_ready (vault : Vault) (h : w.IsReady path) (hid : vault.id ≠ "")
    (hcounters : vault.counters = .absent) (habsent : w.store.recordText? vault.id = none)
    (hlegacy : w.store.flag? Flags.legacyPrivateKey = none) (migrates : Bool) :
    ∃ created w', vault.create migrates w = (.ok created, w') ∧
      created.session.primaryKey = w.device.host.random.nextPrivateKey ∧
      created.session.publicKeyHex = w.device.host.random.nextPrivateKey.publicKeyHex ∧
      created.session.credentialId = w.device.nextCredential ∧ created.method = .prf ∧
      w'.store.Writable ∧ ∃ credentials, VirtualAuthenticator.replaceFile path credentials
        w.device.host.files = (.ok (), w'.device.host.files) := by
  obtain ⟨draft, drafted, hdraft, hkey, hcredential, hmethod, hvalid, credentials, hreplace⟩ :=
    draft_of_ready h hid
  obtain ⟨stored, hpersist, haccepting, hcreate⟩ := create_of_draft migrates h.store.accepting
    (show vault.counters.CanReset by rw [hcounters]; trivial) habsent (fun _ => hlegacy) hdraft hvalid
  obtain ⟨hrun⟩ := draft_run hdraft
  have hdevice : stored.device = drafted.device := persist_device hrun.id_eq hpersist
  have hsetting := (frame_setting.create (fun _ _ => rfl) (fun _ _ => rfl) (fun _ _ => not_false)
    fun _ _ _ => not_false).of_run hcreate
  exact ⟨_, _, hcreate, hkey, congrArg Keys.PrivateKey.publicKeyHex hkey, hcredential, hmethod,
    h.store.of_accepting hsetting haccepting, credentials, hreplace.trans (by rw [← hdevice])⟩

/-! ## Deleting a vault -/

/-- From a store that accepts writes a vault is deleted. -/
theorem delete_of_accepting (vault : Vault) (h : w.store.Accepting) :
    ∃ w', vault.delete w = (.ok (), w') ∧ w'.store.Accepting := by
  obtain ⟨owns, howns⟩ := vault.ownsFlags_of_sound h.toSound
  obtain ⟨deleted, hdelete, hdeleted⟩ := h.deleteRecord vault.id
  obtain ⟨removed, hremove, hremoved⟩ := removeFlags_of_accepting hdeleted Flags.describing
  unfold delete
  rw [run_bind_of_ok howns, run_bind_of_ok (onStore_of_run hdelete)]
  cases owns with
  | false => exact ⟨_, rfl, hdeleted⟩
  | true =>
    let forgotten : World := { w with store := deleted, cache := (w.cache.clearVault vault.id).2 }
    refine ⟨{ forgotten with store := removed }, (run_bind_of_ok rfl).trans ?_, hremoved⟩
    rw [if_pos rfl, onStore_removeFlags]
    exact onStore_of_run (w := forgotten) hremove

/-- From a store that can be written to a vault is deleted. -/
theorem delete_of_writable (vault : Vault) (h : w.store.Writable) :
    ∃ w', vault.delete w = (.ok (), w') ∧ w'.store.Writable := by
  obtain ⟨w', hdelete, haccepting⟩ := vault.delete_of_accepting h.accepting
  have hsetting : w'.store.setting = w.store.setting :=
    frame_setting.delete_run (fun _ _ => rfl) (fun _ _ => not_false) hdelete
  exact ⟨w', hdelete, h.of_accepting hsetting haccepting⟩

/-! ## Opening a vault -/

/-- To derive the secret of a credential that is known leaves all that the authenticator keeps. -/
theorem kept_deriveSecret (rp : RelyingParty) (credential : CredentialId) (salt : Bytes)
    (options : DeriveOptions) (hpurpose : options.purpose = .unlock) :
    Within (Device.Lifts (Same VirtualAuthenticator.kept))
      (rp.deriveSecret credential salt options) := by
  have hread : Within (Device.Lifts (Same VirtualAuthenticator.kept))
      (Platform.readBlob rp.id credential) := by
    rw [Platform.readBlob_eq]
    exact Platform.within_perform (VirtualAuthenticator.preserves_look _ _ _ _ _) _ _
  refine RelyingParty.within_deriveSecret ?_ ?_ (fun henrollment => ?_)
    (RelyingParty.within_readSeed hread)
  · rw [Platform.evaluatePrf_eq]
    exact Platform.within_perform (VirtualAuthenticator.preserves_look _ _ _ _ _) _ _
  · rw [Platform.evaluateHmac_eq]
    exact Platform.within_perform (VirtualAuthenticator.preserves_look _ _ _ _ _) _ _
  · rw [hpurpose] at henrollment
    cases henrollment

/-- To open a vault leaves the files. -/
theorem unlock_files {authenticator : VirtualAuthenticator} {r : Except VaultError Session}
    (hplatform : w.device.platform = .virtual authenticator) (h : vault.unlock w = (r, w')) :
    w'.device.host.files = w.device.host.files := by
  have hwithin : Within (OnDevice (Device.Lifts (Same VirtualAuthenticator.kept))) vault.unlock :=
    within_unlock fun credential salt =>
      kept_deriveSecret vault.rp credential salt (vault.deriveOptions .unlock) rfl
  obtain ⟨after, -, hkept⟩ := hwithin.of_run h authenticator hplatform
  exact congrArg (·.2.2.2.files) hkept

end Vault

end CredentialVault
