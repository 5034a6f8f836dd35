import CredentialVault.Proofs.Credential.Device
import CredentialVault.Proofs.Vault.Persist

/-!
# Making a vault, step by step

`create_run` says in which ways the making of a vault can end: it fails before anything is stored,
or it fails while the record is stored, or it succeeds and the cache gets the session. `draft_run`
says how the record comes about on the device. To other vaults the making of a vault is nothing
(`Frame.create`).
-/

namespace CredentialVault

open Operation VaultM

variable {γ : Type} {view : World → γ} {writes : StoreWrite → Prop}

namespace Vault

/-! ## Drafts -/

/-- How a draft comes about on a device: a credential is made, a salt is drawn, the secret of the
credential is derived, and the bundle is sealed under the key of both. What is drawn changes the
source of random bytes alone. -/
structure DraftRun (vault : Vault) (key : Option Keys.PrivateKey) (before after : Device)
    (draft : Draft) where
  /-- The device with the new credential. -/
  enrolled : Device
  /-- The source of random bytes after the salt was drawn. -/
  salted : RandomStream
  /-- The device after the secret was derived. -/
  derived : Device
  /-- The secret. -/
  secret : DerivedSecret
  /-- The sealing key. -/
  sealing : Bytes
  /-- The source of random bytes from which the bundle is sealed. -/
  random : RandomStream
  /-- The source of random bytes after the bundle was sealed. -/
  last : RandomStream
  /-- The credential of the record was made. -/
  enroll_eq : vault.rp.enroll before = (.ok draft.record.credentialId, enrolled)
  /-- The secret is that of the credential, for the salt of the record. -/
  derive_eq : vault.rp.deriveSecret draft.record.credentialId draft.record.salt
    (vault.deriveOptions .enrollment) (enrolled.withRandom salted) = (.ok secret, derived)
  /-- The sealing key is that of the secret. -/
  sealing_eq : Keys.sealingKey secret.bytes draft.record.salt = .ok sealing
  /-- The envelope of the record is the sealed bundle. -/
  seal_eq : draft.bundle.sealFor sealing vault.id random = (.ok draft.record.envelope, last)
  /-- The mechanism is that of the secret. -/
  method_eq : draft.method = secret.method
  /-- The record has the id of the vault. -/
  id_eq : draft.record.id = vault.id
  /-- The record has the public key of the bundle. -/
  publicKeyHex_eq : draft.record.publicKeyHex = draft.bundle.publicKeyHex
  /-- A given private key is taken over. -/
  primaryKey_eq : ∀ k, key = some k → draft.bundle.primaryKey = k
  /-- After the secret was derived, only the source of random bytes changes. -/
  after_eq : after = derived.withRandom last

/-- A draft writes nothing. -/
theorem unwritten_of_draft {vault : Vault} {key : Option Keys.PrivateKey} {w w' : World}
    {r : Except VaultError Draft} (h : vault.draft key w = (r, w')) : Unwritten w w' := by
  have hkept : Preserves World.kept (vault.draft key) :=
    Within.get.bind fun _ => preserves_onDevice (fun _ _ => rfl) _
  exact hkept.of_run h

/-- To seal a bundle changes the source of random bytes alone. -/
theorem sealOn_run {bundle : SecretBundle} {key : Bytes} {vaultId : String} {d d' : Device}
    {r : Except VaultError Envelope} (h : bundle.sealOn key vaultId d = (r, d')) :
    ∃ random, bundle.sealFor key vaultId d.host.random = (r, random) ∧ d' = d.withRandom random := by
  obtain ⟨rfl, rfl⟩ := Prod.mk.inj h
  exact ⟨_, rfl, rfl⟩

/-- The end of a draft: the second key is drawn, and the bundle is sealed. -/
def finishDraft (vault : Vault) (now : Instant) (credentialId : CredentialId) (salt : Bytes)
    (secret : DerivedSecret) (primaryKey : Keys.PrivateKey) : DeviceM Draft := do
  let secondaryKey ← DeviceM.drawPrivateKey
  let bundle : SecretBundle := ⟨primaryKey, secondaryKey⟩
  let key ← DeviceM.ofExcept (Keys.sealingKey secret.bytes salt)
  let envelope ← bundle.sealOn key vault.id
  return {
    record := {
      id := vault.id
      version := VaultRecord.currentVersion
      credentialId
      salt
      envelope
      publicKeyHex := bundle.publicKeyHex
      createdAtMs := Int64.ofInt now.ms
      updatedAtMs := Int64.ofInt now.ms }
    bundle
    method := secret.method }

/-- The end of a draft draws what the sealing needs, and changes nothing else of the device. -/
theorem finishDraft_run {vault : Vault} {credentialId : CredentialId} {salt : Bytes}
    {secret : DerivedSecret} {primaryKey : Keys.PrivateKey} {now : Instant} {before after : Device}
    {draft : Draft}
    (h : vault.finishDraft now credentialId salt secret primaryKey before = (.ok draft, after)) :
    ∃ sealing random last, draft.bundle.primaryKey = primaryKey ∧
      draft.record.credentialId = credentialId ∧ draft.record.salt = salt ∧
      draft.record.id = vault.id ∧ draft.record.publicKeyHex = draft.bundle.publicKeyHex ∧
      draft.method = secret.method ∧ Keys.sealingKey secret.bytes salt = .ok sealing ∧
      draft.bundle.sealFor sealing vault.id random = (.ok draft.record.envelope, last) ∧
      after = before.withRandom last := by
  obtain ⟨secondaryKey, d₁, hsecondary, h₁⟩ := bind_ok h
  obtain ⟨_, random, -, rfl⟩ := DeviceM.drawPrivateKey_run hsecondary
  obtain ⟨sealing, d₂, hsealing, h₂⟩ := bind_ok h₁
  obtain ⟨hkey, rfl⟩ := DeviceM.ofExcept_run hsealing
  obtain ⟨envelope, d₃, hseal, h₃⟩ := bind_ok h₂
  obtain ⟨last, hsealed, rfl⟩ := sealOn_run hseal
  cases h₃
  exact ⟨sealing, _, _, rfl, rfl, rfl, rfl, rfl, rfl, hkey.symm, hsealed, rfl⟩

/-- A draft comes about in this way. -/
theorem draft_run {vault : Vault} {key : Option Keys.PrivateKey} {w w' : World} {draft : Draft}
    (h : vault.draft key w = (.ok draft, w')) :
    Nonempty (DraftRun vault key w.device w'.device draft) := by
  obtain ⟨_, _, hget, h₁⟩ := bind_ok h
  cases hget
  obtain ⟨device, hdevice, rfl⟩ := onDevice_run h₁
  obtain ⟨credentialId, d₁, henroll, h₂⟩ := bind_ok hdevice
  obtain ⟨salt, d₂, hsalt, h₃⟩ := bind_ok h₂
  obtain ⟨_, salted, -, rfl⟩ := DeviceM.drawBytes_run hsalt
  obtain ⟨secret, d₃, hderive, h₄⟩ := bind_ok h₃
  dsimp only at h₄
  -- A given private key is taken over, and without one a key is drawn.
  have hend : ∃ sealing random last, (∀ k, key = some k → draft.bundle.primaryKey = k) ∧
      draft.record.credentialId = credentialId ∧ draft.record.salt = salt ∧
      draft.record.id = vault.id ∧ draft.record.publicKeyHex = draft.bundle.publicKeyHex ∧
      draft.method = secret.method ∧ Keys.sealingKey secret.bytes salt = .ok sealing ∧
      draft.bundle.sealFor sealing vault.id random = (.ok draft.record.envelope, last) ∧
      device = d₃.withRandom last := by
    cases key with
    | some k =>
      obtain ⟨_, d₄, hpure, h₅⟩ := bind_ok h₄
      cases hpure
      obtain ⟨sealing, random, last, hprimary, hrest⟩ := finishDraft_run h₅
      exact ⟨sealing, random, last, fun _ hk => hprimary.trans (Option.some.inj hk), hrest⟩
    | none =>
      obtain ⟨_, d₄, hprimary, h₅⟩ := bind_ok h₄
      obtain ⟨_, random, -, rfl⟩ := DeviceM.drawPrivateKey_run hprimary
      obtain ⟨sealing, random, last, -, hrest⟩ := finishDraft_run h₅
      exact ⟨sealing, random, last, nofun, hrest⟩
  obtain ⟨sealing, random, last, hprimary, rfl, rfl, hid, hkey, hmethod, hsealing, hseal, hafter⟩ :=
    hend
  exact ⟨⟨d₁, salted, d₃, secret, sealing, random, last, henroll, hderive, hsealing, hseal, hmethod,
    hid, hkey, hprimary, hafter⟩⟩

/-! ## Making a vault -/

/-- The ways in which the making of a vault can end. -/
inductive CreateRun (vault : Vault) (migrates : Bool) (w : World) :
    Except VaultError CreatedVault → World → Prop where
  /-- Nothing is stored. -/
  | undrafted {e : VaultError} {w' : World} (hsame : Unwritten w w') :
    CreateRun vault migrates w (.error e) w'
  /-- The storing fails. -/
  | unstored {legacy : Option LegacyKey} {draft : Draft} {e : VaultError} {ready w' : World}
    (habsent : w.store.recordText? vault.id = none)
    (hlegacy : if migrates then LegacyKey.FoundIn w.store legacy else legacy = none)
    (hready : Unwritten w ready)
    (hdraft : Nonempty (DraftRun vault (legacy.map (·.privateKey)) w.device ready.device draft))
    (hpersist : vault.persist draft.record legacy ready = (.error e, w')) :
    CreateRun vault migrates w (.error e) w'
  /-- The vault is stored, and its session is in the cache. -/
  | done {legacy : Option LegacyKey} {draft : Draft} {session : Session} {ready stored : World}
    (habsent : w.store.recordText? vault.id = none)
    (hlegacy : if migrates then LegacyKey.FoundIn w.store legacy else legacy = none)
    (hready : Unwritten w ready)
    (hdraft : Nonempty (DraftRun vault (legacy.map (·.privateKey)) w.device ready.device draft))
    (hpersist : vault.persist draft.record legacy ready = (.ok (), stored))
    (hsession : session =
      Session.ofBundle vault.id draft.record.credentialId draft.bundle stored.now) :
    CreateRun vault migrates w (.ok ⟨session, draft.method, legacy.isSome⟩)
      { stored with cache := stored.cache.set session }

/-- The making of a vault, once it is known which legacy key it takes over. -/
def createWith (vault : Vault) (legacy : Option LegacyKey) : VaultM CreatedVault := do
  let draft ← vault.draft (legacy.map (·.privateKey))
  vault.persist draft.record legacy
  let session := Session.ofBundle vault.id draft.record.credentialId draft.bundle (← get).now
  VaultM.onCache (·.set session)
  return ⟨session, draft.method, legacy.isSome⟩

/-- A vault that is not there is made with the legacy key that is looked for. -/
theorem create_of_absent {vault : Vault} {migrates : Bool} {w u : World}
    (h : onStore (StoreM.contains vault.id) w = (.ok false, u)) :
    vault.create migrates w =
      ((if migrates then LegacyKey.find else pure none) >>= vault.createWith) u := by
  unfold create
  rw [run_bind_of_ok h, if_neg Bool.false_ne_true]
  cases migrates <;> rfl

/-- The making of a vault with a given legacy key ends in one of these ways. -/
theorem createWith_run {vault : Vault} {migrates : Bool} {legacy : Option LegacyKey} {w u w' : World}
    {r : Except VaultError CreatedVault} (habsent : w.store.recordText? vault.id = none)
    (hlegacy : if migrates then LegacyKey.FoundIn w.store legacy else legacy = none)
    (hsame : Unwritten w u) (hdevice : u.device = w.device)
    (h : vault.createWith legacy u = (r, w')) : CreateRun vault migrates w r w' := by
  unfold createWith at h
  rcases bind_cases h with ⟨e, rfl, hdraft⟩ | ⟨draft, ready, hdraft, h₁⟩
  · exact .undrafted (hsame.trans (unwritten_of_draft hdraft))
  have hready : Unwritten w ready := hsame.trans (unwritten_of_draft hdraft)
  have hrun := draft_run hdraft
  rw [hdevice] at hrun
  rcases bind_cases h₁ with ⟨e, rfl, hpersist⟩ | ⟨_, stored, hpersist, h₂⟩
  · exact .unstored habsent hlegacy hready hrun hpersist
  · cases h₂
    exact .done habsent hlegacy hready hrun hpersist rfl

/-- The making of a vault ends in one of these ways. -/
theorem create_run {vault : Vault} {migrates : Bool} {w w' : World}
    {r : Except VaultError CreatedVault} (h : vault.create migrates w = (r, w')) :
    CreateRun vault migrates w r w' := by
  rcases bind_cases h with ⟨e, rfl, hcontains⟩ | ⟨found, w₁, hcontains, h₁⟩
  · exact .undrafted (.of_contains hcontains)
  have hsame := Unwritten.of_contains hcontains
  have hdevice : w₁.device = w.device := (preserves_contains (fun _ _ => rfl) _).of_run hcontains
  obtain ⟨store, hfound, rfl⟩ := onStore_run hcontains
  have hfound := StoreM.contains_ok hfound
  dsimp only at h₁
  -- A vault that is there is not made again.
  by_cases hthere : found = true
  · rw [if_pos hthere] at h₁
    cases h₁
    exact .undrafted hsame
  rw [if_neg hthere] at h₁
  have habsent : w.store.recordText? vault.id = none := by simpa [hfound] using hthere
  split at h₁
  · next hmigrates =>
    rcases bind_cases h₁ with ⟨e, rfl, hfind⟩ | ⟨legacy, w₂, hfind, h₂⟩
    · exact .undrafted (hsame.trans (LegacyKey.unwritten_of_find hfind))
    · have hlegacy := (LegacyKey.find_ok hfind).congr hsame.content.symm
      have hsame₂ := LegacyKey.unwritten_of_find hfind
      have hdevice₂ : w₂.device = _ := (LegacyKey.preserves_find fun _ _ => rfl).of_run hfind
      exact createWith_run habsent (by rwa [if_pos hmigrates]) (hsame.trans hsame₂)
        (hdevice₂.trans hdevice) h₂
  · next hmigrates =>
    rcases bind_cases h₁ with ⟨e, -, hpure⟩ | ⟨legacy, w₂, hpure, h₂⟩ <;> cases hpure
    exact createWith_run habsent (by rw [if_neg hmigrates]) hsame hdevice h₂

end Vault

/-- To a frame that sees neither the device nor the cache, and no writes on behalf of the vault, the
making of a vault is nothing, unless it sees a migration that is made. -/
theorem Frame.create (h : Frame writes view) {vault : Vault} {migrates : Bool}
    (hdevice : ∀ w device, view { w with device } = view w)
    (hcache : ∀ w cache, view { w with cache } = view w)
    (hmiss : ∀ write, VaultWrite vault.id write → ¬writes write)
    (hmigration : migrates → ∀ write, MigrationWrite write → ¬writes write) :
    Preserves view (vault.create migrates) := by
  have hunwritten : ∀ {u v : World}, Unwritten u v → view v = view u := fun hsame =>
    h.of_unwritten hdevice hsame
  have hpersist : ∀ {legacy : Option LegacyKey} {draft : Vault.Draft} {u v w : World}
      {r : Except VaultError Unit}, Nonempty (Vault.DraftRun vault (legacy.map (·.privateKey))
        w.device u.device draft) →
      (if migrates then LegacyKey.FoundIn w.store legacy else legacy = none) →
      vault.persist draft.record legacy u = (r, v) → view v = view u := by
    rintro legacy draft u v w r ⟨hdraft⟩ hlegacy hrun
    refine (h.persist hmiss (fun hsome => hmigration ?_) hdraft.id_eq).of_run hrun
    -- There is a legacy key only if the vault migrates.
    refine Classical.byContradiction fun hnot => ?_
    rw [if_neg hnot] at hlegacy
    rw [hlegacy] at hsome
    cases hsome
  intro w
  rcases hrun : vault.create migrates w with ⟨r, w'⟩
  cases Vault.create_run hrun with
  | undrafted hsame => exact hunwritten hsame
  | unstored _ hlegacy hready hdraft hstored =>
    exact (hpersist hdraft hlegacy hstored).trans (hunwritten hready)
  | done _ hlegacy hready hdraft hstored =>
    exact (hcache _ _).trans ((hpersist hdraft hlegacy hstored).trans (hunwritten hready))

end CredentialVault
