import CredentialVault.Proofs.Vault.FlippedBit

/-!
# Capabilities that are gained

A vault is sealed with the secret of the first mechanism that its authenticator has when it is made
(`Vault.create_first`), and unlocked with that of the first one that there is then. An authenticator
that can do more unlocks it to the same keys, unless a mechanism was gained that is tried before
that of the making (`gainedCapability_opens`). Where one was gained, the record is opened with
another secret, and unlocking can fail (`gainedCapability_locksOut`).
-/

namespace CredentialVault

open Operation VaultM

/-- The place of a mechanism in the order in which they are tried. -/
def SecretMethod.rank : SecretMethod → Nat
  | prf => 0
  | hmacSecret => 1
  | largeBlob => 2

/-- A mechanism is known by its place. -/
theorem SecretMethod.rank_injective : Function.Injective rank := by
  intro method other h
  cases method <;> cases other <;> first | rfl | cases h

namespace Capabilities

/-- Whatever other capabilities allow is there, and possibly more. -/
structure Includes (capabilities other : Capabilities) : Prop where
  /-- There are credentials, if the others have them. -/
  isAvailable : other.isAvailable = true → capabilities.isAvailable = true
  /-- The mechanisms of the others are there. -/
  supports : ∀ method, other.supports method = true → capabilities.supports method = true

variable {capabilities other : Capabilities} {method : SecretMethod}

/-- What is tried before the first mechanism is not there. -/
theorem supports_of_rank {first : SecretMethod} (h : capabilities.first? = some first)
    (hrank : method.rank < first.rank) : capabilities.supports method = false := by
  obtain ⟨-, hnoPrf, hnoHmac⟩ := first?_eq_some.mp h
  cases method with
  | prf =>
    refine hnoPrf fun heq => ?_
    rw [heq] at hrank
    exact absurd hrank (Nat.lt_irrefl _)
  | hmacSecret =>
    cases first with
    | largeBlob => exact hnoHmac rfl
    | prf | hmacSecret => exact absurd hrank (by decide)
  | largeBlob => cases first <;> exact absurd hrank (by decide)

/-- Of more mechanisms the first one is tried no later. -/
theorem Includes.first? (h : capabilities.Includes other) (hfirst : other.first? = some method) :
    ∃ first, capabilities.first? = some first ∧ first.rank ≤ method.rank := by
  have hmethod : capabilities.supports method = true :=
    h.supports method (first?_eq_some.mp hfirst).1
  rcases hfound : capabilities.first? with _ | first
  · have hnone := List.find?_eq_none.mp hfound method (by cases method <;> decide)
    exact absurd hmethod hnone
  · refine ⟨first, rfl, Nat.le_of_not_lt fun hlt => ?_⟩
    rw [supports_of_rank hfound hlt] at hmethod
    cases hmethod

/-- Where no mechanism is gained that is tried before, the first one stays the first. -/
theorem Includes.first?_eq (h : capabilities.Includes other) (hfirst : other.first? = some method)
    (hnone : ∀ earlier : SecretMethod, earlier.rank < method.rank →
      capabilities.supports earlier = false) :
    capabilities.first? = some method := by
  obtain ⟨first, hfound, hrank⟩ := h.first? hfirst
  rcases Nat.lt_or_eq_of_le hrank with hlt | heq
  · have hthere := (first?_eq_some.mp hfound).1
    rw [hnone first hlt] at hthere
    cases hthere
  · rw [hfound, SecretMethod.rank_injective heq]

end Capabilities

/-- A mechanism that is tried before another one always yields a secret. -/
theorem StoredCredential.secretFor_of_rank {stored : StoredCredential} {salt : Bytes}
    {earlier method : SecretMethod} (h : earlier.rank < method.rank) :
    ∃ secret, stored.secretFor salt earlier = some secret := by
  cases earlier with
  | prf => exact ⟨_, rfl⟩
  | hmacSecret => exact ⟨_, rfl⟩
  | largeBlob => cases method <;> cases h <;> contradiction

/-- A credential is made only where there are credentials. -/
theorem RelyingParty.enroll_available {rp : RelyingParty} {credential : CredentialId} {d d' : Device}
    (h : rp.enroll d = (.ok credential, d')) : d.platform.isAvailable = true := by
  obtain ⟨_, _, hget, h₁⟩ := bind_ok h
  cases hget
  dsimp only at h₁
  split at h₁
  · cases h₁
  · next havailable => simpa using havailable

/-- A vault is made with the first mechanism that the authenticator has. -/
theorem Vault.create_first {vault : Vault} {migrates : Bool} {w start : World}
    {created : CreatedVault} {authenticator : VirtualAuthenticator}
    (hplatform : w.device.platform = .virtual authenticator)
    (h : vault.create migrates w = (.ok created, start)) :
    authenticator.capabilities.isAvailable = true ∧
      authenticator.capabilities.first? = some created.method := by
  cases create_run h with
  | @done legacy draft session ready kept _ _ _ hdraft hpersist hsession =>
    obtain ⟨hrun⟩ := hdraft
    have havailable := RelyingParty.enroll_available hrun.enroll_eq
    rw [hplatform] at havailable
    refine ⟨havailable, ?_⟩
    -- To make the credential does not change what the authenticator can do.
    obtain ⟨-, stored, hheld, -⟩ :=
      (RelyingParty.enroll_run hrun.enroll_eq).1 _ authenticator rfl hplatform
    have henroll := RelyingParty.within_enroll VirtualAuthenticator.ceremonySteps_setUpAlike vault.rp
    obtain ⟨enrolled, hafter, halike⟩ := henroll.of_run hrun.enroll_eq authenticator hplatform
    have hfirst :=
      RelyingParty.deriveSecret_first (hheld.withRandom hrun.salted) hrun.derive_eq
    have hsame : (hrun.enrolled.withRandom hrun.salted).first? = enrolled.capabilities.first? := by
      unfold Device.first?
      rw [Device.platform_withRandom, hafter]
    rw [hrun.method_eq, ← halike.capabilities, ← hsame, hfirst]

/-- A record is opened with the secret that is derived for it. -/
theorem Vault.unlock_of_derived {vault : Vault} {w : World} {text : String} {record : VaultRecord}
    {secret : DerivedSecret} (hlocked : w.cache.sessionOf vault.id = none)
    (hreads : (Fault.check .get vault.id w.store.faults).1 = none)
    (hrow : w.store.recordText? vault.id = some text)
    (hparse : VaultRecord.ofStored text = .ok record)
    (hderived : vault.derived record w = .ok secret) :
    (vault.unlock w).1 = (record.openWith vault.id secret.bytes).map
      (Session.ofBundle vault.id record.credentialId · w.now) := by
  rw [(unlock_of_record hlocked (.of_row hreads hrow) hrow hparse).1, hderived, ok_bind]
  cases record.openWith vault.id secret.bytes <;> rfl

/-- Gaining a capability locks a vault out only if the mechanism that is gained is tried before the
one with which the vault was made. After every history that spares the vault, with an authenticator
that can do what that of the making could and possibly more, and whose user agrees, the vault is
unlocked to the keys with which it was made, if no mechanism is there that is tried before that of
the making. If one is there, the record is opened with the secret of the first one, and unlocking
comes to what this comes to. -/
theorem gainedCapability_opens {vault : Vault} {migrates : Bool} {before start w : World}
    {created : CreatedVault} {authenticator gained : VirtualAuthenticator}
    (hplatform : before.device.platform = .virtual authenticator)
    (hallows : vault.allowsLargeBlob = true)
    (hcreate : vault.create migrates before = (.ok created, start))
    (hhistory : History vault created start w)
    (hgained : w.device.platform = .virtual gained)
    (hmore : gained.capabilities.Includes authenticator.capabilities)
    (happroved : gained.presence.next.1 = true)
    (hreads : (Fault.check .get vault.id w.store.faults).1 = none) :
    ((∀ earlier : SecretMethod, earlier.rank < created.method.rank →
        gained.capabilities.supports earlier = false) →
      ∃ session w', vault.unlock w = (.ok session, w') ∧ session.Agrees created.session) ∧
    ∀ earlier : SecretMethod, earlier.rank < created.method.rank →
      gained.capabilities.first? = some earlier → w.cache.sessionOf vault.id = none →
        ∃ text record secret, w.store.recordText? vault.id = some text ∧
          VaultRecord.ofStored text = .ok record ∧
          vault.derived record w = .ok ⟨earlier, secret⟩ ∧
          (vault.unlock w).1 = (record.openWith vault.id secret).map
            (Session.ofBundle vault.id record.credentialId · w.now) := by
  obtain ⟨hcould, hfirst⟩ := Vault.create_first hplatform hcreate
  obtain ⟨fixed, hstart⟩ := Vault.create_sealed hplatform hcreate
  have hkept := hhistory.kept hstart
  have havailable := hmore.isAvailable hcould
  constructor
  · intro hnone
    have hoffers : gained.Offers created.method :=
      ⟨havailable, happroved, hmore.first?_eq hfirst hnone⟩
    exact hkept.unlock_ok rfl rfl ⟨hreads, ⟨gained, hgained, hoffers⟩, fun _ => hallows⟩
  · intro earlier hrank hearlier hlocked
    obtain ⟨text, hrow, hparse⟩ := hkept.row
    -- The credential yields another secret, by the mechanism that was gained.
    obtain ⟨secret, hsecret⟩ : ∃ secret,
        fixed.stored.secretFor fixed.record.salt earlier = some secret :=
      StoredCredential.secretFor_of_rank hrank
    have hderived : vault.derived fixed.record w = .ok ⟨earlier, secret⟩ := by
      obtain ⟨authenticator', hplatform', hheld⟩ := hkept.held
      obtain rfl := Platform.virtual.inj (hgained.symm.trans hplatform')
      rw [← fixed.credentialId_eq] at hheld
      obtain ⟨device, hderive⟩ : ∃ device, vault.rp.deriveSecret fixed.record.credentialId
          fixed.record.salt (vault.deriveOptions .unlock) ⟨.virtual gained, w.device.host⟩ =
            (.ok ⟨earlier, secret⟩, device) :=
        RelyingParty.deriveSecret_of_offers ⟨havailable, happroved, hearlier⟩ hheld fixed.rpId_eq
          hsecret rfl fun _ => hallows
      unfold Vault.derived
      rw [show w.device = ⟨.virtual gained, w.device.host⟩ by rw [← hgained], hderive]
    exact ⟨text, fixed.record, secret, hrow, hparse, hderived,
      Vault.unlock_of_derived hlocked hreads hrow hparse hderived⟩

/-! ## A vault that was made with the keyed hash -/

/-- A world without vaults, whose authenticator has the keyed hash alone. -/
def World.hashing : World :=
  World.fresh.withAuthenticator (.fresh (.only .hmacSecret))

/-- The world in which the authenticator can do something else, and the session is forgotten. -/
def World.withCapabilities (w : World) (authenticator : VirtualAuthenticator)
    (capabilities : Capabilities) : World :=
  { w.withAuthenticator { authenticator with capabilities } with cache := .empty }

/-- What an authenticator can do belongs to the surroundings. -/
theorem World.surrounds_withCapabilities {w : World} {authenticator : VirtualAuthenticator}
    (h : w.device.platform = .virtual authenticator) (capabilities : Capabilities) :
    Surrounds w (w.withCapabilities authenticator capabilities) := by
  refine ⟨rfl, .inr rfl, rfl, fun authenticator' h' => ⟨_, rfl, ?_⟩⟩
  obtain rfl := Platform.virtual.inj (h.symm.trans h')
  exact ⟨rfl, rfl⟩

/-- With the keyed hash a vault is made, and the user goes on to agree. -/
theorem Vault.create_hashing :
    ∃ created made authenticator,
      (Vault.ofId "first").create false .hashing = (.ok created, made) ∧
      created.method = .hmacSecret ∧ (Fault.check .get "first" made.store.faults).1 = none ∧
      made.device.authenticator? = some authenticator ∧
      authenticator.capabilities = .only .hmacSecret ∧ authenticator.presence.next.1 = true := by
  have hmade : ((Vault.ofId "first").create false .hashing).1.toOption.map (·.method) =
      some .hmacSecret ∧
      (Fault.check .get "first"
        ((Vault.ofId "first").create false .hashing).2.store.faults).1 = none ∧
      ((Vault.ofId "first").create false .hashing).2.device.authenticator?.map
        (fun authenticator => (authenticator.capabilities, authenticator.presence.next.1)) =
        some (.only .hmacSecret, true) := by decide +kernel
  rcases hcreate : (Vault.ofId "first").create false .hashing with ⟨e | created, made⟩ <;>
    rw [hcreate] at hmade
  · cases hmade.1
  obtain ⟨hmethod, hreads, hset⟩ := hmade
  obtain ⟨authenticator, hauthenticator, hset⟩ := Option.map_eq_some_iff.mp hset
  obtain ⟨hcapabilities, happroved⟩ := Prod.mk.inj hset
  exact ⟨created, made, authenticator, rfl, Option.some.inj hmethod, hreads, hauthenticator,
    hcapabilities, happroved⟩

/-- A vault that was made with the keyed hash is unlocked when storage is gained; when the
pseudo-random function is gained, its record is opened with the secret of that. -/
theorem gainedCapability_opens_hashing :
    ∃ (created : CreatedVault) (made : World) (authenticator : VirtualAuthenticator)
      (session : Session) (w' : World) (record : VaultRecord) (secret : Bytes),
      (Vault.ofId "first").create false .hashing = (.ok created, made) ∧
      (Vault.ofId "first").unlock
        (made.withCapabilities authenticator ⟨true, false, true, true⟩) = (.ok session, w') ∧
      session.Agrees created.session ∧
      ((Vault.ofId "first").unlock (made.withCapabilities authenticator .full)).1 =
        (record.openWith "first" secret).map
          (Session.ofBundle "first" record.credentialId · made.now) := by
  obtain ⟨created, made, authenticator, hcreate, hmethod, hreads, hauthenticator, hcapabilities,
    happroved⟩ := Vault.create_hashing
  have hplatform := Device.platform_of_authenticator? hauthenticator
  have hmore : ∀ prf, Capabilities.Includes ⟨true, prf, true, true⟩ (.only .hmacSecret) := fun _ =>
    ⟨fun _ => rfl, fun method hmethod => by cases method <;> first | rfl | cases hmethod⟩
  have hopens : ∀ prf, _ := fun prf => gainedCapability_opens rfl rfl hcreate
    (.surround .start (World.surrounds_withCapabilities hplatform ⟨true, prf, true, true⟩)) rfl
    (hmore prf) happroved hreads
  obtain ⟨session, w', hunlock, hagrees⟩ := (hopens false).1 fun earlier hrank => by
    rw [hmethod] at hrank
    cases earlier <;> first | rfl | exact absurd hrank (by decide)
  obtain ⟨text, record, secret, -, -, -, hopened⟩ :=
    (hopens true).2 .prf (hmethod ▸ by decide) rfl rfl
  exact ⟨created, made, authenticator, session, w', record, secret, hcreate, hunlock, hagrees, hopened⟩

/-- A vault that was made with the keyed hash is locked out when the pseudo-random function is
gained: the credentials, the store and the user stay, and unlocking fails. -/
theorem gainedCapability_locksOut :
    ∃ (created : CreatedVault) (made : World) (authenticator : VirtualAuthenticator) (e : VaultError),
      (Vault.ofId "first").create false .hashing = (.ok created, made) ∧
      made.device.platform = .virtual authenticator ∧
      authenticator.capabilities = .only .hmacSecret ∧ authenticator.presence.next.1 = true ∧
      Capabilities.full.Includes authenticator.capabilities ∧
      Surrounds made (made.withCapabilities authenticator .full) ∧
      ((Vault.ofId "first").unlock (made.withCapabilities authenticator .full)).1 = .error e := by
  obtain ⟨created, made, authenticator, hcreate, hmethod, hreads, hauthenticator, hcapabilities,
    happroved⟩ := Vault.create_hashing
  have hplatform := Device.platform_of_authenticator? hauthenticator
  have hsurrounds := World.surrounds_withCapabilities hplatform .full
  have hincludes : Capabilities.full.Includes authenticator.capabilities :=
    ⟨fun _ => rfl, fun method _ => by cases method <;> rfl⟩
  -- The record is that of the draft, and opens under the key of the keyed hash.
  obtain ⟨fixed, hkept⟩ := Vault.create_sealed rfl hcreate
  have hlook : onStore (StoreM.contains "first") World.hashing = (.ok false, .hashing) := rfl
  have hwith : (Vault.ofId "first").createWith none .hashing = (.ok created, made) :=
    (@Vault.create_of_absent (.ofId "first") false _ _ hlook).symm.trans hcreate
  obtain ⟨draft, text, hdraft, hrow, hparse⟩ := Vault.createWith_record hwith
  obtain ⟨text', hrow', hparse'⟩ := hkept.row
  obtain rfl := Option.some.inj (hrow.symm.trans hrow')
  have hrecord : draft.record = fixed.record := Except.ok.inj (hparse.symm.trans hparse')
  have hoffers : authenticator.Offers created.method := by
    rw [hmethod]
    exact ⟨by rw [hcapabilities]; rfl, happroved, by rw [hcapabilities]; rfl⟩
  have hready : (Vault.ofId "first").CanUnlock created.method made :=
    ⟨hreads, ⟨authenticator, hplatform, hoffers⟩, fun _ => rfl⟩
  obtain ⟨device, hderive⟩ := hkept.deriveSecret_ok rfl hready
  have hmade : (Vault.ofId "first").derived draft.record made = .ok ⟨created.method, fixed.secret⟩ :=
    hrecord ▸ congrArg Prod.fst hderive
  -- The key streams under the two keys begin with different bytes.
  have hcomputed : ((Vault.ofId "first").draft none .hashing).1.toOption.any (fun draft =>
      ((Vault.ofId "first").create false .hashing).2.device.authenticator?.any fun authenticator =>
      ((Vault.ofId "first").derived draft.record
        ((Vault.ofId "first").create false .hashing).2).toOption.any fun secret =>
      ((Vault.ofId "first").derived draft.record
        (((Vault.ofId "first").create false .hashing).2.withCapabilities authenticator
          .full)).toOption.any fun gained =>
      (Keys.sealingKey secret.bytes draft.record.salt).toOption.any fun key =>
      (Keys.sealingKey gained.bytes draft.record.salt).toOption.any fun other =>
        Gcm.firstKeyByte key draft.record.envelope.iv ^^^
          Gcm.firstKeyByte other draft.record.envelope.iv = 106) = true := by
    decide +kernel
  rw [hcreate] at hcomputed
  obtain ⟨draft', hdraft', hcomputed⟩ := ok_of_any hcomputed
  obtain rfl := Except.ok.inj (hdraft.symm.trans hdraft')
  rw [hauthenticator, Option.any_some] at hcomputed
  obtain ⟨secret, hsecret, hcomputed⟩ := ok_of_any hcomputed
  obtain rfl := Except.ok.inj (hmade.symm.trans hsecret)
  obtain ⟨gained, hgained, hcomputed⟩ := ok_of_any hcomputed
  obtain ⟨key, hkey, hcomputed⟩ := ok_of_any hcomputed
  obtain ⟨other, hother, hcomputed⟩ := ok_of_any hcomputed
  have hbyte := of_decide_eq_true hcomputed
  rw [hrecord] at hkey
  obtain rfl := Except.ok.inj (hkey.symm.trans fixed.sealing_eq)
  have hopened := Vault.unlock_of_derived (w := made.withCapabilities authenticator .full) rfl hreads
    hrow hparse hgained
  rcases hopen : SecretBundle.openFor other (Vault.ofId "first").id draft.record.envelope with
    e | bundle
  · rw [VaultRecord.openWith_error hother hopen] at hopened
    exact ⟨created, made, authenticator, e, hcreate, hplatform, hcapabilities, happroved, hincludes,
      hsurrounds, hopened⟩
  · rw [hrecord] at hopen hbyte
    obtain ⟨first, hfirst, hsum⟩ := SecretBundle.openFor_two fixed.open_eq hopen
    rw [UInt8.xor_assoc, hbyte] at hsum
    rcases Json.beginsFields_cases hfirst with rfl | rfl | rfl | rfl | rfl | rfl <;> cases hsum

end CredentialVault
