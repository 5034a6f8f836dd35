import CredentialVault.Proofs.Store.Open
import CredentialVault.Proofs.Vault.Bundle
import CredentialVault.Proofs.Vault.Held

/-!
# Sealed keys survive

A vault that was made can be unlocked to the same keys after any history that spares it
(`sealedKeys_survive`). In a `History` vaults of other ids are made, unlocked, locked and deleted,
the vault itself is locked and unlocked, and the store and the authenticator are opened again.

What carries the proof is `Sealed.Kept`: the row of the vault reads as its record, the device holds
its credential, and a session of the vault that is in the cache has its keys. Each step keeps it,
and where it holds the vault can be unlocked.
-/

namespace CredentialVault

open Operation VaultM

/-- Two sessions have the same keys and the same credential. -/
structure Session.Agrees (session other : Session) : Prop where
  /-- The private key that signs is the same. -/
  primaryKey : session.primaryKey = other.primaryKey
  /-- The key of the companion system is the same. -/
  secondaryKey : session.secondaryKey = other.secondaryKey
  /-- The public key is the same. -/
  publicKeyHex : session.publicKeyHex = other.publicKeyHex
  /-- The credential is the same. -/
  credentialId : session.credentialId = other.credentialId

/-! ## Histories -/

/-- An operation of some vault spares a vault that was made. -/
structure Spares (vault : Vault) (created : CreatedVault) (w : World) (other : Vault)
    (operation : VaultOperation) : Prop where
  /-- The vault is not deleted. -/
  undeleted : operation = .delete → other.id ≠ vault.id
  /-- No other credential is made with the name of its own. -/
  unnamed : ∀ migrates, operation = .create migrates → w.store.recordText? other.id = none →
    w.device.nextCredential ≠ created.session.credentialId
  /-- When the vault is unlocked, it is by the mechanism with which it was made. With another one the
  envelope would have to open under another key. -/
  sameMethod : operation = .unlock → other.id = vault.id →
    w.device.first? = some created.method ∨ ∃ e, (other.unlock w).1 = .error e

/-- The surroundings of vaults change: the time, the faults of the store and of the files, the
source of random bytes, what the authenticator can do and how its user answers. The content of the
store stays, and so do the files and the credentials; a session stays or is forgotten. -/
structure Surrounds (w w' : World) : Prop where
  /-- The content of the store stays. -/
  content : w'.store.content = w.store.content
  /-- The session stays or is forgotten. -/
  slot : w'.cache.slot = w.cache.slot ∨ w'.cache.slot = none
  /-- The files stay. -/
  nodes : w'.device.host.files.nodes = w.device.host.files.nodes
  /-- The credentials and the path of their file stay. -/
  platform : ∀ authenticator, w.device.platform = .virtual authenticator →
    ∃ authenticator', w'.device.platform = .virtual authenticator' ∧
      authenticator'.credentials = authenticator.credentials ∧
        authenticator'.path = authenticator.path

/-- The world with another store, after the files changed. -/
def World.withStore (w : World) (store : Store) (files : Files) : World :=
  { w with store, device := { w.device with host := { w.device.host with files } } }

/-- The world with another authenticator. -/
def World.withAuthenticator (w : World) (authenticator : VirtualAuthenticator) : World :=
  { w with device := { w.device with platform := .virtual authenticator } }

/-- The worlds to which histories lead that spare a vault, after it was made. -/
inductive History (vault : Vault) (created : CreatedVault) (start : World) : World → Prop where
  /-- Nothing happens. -/
  | start : History vault created start start
  /-- Some vault does an operation. -/
  | operate {w : World} (h : History vault created start w) (other : Vault)
    (operation : VaultOperation) (hspares : Spares vault created w other operation) :
    History vault created start (operation.after other w)
  /-- The surroundings change. -/
  | surround {w w' : World} (h : History vault created start w) (hsurrounds : Surrounds w w') :
    History vault created start w'
  /-- The store is opened again, whose file can be opened. -/
  | reopenStore {w : World} {directory : String} {content : Database} {store : Store}
    {files : Files} (h : History vault created start w)
    (hpath : w.store.path? = some (Files.join directory Store.fileName))
    (hfile : w.device.host.files.openDatabase (Files.join directory Store.fileName) =
      .content content)
    (hopen : Store.openAt directory (w.store.save w.device.host.files) = (.ok store, files)) :
    History vault created start (w.withStore store files)
  /-- The authenticator is opened again. -/
  | reopenAuthenticator {w : World} {authenticator reopened : VirtualAuthenticator} {path : String}
    {capabilities : Capabilities} (h : History vault created start w)
    (hplatform : w.device.platform = .virtual authenticator)
    (hpath : authenticator.path = some path)
    (hopen : VirtualAuthenticator.openAt path capabilities w.device.host.files = .ok reopened) :
    History vault created start (w.withAuthenticator reopened)

/-! ## What is kept -/

/-- What the making of a vault fixes: its record and its credential, the secret of the credential,
the key that is derived from it, and the bundle that opens under this key. -/
structure Sealed (vault : Vault) (created : CreatedVault) where
  /-- The record of the vault. -/
  record : VaultRecord
  /-- The credential of the vault, as it is stored. -/
  stored : StoredCredential
  /-- The secret of the credential. -/
  secret : Bytes
  /-- The sealing key. -/
  sealing : Bytes
  /-- The keys of the vault. -/
  bundle : SecretBundle
  /-- The record names the credential. -/
  credentialId_eq : record.credentialId = created.session.credentialId
  /-- The credential belongs to the party of the vault. -/
  rpId_eq : stored.rpId = vault.rp.id
  /-- The credential yields the secret. -/
  secretFor_eq : stored.secretFor record.salt created.method = some secret
  /-- The key is derived from the secret. -/
  sealing_eq : Keys.sealingKey secret record.salt = .ok sealing
  /-- The envelope opens under the key. -/
  open_eq : SecretBundle.openFor sealing vault.id record.envelope = .ok bundle
  /-- The record has the public key. -/
  publicKeyHex_eq : bundle.publicKeyHex = record.publicKeyHex
  /-- A session of the bundle has the keys of the first session. -/
  agrees : ∀ now,
    (Session.ofBundle vault.id record.credentialId bundle now).Agrees created.session

/-- In a world, what the making of a vault fixed is kept. -/
structure Sealed.Kept {vault : Vault} {created : CreatedVault} (fixed : Sealed vault created)
    (w : World) : Prop where
  /-- The row of the vault reads as its record. -/
  row : ∃ text, w.store.recordText? vault.id = some text ∧
    VaultRecord.ofStored text = .ok fixed.record
  /-- The device holds the credential. -/
  held : w.device.Holds created.session.credentialId.text fixed.stored
  /-- A session of the vault has its keys. -/
  session : ∀ session, w.cache.sessionOf vault.id = some session → session.Agrees created.session

/-- What the making of a vault on a virtual authenticator fixes is kept at first. -/
theorem Vault.create_sealed {vault : Vault} {migrates : Bool} {w start : World}
    {created : CreatedVault} {authenticator : VirtualAuthenticator}
    (hplatform : w.device.platform = .virtual authenticator)
    (h : vault.create migrates w = (.ok created, start)) :
    ∃ fixed : Sealed vault created, fixed.Kept start := by
  cases create_run h with
  | @done legacy draft session ready kept _ _ _ hdraft hpersist hsession =>
    obtain ⟨hrun⟩ := hdraft
    -- The credential is held from its making on, and with it the secret that is derived.
    obtain ⟨-, enrolled, hheld, -⟩ :=
      (RelyingParty.enroll_run hrun.enroll_eq).1 _ authenticator rfl hplatform
    obtain ⟨stored, hheld, hrp, hsecret⟩ := RelyingParty.deriveSecret_enrollment rfl
      (hheld.withRandom hrun.salted) hrun.derive_eq
    -- The record is stored, and reads as it was written.
    obtain ⟨hvalid, hrow⟩ := persist_ok hpersist
    rw [hrun.id_eq] at hrow
    have hname : draft.record.credentialId = session.credentialId := by
      rw [hsession]
      rfl
    have hkept : kept.device.Holds session.credentialId.text stored := by
      rw [← hname, persist_device hrun.id_eq hpersist, hrun.after_eq]
      exact hheld.withRandom _
    have hagrees : ∀ now, (Session.ofBundle vault.id draft.record.credentialId draft.bundle
        now).Agrees session := fun now => hsession ▸ ⟨rfl, rfl, rfl, rfl⟩
    rw [← hrun.method_eq] at hsecret
    refine ⟨⟨draft.record, stored, hrun.secret.bytes, hrun.sealing, draft.bundle, hname, hrp, hsecret,
      hrun.sealing_eq, SecretBundle.openFor_sealFor hrun.seal_eq, hrun.publicKeyHex_eq.symm,
      hagrees⟩, ⟨_, hrow, VaultRecord.ofStored_toStored hvalid⟩, hkept, fun found hfound => ?_⟩
    obtain ⟨rfl, -⟩ := SessionCache.sessionOf_set hfound
    exact ⟨rfl, rfl, rfl, rfl⟩

/-- An operation leaves a row that is there, unless it deletes it. -/
theorem Vault.recordText?_after {other : Vault} {operation : VaultOperation} {w : World} {id : String}
    (hthere : w.store.recordText? id ≠ none) (hdelete : operation = .delete → other.id ≠ id) :
    (operation.after other w).store.recordText? id = w.store.recordText? id := by
  cases operation with
  | create migrates =>
    by_cases hid : id = other.id
    · -- A vault that is there is not made again.
      subst hid
      rcases hrun : other.create migrates w with ⟨r, w'⟩
      show (other.create migrates w).2.store.recordText? other.id = _
      rw [hrun]
      cases create_run hrun with
      | undrafted hsame => exact hsame.recordText? _
      | unstored habsent => exact absurd habsent hthere
      | done habsent => exact absurd habsent hthere
    · exact other.preserves_recordText_create migrates hid w
  | unlock => exact StoreM.recordText?_congr id (unlock_store rfl).1
  | lock => rfl
  | delete => exact other.preserves_recordText_delete (Ne.symm (hdelete rfl)) w

namespace Sealed.Kept

variable {vault : Vault} {created : CreatedVault} {fixed : Sealed vault created} {w w' : World}

/-- When the vault is unlocked by the mechanism with which it was made, the session that comes into
the cache has its keys. -/
theorem unlock_agrees (h : fixed.Kept w) {other : Vault} {session : Session}
    (hid : other.id = vault.id) (hmethod : w.device.first? = some created.method)
    (hrun : other.unlock w = (.ok session, w')) : session.Agrees created.session := by
  cases Vault.unlock_run hrun with
  | cached hsession => exact h.session session (hid ▸ hsession)
  | opened hrow hparse hderive hsealing hopen hpublic _ _ hsession =>
    obtain ⟨text, hkept, hrecord⟩ := h.row
    rw [hid, hkept] at hrow
    obtain rfl := Option.some.inj hrow
    obtain rfl := Except.ok.inj (hrecord.symm.trans hparse)
    have hheld := h.held
    rw [← fixed.credentialId_eq] at hheld
    obtain ⟨hfirst, hsecret⟩ := RelyingParty.deriveSecret_unlock rfl hheld hderive
    -- The mechanism fixes the secret, and the secret all that is derived from it.
    rw [← Option.some.inj (hmethod.symm.trans hfirst), fixed.secretFor_eq] at hsecret
    rw [← Option.some.inj hsecret, fixed.sealing_eq] at hsealing
    obtain rfl := Except.ok.inj hsealing
    rw [hid, fixed.open_eq] at hopen
    obtain rfl := Except.ok.inj hopen
    rw [hsession, hid]
    exact fixed.agrees _

/-- A session of the vault that is in the cache after an operation has its keys. -/
theorem session_after (h : fixed.Kept w) {other : Vault} {operation : VaultOperation}
    (hspares : Spares vault created w other operation) {session : Session}
    (hsession : (operation.after other w).cache.sessionOf vault.id = some session) :
    session.Agrees created.session := by
  cases operation with
  | create migrates =>
    rcases hrun : other.create migrates w with ⟨r, w'⟩
    simp only [VaultOperation.after, hrun] at hsession
    cases Vault.create_run hrun with
    | undrafted hsame => exact h.session session (hsame.cache ▸ hsession)
    | unstored _ _ hready hdraft hpersist =>
      obtain ⟨hdraft⟩ := hdraft
      have hcache := (Vault.persist_cache hdraft.id_eq hpersist).trans hready.cache
      exact h.session session (hcache ▸ hsession)
    | done habsent _ _ _ _ hmade =>
      -- The new session is of a vault that was not there.
      obtain ⟨rfl, hid⟩ := SessionCache.sessionOf_set hsession
      obtain ⟨text, hrow, -⟩ := h.row
      rw [hmade] at hid
      rw [show other.id = vault.id from hid, hrow] at habsent
      cases habsent
  | unlock =>
    rcases hrun : other.unlock w with ⟨r, w'⟩
    simp only [VaultOperation.after, hrun] at hsession
    cases Vault.unlock_run hrun with
    | cached => exact h.session session hsession
    | failed hsame => exact h.session session (hsame.cache ▸ hsession)
    | opened _ _ _ _ _ _ _ _ hopened =>
      obtain ⟨rfl, hid⟩ := SessionCache.sessionOf_set hsession
      rw [hopened] at hid
      have hid : other.id = vault.id := hid
      rcases hspares.sameMethod rfl hid with hmethod | ⟨e, hrejected⟩
      · exact h.unlock_agrees hid hmethod hrun
      · rw [hrun] at hrejected
        cases hrejected
  | lock => exact h.session session (SessionCache.sessionOf_clearVault hsession)
  | delete =>
    rcases (other.deleteContract w).cache _ _ rfl with hcache | hcache
    · exact h.session session (hcache ▸ hsession)
    · exact h.session session (SessionCache.sessionOf_clearVault (hcache ▸ hsession))

/-- An operation that spares the vault keeps what its making fixed. -/
theorem operate (h : fixed.Kept w) {other : Vault} {operation : VaultOperation}
    (hspares : Spares vault created w other operation) : fixed.Kept (operation.after other w) where
  row := by
    obtain ⟨text, hrow, hparse⟩ := h.row
    have hthere : w.store.recordText? vault.id ≠ none := by
      rw [hrow]
      exact nofun
    exact ⟨text, (Vault.recordText?_after hthere hspares.undeleted).trans hrow, hparse⟩
  held := Vault.after_holds (fun migrates hcreate habsent hname =>
    hspares.unnamed migrates hcreate habsent (CredentialId.text_inj hname)) h.held
  session _ hsession := h.session_after hspares hsession

/-- The surroundings keep what the making of the vault fixed. -/
theorem surround (h : fixed.Kept w) (hsurrounds : Surrounds w w') : fixed.Kept w' where
  row := by
    obtain ⟨text, hrow, hparse⟩ := h.row
    exact ⟨text, (StoreM.recordText?_congr _ hsurrounds.content).trans hrow, hparse⟩
  held := by
    obtain ⟨authenticator, hplatform, hheld⟩ := h.held
    obtain ⟨authenticator', hplatform', hcredentials, hpath⟩ :=
      hsurrounds.platform authenticator hplatform
    refine ⟨authenticator', hplatform', hcredentials ▸ hheld.memory, fun path hat => ?_⟩
    obtain ⟨credentials, hfile, hstored⟩ := hheld.file path (hpath ▸ hat)
    exact ⟨credentials, hfile.of_nodes hsurrounds.nodes, hstored⟩
  session session hsession := by
    rw [SessionCache.sessionOf_eq_some] at hsession
    rcases hsurrounds.slot with hslot | hslot <;> rw [hslot] at hsession
    · exact h.session session (SessionCache.sessionOf_eq_some.mpr hsession)
    · cases hsession.1

/-- To open the store again keeps what the making of the vault fixed. -/
theorem reopenStore (h : fixed.Kept w) {directory : String} {content : Database} {store : Store}
    {files : Files} (hpath : w.store.path? = some (Files.join directory Store.fileName))
    (hfile : w.device.host.files.openDatabase (Files.join directory Store.fileName) =
      .content content)
    (hopen : Store.openAt directory (w.store.save w.device.host.files) = (.ok store, files)) :
    fixed.Kept (w.withStore store files) := by
  obtain ⟨hrows, hfiles⟩ := Store.reopen hpath hfile hopen
  obtain ⟨text, hrow, hparse⟩ := h.row
  obtain ⟨authenticator, hplatform, hheld⟩ := h.held
  refine ⟨⟨text, (hrows _).trans hrow, hparse⟩, ⟨authenticator, hplatform, hheld.memory, ?_⟩,
    h.session⟩
  -- The file of the credentials is too long to be taken for an empty database.
  intro path hat
  obtain ⟨credentials, hcontent, hstored⟩ := hheld.file path hat
  exact ⟨credentials, hfiles path _ credentials.two_le_length_toJson hcontent, hstored⟩

/-- To open the authenticator again keeps what the making of the vault fixed. -/
theorem reopenAuthenticator (h : fixed.Kept w) {authenticator reopened : VirtualAuthenticator}
    {path : String} {capabilities : Capabilities}
    (hplatform : w.device.platform = .virtual authenticator)
    (hpath : authenticator.path = some path)
    (hopen : VirtualAuthenticator.openAt path capabilities w.device.host.files = .ok reopened) :
    fixed.Kept (w.withAuthenticator reopened) := by
  obtain ⟨authenticator', hplatform', hheld⟩ := h.held
  obtain rfl := Platform.virtual.inj (hplatform'.symm.trans hplatform)
  exact ⟨h.row, ⟨reopened, rfl, VirtualAuthenticator.openAt_holds hopen (hheld.file path hpath)⟩,
    h.session⟩

end Sealed.Kept

/-- A history keeps what the making of the vault fixed. -/
theorem History.kept {vault : Vault} {created : CreatedVault} {fixed : Sealed vault created}
    {start w : World} (hstart : fixed.Kept start) (h : History vault created start w) :
    fixed.Kept w := by
  induction h with
  | start => exact hstart
  | operate _ other operation hspares ih => exact ih.operate hspares
  | surround _ hsurrounds ih => exact ih.surround hsurrounds
  | reopenStore _ hpath hfile hopen ih => exact ih.reopenStore hpath hfile hopen
  | reopenAuthenticator _ hplatform hpath hopen ih =>
    exact ih.reopenAuthenticator hplatform hpath hopen

/-! ## Unlocking at the end -/

/-- A vault can be unlocked by a mechanism: no fault hides its record, the authenticator offers the
mechanism, and the vault allows it. -/
structure Vault.CanUnlock (vault : Vault) (method : SecretMethod) (w : World) : Prop where
  /-- No fault fails the reading of the record. -/
  readable : (Fault.check .get vault.id w.store.faults).1 = none
  /-- The authenticator offers the mechanism. -/
  offered : ∃ authenticator, w.device.platform = .virtual authenticator ∧
    authenticator.Offers method
  /-- A stored seed is allowed, if that is the mechanism. -/
  allowed : method = .largeBlob → vault.allowsLargeBlob = true

/-- A vault that was made in a fresh world can be unlocked there by the mechanism of its making. -/
theorem Vault.create_fresh :
    ∃ created made, (Vault.ofId "first").create false .fresh = (.ok created, made) ∧
      (Vault.ofId "first").CanUnlock created.method made ∧ made.store.faults = [] := by
  have hmade : ((Vault.ofId "first").create false .fresh).1.toOption.map (·.method) = some .prf ∧
      ((Vault.ofId "first").create false .fresh).2.store.faults = [] ∧
      ((Vault.ofId "first").create false .fresh).2.device.authenticator?.map
        (fun authenticator => (authenticator.capabilities.isAvailable,
          authenticator.presence.next.1, authenticator.capabilities.first?)) =
        some (true, true, some .prf) := by decide +kernel
  rcases hcreate : (Vault.ofId "first").create false .fresh with ⟨e | created, made⟩ <;>
    rw [hcreate] at hmade
  · cases hmade.1
  obtain ⟨hmethod, hfaults, hoffers⟩ := hmade
  have hmethod : created.method = .prf := Option.some.inj hmethod
  obtain ⟨authenticator, hauthenticator, hoffers⟩ := Option.map_eq_some_iff.mp hoffers
  obtain ⟨havailable, hoffers⟩ := Prod.mk.inj hoffers
  obtain ⟨happroved, hfirst⟩ := Prod.mk.inj hoffers
  refine ⟨created, made, rfl, ⟨?_, ⟨authenticator, ?_, ?_⟩, fun _ => rfl⟩, hfaults⟩
  · rw [hfaults]
    rfl
  · exact Device.platform_of_authenticator? hauthenticator
  · exact ⟨havailable, happroved, hmethod ▸ hfirst⟩

/-- Where what the making of a vault fixed is kept, its credential yields the secret of its
making. -/
theorem Sealed.Kept.deriveSecret_ok {vault other : Vault} {created : CreatedVault}
    {fixed : Sealed vault created} {w : World} (h : fixed.Kept w) (hrp : other.rp.id = vault.rp.id)
    (hready : other.CanUnlock created.method w) :
    ∃ device, other.rp.deriveSecret fixed.record.credentialId fixed.record.salt
      (other.deriveOptions .unlock) w.device = (.ok ⟨created.method, fixed.secret⟩, device) := by
  obtain ⟨authenticator, hplatform, hoffers⟩ := hready.offered
  obtain ⟨authenticator', hplatform', hheld⟩ := h.held
  obtain rfl := Platform.virtual.inj (hplatform.symm.trans hplatform')
  rw [← fixed.credentialId_eq] at hheld
  have hdevice : w.device = ⟨.virtual authenticator, w.device.host⟩ := by rw [← hplatform]
  rw [hdevice]
  exact RelyingParty.deriveSecret_of_offers hoffers hheld (fixed.rpId_eq.trans hrp.symm)
    fixed.secretFor_eq rfl hready.allowed

/-- Where what the making of a vault fixed is kept, the vault is unlocked to its keys. -/
theorem Sealed.Kept.unlock_ok {vault other : Vault} {created : CreatedVault}
    {fixed : Sealed vault created} {w : World} (h : fixed.Kept w) (hid : other.id = vault.id)
    (hrp : other.rp.id = vault.rp.id) (hready : other.CanUnlock created.method w) :
    ∃ session w', other.unlock w = (.ok session, w') ∧ session.Agrees created.session := by
  have hlook : other.session w = (.ok (w.cache.sessionOf vault.id), w) := hid ▸ rfl
  rcases hcached : w.cache.sessionOf vault.id with _ | session <;> rw [hcached] at hlook
  · -- Without a session the record is read, the secret derived, and the envelope opened.
    obtain ⟨text, hrow, hparse⟩ := h.row
    rw [← hid] at hrow
    obtain ⟨store, hrecord⟩ := StoreM.getRecord_of_row hready.readable hrow hparse
    obtain ⟨device, hderive⟩ := h.deriveSecret_ok hrp hready
    refine ⟨Session.ofBundle other.id fixed.record.credentialId fixed.bundle w.now, ?_⟩
    unfold Vault.unlock
    rw [run_bind_of_ok hlook]
    dsimp only
    rw [run_bind_of_ok (onStore_of_run hrecord)]
    dsimp only
    rw [run_bind_of_ok (onDevice_of_run (w := { w with store }) hderive),
      run_bind_of_ok (ofExcept_of_ok fixed.sealing_eq _),
      run_bind_of_ok (ofExcept_of_ok (hid ▸ fixed.open_eq) _),
      if_neg fun hpublic => hpublic fixed.publicKeyHex_eq]
    exact ⟨_, rfl, hid ▸ fixed.agrees w.now⟩
  · refine ⟨session, w, ?_, h.session session hcached⟩
    unfold Vault.unlock
    rw [run_bind_of_ok hlook]
    rfl

/-- Sealed keys survive. When a vault was made on a virtual authenticator, then after every history
that spares it, it is unlocked to the keys and the credential with which it was made, as soon as the
authenticator offers the mechanism with which it was made. -/
theorem sealedKeys_survive {vault other : Vault} {migrates : Bool} {before start w : World}
    {created : CreatedVault} {authenticator : VirtualAuthenticator}
    (hplatform : before.device.platform = .virtual authenticator)
    (hcreate : vault.create migrates before = (.ok created, start))
    (hhistory : History vault created start w) (hid : other.id = vault.id)
    (hrp : other.rp.id = vault.rp.id) (hready : other.CanUnlock created.method w) :
    ∃ session w', other.unlock w = (.ok session, w') ∧ session.Agrees created.session := by
  obtain ⟨fixed, hstart⟩ := Vault.create_sealed hplatform hcreate
  exact (hhistory.kept hstart).unlock_ok hid hrp hready

/-- The keys of a vault survive that another vault is made and the session is forgotten. -/
theorem sealedKeys_survive_second :
    ∃ created start session w',
      (Vault.ofId "first").create false .fresh = (.ok created, start) ∧
      (Vault.ofId "first").unlock
        { (VaultOperation.create false).after (Vault.ofId "second") start with cache := .empty } =
          (.ok session, w') ∧
      session.Agrees created.session := by
  -- The second vault draws another name, and the authenticator goes on offering the mechanism.
  have hmade : ((Vault.ofId "first").create false .fresh).1.toOption.map
      (fun created => (created.session.credentialId, created.method)) =
        some (World.fresh.device.nextCredential, .prf) ∧
      ((Vault.ofId "first").create false .fresh).2.device.nextCredential ≠
        World.fresh.device.nextCredential := by decide +kernel
  have hafter : ((VaultOperation.create false).after (Vault.ofId "second")
      ((Vault.ofId "first").create false .fresh).2).store.faults = [] ∧
      ((VaultOperation.create false).after (Vault.ofId "second")
        ((Vault.ofId "first").create false .fresh).2).device.authenticator?.map
          (fun authenticator => (authenticator.capabilities.isAvailable,
            authenticator.presence.next.1, authenticator.capabilities.first?)) =
        some (true, true, some .prf) := by decide +kernel
  rcases hrun : (Vault.ofId "first").create false .fresh with ⟨e | created, start⟩ <;>
    rw [hrun] at hmade hafter
  · cases hmade.1
  obtain ⟨hname, hmethod⟩ := Prod.mk.inj (Option.some.inj hmade.1)
  have hother : Spares (Vault.ofId "first") created start (Vault.ofId "second") (.create false) :=
    ⟨by simp, fun _ _ _ hsame => hmade.2 (hsame.trans hname), by simp⟩
  obtain ⟨hfaults, hoffers⟩ := hafter
  obtain ⟨authenticator, hauthenticator, hoffers⟩ := Option.map_eq_some_iff.mp hoffers
  obtain ⟨havailable, hoffers⟩ := Prod.mk.inj hoffers
  obtain ⟨happroved, hfirst⟩ := Prod.mk.inj hoffers
  have hvirtual := Device.platform_of_authenticator? hauthenticator
  have hhistory : History (Vault.ofId "first") created start
      { (VaultOperation.create false).after (Vault.ofId "second") start with cache := .empty } :=
    .surround (.operate .start (Vault.ofId "second") (.create false) hother)
      ⟨rfl, .inr rfl, rfl, fun authenticator h => ⟨authenticator, h, rfl, rfl⟩⟩
  have hready : (Vault.ofId "first").CanUnlock created.method
      { (VaultOperation.create false).after (Vault.ofId "second") start with cache := .empty } :=
    ⟨congrArg (fun faults => (Fault.check .get "first" faults).1) hfaults,
      ⟨authenticator, hvirtual, havailable, happroved, hmethod ▸ hfirst⟩, fun _ => rfl⟩
  obtain ⟨session, w', hunlock, hagrees⟩ : ∃ session w', (Vault.ofId "first").unlock _ =
      (.ok session, w') ∧ session.Agrees created.session :=
    sealedKeys_survive rfl hrun hhistory rfl rfl hready
  exact ⟨created, start, session, w', rfl, hunlock, hagrees⟩

end CredentialVault
