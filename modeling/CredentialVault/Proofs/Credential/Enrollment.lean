import CredentialVault.Proofs.Credential.Ceremony
import CredentialVault.Proofs.Crypto.Aead
import CredentialVault.Proofs.Files.Writable

/-!
# Ceremonies that succeed

With an authenticator that can do everything and whose user agrees to everything (`IsWilling`), a
credential is made if its file can be replaced (`CanReplace`, `enroll_of_willing`), and the secret
of a credential is derived by the pseudo-random function (`deriveSecret_of_willing`). The making
goes on from the random bytes in the order in which they are drawn, and changes the files by the
replacing alone.
-/

namespace CredentialVault

open Operation

/-- The source of random bytes after bytes were drawn, some at a time. -/
def RandomStream.after (random : RandomStream) (counts : List Nat) : RandomStream :=
  counts.foldl (fun random count => (random.draw count).2) random

/-- The first bytes are drawn first. -/
theorem RandomStream.after_cons (random : RandomStream) (count : Nat) (counts : List Nat) :
    random.after (count :: counts) = (random.draw count).2.after counts := rfl

/-- Nothing is drawn. -/
theorem RandomStream.after_nil (random : RandomStream) : random.after [] = random := rfl

namespace VirtualAuthenticator

/-! ## The file -/

/-- The file of an authenticator can be replaced: its directory is there, and it and the one beside
it can be written. -/
structure CanReplace (path : String) (files : Files) : Prop where
  /-- The directory is there. -/
  directory : files.isDirectory (Files.parent path) = true
  /-- The file beside can be written. -/
  beside : files.CanWrite (beside path)
  /-- The file can be written. -/
  file : files.CanWrite path

/-- Whether the file of an authenticator can be replaced is decided by looking at its directory. -/
instance (path : String) (files : Files) : Decidable (CanReplace path files) :=
  decidable_of_iff (files.isDirectory (Files.parent path) = true ∧
      files.CanWrite (VirtualAuthenticator.beside path) ∧ files.CanWrite path)
    ⟨fun h => ⟨h.1, h.2.1, h.2.2⟩, fun h => ⟨h.directory, h.beside, h.file⟩⟩

variable {path : String} {files files' : Files} {touched : List String}

/-- Where the directory of the file is there, it is replaced at once. -/
theorem replaceFile_of_directory (h : files.isDirectory (Files.parent path) = true)
    (credentials : Credentials) : replaceFile path credentials files =
      writeBeside path (Bytes.ofText credentials.toJson.indented) files := by
  unfold replaceFile
  rw [run_bind, run_get]
  dsimp only
  rw [Files.exists?_of_isDirectory h, if_neg (by decide)]
  rfl

/-- A file can be replaced after files changed. -/
theorem CanReplace.of_touches (h : CanReplace path files) (htouches : files.Touches touched files') :
    CanReplace path files' :=
  ⟨Files.isDirectory_of_touches h.directory htouches, h.beside.of_touches htouches,
    h.file.of_touches htouches⟩

/-- To replace the file touches it and the one beside it. -/
theorem touches_writeBeside {name besideName : String} (hname : Files.lastName path = some name)
    (hbeside : Files.lastName (beside path) = some besideName) (content : Bytes) :
    Within (Files.Touches [besideName, name]) (writeBeside path content) := by
  refine Within.bind_of_ok (FilesM.touches_write hbeside (by simp) content) ?_
  intro files _ written hwrite
  obtain ⟨place, -, hwritten, hnode⟩ := FilesM.write_ok hwrite
  rcases hgrant : FilesM.grantOwner (beside path) written with ⟨e | _, granted⟩
  · rw [run_bind_of_error hgrant]
    exact FilesM.touches_grantOwner hbeside (by simp) hwritten hgrant
  · rw [run_bind_of_ok hgrant]
    rcases hrename : FilesM.rename (beside path) path granted with ⟨r, moved⟩
    refine Sequential.trans (FilesM.touches_grantOwner hbeside (by simp) hwritten hgrant)
      (FilesM.touches_rename hbeside hname (by simp) (by simp) (fun place' hplace' => ?_) hrename)
    obtain ⟨hgranted, -⟩ := FilesM.grantOwner_ok hwritten hnode hgrant
    obtain rfl := Except.ok.inj (hgranted.placeOf.symm.trans hplace')
    exact hgranted.node

/-- A file that can be replaced is replaced. -/
theorem replaceFile_of_canReplace {besideName : String}
    (hbeside : Files.lastName (beside path) = some besideName) (hrefusals : files.refusals = [])
    (h : CanReplace path files) (credentials : Credentials) :
    ∃ files', replaceFile path credentials files = (.ok (), files') := by
  obtain ⟨written, hwrite⟩ := FilesM.write_of_canWrite hrefusals h.beside
    (Bytes.ofText credentials.toJson.indented)
  obtain ⟨place, -, hwritten, hnode⟩ := FilesM.write_ok hwrite
  have htouches : files.Touches [besideName] written :=
    (FilesM.touches_write hbeside (List.mem_singleton_self _) _).of_run hwrite
  have hgrant := FilesM.grantOwner_of_place (htouches.refusals hrefusals) hwritten hnode
  obtain ⟨hgranted, hfile⟩ := FilesM.grantOwner_ok hwritten hnode hgrant
  rw [Node.readable_refilled] at hgrant hgranted hfile
  have htouches' := Sequential.trans htouches
    (FilesM.touches_grantOwner hbeside (List.mem_singleton_self _) hwritten hgrant)
  obtain ⟨files', hrename⟩ := FilesM.rename_of_canWrite (htouches'.refusals hrefusals)
    (h.beside.of_touches htouches') (fun other hother => by
      rw [← Except.ok.inj (hgranted.placeOf.symm.trans hother), hfile])
    (h.file.of_touches htouches')
  refine ⟨files', ?_⟩
  rw [replaceFile_of_directory h.directory, writeBeside, run_bind_of_ok hwrite,
    run_bind_of_ok hgrant]
  exact hrename

/-! ## Ceremonies -/

/-- An authenticator can do everything, its user agrees to everything, and it keeps its file at a
path. -/
structure IsWilling (authenticator : VirtualAuthenticator) (path : String) : Prop where
  /-- It can do everything. -/
  capabilities : authenticator.capabilities = .full
  /-- Its user agrees to everything. -/
  presence : authenticator.presence = .always
  /-- It keeps its file at the path. -/
  path : authenticator.path = some path

namespace IsWilling

variable {authenticator other : VirtualAuthenticator}

/-- The pseudo-random function is offered. -/
theorem offers (h : authenticator.IsWilling path) : authenticator.Offers .prf where
  isAvailable := by rw [h.capabilities]; rfl
  approved := by rw [h.presence]; rfl
  first := by rw [h.capabilities]; rfl

/-- An authenticator that is set up alike is willing, too. -/
theorem of_alike (h : authenticator.IsWilling path) (halike : authenticator.SetUpAlike other) :
    other.IsWilling path :=
  ⟨halike.capabilities.trans h.capabilities, halike.presence h.presence,
    halike.path.trans h.path⟩

end IsWilling

/-- The credentials are saved when their file is replaced. -/
theorem save_of_ok (device : VirtualDevice) {files : Files}
    (hpath : device.authenticator.path = some path)
    (h : replaceFile path device.authenticator.credentials device.host.files = (.ok (), files)) :
    save device = (.ok (), { device with host := { device.host with files } }) := by
  unfold save
  rw [run_bind, run_get]
  dsimp only
  rw [hpath]
  dsimp only
  rw [h]
  rfl

/-- A credential is put in place when the file can be replaced. -/
theorem hold_of_ok (device : VirtualDevice) (hpath : device.authenticator.path = some path)
    (hreplace : ∀ credentials, ∃ files,
      replaceFile path credentials device.host.files = (.ok (), files))
    (credential : CredentialId) (stored : StoredCredential) :
    ∃ after, hold credential stored device = (.ok (), after) ∧
      after.host.random = device.host.random ∧
      ∃ credentials, replaceFile path credentials device.host.files = (.ok (), after.host.files) := by
  obtain ⟨files, hfiles⟩ :=
    hreplace (device.authenticator.credentials.insert credential.text stored)
  let inserted : VirtualDevice := ⟨{ device.authenticator with
    credentials := device.authenticator.credentials.insert credential.text stored }, device.host⟩
  have hinsert : update (fun a => { a with
      credentials := a.credentials.insert credential.text stored }) device = (.ok (), inserted) := rfl
  have hsave := save_of_ok inserted hpath hfiles
  exact ⟨_, (run_bind_of_ok hinsert).trans hsave, rfl, _, hfiles⟩

/-- A willing authenticator whose file can be replaced makes a credential. -/
theorem create_of_willing (device : VirtualDevice) (h : device.authenticator.IsWilling path)
    (hreplace : ∀ credentials, ∃ files,
      replaceFile path credentials device.host.files = (.ok (), files))
    (options : CreationOptions) :
    ∃ after, create options device =
        (.ok ⟨(device.host.random.draw credentialIdSize).1⟩, after) ∧
      after.host.random = device.host.random.after [credentialIdSize, secretSize] ∧
      ∃ credentials, replaceFile path credentials device.host.files = (.ok (), after.host.files) := by
  obtain ⟨begun, hbegin⟩ := begin_of_approved (.create options.rpId options.rpName)
    h.offers.isAvailable h.offers.approved
  have hkept := (preserves_begin _).of_run hbegin
  have hpath : begun.authenticator.path = some path := (congrArg (·.2.2.1) hkept).trans h.path
  have hhost : begun.host = device.host := congrArg (·.2.2.2) hkept
  rw [create_eq, run_bind_of_ok hbegin, run_bind_of_ok (drawBytes_eq _ _),
    run_bind_of_ok (drawBytes_eq _ _), hhost]
  rw [RandomStream.after_cons, RandomStream.after_cons, RandomStream.after_nil]
  rcases device.host.random.draw credentialIdSize with ⟨name, named⟩
  dsimp only
  rcases named.draw secretSize with ⟨secret, drawn⟩
  obtain ⟨after, hhold, hrandom, hfiles⟩ := hold_of_ok ⟨begun.authenticator, device.host.files, drawn⟩
    hpath hreplace ⟨name⟩ ⟨options.rpId, options.userName, secret, none⟩
  exact ⟨after, run_bind_of_ok hhold, hrandom, hfiles⟩

/-- A willing authenticator evaluates the pseudo-random function of a credential that it holds. -/
theorem evaluatePrf_of_willing (device : VirtualDevice) {rpId : String} {credential : CredentialId}
    {stored : StoredCredential} (h : device.authenticator.IsWilling path)
    (hold : device.authenticator.credentials.Holds credential.text stored)
    (hrp : stored.rpId = rpId) (salt : Bytes) :
    ∃ after, evaluatePrf rpId credential salt device =
        (.ok (prfOutput stored.secret salt), after) ∧ after.host = device.host := by
  rw [evaluatePrf_eq]
  obtain ⟨after, hlook⟩ := look_of_offers h.offers hold hrp (.unlock rpId credential)
    fun stored => .ok (prfOutput stored.secret salt)
  have hkept := (preserves_look _ _ _ _ _).of_run hlook
  exact ⟨after, hlook, congrArg (·.2.2.2) hkept⟩

end VirtualAuthenticator

/-! ## Credentials and secrets -/

namespace RelyingParty

variable {rp : RelyingParty} {d : Device} {authenticator : VirtualAuthenticator} {path : String}

/-- A credential that the platform makes, which is available, is the one of the party. -/
theorem enroll_of_create {d' : Device} {credential : CredentialId} {userId : Bytes}
    {random : RandomStream} (havailable : d.platform.isAvailable = true)
    (hdrawn : d.host.random.draw userIdSize = (userId, random))
    (h : Platform.create (.forVault rp userId) (d.withRandom random) = (.ok credential, d')) :
    rp.enroll d = (.ok credential, d') := by
  unfold enroll
  rw [run_bind, run_get]
  dsimp only
  rw [havailable, Bool.not_true, if_neg Bool.false_ne_true,
    run_bind_of_ok (DeviceM.drawBytes_eq _ _), hdrawn, run_bind_of_ok (DeviceM.outcome_of_run h)]
  rfl

/-- On a willing authenticator whose file can be replaced a credential is made. -/
theorem enroll_of_willing (rp : RelyingParty) (hplatform : d.platform = .virtual authenticator)
    (h : authenticator.IsWilling path)
    (hreplace : ∀ credentials, ∃ files,
      VirtualAuthenticator.replaceFile path credentials d.host.files = (.ok (), files)) :
    ∃ d', rp.enroll d = (.ok d.nextCredential, d') ∧
      d'.host.random = d.host.random.after [userIdSize, VirtualAuthenticator.credentialIdSize,
        VirtualAuthenticator.secretSize] ∧
      ∃ credentials,
        VirtualAuthenticator.replaceFile path credentials d.host.files = (.ok (), d'.host.files) := by
  have havailable : d.platform.isAvailable = true := by
    rw [hplatform]
    exact h.offers.isAvailable
  unfold Device.nextCredential
  rw [RandomStream.after_cons]
  rcases hdrawn : d.host.random.draw userIdSize with ⟨userId, random⟩
  obtain ⟨after, hcreate, hrandom, hfiles⟩ := VirtualAuthenticator.create_of_willing
    ⟨authenticator, d.host.files, random⟩ h hreplace (.forVault rp userId)
  have hplatform' : (d.withRandom random).platform = .virtual authenticator := hplatform
  have hmade : Platform.create (.forVault rp userId) (d.withRandom random) =
      (.ok ⟨(random.draw VirtualAuthenticator.credentialIdSize).1⟩,
        ⟨.virtual after.authenticator, after.host⟩) := by
    have hhost : (d.withRandom random).host = ⟨d.host.files, random⟩ := rfl
    unfold Platform.create
    rw [Platform.perform_of_virtual hplatform', hhost, hcreate]
  exact ⟨_, enroll_of_create havailable hdrawn hmade, hrandom, hfiles⟩

/-- On a willing authenticator the secret of a credential that is held is derived by the
pseudo-random function. -/
theorem deriveSecret_of_willing {credential : CredentialId} {stored : StoredCredential}
    (hplatform : d.platform = .virtual authenticator) (h : authenticator.IsWilling path)
    (hheld : d.Holds credential.text stored) (hrp : stored.rpId = rp.id) (salt : Bytes)
    (options : DeriveOptions) :
    ∃ d', rp.deriveSecret credential salt options d =
        (.ok ⟨.prf, VirtualAuthenticator.prfOutput stored.secret salt⟩, d') ∧ d'.host = d.host := by
  obtain ⟨authenticator', hplatform', hheld⟩ := hheld
  obtain rfl := Platform.virtual.inj (hplatform.symm.trans hplatform')
  obtain ⟨after, hevaluate, hhost⟩ := VirtualAuthenticator.evaluatePrf_of_willing
    ⟨authenticator, d.host⟩ h hheld.memory hrp salt
  have hprf : Platform.evaluatePrf rp.id credential salt d =
      (.ok (VirtualAuthenticator.prfOutput stored.secret salt),
        ⟨.virtual after.authenticator, after.host⟩) := by
    unfold Platform.evaluatePrf
    rw [Platform.perform_of_virtual hplatform, hevaluate]
  exact ⟨⟨.virtual after.authenticator, after.host⟩, deriveSecret_of_prf hprf, hhost⟩

end RelyingParty

end CredentialVault
