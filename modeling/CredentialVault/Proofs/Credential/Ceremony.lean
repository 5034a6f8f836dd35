import CredentialVault.Proofs.Credential.Provider
import CredentialVault.Proofs.Files.Others

/-!
# Relations that ceremonies stay within

A ceremony of a virtual authenticator is made of few steps: it is counted, the user is asked, bytes
are drawn, a credential is put in place, and the credentials are saved. A relation that holds for
each of them (`CeremonySteps`) holds for every ceremony of a platform, and so for the making of a
credential and the deriving of a secret (`within_enroll`, `within_deriveSecret_of_steps`).

One such relation is that two authenticators are set up alike (`SetUpAlike`): no ceremony changes
what an authenticator can do, where it keeps its file, or whether its user agrees to everything. The
questions that are put are noted, and each takes the next answer (`AsksInTurn`). And what the
replacing of its file keeps of the files, every ceremony keeps (`ceremonySteps_filesWithin`).
-/

namespace CredentialVault

open Operation

/-! ## The steps of a ceremony -/

namespace VirtualAuthenticator

/-- A relation holds for every step of which ceremonies are made. -/
structure CeremonySteps (R : VirtualDevice → VirtualDevice → Prop) : Prop where
  /-- A ceremony is counted. -/
  count : Within R (update fun a => { a with ceremonies := a.ceremonies + 1 })
  /-- The user is asked. -/
  ask : ∀ (device : VirtualDevice) (ceremony : Ceremony),
    R device { device with
      authenticator := { device.authenticator with
        presence := device.authenticator.presence.next.2
        asked := device.authenticator.asked ++ [(ceremony, device.authenticator.presence.next.1)] } }
  /-- Bytes are drawn. -/
  draw : ∀ device random, R device { device with host := { device.host with random } }
  /-- A credential is put in place. -/
  insert : ∀ key stored,
    Within R (update fun a => { a with credentials := a.credentials.insert key stored })
  /-- The credentials are saved. -/
  save : Within R save

namespace CeremonySteps

variable {R : VirtualDevice → VirtualDevice → Prop} [Sequential R]

/-- To begin a ceremony stays within such a relation. -/
theorem within_begin (h : CeremonySteps R) (ceremony : Ceremony) : Within R (begin ceremony) := by
  refine h.count.bind fun _ => Within.get.bind_of_ok fun before device after hget => ?_
  cases hget
  dsimp only
  split
  · -- A device without credentials counts the ceremony and asks nobody.
    exact Within.throw_bind (R := R) _ _ _
  · have hask := h.ask before ceremony
    rw [run_bind]
    unfold update
    rw [run_modify]
    dsimp only
    split
    · exact hask
    · exact hask

/-- To ask for the use of a credential stays within such a relation. -/
theorem within_ask (h : CeremonySteps R) (method : SecretMethod) (ceremony : Ceremony) (rpId : String)
    (credential : CredentialId) : Within R (VirtualAuthenticator.ask method ceremony rpId credential) := by
  refine Within.get.bind fun device => ?_
  dsimp only
  split
  · exact .throw_bind _ _
  · refine (h.within_begin ceremony).bind fun _ => Within.get.bind fun device => ?_
    split
    · exact .pure _
    · exact .throw _

/-- To look at a credential stays within such a relation. -/
theorem within_look {α : Type} (h : CeremonySteps R) (method : SecretMethod) (ceremony : Ceremony)
    (rpId : String) (credential : CredentialId) (yields : StoredCredential → Except CeremonyError α) :
    Within R (look method ceremony rpId credential yields) :=
  (h.within_ask method ceremony rpId credential).bind fun _ device => Sequential.refl device

/-- To put a credential in place stays within such a relation. -/
theorem within_hold (h : CeremonySteps R) (credential : CredentialId) (stored : StoredCredential) :
    Within R (hold credential stored) :=
  (h.insert _ stored).bind fun _ => h.save

/-- To store data stays within such a relation. -/
theorem within_writeBlob (h : CeremonySteps R) (rpId : String) (credential : CredentialId)
    (blob : Bytes) : Within R (writeBlob rpId credential blob) := by
  rw [writeBlob_eq]
  exact (h.within_ask _ _ _ _).bind fun _ => h.within_hold _ _

/-- To make a credential stays within such a relation. -/
theorem within_create (h : CeremonySteps R) (options : CreationOptions) :
    Within R (create options) := by
  have hdraw : ∀ count, Within R (drawBytes count) := fun count => .modifyGet fun d => h.draw d _
  rw [create_eq]
  refine (h.within_begin _).bind fun _ => ?_
  refine (hdraw _).bind fun _ => (hdraw _).bind fun _ => ?_
  exact (h.within_hold _ _).bind fun _ => .pure _

end CeremonySteps

end VirtualAuthenticator

/-! ## Ceremonies of a platform -/

/-- Two devices have virtual authenticators that are related, if the first one has one. -/
def Device.Lifts (R : VirtualDevice → VirtualDevice → Prop) (d d' : Device) : Prop :=
  ∀ authenticator, d.platform = .virtual authenticator →
    ∃ after, d'.platform = .virtual after ∧ R ⟨authenticator, d.host⟩ ⟨after, d'.host⟩

variable {R : VirtualDevice → VirtualDevice → Prop} [Sequential R]

instance : Sequential (Device.Lifts R) where
  refl d authenticator h := ⟨authenticator, h, Sequential.refl _⟩
  trans h h' authenticator hplatform := by
    obtain ⟨after, hafter, hrelated⟩ := h authenticator hplatform
    obtain ⟨last, hlast, hrelated'⟩ := h' after hafter
    exact ⟨last, hlast, Sequential.trans hrelated hrelated'⟩

/-- What authenticators stay within, devices stay within. -/
theorem Platform.within_perform {α : Type} {R : VirtualDevice → VirtualDevice → Prop}
    {ceremony : VirtualM α} (h : Within R ceremony) (call : PlatformCall)
    (outcome : Nat → ScriptedPlatform → Except CeremonyError α × ScriptedPlatform) :
    Within (Device.Lifts R) (perform ceremony call outcome) := by
  intro device authenticator hplatform
  rw [perform_of_virtual hplatform]
  exact ⟨_, rfl, h ⟨authenticator, device.host⟩⟩

/-- A relation that holds when bytes are drawn holds with another source of random bytes. -/
theorem VirtualAuthenticator.CeremonySteps.withRandom {R : VirtualDevice → VirtualDevice → Prop}
    (h : CeremonySteps R) (d : Device) (random : RandomStream) :
    Device.Lifts R d (d.withRandom random) :=
  fun authenticator hplatform => ⟨authenticator, hplatform, h.draw ⟨authenticator, d.host⟩ random⟩

namespace RelyingParty

/-- To make a credential stays within a relation that holds for the steps of ceremonies. -/
theorem within_enroll (h : VirtualAuthenticator.CeremonySteps R) (rp : RelyingParty) :
    Within (Device.Lifts R) rp.enroll := by
  refine Within.get.bind fun d => ?_
  dsimp only
  split
  · exact .throw_bind _ _
  · refine (DeviceM.within_drawBytes h.withRandom _).bind fun userId => ?_
    refine (DeviceM.within_outcome (Platform.within_perform (h.within_create _) _ _)).bind
      fun result => ?_
    split
    · exact .pure _
    · exact .throw _

/-- To derive a secret stays within a relation that holds for the steps of ceremonies. -/
theorem within_deriveSecret_of_steps (h : VirtualAuthenticator.CeremonySteps R) (rp : RelyingParty)
    (credential : CredentialId) (salt : Bytes) (options : DeriveOptions) :
    Within (Device.Lifts R) (rp.deriveSecret credential salt options) := by
  have hread : Within (Device.Lifts R) (Platform.readBlob rp.id credential) := by
    rw [Platform.readBlob_eq]
    exact Platform.within_perform (h.within_look _ _ _ _ _) _ _
  have hwrite : ∀ seed, Within (Device.Lifts R) (Platform.writeBlob rp.id credential seed) :=
    fun _ => Platform.within_perform (h.within_writeBlob _ _ _) _ _
  refine within_deriveSecret ?_ ?_
    (fun _ => within_writeSeed (DeviceM.within_drawBytes h.withRandom _) hwrite hread)
    (within_readSeed hread)
  · rw [Platform.evaluatePrf_eq]
    exact Platform.within_perform (h.within_look _ _ _ _ _) _ _
  · rw [Platform.evaluateHmac_eq]
    exact Platform.within_perform (h.within_look _ _ _ _ _) _ _

end RelyingParty

/-! ## How an authenticator is set up -/

namespace VirtualAuthenticator

/-- Two authenticators are set up alike: they can do the same, they keep the same file, and the user
of the second one agrees to everything if that of the first one does. -/
structure SetUpAlike (authenticator other : VirtualAuthenticator) : Prop where
  /-- They can do the same. -/
  capabilities : other.capabilities = authenticator.capabilities
  /-- They keep the same file. -/
  path : other.path = authenticator.path
  /-- A user that agrees to everything goes on to do so. -/
  presence : authenticator.presence = .always → other.presence = .always

instance : Sequential fun device device' : VirtualDevice =>
    SetUpAlike device.authenticator device'.authenticator where
  refl _ := ⟨rfl, rfl, id⟩
  trans h h' := ⟨h'.capabilities.trans h.capabilities, h'.path.trans h.path, h'.presence ∘ h.presence⟩

/-- No step of a ceremony changes how the authenticator is set up. -/
theorem ceremonySteps_setUpAlike : CeremonySteps fun device device' =>
    SetUpAlike device.authenticator device'.authenticator where
  count := .modify fun _ => ⟨rfl, rfl, id⟩
  ask device ceremony := by
    refine ⟨rfl, rfl, fun halways => ?_⟩
    show device.authenticator.presence.next.2 = .always
    rw [halways]
    rfl
  draw _ _ := ⟨rfl, rfl, id⟩
  insert _ _ := .modify fun _ => ⟨rfl, rfl, id⟩
  save device := by
    rcases hsave : save device with ⟨r, saved⟩
    rw [(save_run hsave).1]
    exact ⟨rfl, rfl, id⟩

/-- Questions that are noted were put between two states of an authenticator, and the user answered
them in turn. -/
def AsksInTurn (authenticator other : VirtualAuthenticator) : Prop :=
  ∃ put, other.asked = authenticator.asked ++ put ∧ other.presence =
    ⟨authenticator.presence.queue.drop put.length, authenticator.presence.approve⟩

/-- Nothing is put when the questions and the answers are the same. -/
theorem AsksInTurn.of_same {authenticator other : VirtualAuthenticator}
    (hasked : other.asked = authenticator.asked) (hpresence : other.presence = authenticator.presence) :
    authenticator.AsksInTurn other :=
  ⟨[], by rw [hasked, List.append_nil], hpresence⟩

instance : Sequential fun device device' : VirtualDevice =>
    AsksInTurn device.authenticator device'.authenticator where
  refl _ := .of_same rfl rfl
  trans := by
    rintro _ _ _ ⟨first, hfirst, hqueue⟩ ⟨second, hsecond, hqueue'⟩
    refine ⟨first ++ second, by rw [hsecond, hfirst, List.append_assoc], ?_⟩
    rw [hqueue', hqueue, List.length_append, List.drop_drop]

/-- In every step of a ceremony questions are put in turn. -/
theorem ceremonySteps_asksInTurn : CeremonySteps fun device device' =>
    AsksInTurn device.authenticator device'.authenticator where
  count := .modify fun _ => .of_same rfl rfl
  ask device ceremony := by
    refine ⟨[_], rfl, ?_⟩
    rcases hpresence : device.authenticator.presence with ⟨_ | ⟨answer, rest⟩, approve⟩ <;> rfl
  draw _ _ := .of_same rfl rfl
  insert _ _ := .modify fun _ => .of_same rfl rfl
  save device := by
    rcases hsave : save device with ⟨r, saved⟩
    rw [(save_run hsave).1]
    exact .of_same rfl rfl

end VirtualAuthenticator

/-! ## The files of an authenticator -/

namespace VirtualAuthenticator

open Files

/-- To replace the file of an authenticator leaves a node under another name than that file and the
one that is written beside it. -/
theorem leavesNode_replaceFile {location : Location} {name beside : String} (hname : IsFileName name)
    (hbeside : beside = s!".{name}.tmp") (hfile : IsFileName beside)
    (hother : location.getLast? ≠ some name) (hothers : location.getLast? ≠ some beside)
    (base : String) (credentials : Credentials) :
    Within (LeavesNode location) (replaceFile (join base name) credentials) := by
  have htemporary : ∀ directory, lastName (join directory s!".{Files.fileName (join base name)}.tmp") =
      some beside ∧
        Files.fileName (join directory s!".{Files.fileName (join base name)}.tmp") = beside := by
    intro directory
    rw [hname.fileName_join, ← hbeside, hfile.lastName_join, hfile.fileName_join]
    exact ⟨rfl, rfl⟩
  have hreplace : Within (LeavesNode location)
      (writeBeside (join base name) (Bytes.ofText credentials.toJson.indented)) := by
    obtain ⟨hlast, hfileName⟩ := htemporary (Files.parent (join base name))
    refine (FilesM.leavesNode_write hlast hothers _).bind fun _ => ?_
    refine (FilesM.leavesNode_grantOwner (hfileName ▸ hothers)).bind fun _ => ?_
    exact FilesM.leavesNode_rename hlast (hname.lastName_join base) hothers hother
  refine Within.get.bind fun files => ?_
  dsimp only
  split
  · exact (FilesM.within_createDirectories FilesM.leavesNode_createDirectory _).bind fun _ => hreplace
  · exact hreplace

/-- Two devices have authenticators that keep the same file, and if that is at the given path, their
files are related. -/
structure FilesWithin (path : String) (Q : Files → Files → Prop) (device device' : VirtualDevice) :
    Prop where
  /-- They keep the same file. -/
  samePath : device'.authenticator.path = device.authenticator.path
  /-- The files are related. -/
  related : device.authenticator.path = some path → Q device.host.files device'.host.files

variable {path : String} {Q : Files → Files → Prop} [Sequential Q]

instance : Sequential (FilesWithin path Q) where
  refl _ := ⟨rfl, fun _ => Sequential.refl _⟩
  trans h h' := ⟨h'.samePath.trans h.samePath, fun hpath =>
    Sequential.trans (h.related hpath) (h'.related (h.samePath.trans hpath))⟩

/-- A relation of files that holds when the file of an authenticator is replaced holds for every
step of its ceremonies. -/
theorem ceremonySteps_filesWithin (h : ∀ credentials, Within Q (replaceFile path credentials)) :
    CeremonySteps (FilesWithin path Q) where
  count := .modify fun _ => ⟨rfl, fun _ => Sequential.refl _⟩
  ask _ _ := ⟨rfl, fun _ => Sequential.refl _⟩
  draw _ _ := ⟨rfl, fun _ => Sequential.refl _⟩
  insert _ _ := .modify fun _ => ⟨rfl, fun _ => Sequential.refl _⟩
  save device := by
    rcases hsave : save device with ⟨r, saved⟩
    obtain ⟨hauthenticator, hhost⟩ := save_run hsave
    refine ⟨by rw [hauthenticator], fun hpath => ?_⟩
    rw [hpath] at hhost
    obtain ⟨result, files, hreplace, hhost, -⟩ := hhost
    rw [hhost]
    exact (h _).of_run hreplace

end VirtualAuthenticator

end CredentialVault
