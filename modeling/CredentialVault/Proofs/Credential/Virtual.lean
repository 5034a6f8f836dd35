import CredentialVault.Proofs.Credential.Stored
import CredentialVault.Proofs.Files.Hidden

/-!
# What a virtual authenticator holds

A credential is held by an authenticator in memory and, if it keeps a file, in the file too
(`VirtualDevice.Holds`). Once it was made it stays, whatever ceremonies are run for other
credentials and whether they succeed (`maintains_create`, `maintains_writeBlob`), since the file is
replaced in one step (`replaceFile_run`); also when the authenticator is opened again
(`openAt_holds`).
-/

namespace CredentialVault

open Operation

/-- Whether an authenticator has a mechanism. -/
def Capabilities.supports (capabilities : Capabilities) : SecretMethod → Bool
  | .prf => capabilities.prf
  | .hmacSecret => capabilities.hmacSecret
  | .largeBlob => capabilities.largeBlob

/-- The first mechanism that an authenticator has, in the order in which they are tried. -/
def Capabilities.first? (capabilities : Capabilities) : Option SecretMethod :=
  [.prf, .hmacSecret, .largeBlob].find? capabilities.supports

/-- The first mechanism is there, and those that are tried before it are not. -/
theorem Capabilities.first?_eq_some {capabilities : Capabilities} {method : SecretMethod} :
    capabilities.first? = some method ↔ capabilities.supports method = true ∧
      (method ≠ .prf → capabilities.supports .prf = false) ∧
        (method = .largeBlob → capabilities.supports .hmacSecret = false) := by
  obtain ⟨isAvailable, prf, hmacSecret, largeBlob⟩ := capabilities
  cases method <;> cases prf <;> cases hmacSecret <;> cases largeBlob <;>
    simp [first?, supports, List.find?]

/-- An authenticator offers a mechanism when the mechanism is the first that it has, and the user
agrees to the next ceremony. -/
structure VirtualAuthenticator.Offers (authenticator : VirtualAuthenticator)
    (method : SecretMethod) : Prop where
  /-- There are credentials at all. -/
  isAvailable : authenticator.capabilities.isAvailable = true
  /-- The user agrees. -/
  approved : authenticator.presence.next.1 = true
  /-- The mechanism is the first. -/
  first : authenticator.capabilities.first? = some method

/-- A path leads to a file of credentials that holds a credential. -/
def Files.HoldsCredential (files : Files) (path key : String) (stored : StoredCredential) : Prop :=
  ∃ credentials : Credentials,
    files.Holds path (Bytes.ofText credentials.toJson.indented) ∧ credentials.Holds key stored

/-- An authenticator holds a credential in memory and in its file, if it keeps one. -/
structure VirtualDevice.Holds (device : VirtualDevice) (key : String) (stored : StoredCredential) :
    Prop where
  /-- The credential is in memory. -/
  memory : device.authenticator.credentials.Holds key stored
  /-- The credential is in the file. -/
  file : ∀ path, device.authenticator.path = some path →
    device.host.files.HoldsCredential path key stored

namespace VirtualAuthenticator

/-! ## The file -/

/-- The file beside a path that takes its place, when it is moved there, is what the path leads
to. -/
theorem rename_holds {source target : String} {content : Bytes} {files files' : Files}
    {place : Files.Place} {r : Except FileError Unit} (hplace : files.placeOf source = .ok place)
    (hnode : files.node? place.location = some (.file content))
    (h : FilesM.rename source target files = (r, files')) :
    (r ≠ .ok () ∧ files'.nodes = files.nodes) ∨ r = .ok () ∧ files'.Holds target content := by
  rcases FilesM.rename_run h with hfailed | ⟨rfl, origin, goal, node, horigin, hgoal, hfixed, hsize,
    hmoved, hslash, hdirectory, hnodes⟩
  · exact .inl hfailed
  obtain rfl : place = origin := Except.ok.inj (hplace.symm.trans horigin)
  obtain rfl : node = .file content := Option.some.inj (hmoved.symm.trans hnode)
  -- The path leads to its place before the move, and afterwards too since no directory is lost.
  have hlocate := Files.locate_of_placeOf hgoal hfixed (hslash (by simp)) hsize
  have hroot : goal.location ≠ [] := by simp [Files.Place.location]
  have hkeeps : files.KeepsDirectories
      ((files.dropNode place.location).setNode goal.location (.file content)) :=
    Files.keepsDirectories_move _ (by simp [hnode]) hdirectory
  refine .inr ⟨rfl,
    Files.Holds.of_nodes ⟨goal.location, Files.locate_of_keeps hkeeps hlocate, ?_⟩ hnodes⟩
  rw [Files.node?_setNode _ hroot, if_pos rfl]

/-- The path of the file that is written beside the one of an authenticator, whose place it
takes. -/
def beside (path : String) : String :=
  Files.join (Files.parent path) s!".{Files.fileName path}.tmp"

/-- The name of the file beside is that of the file with a mark before and after it. -/
theorem lastName_beside (path : String) :
    Files.lastName (beside path) = some ("." ++ Files.fileName path ++ ".tmp") := by
  have hname : '/' ∉ (Files.fileName path).toList := by
    unfold Files.fileName
    split
    · next name hname =>
      split
      · decide
      · exact Files.slashless_of_mem_names (List.mem_filter.mp (List.mem_of_getLast? hname)).1
    · decide
  have hbeside : beside path =
      Files.join (Files.parent path) ("." ++ Files.fileName path ++ ".tmp") := rfl
  have hchars : ("." ++ Files.fileName path ++ ".tmp").toList =
      '.' :: ((Files.fileName path).toList ++ ['.', 't', 'm', 'p']) := by
    simp [String.toList_append]
  have hpieces : Files.pieces ("." ++ Files.fileName path ++ ".tmp").toList =
      [("." ++ Files.fileName path ++ ".tmp").toList] :=
    Files.pieces_eq_singleton (by rw [hchars]; exact nofun) (by rw [hchars]; simp [hname])
  have hstart : Files.startsInSlash ("." ++ Files.fileName path ++ ".tmp") = false := by
    unfold Files.startsInSlash
    rw [hchars]
    rfl
  rw [hbeside, Files.lastName, Files.names_join _ hstart, Files.names_eq ("." ++ _ ++ ".tmp"), hpieces,
    List.map_singleton, List.getLast?_concat, String.ofList_toList]

/-- The file beside has another name than the file. -/
theorem lastName_beside_ne (path : String) :
    Files.lastName (beside path) ≠ some (Files.fileName path) := by
  rw [lastName_beside]
  intro h
  have hlength := congrArg String.length (Option.some.inj h)
  rw [String.length_append, String.length_append] at hlength
  have hdot : ".".length = 1 := by decide
  omega

/-- Writes the file beside, for its owner alone, and moves it to the path. -/
def writeBeside (path : String) (content : Bytes) : FilesM Unit := do
  FilesM.write (beside path) content
  FilesM.grantOwner (beside path)
  FilesM.rename (beside path) path

/-- The place of the file beside has another name than the file. -/
theorem getLast?_beside_ne {path : String} {files : Files} {place : Files.Place}
    (hplace : files.HasPlace (beside path) place) :
    place.location.getLast? ≠ some (Files.fileName path) := by
  rw [Files.getLast?_location hplace.placeOf (lastName_beside path), ← lastName_beside]
  exact lastName_beside_ne path

/-- What does not see the file beside: it is the same for the same nodes, and stays whatever file is
put there. -/
structure BlindBeside (path : String) (K : Files → Prop) : Prop where
  /-- It is told by the nodes. -/
  same : ∀ {files files' : Files}, K files → files'.nodes = files.nodes → K files'
  /-- It stays whatever file is put beside. -/
  put : ∀ {files : Files} {place : Files.Place} {node : Node}, K files →
    files.HasPlace (beside path) place → node ≠ .directory → K (files.setNode place.location node)

/-- A file at the path is one thing that does not see the file beside. -/
theorem blindBeside_holds (path : String) (content : Bytes) :
    BlindBeside path (·.Holds path content) where
  same := Files.Holds.of_nodes
  put hholds hplace _ := hholds.setNode_of_name (getLast?_beside_ne hplace) hplace.node

namespace BlindBeside

variable {path : String} {K : Files → Prop} {content : Bytes} {files files' : Files}
  {r : Except FileError Unit}

/-- It stays when the file beside is written. -/
theorem of_write (hblind : BlindBeside path K) (hK : K files)
    (h : FilesM.write (beside path) content files = (r, files')) : K files' := by
  rcases FilesM.write_run h with ⟨-, -, hnodes⟩ | ⟨-, place, part, hplace, -, -, hnodes⟩
  · exact hblind.same hK hnodes
  · exact hblind.same (hblind.put hK hplace (Node.refilled_ne _ _)) hnodes

/-- It stays when the file beside is made readable. -/
theorem of_grantOwner (hblind : BlindBeside path K) (hK : K files) {place : Files.Place}
    (hplace : files.HasPlace (beside path) place)
    (h : FilesM.grantOwner (beside path) files = (r, files')) : K files' := by
  rcases FilesM.grantOwner_run h with ⟨-, hnodes⟩ | ⟨-, location, node, hlocate, hnode, hnodes⟩
  · exact hblind.same hK hnodes
  obtain rfl := Except.ok.inj (hplace.locate.symm.trans hlocate)
  have hfile : node ≠ .directory := by
    rintro rfl
    exact hplace.node hnode
  exact hblind.same (hblind.put hK hplace (Node.readable_ne hfile)) hnodes

/-- When a content was brought to a path from the file beside it, the path leads to the content. If
this failed, what does not see the file beside has stayed. -/
theorem of_writeBeside (hblind : BlindBeside path K) (hK : K files)
    (h : writeBeside path content files = (r, files')) :
    (r = .ok () ∧ files'.Holds path content) ∨ r ≠ .ok () ∧ K files' := by
  rcases bind_cases h with ⟨e, rfl, hwrite⟩ | ⟨_, written, hwrite, h₁⟩
  · exact .inr ⟨nofun, hblind.of_write hK hwrite⟩
  have hwritten := hblind.of_write hK hwrite
  obtain ⟨place, -, hplace, hnode⟩ := FilesM.write_ok hwrite
  rcases bind_cases h₁ with ⟨e, rfl, hgrant⟩ | ⟨_, granted, hgrant, hrename⟩
  · exact .inr ⟨nofun, hblind.of_grantOwner hwritten hplace hgrant⟩
  obtain ⟨hgranted, hfile⟩ := FilesM.grantOwner_ok hplace hnode hgrant
  rw [Node.readable_refilled] at hfile
  rcases rename_holds hgranted.placeOf hfile hrename with ⟨hfailed, hsame⟩ | hnew
  · exact .inr ⟨hfailed, hblind.same (hblind.of_grantOwner hwritten hplace hgrant) hsame⟩
  · exact .inl hnew

end BlindBeside

/-- Whether a content is brought to a path from the file beside it or not, the path leads to the old
content or to the new one; on success to the new one. -/
theorem writeBeside_run {path : String} {content : Bytes} {files files' : Files}
    {r : Except FileError Unit} (h : writeBeside path content files = (r, files')) :
    (r = .ok () → files'.Holds path content) ∧
      ∀ old, files.Holds path old → files'.Holds path old ∨ files'.Holds path content := by
  constructor
  · rintro rfl
    have hblind : BlindBeside path fun _ => True := ⟨fun _ _ => trivial, fun _ _ _ => trivial⟩
    rcases hblind.of_writeBeside trivial h with ⟨-, hnew⟩ | ⟨hfailed, -⟩
    · exact hnew
    · exact absurd rfl hfailed
  · intro old hold
    rcases (blindBeside_holds path old).of_writeBeside hold h with ⟨-, hnew⟩ | ⟨-, hkept⟩
    · exact .inr hnew
    · exact .inl hkept

/-- Whether the file of the credentials is replaced or not, the path leads to the old file or to the
new one; on success to the new one. -/
theorem replaceFile_run {path : String} {credentials : Credentials} {files files' : Files}
    {r : Except FileError Unit} (h : replaceFile path credentials files = (r, files')) :
    (r = .ok () → files'.Holds path (Bytes.ofText credentials.toJson.indented)) ∧
      ∀ content, files.Holds path content → files'.Holds path content ∨
        files'.Holds path (Bytes.ofText credentials.toJson.indented) := by
  rcases bind_cases h with ⟨_, -, hget⟩ | ⟨_, _, hget, h₁⟩ <;> cases hget
  dsimp only at h₁
  -- The directories above the path are made first, if there are none.
  split at h₁
  · rcases bind_cases h₁ with ⟨e, rfl, hmake⟩ | ⟨_, made, hmake, h₂⟩
    · have hextends := (FilesM.extends_createDirectories _).of_run hmake
      exact ⟨nofun, fun content hold => .inl (hold.of_extends hextends)⟩
    · have hextends := (FilesM.extends_createDirectories _).of_run hmake
      obtain ⟨hok, hkept⟩ := writeBeside_run h₂
      exact ⟨hok, fun content hold => hkept content (hold.of_extends hextends)⟩
  · exact writeBeside_run h₁

/-- Saving the credentials replaces the file, if there is one. -/
theorem save_run {device device' : VirtualDevice} {r : Except CeremonyError Unit}
    (h : save device = (r, device')) : device'.authenticator = device.authenticator ∧
      match device.authenticator.path with
      | none => device'.host = device.host
      | some path => ∃ result files,
        replaceFile path device.authenticator.credentials device.host.files = (result, files) ∧
          device'.host = { device.host with files } ∧ (r = .ok () → result = .ok ()) := by
  rcases bind_cases h with ⟨_, -, hget⟩ | ⟨_, _, hget, h₁⟩ <;> cases hget
  rcases hpath : device.authenticator.path with _ | path <;> rw [hpath] at h₁
  · cases h₁
    exact ⟨rfl, rfl⟩
  · dsimp only at h₁
    rcases hreplace : replaceFile path device.authenticator.credentials device.host.files with
      ⟨result, files⟩
    rw [hreplace] at h₁
    rcases result with e | _ <;> cases h₁
    · exact ⟨rfl, _, files, hreplace, rfl, nofun⟩
    · exact ⟨rfl, _, files, hreplace, rfl, fun _ => rfl⟩

/-- Saving the credentials keeps a credential that is in memory and in the file; when it succeeds,
one that is in memory comes into the file. -/
theorem save_holds {device device' : VirtualDevice} {r : Except CeremonyError Unit} {key : String}
    {stored : StoredCredential} (hmemory : device.authenticator.credentials.Holds key stored)
    (h : save device = (r, device'))
    (hfile : r = .ok () ∨ ∀ path, device.authenticator.path = some path →
      device.host.files.HoldsCredential path key stored) :
    device'.Holds key stored := by
  obtain ⟨hauthenticator, hhost⟩ := save_run h
  refine ⟨by rwa [hauthenticator], fun path hpath => ?_⟩
  rw [hauthenticator] at hpath
  rw [hpath] at hhost
  obtain ⟨result, files, hreplace, hfiles, hok⟩ := hhost
  obtain ⟨hsaved, hkept⟩ := replaceFile_run hreplace
  rw [hfiles]
  rcases hfile with hr | hfile
  · exact ⟨_, hsaved (hok hr), hmemory⟩
  · -- The file is the old one or the new one, and the credential is in both.
    obtain ⟨credentials, hholds, hold⟩ := hfile path hpath
    rcases hkept _ hholds with hsame | hnew
    · exact ⟨credentials, hsame, hold⟩
    · exact ⟨_, hnew, hmemory⟩

/-! ## Ceremonies -/

/-- What ceremonies leave as it was when they make and write nothing. -/
def kept (device : VirtualDevice) : Capabilities × Credentials × Option String × Host :=
  (device.authenticator.capabilities, device.authenticator.credentials, device.authenticator.path,
    device.host)

/-- To begin a ceremony counts and asks, and does nothing else. -/
theorem preserves_begin (ceremony : Ceremony) : Preserves kept (begin ceremony) := by
  have hupdate : ∀ {change : VirtualAuthenticator → VirtualAuthenticator},
      (∀ device : VirtualDevice, kept { device with authenticator := change device.authenticator } =
        kept device) → Preserves kept (update change) := fun h => .modify h
  refine (hupdate fun _ => rfl).bind fun _ => Within.get.bind fun device => ?_
  dsimp only
  split
  · exact .throw_bind _ _
  · refine (hupdate fun _ => rfl).bind fun _ => ?_
    split
    · exact .throw _
    · exact .pure _

/-- A ceremony begins when there are credentials and the user agrees. -/
theorem begin_of_approved (ceremony : Ceremony) {device : VirtualDevice}
    (havailable : device.authenticator.capabilities.isAvailable = true)
    (happroved : device.authenticator.presence.next.1 = true) :
    ∃ device', begin ceremony device = (.ok (), device') := by
  obtain ⟨⟨capabilities, credentials, presence, ceremonies, asked, path⟩, host⟩ := device
  rcases hnext : presence.next with ⟨approved, later⟩
  dsimp only at havailable happroved
  rw [hnext] at happroved
  subst happroved
  refine ⟨⟨⟨capabilities, credentials, later, ceremonies + 1, asked ++ [(ceremony, true)], path⟩,
    host⟩, ?_⟩
  simp [begin, update, run_bind, havailable, hnext]

/-- A ceremony begins exactly if there are credentials and the user agrees. -/
theorem begin_ok_iff (ceremony : Ceremony) {device : VirtualDevice} :
    (∃ after, begin ceremony device = (.ok (), after)) ↔
      device.authenticator.capabilities.isAvailable = true ∧
        device.authenticator.presence.next.1 = true := by
  constructor
  · rintro ⟨after, h⟩
    obtain ⟨_, counted, hcount, h₁⟩ := bind_ok h
    obtain ⟨_, _, hget, h₂⟩ := bind_ok h₁
    cases hcount
    cases hget
    dsimp only at h₂
    split at h₂
    · cases h₂
    · next havailable =>
      obtain ⟨_, asked, hask, h₃⟩ := bind_ok h₂
      cases hask
      split at h₃
      · cases h₃
      · next happroved => exact ⟨by simpa using havailable, by simpa using happroved⟩
  · rintro ⟨havailable, happroved⟩
    exact begin_of_approved ceremony havailable happroved

/-- To look up a known credential has no effect. -/
theorem preserves_known {γ : Type} (view : VirtualDevice → γ) (rpId : String)
    (credential : CredentialId) : Preserves view (known rpId credential) := by
  refine Within.get.bind fun device => ?_
  split
  · exact .pure _
  · exact .throw _

/-- A credential is known exactly if it is there and belongs to the relying party. -/
theorem known_ok_iff {rpId : String} {credential : CredentialId} {device after : VirtualDevice}
    {found : StoredCredential} : known rpId credential device = (.ok found, after) ↔
      after = device ∧ device.authenticator.credentials.get? credential.text = some found ∧
        found.rpId = rpId := by
  unfold known
  rw [run_bind, run_get]
  dsimp only
  rcases device.authenticator.credentials.get? credential.text with _ | stored
  · constructor
    · intro h
      cases h
    · rintro ⟨-, hnone, -⟩
      cases hnone
  · by_cases hrp : stored.rpId = rpId
    · rw [Option.filter_some, if_pos (by simpa using hrp)]
      constructor
      · intro h
        cases h
        exact ⟨rfl, rfl, hrp⟩
      · rintro ⟨rfl, hfound, -⟩
        rw [Option.some.inj hfound]
        rfl
    · rw [Option.filter_some, if_neg (by simpa using hrp)]
      constructor
      · intro h
        cases h
      · rintro ⟨-, hfound, hrp'⟩
        exact absurd (Option.some.inj hfound ▸ hrp') hrp

/-- The beginning that all uses of a credential share: the mechanism is there, the ceremony begins,
and the credential is known. -/
def ask (method : SecretMethod) (ceremony : Ceremony) (rpId : String)
    (credential : CredentialId) : VirtualM StoredCredential := do
  if !(← get).authenticator.capabilities.supports method then throw (.extensionUnsupported method)
  begin ceremony
  known rpId credential

/-- To use a credential begins in this way. -/
theorem use_eq {α : Type} (method : SecretMethod) (ceremony : Ceremony) (rpId : String)
    (credential : CredentialId) (use : StoredCredential → VirtualM α) :
    (do
      if !(← get).authenticator.capabilities.supports method then
        throw (.extensionUnsupported method)
      begin ceremony
      use (← known rpId credential) : VirtualM α) =
      ask method ceremony rpId credential >>= use := by
  unfold ask
  rw [bind_assoc]
  refine congrArg _ (funext fun device => ?_)
  cases device.authenticator.capabilities.supports method
  · rfl
  · exact (bind_assoc _ _ _).symm

/-- To ask for the use of a credential counts and asks, and does nothing else. -/
theorem preserves_ask (method : SecretMethod) (ceremony : Ceremony) (rpId : String)
    (credential : CredentialId) : Preserves kept (ask method ceremony rpId credential) := by
  refine Within.get.bind fun device => ?_
  dsimp only
  split
  · exact .throw_bind _ _
  · exact (preserves_begin ceremony).bind fun _ => preserves_known kept rpId credential

/-- A mechanism that is not there is told apart at once. -/
theorem ask_of_unsupported {method : SecretMethod} {device : VirtualDevice}
    (h : device.authenticator.capabilities.supports method = false) (ceremony : Ceremony)
    (rpId : String) (credential : CredentialId) :
    ask method ceremony rpId credential device = (.error (.extensionUnsupported method), device) := by
  unfold ask
  rw [run_bind, run_get]
  dsimp only
  rw [h]
  rfl

/-- With the mechanism, the use of a credential begins with the ceremony. -/
theorem ask_of_supported {method : SecretMethod} {device : VirtualDevice}
    (h : device.authenticator.capabilities.supports method = true) (ceremony : Ceremony)
    (rpId : String) (credential : CredentialId) :
    ask method ceremony rpId credential device =
      (begin ceremony >>= fun _ => known rpId credential) device := by
  unfold ask
  rw [run_bind, run_get]
  dsimp only
  rw [h]
  rfl

/-- A ceremony that cannot begin does not say that a mechanism is not there. -/
theorem begin_error {ceremony : Ceremony} {device device' : VirtualDevice} {e : CeremonyError}
    (h : begin ceremony device = (.error e, device')) (missing : SecretMethod) :
    e ≠ .extensionUnsupported missing := by
  rcases bind_error h with hcount | ⟨_, counted, hcount, h₁⟩ <;> cases hcount
  rcases bind_error h₁ with hget | ⟨_, _, hget, h₂⟩ <;> cases hget
  dsimp only at h₂
  split at h₂
  · cases h₂
    exact nofun
  · rcases bind_error h₂ with hask | ⟨_, asked, hask, h₃⟩ <;> cases hask
    split at h₃ <;> cases h₃
    exact nofun

/-- A mechanism is said not to be there only if it is not. -/
theorem ask_unsupported {method missing : SecretMethod} {ceremony : Ceremony} {rpId : String}
    {credential : CredentialId} {device device' : VirtualDevice}
    (h : ask method ceremony rpId credential device =
      (.error (.extensionUnsupported missing), device')) :
    device.authenticator.capabilities.supports method = false ∧ device' = device := by
  rcases hmethod : device.authenticator.capabilities.supports method with _ | _
  · rw [ask_of_unsupported hmethod] at h
    cases h
    exact ⟨rfl, rfl⟩
  · rw [ask_of_supported hmethod] at h
    rcases bind_error h with hbegin | ⟨_, begun, -, hknown⟩
    · exact absurd rfl (begin_error hbegin missing)
    · -- A credential that is not known is refused in another way.
      rcases bind_error hknown with hget | ⟨_, _, hget, h₁⟩ <;> cases hget
      generalize Option.filter _ _ = found at h₁
      cases found <;> cases h₁

/-- A credential may be used only with a mechanism that is there. -/
theorem ask_supports {method : SecretMethod} {ceremony : Ceremony} {rpId : String}
    {credential : CredentialId} {device device' : VirtualDevice} {found : StoredCredential}
    (h : ask method ceremony rpId credential device = (.ok found, device')) :
    device.authenticator.capabilities.supports method = true := by
  rcases hmethod : device.authenticator.capabilities.supports method with _ | _
  · rw [ask_of_unsupported hmethod] at h
    cases h
  · rfl

/-- A credential may be used exactly if the mechanism is there, the ceremony begins, and the
credential is there and belongs to the relying party that asks. -/
theorem ask_ok_iff (ceremony : Ceremony) {method : SecretMethod} {rpId : String}
    {credential : CredentialId} {device : VirtualDevice} {found : StoredCredential} :
    (∃ after, ask method ceremony rpId credential device = (.ok found, after)) ↔
      device.authenticator.capabilities.supports method = true ∧
        device.authenticator.capabilities.isAvailable = true ∧
          device.authenticator.presence.next.1 = true ∧
            device.authenticator.credentials.get? credential.text = some found ∧
              found.rpId = rpId := by
  -- The beginning of the ceremony leaves the credentials.
  have hcredentials : ∀ {begun}, begin ceremony device = (.ok (), begun) →
      begun.authenticator.credentials = device.authenticator.credentials :=
    fun hbegin => congrArg (·.2.1) ((preserves_begin ceremony).of_run hbegin)
  constructor
  · rintro ⟨after, h⟩
    have hmethod := ask_supports h
    rw [ask_of_supported hmethod] at h
    obtain ⟨_, begun, hbegin, hknown⟩ := bind_ok h
    obtain ⟨-, hget, hrp⟩ := known_ok_iff.mp hknown
    rw [hcredentials hbegin] at hget
    obtain ⟨havailable, happroved⟩ := (begin_ok_iff ceremony).mp ⟨begun, hbegin⟩
    exact ⟨hmethod, havailable, happroved, hget, hrp⟩
  · rintro ⟨hmethod, havailable, happroved, hget, hrp⟩
    obtain ⟨begun, hbegin⟩ := (begin_ok_iff ceremony).mpr ⟨havailable, happroved⟩
    refine ⟨begun, ?_⟩
    rw [ask_of_supported hmethod, run_bind_of_ok hbegin]
    rw [← hcredentials hbegin] at hget
    exact known_ok_iff.mpr ⟨rfl, hget, hrp⟩

/-! ## Uses that change nothing -/

/-- A use of a credential that changes nothing: what it yields is said by the credential. -/
def look {α : Type} (method : SecretMethod) (ceremony : Ceremony) (rpId : String)
    (credential : CredentialId) (yields : StoredCredential → Except CeremonyError α) :
    VirtualM α := do
  let stored ← ask method ceremony rpId credential
  ExceptT.mk (pure (yields stored))

/-- To evaluate the pseudo-random function changes nothing. -/
theorem evaluatePrf_eq (rpId : String) (credential : CredentialId) (salt : Bytes) :
    evaluatePrf rpId credential salt = look .prf (.unlock rpId credential) rpId credential
      fun stored => .ok (prfOutput stored.secret salt) :=
  use_eq .prf (.unlock rpId credential) rpId credential
    fun stored => pure (prfOutput stored.secret salt)

/-- To evaluate the keyed hash changes nothing. -/
theorem evaluateHmac_eq (rpId : String) (credential : CredentialId) (salt : Bytes) :
    evaluateHmac rpId credential salt = look .hmacSecret (.unlock rpId credential) rpId credential
      fun stored => .ok (hmacOutput stored.secret salt) :=
  use_eq .hmacSecret (.unlock rpId credential) rpId credential
    fun stored => pure (hmacOutput stored.secret salt)

/-- The data stored with a credential. -/
def blobOf (stored : StoredCredential) : Except CeremonyError (Option Bytes) :=
  match stored.largeBlob with
  | none => .ok none
  | some text =>
    match Base64Url.decode text with
    | .ok blob => .ok (some blob)
    | .error e => .error (.failed ("corrupt large blob: " ++ e.message))

/-- To read stored data changes nothing. -/
theorem readBlob_eq (rpId : String) (credential : CredentialId) :
    readBlob rpId credential =
      look .largeBlob (.readBlob rpId credential) rpId credential blobOf := by
  funext device
  unfold look
  rcases hmethod : device.authenticator.capabilities.largeBlob with _ | _
  · rw [run_bind_of_error (@ask_of_unsupported .largeBlob device hmethod _ _ _)]
    unfold readBlob
    rw [run_bind, run_get]
    dsimp only
    rw [hmethod]
    rfl
  · rw [run_bind, @ask_of_supported .largeBlob device hmethod, ← run_bind, bind_assoc]
    unfold readBlob
    rw [run_bind, run_get]
    dsimp only
    rw [hmethod, if_neg (by decide)]
    refine congrFun (congrArg _ (funext fun _ => congrArg _ (funext fun stored => ?_))) device
    unfold blobOf
    rcases stored.largeBlob with _ | text
    · rfl
    · dsimp only
      rcases Base64Url.decode text with _ | _ <;> rfl

section Look

variable {α : Type} {method : SecretMethod} {ceremony : Ceremony} {rpId : String}
  {credential : CredentialId} {yields : StoredCredential → Except CeremonyError α}
  {device device' : VirtualDevice} {stored : StoredCredential}

/-- A use that changes nothing counts and asks. -/
theorem preserves_look (method : SecretMethod) (ceremony : Ceremony) (rpId : String)
    (credential : CredentialId) (yields : StoredCredential → Except CeremonyError α) :
    Preserves kept (look method ceremony rpId credential yields) :=
  (preserves_ask method ceremony rpId credential).bind fun _ _ => rfl

/-- Something is looked up exactly if the credential may be used and says it. -/
theorem look_ok_iff {value : α} :
    (look method ceremony rpId credential yields device).1 = .ok value ↔
      device.authenticator.capabilities.supports method = true ∧
        device.authenticator.capabilities.isAvailable = true ∧
          device.authenticator.presence.next.1 = true ∧ ∃ stored,
            device.authenticator.credentials.get? credential.text = some stored ∧
              stored.rpId = rpId ∧ yields stored = .ok value := by
  constructor
  · intro h
    rcases hlook : look method ceremony rpId credential yields device with ⟨answer, after⟩
    rw [hlook] at h
    obtain rfl : answer = .ok value := h
    obtain ⟨found, asked, hask, h₁⟩ := bind_ok hlook
    obtain ⟨hmethod, havailable, happroved, hget, hrp⟩ := (ask_ok_iff _).mp ⟨asked, hask⟩
    exact ⟨hmethod, havailable, happroved, found, hget, hrp, congrArg Prod.fst h₁⟩
  · rintro ⟨hmethod, havailable, happroved, found, hget, hrp, hyields⟩
    obtain ⟨asked, hask⟩ :=
      (ask_ok_iff ceremony).mpr ⟨hmethod, havailable, happroved, hget, hrp⟩
    rw [look, run_bind_of_ok hask, ← hyields]
    rfl

/-- What was looked up is what the credential says that is held. -/
theorem look_ok {value : α} (hold : device.authenticator.credentials.Holds credential.text stored)
    (h : look method ceremony rpId credential yields device = (.ok value, device')) :
    device.authenticator.capabilities.supports method = true ∧ stored.rpId = rpId ∧
      yields stored = .ok value := by
  obtain ⟨hmethod, -, -, found, hget, hrp, hyields⟩ := look_ok_iff.mp (congrArg Prod.fst h)
  obtain rfl := Option.some.inj (hold.get?.symm.trans hget)
  exact ⟨hmethod, hrp, hyields⟩

/-- A mechanism is said not to be there only if it is not, unless a credential says so. -/
theorem look_unsupported {missing : SecretMethod}
    (hyields : ∀ found, yields found ≠ .error (.extensionUnsupported missing))
    (h : look method ceremony rpId credential yields device =
      (.error (.extensionUnsupported missing), device')) :
    device.authenticator.capabilities.supports method = false ∧ device' = device := by
  rcases bind_error h with hask | ⟨found, asked, -, h₁⟩
  · exact ask_unsupported hask
  · exact absurd (congrArg Prod.fst h₁) (hyields found)

/-- A mechanism that is not there is told apart at once. -/
theorem look_of_unsupported (h : device.authenticator.capabilities.supports method = false)
    (ceremony : Ceremony) (rpId : String) (credential : CredentialId)
    (yields : StoredCredential → Except CeremonyError α) :
    look method ceremony rpId credential yields device =
      (.error (.extensionUnsupported method), device) :=
  run_bind_of_error (ask_of_unsupported h ceremony rpId credential)

/-- What a credential says that is held is found, when the mechanism is offered and the relying
party of the credential asks. -/
theorem look_of_offers (hoffers : device.authenticator.Offers method)
    (hold : device.authenticator.credentials.Holds credential.text stored)
    (hrp : stored.rpId = rpId) (ceremony : Ceremony)
    (yields : StoredCredential → Except CeremonyError α) :
    ∃ after, look method ceremony rpId credential yields device = (yields stored, after) := by
  have hmethod := (Capabilities.first?_eq_some.mp hoffers.first).1
  obtain ⟨asked, hask⟩ := (ask_ok_iff ceremony).mpr
    ⟨hmethod, hoffers.isAvailable, hoffers.approved, hold.get?, hrp⟩
  refine ⟨asked, ?_⟩
  unfold look
  rw [run_bind_of_ok hask]
  rfl

end Look

/-! ## Uses that change a credential -/

/-- Puts a credential in place of any other with its name, in memory and in the file. -/
def hold (credential : CredentialId) (stored : StoredCredential) : VirtualM Unit := do
  update fun a => { a with credentials := a.credentials.insert credential.text stored }
  save

/-- To store data is a use of the credential that changes it. -/
theorem writeBlob_eq (rpId : String) (credential : CredentialId) (blob : Bytes) :
    writeBlob rpId credential blob = (do
      let stored ← ask .largeBlob (.writeBlob rpId credential) rpId credential
      hold credential { stored with largeBlob := some (Base64Url.encode blob) }) :=
  use_eq .largeBlob (.writeBlob rpId credential) rpId credential fun stored =>
    hold credential { stored with largeBlob := some (Base64Url.encode blob) }

/-- To make a credential draws its name and its secret. -/
theorem create_eq (options : CreationOptions) :
    create options = (do
      begin (.create options.rpId options.rpName)
      let name ← drawBytes credentialIdSize
      let secret ← drawBytes secretSize
      hold ⟨name⟩ ⟨options.rpId, options.userName, secret, none⟩
      return ⟨name⟩) := by
  simp only [create, hold, bind_assoc]

/-- A credential that is put in place is held if that succeeds; others are held in any case. -/
theorem hold_run {credential : CredentialId} {new : StoredCredential} {device device' : VirtualDevice}
    {r : Except CeremonyError Unit} (h : hold credential new device = (r, device')) :
    (r = .ok () → device'.Holds credential.text new) ∧
      ∀ key stored, credential.text ≠ key → device.Holds key stored → device'.Holds key stored := by
  rcases bind_cases h with ⟨e, -, hupdate⟩ | ⟨_, changed, hupdate, hsave⟩ <;> cases hupdate
  refine ⟨fun hr => save_holds (Credentials.holds_insert _ _ _) hsave (.inl hr), ?_⟩
  intro key stored hother hheld
  exact save_holds (hheld.memory.insert hother) hsave (.inr hheld.file)

/-! ## Credentials stay -/

variable {key : String} {stored : StoredCredential}

/-- What is held depends on the credentials, the path and the files. -/
theorem maintains_of_preserves {α : Type} {ceremony : VirtualM α} (h : Preserves kept ceremony) :
    Maintains (VirtualDevice.Holds · key stored) ceremony := by
  intro device hheld
  have hsame := h device
  have hcredentials := congrArg (·.2.1) hsame
  have hpath := congrArg (·.2.2.1) hsame
  have hhost := congrArg (·.2.2.2) hsame
  simp only [kept] at hcredentials hpath hhost
  exact ⟨hcredentials ▸ hheld.memory, fun path hat => hhost ▸ hheld.file path (hpath ▸ hat)⟩

/-- To look at any credential keeps a credential. -/
theorem maintains_look {α : Type} (method : SecretMethod) (ceremony : Ceremony) (rpId : String)
    (credential : CredentialId) (yields : StoredCredential → Except CeremonyError α) :
    Maintains (VirtualDevice.Holds · key stored) (look method ceremony rpId credential yields) :=
  maintains_of_preserves (preserves_look method ceremony rpId credential yields)

/-- To store data with a credential keeps the other credentials. -/
theorem maintains_writeBlob (rpId : String) {credential : CredentialId} (blob : Bytes)
    (hother : credential.text ≠ key) :
    Maintains (VirtualDevice.Holds · key stored) (writeBlob rpId credential blob) := by
  rw [writeBlob_eq]
  refine (maintains_of_preserves (preserves_ask _ _ _ _)).bind fun found device hheld => ?_
  exact (hold_run rfl).2 key stored hother hheld

/-- Data that was stored is held with the credential. -/
theorem writeBlob_ok {rpId : String} {credential : CredentialId} {blob : Bytes}
    {device device' : VirtualDevice}
    (hheld : device.authenticator.credentials.Holds credential.text stored)
    (h : writeBlob rpId credential blob device = (.ok (), device')) :
    stored.rpId = rpId ∧ device'.Holds credential.text
      { stored with largeBlob := some (Base64Url.encode blob) } := by
  rw [writeBlob_eq] at h
  obtain ⟨found, asked, hask, h₁⟩ := bind_ok h
  obtain ⟨-, -, -, hget, hrp⟩ := (ask_ok_iff _).mp ⟨asked, hask⟩
  obtain rfl := Option.some.inj (hheld.get?.symm.trans hget)
  exact ⟨hrp, (hold_run h₁).1 rfl⟩

/-- To draw bytes goes on in the source of random bytes. -/
theorem drawBytes_eq (count : Nat) (device : VirtualDevice) :
    drawBytes count device = (.ok (device.host.random.draw count).1, { device with
      host := { device.host with random := (device.host.random.draw count).2 } }) := rfl

/-- To draw bytes goes on in the source of random bytes, for what is known to be drawn. -/
theorem drawBytes_of_draw {count : Nat} {device : VirtualDevice} {bytes : Bytes}
    {random : RandomStream} (h : device.host.random.draw count = (bytes, random)) :
    drawBytes count device =
      (.ok bytes, { device with host := { device.host with random } }) := by
  rw [drawBytes_eq, h]

/-- To draw bytes changes the source of random bytes alone. -/
theorem drawBytes_run {count : Nat} {device device' : VirtualDevice}
    {r : Except CeremonyError Bytes} (h : drawBytes count device = (r, device')) :
    r = .ok (device.host.random.draw count).1 ∧
      ∃ random, device' = { device with host := { device.host with random } } := by
  rw [drawBytes_eq] at h
  obtain ⟨rfl, rfl⟩ := Prod.mk.inj h
  exact ⟨rfl, _, rfl⟩

/-- A credential that is made has the name that is drawn, and is held; the others stay. -/
theorem create_run {options : CreationOptions} {device device' : VirtualDevice}
    {r : Except CeremonyError CredentialId} (h : create options device = (r, device')) :
    (∀ credential, r = .ok credential →
      credential = ⟨(device.host.random.draw credentialIdSize).1⟩ ∧
        ∃ secret, device'.Holds credential.text ⟨options.rpId, options.userName, secret, none⟩) ∧
      ∀ key stored,
        CredentialId.text ⟨(device.host.random.draw credentialIdSize).1⟩ ≠ key →
          device.Holds key stored → device'.Holds key stored := by
  rw [create_eq] at h
  rcases bind_cases h with ⟨e, rfl, hbegin⟩ | ⟨_, begun, hbegin, h₁⟩
  · exact ⟨nofun, fun key stored _ hheld =>
      (maintains_of_preserves (preserves_begin _)).of_run hbegin hheld⟩
  have hhost : begun.host = device.host :=
    congrArg (·.2.2.2) ((preserves_begin _).of_run hbegin)
  have hkept : ∀ {key stored}, device.Holds key stored → begun.Holds key stored :=
    (maintains_of_preserves (preserves_begin _)).of_run hbegin
  rw [← hhost]
  -- The name is drawn first, then the secret.
  rcases bind_cases h₁ with ⟨e, -, hname⟩ | ⟨name, named, hname, h₂⟩
  · cases (drawBytes_run hname).1
  obtain ⟨hdrawn, later, rfl⟩ := drawBytes_run hname
  obtain rfl := Except.ok.inj hdrawn
  rcases bind_cases h₂ with ⟨e, -, hsecret⟩ | ⟨secret, drawn, hsecret, h₃⟩
  · cases (drawBytes_run hsecret).1
  obtain ⟨-, last, rfl⟩ := drawBytes_run hsecret
  rcases bind_cases h₃ with ⟨e, rfl, hhold⟩ | ⟨_, held, hhold, h₄⟩
  · refine ⟨nofun, fun key stored hother hheld => (hold_run hhold).2 key stored hother ?_⟩
    exact ⟨(hkept hheld).memory, (hkept hheld).file⟩
  · cases h₄
    refine ⟨fun credential hcredential => ?_, fun key stored hother hheld =>
      (hold_run hhold).2 key stored hother ⟨(hkept hheld).memory, (hkept hheld).file⟩⟩
    obtain rfl := Except.ok.inj hcredential
    exact ⟨rfl, secret, (hold_run hhold).1 rfl⟩

/-! ## Opening -/

/-- An authenticator that is opened from its file holds what the file holds. -/
theorem openAt_holds {path : String} {capabilities : Capabilities} {host : Host}
    {authenticator : VirtualAuthenticator}
    (h : openAt path capabilities host.files = .ok authenticator)
    (hfile : host.files.HoldsCredential path key stored) :
    VirtualDevice.Holds ⟨authenticator, host⟩ key stored := by
  obtain ⟨credentials, hcontent, hheld⟩ := hfile
  unfold openAt at h
  rw [if_pos hcontent.exists?, hcontent.readText] at h
  dsimp only at h
  -- The text of the file is that of the credentials, which are read back from it.
  rw [credentials.run_toJson] at h
  cases h
  refine ⟨hheld.gather, fun other hat => ?_⟩
  obtain rfl := Option.some.inj hat
  exact ⟨credentials, hcontent, hheld⟩

end VirtualAuthenticator

end CredentialVault
