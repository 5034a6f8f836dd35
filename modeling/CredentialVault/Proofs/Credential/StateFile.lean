import CredentialVault.Proofs.Credential.Calls
import CredentialVault.Proofs.Credential.Enrollment
import CredentialVault.Proofs.Files.Hidden
import CredentialVault.Proofs.Json.Yields

/-!
# The file of an authenticator is always complete

While an authenticator is called, and whatever fails, its path leads to no file or to one that reads
as the credentials that were saved last, also in the middle of a call (`DeviceUse.Passes`). This
does not hold of a path that hides a file (`stateFile_foreign`): the directory in which the file is
to be kept is made before the file is written, and may bring to light a file that is not the
authenticator's.

When all credentials were saved, an authenticator that is opened from the file answers every
sequence of calls as the one that wrote it would have (`stateFile_complete`).
-/

namespace CredentialVault

open Operation Json

/-! ## Credentials that are saved -/

namespace Credentials

variable {credentials : Credentials}

/-- A node is a file that reads as the credentials. -/
def SavedIn (credentials : Credentials) (node : Node) : Prop :=
  ∃ text, node = .file (Bytes.ofText text) ∧ reader.run (Bytes.ofText text) = .ok credentials

/-- Credentials that are read have one row for each name. -/
theorem distinctKeys_of_run {bytes : Bytes} (h : reader.run bytes = .ok credentials) :
    DistinctKeys credentials.rows := by
  have hfields : Yields (fun draft => DistinctKeys (draft.getD .empty).rows) fields.read := by
    refine Fields.yields_read List.nodup_nil fun field hfield draft _ => ?_
    obtain rfl := List.mem_singleton.mp hfield
    exact (yields_dictionary _).bind fun rows hrows => .pure hrows
  exact Yields.run (P := fun credentials : Credentials => DistinctKeys credentials.rows)
    (hfields.bind fun draft hdraft => .pure hdraft) h

/-- A credential that is put in place has the only row of its name. -/
theorem distinctKeys_insert (h : DistinctKeys credentials.rows) (key : String)
    (stored : StoredCredential) : DistinctKeys (credentials.insert key stored).rows := by
  unfold DistinctKeys at h ⊢
  rw [Table.insert, List.map_cons, List.nodup_cons]
  refine ⟨?_, h.sublist (List.filter_sublist.map _)⟩
  intro hmem
  obtain ⟨row, hrow, hkey⟩ := List.mem_map.mp hmem
  have hother := (List.mem_filter.mp hrow).2
  simp [hkey] at hother

/-- Credentials with one row for each name are what their text reads as. -/
theorem run_toJson_of_distinctKeys (h : DistinctKeys credentials.rows) :
    reader.run (Bytes.ofText credentials.toJson.indented) = .ok credentials := by
  rw [run_toJson, gather_of_distinctKeys (by simpa using h), List.nil_append]

end Credentials

namespace VirtualAuthenticator

variable {path : String} {capabilities : Capabilities} {files files' : Files} {content : Bytes}
  {credentials : Credentials} {opened : VirtualAuthenticator}

/-! ## Opening -/

/-- An authenticator that is opened has what its path leads to, one credential for each name. -/
theorem openAt_eq_ok (h : openAt path capabilities files = .ok opened) :
    opened = { fresh capabilities with credentials := opened.credentials, path := some path } ∧
      DistinctKeys opened.credentials.rows ∧
        ∀ node, files.find path = .ok node → opened.credentials.SavedIn node := by
  unfold openAt at h
  split at h
  · rcases htext : files.readText path with e | text <;> rw [htext] at h
    · cases h
    dsimp only at h
    rcases hread : Credentials.reader.run (Bytes.ofText text) with e | credentials <;> rw [hread] at h
    · cases h
    cases h
    refine ⟨rfl, Credentials.distinctKeys_of_run hread, fun node hfind => ⟨text, ?_, hread⟩⟩
    exact Except.ok.inj (hfind.symm.trans (Files.find_of_readText htext))
  · next hexists =>
    cases h
    refine ⟨rfl, List.nodup_nil, fun node hfind => ?_⟩
    rw [Files.exists?, hfind] at hexists
    exact absurd rfl hexists

/-- An authenticator is opened from a file that reads as credentials. -/
theorem openAt_of_holds {text : String} (hfile : files.Holds path (Bytes.ofText text))
    (hread : Credentials.reader.run (Bytes.ofText text) = .ok credentials)
    (capabilities : Capabilities) : openAt path capabilities files =
      .ok { fresh capabilities with credentials, path := some path } := by
  unfold openAt
  rw [if_pos hfile.exists?, hfile.readText]
  dsimp only
  rw [hread]

/-! ## The replacing of the file -/

/-- What the path leads to does not see the file beside. -/
theorem blindBeside_leadsOnlyTo (path : String) (P : Node → Prop) :
    BlindBeside path (·.LeadsOnlyTo path P) where
  same hleads hnodes := hleads.of_grows (.of_nodes hnodes)
  put hleads hplace hfile := hleads.setNode (getLast?_beside_ne hplace) hplace.node hfile

/-- When the file cannot be replaced, the path leads to what it led to. -/
theorem writeBeside_error {P : Node → Prop} {e : FileError} (hleads : files.LeadsOnlyTo path P)
    (h : writeBeside path content files = (.error e, files')) : files'.LeadsOnlyTo path P := by
  rcases (blindBeside_leadsOnlyTo path P).of_writeBeside hleads h with ⟨hok, -⟩ | ⟨-, hkept⟩
  · cases hok
  · exact hkept

/-- When the file of the credentials cannot be replaced, the path leads to what it led to. -/
theorem replaceFile_error {P : Node → Prop} {e : FileError} (hleads : files.LeadsOnlyTo path P)
    (h : replaceFile path credentials files = (.error e, files')) : files'.LeadsOnlyTo path P := by
  rcases bind_error h with hget | ⟨_, _, hget, h₁⟩ <;> cases hget
  dsimp only at h₁
  split at h₁
  · -- The directories are made first, which lets the tree grow.
    rcases bind_error h₁ with hmake | ⟨_, made, hmake, h₂⟩
    · exact hleads.of_grows ((FilesM.grows_createDirectories _).of_run hmake)
    · exact writeBeside_error (hleads.of_grows ((FilesM.grows_createDirectories _).of_run hmake)) h₂
  · exact writeBeside_error hleads h₁

/-- When the file of the credentials was replaced, the path leads to a file that reads as them. -/
theorem replaceFile_ok (hdistinct : DistinctKeys credentials.rows)
    (h : replaceFile path credentials files = (.ok (), files')) :
    files'.LeadsOnlyTo path credentials.SavedIn := by
  have hholds := (replaceFile_run h).1 rfl
  intro grown node hgrows hfind hfile
  obtain rfl := Files.LeadsOnlyTo.of_holds hholds grown node hgrows hfind hfile
  exact ⟨_, rfl, Credentials.run_toJson_of_distinctKeys hdistinct⟩

end VirtualAuthenticator

/-! ## Authenticators in use -/

/-- The authenticator with a user that answers in another way. -/
def VirtualAuthenticator.withPresence (authenticator : VirtualAuthenticator) (presence : Presence) :
    VirtualAuthenticator :=
  { authenticator with presence }

/-- A device in use, and the credentials of its authenticator as they were saved last. -/
structure DeviceUse where
  /-- The device. -/
  device : VirtualDevice
  /-- The credentials that were saved last, or that the authenticator was opened with. -/
  saved : Credentials

namespace DeviceUse

open VirtualAuthenticator

/-- An authenticator that was just opened. -/
def opened (authenticator : VirtualAuthenticator) (host : Host) : DeviceUse :=
  ⟨⟨authenticator, host⟩, authenticator.credentials⟩

/-- The files. -/
def files (use : DeviceUse) : Files := use.device.host.files

/-- The device with other files. -/
def withFiles (use : DeviceUse) (files : Files) : DeviceUse :=
  { use with device := { use.device with host := { use.device.host with files } } }

/-- One call is made. Its success says that the credentials were saved, if it saves them. -/
def call (use : DeviceUse) (call : PlatformCall) : DeviceUse where
  device := (call.ceremony use.device).2
  saved :=
    if call.saves && (call.ceremony use.device).1.isOk then
      (call.ceremony use.device).2.authenticator.credentials
    else use.saved

/-- Calls are made one after another. -/
def calls (use : DeviceUse) (calls : List PlatformCall) : DeviceUse :=
  calls.foldl call use

/-- The next call is stopped after some changes of the files: the one after them is refused, with an
error that nothing in the saving of the credentials handles. If it fills a file, some bytes are
written before. -/
def stoppedAfter (use : DeviceUse) (count written : Nat) : DeviceUse :=
  use.withFiles { use.files with
    refusals := (use.files.refusals ++ List.replicate count none).take count ++
      [some ⟨.busy, written⟩] }

/-- What there is at some moment of a call: what is left when the call is stopped after some
changes, or such a tree in which the file beside is just being written, so that it may have any
content. -/
inductive Passes (use : DeviceUse) (next : PlatformCall) (path : String) : DeviceUse → Prop where
  /-- Between two changes, before the first or after the last one, or while a file is filled. -/
  | between (count written : Nat) : Passes use next path ((use.stoppedAfter count written).call next)
  /-- While the file beside is written. -/
  | writing {now : DeviceUse} (h : Passes use next path now) {place : Files.Place}
      (hplace : now.files.placeOf (beside path) = .ok place)
      (hdirectory : now.files.node? place.location ≠ some .directory) (part : Bytes) :
      Passes use next path (now.withFiles (now.files.refill place.location part))

/-- The path leads to no file, or to one that reads as the credentials that were saved last. -/
def IsComplete (use : DeviceUse) (path : String) : Prop :=
  ∀ node, use.files.find path = .ok node → node = .directory ∨ use.saved.SavedIn node

/-- None of the calls fails to save the credentials. -/
def AllSaved (use : DeviceUse) : List PlatformCall → Prop
  | [] => True
  | next :: calls =>
    ¬next.CannotSave (next.ceremony use.device).1 ∧ (use.call next).AllSaved calls

end DeviceUse

/-- An authenticator keeps its file at a path, with one credential for each name. -/
structure VirtualAuthenticator.KeepsFile (authenticator : VirtualAuthenticator) (path : String)
    (capabilities : Capabilities) : Prop where
  /-- It keeps its file at the path. -/
  path : authenticator.path = some path
  /-- It can do what it could when it was opened. -/
  capabilities : authenticator.capabilities = capabilities
  /-- There is one credential for each name. -/
  distinct : DistinctKeys authenticator.credentials.rows

namespace VirtualAuthenticator

variable {path : String} {capabilities : Capabilities}

/-- Every step of a ceremony keeps one credential for each name, and the file where it is. -/
theorem ceremonySteps_keepsFile : CeremonySteps
    (Keeps fun device : VirtualDevice => device.authenticator.KeepsFile path capabilities) where
  count := .modify fun _ h => ⟨h.path, h.capabilities, h.distinct⟩
  ask _ _ h := ⟨h.path, h.capabilities, h.distinct⟩
  draw _ _ h := h
  insert key stored := .modify fun _ h =>
    ⟨h.path, h.capabilities, Credentials.distinctKeys_insert h.distinct key stored⟩
  save device h := by
    rcases hsave : save device with ⟨r, saved⟩
    rw [(save_run hsave).1]
    exact h

end VirtualAuthenticator

namespace DeviceUse

open VirtualAuthenticator

variable {path : String} {capabilities : Capabilities} {use : DeviceUse}

/-- The authenticator keeps its file, and the path leads only to files that read as what was saved
last. -/
structure Intact (use : DeviceUse) (path : String) (capabilities : Capabilities) : Prop where
  /-- The authenticator keeps its file. -/
  keeps : use.device.authenticator.KeepsFile path capabilities
  /-- The path leads to no other file. -/
  leads : use.files.LeadsOnlyTo path use.saved.SavedIn

/-- A path that leads only to files that read as what was saved last is as it should be. -/
theorem isComplete_of_leads (h : use.files.LeadsOnlyTo path use.saved.SavedIn) :
    use.IsComplete path := by
  intro node hfind
  by_cases hdirectory : node = .directory
  · exact .inl hdirectory
  · exact .inr (h.find hfind hdirectory)

namespace Intact

/-- A call keeps the file intact. -/
theorem call (h : use.Intact path capabilities) (next : PlatformCall) :
    (use.call next).Intact path capabilities := by
  have hkeeps := next.within_ceremony ceremonySteps_keepsFile use.device h.keeps
  refine ⟨hkeeps, ?_⟩
  have hleads := h.leads
  unfold files DeviceUse.call at *
  rcases hrun : next.ceremony use.device with ⟨answer, after⟩
  rw [hrun] at hkeeps
  dsimp only at hkeeps ⊢
  cases PlatformCall.outcome_of_run h.keeps.path hrun with
  | kept hcredentials hfiles hcan hfails =>
    have hunsaved : (next.saves && answer.isOk) = false := by
      rcases hsaves : next.saves with _ | _
      · rfl
      · exact hfails hsaves
    rw [hunsaved, if_neg (by decide), hfiles]
    exact hleads
  | saved hsaves hok hreplace =>
    rw [hsaves, hok, Bool.true_and, if_pos rfl]
    exact replaceFile_ok hkeeps.distinct hreplace
  | unsaved hcannot e hreplace =>
    obtain ⟨hsaves, reason, rfl⟩ := hcannot
    rw [Except.isOk, Except.toBool, Bool.and_false, if_neg (by decide)]
    exact replaceFile_error hleads hreplace

/-- Calls keep the file intact. -/
theorem calls (h : use.Intact path capabilities) (calls : List PlatformCall) :
    (use.calls calls).Intact path capabilities := by
  induction calls generalizing use with
  | nil => exact h
  | cons next calls ih => exact ih (h.call next)

/-- The file is intact however further changes are refused. -/
theorem stoppedAfter (h : use.Intact path capabilities) (count written : Nat) :
    (use.stoppedAfter count written).Intact path capabilities :=
  ⟨h.keeps, h.leads.of_grows (.of_nodes rfl)⟩

/-- The file is intact at every moment of a call. -/
theorem passes (h : use.Intact path capabilities) {next : PlatformCall} {now : DeviceUse}
    (hpasses : use.Passes next path now) : now.Intact path capabilities := by
  induction hpasses with
  | between count written => exact (h.stoppedAfter count written).call next
  | writing _ hplace hdirectory part ih =>
    refine ⟨ih.keeps, ih.leads.setNode ?_ hdirectory (Node.refilled_ne _ _)⟩
    rw [Files.getLast?_location hplace (lastName_beside path), ← lastName_beside]
    exact lastName_beside_ne path

end Intact

/-! ## Opening again -/

/-- The authenticator keeps its file, and one that is opened from the file has the same
credentials. -/
structure Reopens (use : DeviceUse) (path : String) (capabilities : Capabilities) : Prop where
  /-- The authenticator keeps its file. -/
  keeps : use.device.authenticator.KeepsFile path capabilities
  /-- The file has its credentials. -/
  opens : openAt path capabilities use.files = .ok { fresh capabilities with
    credentials := use.device.authenticator.credentials, path := some path }

namespace Reopens

/-- A call that does not fail to save leaves the credentials in the file. -/
theorem call (h : use.Reopens path capabilities) {next : PlatformCall}
    (hcan : ¬next.CannotSave (next.ceremony use.device).1) :
    (use.call next).Reopens path capabilities := by
  have hkeeps := next.within_ceremony ceremonySteps_keepsFile use.device h.keeps
  refine ⟨hkeeps, ?_⟩
  have hopens := h.opens
  unfold files DeviceUse.call at *
  rcases hrun : next.ceremony use.device with ⟨answer, after⟩
  rw [hrun] at hkeeps hcan
  dsimp only at hkeeps hcan ⊢
  cases PlatformCall.outcome_of_run h.keeps.path hrun with
  | kept hcredentials hfiles _ _ =>
    rw [hcredentials, hfiles]
    exact hopens
  | saved hsaves hok hreplace =>
    exact openAt_of_holds ((replaceFile_run hreplace).1 rfl)
      (Credentials.run_toJson_of_distinctKeys hkeeps.distinct) capabilities
  | unsaved hcannot e hreplace => exact absurd hcannot hcan

/-- Calls that do not fail to save leave the credentials in the file. -/
theorem calls (h : use.Reopens path capabilities) {calls : List PlatformCall}
    (hsaved : use.AllSaved calls) : (use.calls calls).Reopens path capabilities := by
  induction calls generalizing use with
  | nil => exact h
  | cons next calls ih => exact ih (h.call hsaved.1) hsaved.2

/-- An authenticator that is opened from the file acts on the same as the one in use, when their
users answer alike. -/
theorem grounds_eq (h : use.Reopens path capabilities) (presence : Presence) :
    grounds ⟨VirtualAuthenticator.withPresence { fresh capabilities with
        credentials := use.device.authenticator.credentials, path := some path } presence,
      use.device.host⟩ =
    grounds ⟨use.device.authenticator.withPresence presence, use.device.host⟩ := by
  unfold grounds kept withPresence
  rw [h.keeps.path, h.keeps.capabilities]
  rfl

end Reopens

end DeviceUse

namespace VirtualAuthenticator

variable {path : String} {capabilities : Capabilities} {host : Host}
  {authenticator : VirtualAuthenticator}

/-- An authenticator is opened from a file, its user answers in any way, and it is called any number
of times. If the path hides no file, it leads at every moment of the next call to no file or to one
that reads as the credentials that were saved last. And if no call failed to save, an authenticator
that is opened from the file has as many credentials as the first one, and answers all further calls
as that one does when their users answer alike. -/
theorem stateFile_complete (h : openAt path capabilities host.files = .ok authenticator)
    (presence : Presence) (calls : List PlatformCall) :
    let start := DeviceUse.opened (authenticator.withPresence presence) host
    (¬host.files.Hides path → ∀ next now, (start.calls calls).Passes next path now →
      now.IsComplete path) ∧
    (start.AllSaved calls → ∃ reopened,
      openAt path capabilities (start.calls calls).files = .ok reopened ∧
        reopened.credentials.size = (start.calls calls).device.authenticator.credentials.size ∧
        ∀ presence later,
          PlatformCall.answers later
              ⟨reopened.withPresence presence, (start.calls calls).device.host⟩ =
            PlatformCall.answers later
              ⟨(start.calls calls).device.authenticator.withPresence presence,
                (start.calls calls).device.host⟩) := by
  intro start
  obtain ⟨hopened, hdistinct, hsaved⟩ := openAt_eq_ok h
  have hkeeps : start.device.authenticator.KeepsFile path capabilities :=
    ⟨congrArg (·.path) hopened, congrArg (·.capabilities) hopened, hdistinct⟩
  constructor
  · intro hhides next now hpasses
    have hstart : start.Intact path capabilities :=
      ⟨hkeeps, .of_not_hides hhides fun node hfind _ => hsaved node hfind⟩
    exact DeviceUse.isComplete_of_leads ((hstart.calls calls).passes hpasses).leads
  · intro hall
    have hstart : start.Reopens path capabilities := ⟨hkeeps, h.trans (congrArg Except.ok hopened)⟩
    have hend := hstart.calls hall
    exact ⟨_, hend.opens, rfl, fun presence later =>
      PlatformCall.answers_eq (hend.grounds_eq presence) later⟩

/-- A directory in which an authenticator is to keep its file. -/
def sampleHost : Host := ⟨⟨[(["keys"], .directory)], []⟩, .counting 4⟩

/-- An authenticator that was opened there. -/
def sampleOpened : VirtualAuthenticator := { fresh .full with path := some "/keys/state.json" }

/-- The making of a credential. -/
def sampleCall : PlatformCall := .create (.forVault .default [])

/-- Its use after it made a credential. -/
def sampleUse : DeviceUse :=
  (DeviceUse.opened (sampleOpened.withPresence .always) sampleHost).calls [sampleCall]

/-- The file of an authenticator that made its first credential. -/
theorem stateFile_complete_first :
    (∀ next now, sampleUse.Passes next "/keys/state.json" now →
      now.IsComplete "/keys/state.json") ∧
    ∃ reopened, openAt "/keys/state.json" .full sampleUse.files = .ok reopened ∧
      reopened.credentials.size = sampleUse.device.authenticator.credentials.size ∧
      ∀ presence later,
        PlatformCall.answers later ⟨reopened.withPresence presence, sampleUse.device.host⟩ =
          PlatformCall.answers later
            ⟨sampleUse.device.authenticator.withPresence presence, sampleUse.device.host⟩ := by
  have hopen : openAt "/keys/state.json" .full sampleHost.files = .ok sampleOpened := by rfl
  have hhides : ¬sampleHost.files.Hides "/keys/state.json" :=
    Files.not_hides_of_rooted (by decide) (by decide)
  have hreplace : CanReplace "/keys/state.json" sampleHost.files := by decide +kernel
  have hall : (DeviceUse.opened (sampleOpened.withPresence .always) sampleHost).AllSaved
      [sampleCall] := by
    refine ⟨?_, trivial⟩
    rintro ⟨-, reason, hfailed⟩
    obtain ⟨after, hcreate, -⟩ := create_of_willing ⟨sampleOpened.withPresence .always, sampleHost⟩
      ⟨rfl, rfl, rfl⟩ (replaceFile_of_canReplace (lastName_beside _) rfl hreplace)
      (.forVault .default [])
    have hmade : (sampleCall.ceremony ⟨sampleOpened.withPresence .always, sampleHost⟩).1 =
        .ok (.credential ⟨(sampleHost.random.draw credentialIdSize).1⟩) :=
      congrArg Prod.fst (run_bind_of_ok hcreate)
    exact nomatch hfailed.symm.trans hmade
  obtain ⟨hmoments, hreopens⟩ := stateFile_complete hopen .always [sampleCall]
  exact ⟨hmoments hhides, hreopens hall⟩

/-- A tree in which `/a/../f` leads nowhere, as there is no `/a`, although there is an `/f`. -/
def foreignHost : Host := ⟨⟨[(["f"], .file (Bytes.ofText "other"))], []⟩, .counting 4⟩

/-- At a path that hides a file there is not always no file or one that reads as the credentials:
before a first credential is saved at `/a/../f`, the directory `/a` is made, and the path leads to
`/f`. -/
theorem stateFile_foreign :
    ¬∀ (path : String) (capabilities : Capabilities) (host : Host)
      (authenticator : VirtualAuthenticator),
      openAt path capabilities host.files = .ok authenticator → ∀ next now,
        (DeviceUse.opened authenticator host).Passes next path now → now.IsComplete path := by
  intro h
  have hopen : openAt "/a/../f" .full foreignHost.files =
      .ok { fresh .full with path := some "/a/../f" } := by rfl
  have hfind : (((DeviceUse.opened { fresh .full with path := some "/a/../f" }
      foreignHost).stoppedAfter 1 0).call sampleCall).files.find "/a/../f" =
        .ok (.file (Bytes.ofText "other")) := by decide +kernel
  have hforeign : (Credentials.reader.run (Bytes.ofText "other")).isOk = false := by rfl
  rcases h _ _ _ _ hopen sampleCall _ (.between 1 0) _ hfind with hdirectory | ⟨text, hfile, hread⟩
  · cases hdirectory
  · rw [← Node.file.inj hfile] at hread
    rw [hread] at hforeign
    cases hforeign

end VirtualAuthenticator

end CredentialVault
