import CredentialVault.Proofs.Credential.StateFile

/-!
# Credentials are used by their relying parties alone

An authenticator that starts without credentials is called for one ceremony after another, and may
be closed and opened again from its file (`CeremonyRun`). What was answered in such a run says what
its credentials are (`Reflects`): which relying party each belongs to, the data that was stored with
it last, and that its secret never changes. It follows when a credential may be used, and that what
is derived from it stays the same (`ceremonyRun_scoped`).
-/

namespace CredentialVault

open Operation VirtualAuthenticator

/-! ## Uses of credentials -/

/-- A use of a credential: the mechanism, the relying party that asks, and the credential. -/
structure CredentialUse where
  /-- The mechanism. -/
  method : SecretMethod
  /-- The relying party that asks. -/
  rpId : String
  /-- The credential. -/
  credential : CredentialId

namespace PlatformCall

/-- The use of a credential that a call asks for, if it does not make one. -/
def use? : PlatformCall → Option CredentialUse
  | create _ => none
  | prf rpId credential _ => some ⟨.prf, rpId, credential⟩
  | hmacSecret rpId credential _ => some ⟨.hmacSecret, rpId, credential⟩
  | readBlob rpId credential | writeBlob rpId credential _ => some ⟨.largeBlob, rpId, credential⟩

/-- The credential that a call derives a secret from, and how. -/
def derives? : PlatformCall → Option (CredentialId × (Bytes → Bytes))
  | prf _ credential salt => some (credential, (prfOutput · salt))
  | hmacSecret _ credential salt => some (credential, (hmacOutput · salt))
  | create _ | readBlob .. | writeBlob .. => none

variable {call : PlatformCall} {answer : Except CeremonyError CallAnswer} {use : CredentialUse}
  {device after : VirtualDevice}

/-- What a call does to the credentials, by its answer, unless it cannot save them. -/
inductive Changes :
    PlatformCall → Except CeremonyError CallAnswer → Credentials → Credentials → Prop where
  /-- The call fails. -/
  | failed {call e credentials} : Changes call (.error e) credentials credentials
  /-- A credential is made. -/
  | made {options credential secret credentials} :
      Changes (.create options) (.ok (.credential credential)) credentials
        (credentials.insert credential.text ⟨options.rpId, options.userName, secret, none⟩)
  /-- A secret is derived from a credential. -/
  | derived {call credential derive stored secret credentials}
      (hderives : call.derives? = some (credential, derive))
      (hget : credentials.get? credential.text = some stored)
      (hsecret : secret = derive stored.secret) :
      Changes call (.ok (.secret secret)) credentials credentials
  /-- The data of a credential is read. -/
  | read {rpId credential stored blob credentials}
      (hget : credentials.get? credential.text = some stored) (hblob : blobOf stored = .ok blob) :
      Changes (.readBlob rpId credential) (.ok (.blob blob)) credentials credentials
  /-- Data is stored with a credential. -/
  | wrote {rpId credential blob stored credentials}
      (hget : credentials.get? credential.text = some stored) :
      Changes (.writeBlob rpId credential blob) (.ok .stored) credentials
        (credentials.insert credential.text
          { stored with largeBlob := some (Base64Url.encode blob) })

/-- What a call answers that derives a secret. -/
theorem derived_of_ok {credential : CredentialId} {derive : Bytes → Bytes} {found : CallAnswer}
    (hderives : call.derives? = some (credential, derive))
    (h : (call.ceremony device).1 = .ok found) : ∃ stored secret,
      device.authenticator.credentials.get? credential.text = some stored ∧
        secret = derive stored.secret ∧ found = .secret secret := by
  cases call with
  | prf rpId name salt =>
    cases hderives
    rw [ceremony, evaluatePrf_eq, look_map] at h
    obtain ⟨-, -, -, stored, hget, -, hyields⟩ := look_ok_iff.mp h
    exact ⟨stored, _, hget, rfl, (Except.ok.inj hyields).symm⟩
  | hmacSecret rpId name salt =>
    cases hderives
    rw [ceremony, evaluateHmac_eq, look_map] at h
    obtain ⟨-, -, -, stored, hget, -, hyields⟩ := look_ok_iff.mp h
    exact ⟨stored, _, hget, rfl, (Except.ok.inj hyields).symm⟩
  | create | readBlob | writeBlob => cases hderives

/-- What a call answers that reads data. -/
theorem read_of_ok {rpId : String} {credential : CredentialId} {found : CallAnswer}
    (h : ((readBlob rpId credential).ceremony device).1 = .ok found) : ∃ stored blob,
      device.authenticator.credentials.get? credential.text = some stored ∧
        blobOf stored = .ok blob ∧ found = .blob blob := by
  rw [ceremony, readBlob_eq, look_map] at h
  obtain ⟨-, -, -, stored, hget, -, hyields⟩ := look_ok_iff.mp h
  rcases hblob : blobOf stored with e | blob
  · rw [hblob] at hyields
    cases hyields
  · rw [hblob] at hyields
    exact ⟨stored, blob, hget, hblob, (Except.ok.inj hyields).symm⟩

/-- A call changes the credentials as its answer says, unless it cannot save them. -/
theorem changes_of_run (h : call.ceremony device = (answer, after)) (hcan : ¬call.CannotSave answer) :
    Changes call answer device.authenticator.credentials after.authenticator.credentials := by
  cases effect_of_run h with
  | kept hkept _ hfails =>
    have hcredentials : after.authenticator.credentials = device.authenticator.credentials :=
      congrArg (·.2.1) hkept
    rw [hcredentials]
    rcases answer with e | found
    · exact .failed
    have hok := congrArg Prod.fst h
    cases call with
    | create | writeBlob => cases hfails rfl
    | prf | hmacSecret =>
      obtain ⟨stored, secret, hget, hsecret, rfl⟩ := derived_of_ok rfl hok
      exact .derived rfl hget hsecret
    | readBlob rpId credential =>
      obtain ⟨stored, blob, hget, hblob, rfl⟩ := read_of_ok hok
      exact .read hget hblob
  | put hputs hcredentials _ hanswer =>
    rcases hanswer with ⟨-, rfl⟩ | ⟨_, reason, -, rfl⟩
    · rw [hcredentials]
      cases call with
      | create options =>
        obtain ⟨rfl, rfl⟩ := Prod.mk.inj (Option.some.inj hputs)
        exact .made
      | writeBlob rpId credential blob =>
        obtain ⟨found, hfound, hpair⟩ := Option.map_eq_some_iff.mp hputs
        obtain ⟨rfl, rfl⟩ := Prod.mk.inj hpair
        exact .wrote (Option.filter_eq_some_iff.mp hfound).1
      | prf | hmacSecret | readBlob => cases hputs
    · exact absurd ⟨saves_of_puts? hputs, reason, rfl⟩ hcan

/-- A call that fails leaves the credentials, unless it cannot save them. -/
theorem credentials_of_error {e : CeremonyError} (h : call.ceremony device = (.error e, after))
    (hcan : ¬call.CannotSave (.error e)) :
    after.authenticator.credentials = device.authenticator.credentials := by
  have hchanges := changes_of_run h hcan
  generalize after.authenticator.credentials = credentials at hchanges ⊢
  cases hchanges
  rfl

/-- What is looked up is found exactly if the credential may be used, when the credential says
it. -/
theorem look_isOk_iff {α : Type} {method : SecretMethod} {ceremony : Ceremony} {rpId : String}
    {credential : CredentialId} {yields : StoredCredential → Except CeremonyError α}
    (hyields : ∀ stored, device.authenticator.credentials.get? credential.text = some stored →
      ∃ value, yields stored = .ok value) :
    (look method ceremony rpId credential yields device).1.isOk = true ↔
      device.authenticator.capabilities.supports method = true ∧
        device.authenticator.capabilities.isAvailable = true ∧
          device.authenticator.presence.next.1 = true ∧ ∃ stored,
            device.authenticator.credentials.get? credential.text = some stored ∧
              stored.rpId = rpId := by
  constructor
  · intro hok
    rcases hlook : (look method ceremony rpId credential yields device).1 with e | value
    · rw [hlook] at hok
      cases hok
    · obtain ⟨hmethod, havailable, happroved, stored, hget, hrp, -⟩ := look_ok_iff.mp hlook
      exact ⟨hmethod, havailable, happroved, stored, hget, hrp⟩
  · rintro ⟨hmethod, havailable, happroved, stored, hget, hrp⟩
    obtain ⟨value, hvalue⟩ := hyields stored hget
    rw [look_ok_iff.mpr ⟨hmethod, havailable, happroved, stored, hget, hrp, hvalue⟩]
    rfl

/-- Data is stored exactly if the credential may be used, unless the credentials cannot be saved. -/
theorem writeBlob_isOk_iff {rpId : String} {credential : CredentialId} {blob : Bytes}
    (hcan : ¬(writeBlob rpId credential blob).CannotSave
      ((writeBlob rpId credential blob).ceremony device).1) :
    ((writeBlob rpId credential blob).ceremony device).1.isOk = true ↔
      device.authenticator.capabilities.supports .largeBlob = true ∧
        device.authenticator.capabilities.isAvailable = true ∧
          device.authenticator.presence.next.1 = true ∧ ∃ stored,
            device.authenticator.credentials.get? credential.text = some stored ∧
              stored.rpId = rpId := by
  rw [ceremony, writeBlob_eq, bind_assoc] at hcan ⊢
  constructor
  · intro hok
    rcases hask : ask .largeBlob (.writeBlob rpId credential) rpId credential device with
      ⟨e | stored, asked⟩
    · rw [run_bind_of_error hask] at hok
      cases hok
    · obtain ⟨hmethod, havailable, happroved, hget, hrp⟩ := (ask_ok_iff _).mp ⟨asked, hask⟩
      exact ⟨hmethod, havailable, happroved, stored, hget, hrp⟩
  · rintro ⟨hmethod, havailable, happroved, stored, hget, hrp⟩
    obtain ⟨asked, hask⟩ := (ask_ok_iff (.writeBlob rpId credential)).mpr
      ⟨hmethod, havailable, happroved, hget, hrp⟩
    rw [run_bind_of_ok hask] at hcan ⊢
    rcases hhold : hold credential { stored with largeBlob := some (Base64Url.encode blob) } asked
      with ⟨r, held⟩
    obtain ⟨-, result, -, ⟨-, rfl⟩ | ⟨e, reason, -, rfl⟩⟩ := hold_eq hhold
    · rw [run_bind_of_ok hhold]
      rfl
    · rw [run_bind_of_error hhold] at hcan
      exact absurd ⟨rfl, reason, rfl⟩ hcan

/-- A credential may be used exactly if the mechanism is there, the authenticator is available, the
user agrees, and the credential is there and belongs to the relying party that asks. -/
theorem isOk_iff_of_use (huse : call.use? = some use)
    (hblobs : ∀ stored, device.authenticator.credentials.get? use.credential.text = some stored →
      ∃ blob, blobOf stored = .ok blob)
    (hcan : ¬call.CannotSave (call.ceremony device).1) :
    (call.ceremony device).1.isOk = true ↔
      device.authenticator.capabilities.supports use.method = true ∧
        device.authenticator.capabilities.isAvailable = true ∧
          device.authenticator.presence.next.1 = true ∧ ∃ stored,
            device.authenticator.credentials.get? use.credential.text = some stored ∧
              stored.rpId = use.rpId := by
  cases call with
  | create => cases huse
  | prf rpId credential salt =>
    cases huse
    rw [ceremony, evaluatePrf_eq, look_map]
    exact look_isOk_iff fun _ _ => ⟨_, rfl⟩
  | hmacSecret rpId credential salt =>
    cases huse
    rw [ceremony, evaluateHmac_eq, look_map]
    exact look_isOk_iff fun _ _ => ⟨_, rfl⟩
  | readBlob rpId credential =>
    cases huse
    rw [ceremony, readBlob_eq, look_map]
    refine look_isOk_iff fun stored hget => ?_
    obtain ⟨blob, hblob⟩ := hblobs stored hget
    exact ⟨.blob blob, by rw [hblob]; rfl⟩
  | writeBlob rpId credential blob =>
    cases huse
    exact writeBlob_isOk_iff hcan

end PlatformCall

/-! ## What was answered -/

/-- A call, and what it was answered. -/
structure AnsweredCall where
  /-- The call. -/
  call : PlatformCall
  /-- The answer. -/
  answer : Except CeremonyError CallAnswer

namespace AnsweredCall

/-- The credential that was made, if any. -/
def made? : AnsweredCall → Option CredentialId
  | ⟨.create _, .ok (.credential credential)⟩ => some credential
  | _ => none

/-- The data that was stored with a credential, if any. -/
def wrote? (credential : CredentialId) : AnsweredCall → Option Bytes
  | ⟨.writeBlob _ name blob, .ok .stored⟩ => if name = credential then some blob else none
  | _ => none

/-- A credential was made for a relying party. -/
def MadeFor (history : List AnsweredCall) (rpId : String) (credential : CredentialId) : Prop :=
  ∃ options : CreationOptions, options.rpId = rpId ∧
    ⟨.create options, .ok (.credential credential)⟩ ∈ history

/-- The credentials that were made, the latest last. -/
def madeIn (history : List AnsweredCall) : List CredentialId :=
  history.filterMap made?

/-- The data that was stored with a credential last, if any. -/
def lastBlob (credential : CredentialId) (history : List AnsweredCall) : Option Bytes :=
  (history.filterMap (wrote? credential)).getLast?

variable {history : List AnsweredCall} {entry : AnsweredCall} {rpId : String}
  {credential : CredentialId}

/-- A credential that was made for a relying party was made. -/
theorem MadeFor.mem_madeIn (h : MadeFor history rpId credential) : credential ∈ madeIn history := by
  obtain ⟨options, -, hmem⟩ := h
  exact List.mem_filterMap.mpr ⟨_, hmem, rfl⟩

/-- A call that makes nothing adds nothing to what was made. -/
theorem madeFor_concat_of_made? (h : entry.made? = none) :
    MadeFor (history ++ [entry]) rpId credential ↔ MadeFor history rpId credential := by
  refine exists_congr fun options => and_congr_right fun _ => ?_
  rw [List.mem_append, List.mem_singleton, or_iff_left_iff_imp]
  rintro rfl
  cases h

/-- A call that makes a credential adds that. -/
theorem madeFor_concat_create {options : CreationOptions} {name : CredentialId} :
    MadeFor (history ++ [⟨.create options, .ok (.credential name)⟩]) rpId credential ↔
      MadeFor history rpId credential ∨ options.rpId = rpId ∧ name = credential := by
  unfold MadeFor
  simp only [List.mem_append, List.mem_singleton, AnsweredCall.mk.injEq, PlatformCall.create.injEq,
    Except.ok.injEq, CallAnswer.credential.injEq, and_or_left, exists_or]
  refine or_congr_right ⟨?_, ?_⟩
  · rintro ⟨_, hrp, rfl, rfl⟩
    exact ⟨hrp, rfl⟩
  · rintro ⟨hrp, rfl⟩
    exact ⟨options, hrp, rfl, rfl⟩

/-- A call that stores nothing with a credential leaves what was stored last. -/
theorem lastBlob_concat_of_wrote? (h : entry.wrote? credential = none) :
    lastBlob credential (history ++ [entry]) = lastBlob credential history := by
  rw [lastBlob, List.filterMap_append, List.filterMap_cons_none h, List.filterMap_nil,
    List.append_nil, lastBlob]

/-- Data that is stored with a credential was stored with that last. -/
theorem lastBlob_concat_write {name : CredentialId} {blob : Bytes} :
    lastBlob credential (history ++ [⟨.writeBlob rpId name blob, .ok .stored⟩]) =
      if name = credential then some blob else lastBlob credential history := by
  split
  · next hname => simp [lastBlob, wrote?, hname]
  · next hname => exact lastBlob_concat_of_wrote? (if_neg hname)

/-! ## What the credentials are -/

/-- Credentials are what the answers so far say. -/
structure Reflects (history : List AnsweredCall) (credentials : Credentials) : Prop where
  /-- The credentials are those that were made, each with its relying party. -/
  scope : ∀ rpId credential, MadeFor history rpId credential ↔
    ∃ stored, credentials.get? credential.text = some stored ∧ stored.rpId = rpId
  /-- The data with each credential is what was stored last. -/
  blob : ∀ credential, (credentials.get? credential.text).bind (·.largeBlob) =
    (lastBlob credential history).map Base64Url.encode
  /-- What was derived from a credential is what its secret yields. -/
  derived : ∀ call credential derive secret, ⟨call, .ok (.secret secret)⟩ ∈ history →
    call.derives? = some (credential, derive) →
    ∃ stored, credentials.get? credential.text = some stored ∧ secret = derive stored.secret
  /-- What was read is what was stored last before. -/
  read : ∀ earlier rpId credential blob later,
    history = earlier ++ ⟨.readBlob rpId credential, .ok (.blob blob)⟩ :: later →
      blob = lastBlob credential earlier

namespace Reflects

variable {credentials credentials' : Credentials} {stored : StoredCredential}

/-- Nothing was answered yet, and there are no credentials. -/
theorem nil : Reflects [] .empty where
  scope rpId credential := by
    constructor
    · rintro ⟨_, -, hmem⟩
      cases hmem
    · rintro ⟨_, hget, -⟩
      cases hget
  blob credential := rfl
  derived _ _ _ _ hmem := by cases hmem
  read earlier _ _ _ _ h := by cases earlier <;> cases h

/-- The data that is read is what was stored last. -/
theorem blobOf_eq (h : Reflects history credentials)
    (hget : credentials.get? credential.text = some stored) :
    blobOf stored = .ok (lastBlob credential history) := by
  have hblob := h.blob credential
  rw [hget, Option.bind_some] at hblob
  rw [blobOf, hblob]
  rcases lastBlob credential history with _ | blob
  · rfl
  · simp only [Option.map_some, Base64Url.decode_encode]

/-- What was read stays what was stored last before, when that holds of the next answer. -/
theorem read_concat (h : Reflects history credentials)
    (hread : ∀ rpId credential blob,
      entry = ⟨.readBlob rpId credential, .ok (.blob blob)⟩ → blob = lastBlob credential history)
    {earlier later : List AnsweredCall} {blob : Option Bytes}
    (heq : history ++ [entry] = earlier ++ ⟨.readBlob rpId credential, .ok (.blob blob)⟩ :: later) :
    blob = lastBlob credential earlier := by
  rcases List.eq_nil_or_concat later with rfl | ⟨init, last, rfl⟩
  · obtain ⟨rfl, hentry⟩ := List.append_inj' heq rfl
    exact hread rpId credential blob (List.singleton_inj.mp hentry)
  · rw [List.concat_eq_append, ← List.cons_append, ← List.append_assoc] at heq
    exact h.read earlier rpId credential blob init (List.append_inj' heq rfl).1

/-- The next answer leaves the credentials what the answers say, if they have changed accordingly:
their secrets are kept, and what was derived or read is as they say. -/
theorem concat (h : Reflects history credentials)
    (hscope : ∀ rpId credential, MadeFor (history ++ [entry]) rpId credential ↔
      ∃ stored, credentials'.get? credential.text = some stored ∧ stored.rpId = rpId)
    (hblob : ∀ credential, (credentials'.get? credential.text).bind (·.largeBlob) =
      (lastBlob credential (history ++ [entry])).map Base64Url.encode)
    (hsecrets : ∀ key stored, credentials.get? key = some stored →
      ∃ other, credentials'.get? key = some other ∧ other.secret = stored.secret)
    (hderived : ∀ credential derive secret, entry.answer = .ok (.secret secret) →
      entry.call.derives? = some (credential, derive) → ∃ stored,
        credentials'.get? credential.text = some stored ∧ secret = derive stored.secret)
    (hread : ∀ rpId credential blob,
      entry = ⟨.readBlob rpId credential, .ok (.blob blob)⟩ → blob = lastBlob credential history) :
    Reflects (history ++ [entry]) credentials' where
  scope := hscope
  blob := hblob
  derived call credential derive secret hmem hderives := by
    rcases List.mem_append.mp hmem with hmem | hmem
    · obtain ⟨stored, hget, rfl⟩ := h.derived call credential derive secret hmem hderives
      obtain ⟨other, hother, hsecret⟩ := hsecrets _ _ hget
      exact ⟨other, hother, by rw [hsecret]⟩
    · obtain rfl := List.mem_singleton.mp hmem
      exact hderived credential derive secret rfl hderives
  read _ _ _ _ _ heq := h.read_concat hread heq

/-- An answer that makes and stores nothing leaves the credentials what the answers say. -/
theorem concat_same (h : Reflects history credentials) (hmade : entry.made? = none)
    (hwrote : ∀ credential, entry.wrote? credential = none)
    (hderived : ∀ credential derive secret, entry.answer = .ok (.secret secret) →
      entry.call.derives? = some (credential, derive) → ∃ stored,
        credentials.get? credential.text = some stored ∧ secret = derive stored.secret)
    (hread : ∀ rpId credential blob,
      entry = ⟨.readBlob rpId credential, .ok (.blob blob)⟩ → blob = lastBlob credential history) :
    Reflects (history ++ [entry]) credentials := by
  refine h.concat (fun rpId credential => ?_) (fun credential => ?_) (fun _ stored hget => ?_)
    hderived hread
  · rw [madeFor_concat_of_made? hmade]
    exact h.scope rpId credential
  · rw [lastBlob_concat_of_wrote? (hwrote credential)]
    exact h.blob credential
  · exact ⟨stored, hget, rfl⟩

/-- A credential that is made is one more, which nothing was stored with. -/
theorem concat_create (h : Reflects history credentials) {options : CreationOptions}
    {name : CredentialId} (secret : Bytes) (hnew : name ∉ madeIn history) :
    Reflects (history ++ [⟨.create options, .ok (.credential name)⟩])
      (credentials.insert name.text ⟨options.rpId, options.userName, secret, none⟩) := by
  have hnone : credentials.get? name.text = none := by
    rcases hget : credentials.get? name.text with _ | stored
    · rfl
    · exact absurd ((h.scope stored.rpId name).mpr ⟨stored, hget, rfl⟩).mem_madeIn hnew
  refine h.concat (fun rpId credential => ?_) (fun credential => ?_) (fun key stored hget => ?_)
    nofun nofun
  · rw [madeFor_concat_create, h.scope, Table.get?_insert]
    by_cases hname : name = credential
    · subst hname
      simp [hnone]
    · rw [if_neg fun htext => hname (CredentialId.text_inj htext.symm)]
      simp [hname]
  · rw [lastBlob_concat_of_wrote? rfl, ← h.blob, Table.get?_insert]
    split
    · next htext =>
      rw [htext, hnone]
      rfl
    · rfl
  · refine ⟨stored, ?_, rfl⟩
    rw [Table.get?_insert, if_neg, hget]
    rintro rfl
    rw [hnone] at hget
    cases hget

/-- Data that is stored with a credential is the last of it. -/
theorem concat_write (h : Reflects history credentials) {name : CredentialId} {blob : Bytes}
    (hget : credentials.get? name.text = some stored) :
    Reflects (history ++ [⟨.writeBlob rpId name blob, .ok .stored⟩])
      (credentials.insert name.text { stored with largeBlob := some (Base64Url.encode blob) }) := by
  refine h.concat (fun rpId credential => ?_) (fun credential => ?_) (fun key other hother => ?_)
    nofun nofun
  · rw [madeFor_concat_of_made? rfl, h.scope, Table.get?_insert]
    split
    · next htext =>
      rw [htext, hget]
      simp
    · rfl
  · rw [Table.get?_insert, lastBlob_concat_write]
    by_cases hname : name = credential
    · rw [if_pos (congrArg CredentialId.text hname.symm), if_pos hname]
      rfl
    · rw [if_neg fun htext => hname (CredentialId.text_inj htext.symm), if_neg hname, h.blob]
  · rw [Table.get?_insert]
    split
    · next hkey =>
      subst hkey
      obtain rfl := Option.some.inj (hget.symm.trans hother)
      exact ⟨_, rfl, rfl⟩
    · exact ⟨other, hother, rfl⟩

/-- Whatever a call does to the credentials, they are what the answers say, when each credential
that is made is new. -/
theorem changes (h : Reflects history credentials) {call : PlatformCall}
    {answer : Except CeremonyError CallAnswer} (hchanges : call.Changes answer credentials credentials')
    (hdistinct : (madeIn (history ++ [⟨call, answer⟩])).Nodup) :
    Reflects (history ++ [⟨call, answer⟩]) credentials' := by
  cases hchanges with
  | failed =>
    refine h.concat_same ?_ (fun _ => ?_) nofun nofun
    · cases call <;> rfl
    · cases call <;> rfl
  | made =>
    refine h.concat_create _ fun hmem => ?_
    rw [madeIn, List.filterMap_append] at hdistinct
    exact (List.nodup_append.mp hdistinct).2.2 _ hmem _ (List.mem_singleton.mpr rfl) rfl
  | derived hderives hget hsecret =>
    refine h.concat_same ?_ (fun _ => ?_) (fun credential derive secret hanswer hderives' => ?_) nofun
    · cases call <;> rfl
    · cases call <;> rfl
    · cases hanswer
      obtain ⟨rfl, rfl⟩ := Prod.mk.inj (Option.some.inj (hderives.symm.trans hderives'))
      exact ⟨_, hget, hsecret⟩
  | read hget hblob =>
    refine h.concat_same rfl (fun _ => rfl) nofun fun rpId credential blob heq => ?_
    cases heq
    exact Except.ok.inj (hblob.symm.trans (h.blobOf_eq hget))
  | wrote hget => exact h.concat_write hget

end Reflects

end AnsweredCall

/-! ## Runs of ceremonies -/

/-- What an authenticator that starts without credentials was answered so far, and how it is left.
Every call saved the credentials, if it saves them. -/
inductive CeremonyRun : List AnsweredCall → VirtualDevice → Prop where
  /-- An authenticator that keeps no file. -/
  | inMemory (capabilities : Capabilities) (presence : Presence) (host : Host) :
      CeremonyRun [] ⟨(fresh capabilities).withPresence presence, host⟩
  /-- An authenticator that is opened from a file without credentials, or from none. -/
  | opened {path : String} {capabilities : Capabilities} {host : Host}
      {authenticator : VirtualAuthenticator}
      (hopen : openAt path capabilities host.files = .ok authenticator)
      (hempty : authenticator.credentials = .empty) (presence : Presence) :
      CeremonyRun [] ⟨authenticator.withPresence presence, host⟩
  /-- One more call is made. -/
  | call {history : List AnsweredCall} {device : VirtualDevice} (h : CeremonyRun history device)
      (call : PlatformCall) (hcan : ¬call.CannotSave (call.ceremony device).1) :
      CeremonyRun (history ++ [⟨call, (call.ceremony device).1⟩]) (call.ceremony device).2
  /-- The authenticator is closed and opened again from its file, with a user that answers in any
  way. -/
  | reopened {history : List AnsweredCall} {device : VirtualDevice} (h : CeremonyRun history device)
      {path : String} (hpath : device.authenticator.path = some path) {capabilities : Capabilities}
      {authenticator : VirtualAuthenticator}
      (hopen : openAt path capabilities device.host.files = .ok authenticator) (presence : Presence) :
      CeremonyRun history ⟨authenticator.withPresence presence, device.host⟩

/-- What an authenticator is opened with does not depend on what it can do. -/
theorem VirtualAuthenticator.openAt_capabilities (path : String) (capabilities other : Capabilities)
    (files : Files) : openAt path other files =
      (openAt path capabilities files).map fun opened => { opened with capabilities := other } := by
  unfold openAt
  split
  · rcases files.readText path with e | text
    · rfl
    · dsimp only
      rcases Credentials.reader.run (Bytes.ofText text) with e | credentials <;> rfl
  · rfl

namespace CeremonyRun

open AnsweredCall

variable {history : List AnsweredCall} {device : VirtualDevice} {path : String}

/-- An authenticator that keeps a file can be opened again from it. -/
theorem reopens (h : CeremonyRun history device) (hpath : device.authenticator.path = some path) :
    (DeviceUse.opened device.authenticator device.host).Reopens path
      device.authenticator.capabilities := by
  induction h with
  | inMemory => cases hpath
  | @opened start capabilities host authenticator hopen _ presence =>
    obtain ⟨hopened, hdistinct, -⟩ := openAt_eq_ok hopen
    rw [hopened] at hpath hopen ⊢
    obtain rfl : start = path := Option.some.inj hpath
    exact ⟨⟨rfl, rfl, hdistinct⟩, hopen⟩
  | @call history device h call hcan ih =>
    have halike := call.within_ceremony ceremonySteps_setUpAlike device
    have hnext := (ih (halike.path.symm.trans hpath)).call hcan
    rw [← halike.capabilities] at hnext
    exact ⟨hnext.keeps, hnext.opens⟩
  | @reopened history device h start hstart capabilities authenticator hopen presence ih =>
    obtain ⟨hopened, hdistinct, -⟩ := openAt_eq_ok hopen
    rw [hopened] at hpath hopen ⊢
    obtain rfl : start = path := Option.some.inj hpath
    exact ⟨⟨rfl, rfl, hdistinct⟩, hopen⟩

/-- An authenticator that is opened again has the credentials that it had. -/
theorem credentials_of_openAt (h : CeremonyRun history device)
    (hpath : device.authenticator.path = some path) {capabilities : Capabilities}
    {authenticator : VirtualAuthenticator}
    (hopen : openAt path capabilities device.host.files = .ok authenticator) :
    authenticator.credentials = device.authenticator.credentials := by
  have hopens := (h.reopens hpath).opens
  rw [openAt_capabilities path device.authenticator.capabilities capabilities] at hopen
  rw [DeviceUse.files, DeviceUse.opened] at hopens
  rw [hopens] at hopen
  exact (congrArg (·.credentials) (Except.ok.inj hopen)).symm

/-- The credentials are what the answers say, when no two that were made have the same name. -/
theorem reflects (h : CeremonyRun history device) (hdistinct : (madeIn history).Nodup) :
    Reflects history device.authenticator.credentials := by
  induction h with
  | inMemory => exact .nil
  | opened _ hempty _ =>
    exact hempty ▸ Reflects.nil
  | @call history device h call hcan ih =>
    have hbefore : (madeIn history).Nodup := by
      rw [madeIn, List.filterMap_append] at hdistinct
      exact hdistinct.sublist (List.sublist_append_left _ _)
    exact (ih hbefore).changes (PlatformCall.changes_of_run rfl hcan) hdistinct
  | reopened h hpath hopen _ ih =>
    rw [← h.credentials_of_openAt hpath hopen] at ih
    exact ih hdistinct

end CeremonyRun

open AnsweredCall

/-- An authenticator that started without credentials was called any number of times, and maybe
opened again from its file; no two credentials that it made have the same name, and all were saved.
A further use of a credential succeeds exactly if the mechanism is there, the authenticator is
available, the user agrees, and the credential was made for the very relying party that asks;
otherwise no credential changes. What was derived from a credential for one salt was always the
same, and what was read was always what had been stored with the credential last. And the
authenticator can be opened again from its file, if it keeps one, with the credentials that it
has. -/
theorem ceremonyRun_scoped {history : List AnsweredCall} {device : VirtualDevice}
    (h : CeremonyRun history device) (hdistinct : (madeIn history).Nodup) :
    (∀ (call : PlatformCall) (use : CredentialUse), call.use? = some use →
      ¬call.CannotSave (call.ceremony device).1 →
        ((call.ceremony device).1.isOk = true ↔
          device.authenticator.capabilities.supports use.method = true ∧
            device.authenticator.capabilities.isAvailable = true ∧
              device.authenticator.presence.next.1 = true ∧
                MadeFor history use.rpId use.credential) ∧
        ((call.ceremony device).1.isOk = false →
          (call.ceremony device).2.authenticator.credentials =
            device.authenticator.credentials)) ∧
    (∀ rpId rpId' credential salt secret secret',
      ⟨.prf rpId credential salt, .ok (.secret secret)⟩ ∈ history →
      ⟨.prf rpId' credential salt, .ok (.secret secret')⟩ ∈ history → secret = secret') ∧
    (∀ rpId rpId' credential salt secret secret',
      ⟨.hmacSecret rpId credential salt, .ok (.secret secret)⟩ ∈ history →
      ⟨.hmacSecret rpId' credential salt, .ok (.secret secret')⟩ ∈ history → secret = secret') ∧
    (∀ earlier rpId credential blob later,
      history = earlier ++ ⟨.readBlob rpId credential, .ok (.blob blob)⟩ :: later →
        blob = lastBlob credential earlier) ∧
    (∀ path, device.authenticator.path = some path → ∀ capabilities, ∃ reopened,
      openAt path capabilities device.host.files = .ok reopened ∧
        reopened.credentials = device.authenticator.credentials) := by
  have hreflects := h.reflects hdistinct
  -- What was derived twice from one credential is what its one secret yields.
  have hderived : ∀ {call call' : PlatformCall} {credential derive secret secret'},
      ⟨call, .ok (.secret secret)⟩ ∈ history → ⟨call', .ok (.secret secret')⟩ ∈ history →
        call.derives? = some (credential, derive) → call'.derives? = some (credential, derive) →
          secret = secret' := by
    intro call call' credential derive secret secret' hmem hmem' hderives hderives'
    obtain ⟨stored, hget, rfl⟩ := hreflects.derived _ _ _ _ hmem hderives
    obtain ⟨stored', hget', rfl⟩ := hreflects.derived _ _ _ _ hmem' hderives'
    obtain rfl := Option.some.inj (hget.symm.trans hget')
    rfl
  refine ⟨fun call use huse hcan => ⟨?_, fun hfails => ?_⟩,
    fun _ _ _ _ _ _ hmem hmem' => hderived hmem hmem' rfl rfl,
    fun _ _ _ _ _ _ hmem hmem' => hderived hmem hmem' rfl rfl, hreflects.read,
    fun path hpath capabilities => ?_⟩
  · rw [hreflects.scope]
    exact PlatformCall.isOk_iff_of_use huse (fun stored hget => ⟨_, hreflects.blobOf_eq hget⟩) hcan
  · rcases hrun : call.ceremony device with ⟨e | found, after⟩ <;> rw [hrun] at hcan hfails
    · exact PlatformCall.credentials_of_error hrun hcan
    · cases hfails
  · have hopens := (h.reopens hpath).opens
    refine ⟨{ fresh capabilities with
      credentials := device.authenticator.credentials, path := some path }, ?_, rfl⟩
    rw [openAt_capabilities path device.authenticator.capabilities capabilities]
    exact congrArg _ hopens

/-- After a credential was made and the authenticator was opened again, the relying party of the
credential can derive a secret from it, and no other can. -/
theorem ceremonyRun_scoped_reopened : ∃ history device credential,
    CeremonyRun history device ∧ (madeIn history).Nodup ∧
      ((PlatformCall.prf "localhost" credential []).ceremony device).1.isOk = true ∧
      ((PlatformCall.prf "localhost.example" credential []).ceremony device).1.isOk = false := by
  have hopen : openAt "/keys/state.json" .full sampleHost.files = .ok sampleOpened := by rfl
  have hmade : (sampleCall.ceremony ⟨sampleOpened.withPresence .always, sampleHost⟩).1 =
      .ok (.credential ⟨(sampleHost.random.draw credentialIdSize).1⟩) := by
    decide +kernel
  have hcan : ¬sampleCall.CannotSave
      (sampleCall.ceremony ⟨sampleOpened.withPresence .always, sampleHost⟩).1 := by
    rintro ⟨-, reason, hfailed⟩
    exact nomatch hfailed.symm.trans hmade
  have hrun := (CeremonyRun.opened hopen rfl .always).call sampleCall hcan
  rw [hmade] at hrun
  have hdistinct : (madeIn ([] ++ [⟨sampleCall,
      .ok (.credential ⟨(sampleHost.random.draw credentialIdSize).1⟩)⟩])).Nodup :=
    List.pairwise_singleton _ _
  have halike := sampleCall.within_ceremony ceremonySteps_setUpAlike
    ⟨sampleOpened.withPresence .always, sampleHost⟩
  obtain ⟨reopened, hreopen, -⟩ :=
    (ceremonyRun_scoped hrun hdistinct).2.2.2.2 "/keys/state.json" halike.path .full
  have hagain := hrun.reopened halike.path hreopen .always
  have hset := (openAt_eq_ok hreopen).1
  have hscope := (ceremonyRun_scoped hagain hdistinct).1
  have hunsaved : ∀ rpId credential answer,
      ¬(PlatformCall.prf rpId credential []).CannotSave answer := by
    rintro rpId credential answer ⟨hsaves, -⟩
    cases hsaves
  refine ⟨_, _, ⟨(sampleHost.random.draw credentialIdSize).1⟩, hagain, hdistinct, ?_, ?_⟩
  · refine (hscope _ _ rfl (hunsaved _ _ _)).1.mpr ⟨?_, ?_, rfl, ?_⟩
    · rw [hset]
      rfl
    · rw [hset]
      rfl
    · exact ⟨_, rfl, List.mem_singleton.mpr rfl⟩
  · refine Bool.eq_false_iff.mpr fun hok => ?_
    obtain ⟨-, -, -, options, hrp, hmem⟩ :=
      (hscope _ _ rfl (hunsaved _ _ _)).1.mp hok
    cases List.mem_singleton.mp hmem
    revert hrp
    decide

end CredentialVault
