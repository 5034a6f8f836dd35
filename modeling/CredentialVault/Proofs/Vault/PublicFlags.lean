import CredentialVault.Proofs.Vault.FailedCreate

/-!
# The flags describe a stored vault

Vaults of any ids share a store, and the flags describe one of them at a time. In a run in which
what is taken back can be taken back (`UndisturbedRun`), the flags are all absent, or they describe
a stored record, and no operation hands them from one vault to another at once
(`publicFlags_describe`).

An operation does one of three things to the flags (`FlagsChange`): it keeps them and the row that
they name, it takes them where there were none, or it gives them up.
-/

namespace CredentialVault

open Operation VaultM

/-- The flags describe a record that is stored under its id. -/
def Store.DescribesStored (store : Store) : Prop :=
  ∃ text record, store.recordText? record.id = some text ∧ VaultRecord.ofStored text = .ok record ∧
    store.Describes record

/-- Flags that describe a stored record name it. -/
theorem Store.DescribesStored.namesStored {store : Store} (h : store.DescribesStored) :
    store.NamesStored := by
  obtain ⟨text, record, hrow, -, hdescribes⟩ := h
  exact ⟨record.id, hdescribes.activeId, Option.isSome_iff_exists.mpr ⟨text, hrow⟩⟩

namespace Vault

/-! ## Deleting in two parts -/

/-- Deletes the record of the vault and forgets its session; the result is whether the vault then
gives up the flags. -/
def forget (vault : Vault) : VaultM Bool := do
  let releases ← vault.ownsFlags
  onStore (StoreM.deleteRecord vault.id)
  vault.lock
  return releases

/-- To delete a vault is to forget it, and then to give up its flags. -/
theorem delete_eq (vault : Vault) : vault.delete = vault.forget >>= release := by
  unfold forget
  simp only [bind_assoc, pure_bind]
  rfl

/-- The ways in which the forgetting can end. -/
inductive ForgetRun (vault : Vault) (w : World) : Except VaultError Bool → World → Prop where
  /-- It fails, and the content of the store is as before. -/
  | failed {e : VaultError} {w' : World} (hcontent : w'.store.content = w.store.content) :
    ForgetRun vault w (.error e) w'
  /-- The record is gone, and nothing else in the store has changed. -/
  | forgotten {releases : Bool} {w' : World}
    (hreleases : releases = true ↔ w.store.FlagsFree vault.id)
    (hrow : ∀ id, w'.store.recordText? id =
      if id = vault.id then none else w.store.recordText? id)
    (hflag : ∀ key, w'.store.flag? key = w.store.flag? key) : ForgetRun vault w (.ok releases) w'

/-- The forgetting ends in one of these ways. -/
theorem forget_run {vault : Vault} {w w' : World} {r : Except VaultError Bool}
    (h : vault.forget w = (r, w')) : ForgetRun vault w r w' := by
  rcases bind_cases h with ⟨e, rfl, howns⟩ | ⟨releases, w₁, howns, h₁⟩
  · exact .failed (unwritten_of_ownsFlags howns).content
  have hsame := unwritten_of_ownsFlags howns
  rcases bind_cases h₁ with ⟨e, rfl, hdelete⟩ | ⟨_, w₂, hdelete, h₂⟩ <;>
    obtain ⟨store, hdeleted, rfl⟩ := onStore_run hdelete
  · exact .failed ((StoreM.atomic_deleteRecord _ _ _ _ hdeleted).trans hsame.content)
  · obtain ⟨hrows, hflags⟩ := StoreM.deleteRecord_ok hdeleted
    -- To lock the vault changes the cache alone.
    cases h₂
    refine .forgotten (ownsFlags_ok howns) (fun id => ?_) fun key => ?_
    · rw [← hsame.recordText? id]
      exact hrows id
    · exact (hflags key).trans (hsame.flag? key)

/-- A vault that gives up the flags removes them, one after another. -/
theorem release_true : release true = onStore (StoreM.removeFlags Flags.describing) :=
  onStore_removeFlags Flags.describing

/-- The world in which a vault that is deleted begins to give up the flags, if it does. -/
def releasedFrom? (vault : Vault) (w : World) : Option World :=
  match vault.forget w with
  | (.ok true, forgotten) => some forgotten
  | _ => none

/-- A vault that was forgotten, and is to give up the flags, begins to do so. -/
theorem releasedFrom?_of_ok {vault : Vault} {w forgotten : World}
    (h : vault.forget w = (.ok true, forgotten)) : vault.releasedFrom? w = some forgotten := by
  rw [releasedFrom?, h]

end Vault

/-! ## Undisturbed runs -/

/-- The writes with which an operation takes back what is stored, if it comes to that, and the world
in which they begin: a failed making is undone, and a vault that is deleted gives up its flags. -/
def VaultOperation.takesBack? (operation : VaultOperation) (vault : Vault) (w : World) :
    Option (StoreM Unit × World) :=
  match operation with
  | create migrates =>
    (vault.undoneFrom? migrates w).map fun undone => (vault.undo undone.1, undone.2)
  | delete => (vault.releasedFrom? w).map fun forgotten =>
    (StoreM.removeFlags Flags.describing, forgotten)
  | unlock | lock => none

/-- What an operation takes back it can take back: the store fails none of the writes. -/
def VaultOperation.Undisturbed (operation : VaultOperation) (vault : Vault) (w : World) : Prop :=
  ∀ writes begun, operation.takesBack? vault w = some (writes, begun) → (writes begun.store).1.isOk

/-- The worlds to which undisturbed operations of vaults lead, whatever else fails. Between
operations everything may change but the rows of the store and the flags that describe a vault. -/
inductive UndisturbedRun (start : World) : World → Prop where
  /-- The start of the run. -/
  | start : UndisturbedRun start start
  /-- A vault does an operation. -/
  | operate {w : World} (h : UndisturbedRun start w) (vault : Vault) (operation : VaultOperation)
    (hundisturbed : operation.Undisturbed vault w) : UndisturbedRun start (operation.after vault w)
  /-- The surroundings change. -/
  | surround {w w' : World} (h : UndisturbedRun start w)
    (hrows : ∀ id, w'.store.recordText? id = w.store.recordText? id)
    (hflags : ∀ key ∈ Flags.describing, w'.store.flag? key = w.store.flag? key) :
    UndisturbedRun start w'

/-! ## What an operation does to the flags -/

/-- The flags are as before, and so is the row that they name. -/
structure Store.FlagsKept (s t : Store) : Prop where
  /-- The flags are as before. -/
  flag : ∀ key ∈ Flags.describing, t.flag? key = s.flag? key
  /-- The row that they name is as before. -/
  row : ∀ active, s.flag? Flags.activeId = some active → t.recordText? active = s.recordText? active

/-- Where the content stays, the flags and their row are kept. -/
theorem Store.FlagsKept.of_content {s t : Store} (h : t.content = s.content) : s.FlagsKept t :=
  ⟨fun key _ => StoreM.flag?_congr key h, fun id _ => StoreM.recordText?_congr id h⟩

/-- Flags that are not free for a vault name another one, to which the row of the vault is
nothing. -/
theorem Store.FlagsKept.of_other {s t : Store} {id : String} (hbusy : ¬s.FlagsFree id)
    (hflag : ∀ key ∈ Flags.describing, t.flag? key = s.flag? key)
    (hrow : ∀ other, other ≠ id → t.recordText? other = s.recordText? other) : s.FlagsKept t := by
  refine ⟨hflag, fun active hactive => hrow active ?_⟩
  rintro rfl
  have hfree : s.FlagsFree active := fun other hother =>
    .inl (Option.some.inj (hother.symm.trans hactive))
  exact hbusy hfree

/-- What an operation does to the flags that describe a vault. -/
inductive FlagsChange (s t : Store) : Prop where
  /-- The flags are as before, and so is the row that they name. -/
  | kept (hkept : s.FlagsKept t)
  /-- There were no flags, and now they describe a stored record. -/
  | taken (hnone : s.DescribesNone) (hdescribes : t.DescribesStored)
  /-- The flags are gone. -/
  | released (hnone : t.DescribesNone)

namespace FlagsChange

variable {s t : Store}

/-- After the change the flags are absent or describe a stored record, if they did before. -/
theorem describes (h : FlagsChange s t) (hs : s.DescribesNone ∨ s.DescribesStored) :
    t.DescribesNone ∨ t.DescribesStored := by
  cases h with
  | taken _ hdescribes => exact .inr hdescribes
  | released hnone => exact .inl hnone
  | kept hkept =>
    rcases hs with hnone | ⟨text, record, hstored, hparse, hdescribes⟩
    · exact .inl fun key hkey => (hkept.flag key hkey).trans (hnone key hkey)
    · have henabled := (hkept.flag _ (by decide)).trans hdescribes.enabled
      have hid := (hkept.flag _ (by decide)).trans hdescribes.activeId
      have hcredential := (hkept.flag _ (by decide)).trans hdescribes.credentialId
      have hpublic := (hkept.flag _ (by decide)).trans hdescribes.publicKeyHex
      have hrow := (hkept.row _ hdescribes.activeId).trans hstored
      exact .inr ⟨text, record, hrow, hparse, henabled, hid, hcredential, hpublic⟩

/-- The flags do not go from one vault to another. -/
theorem holder_eq (h : FlagsChange s t) {holder next : String}
    (hholder : s.flag? Flags.activeId = some holder) (hnext : t.flag? Flags.activeId = some next) :
    next = holder := by
  cases h with
  | kept hkept =>
    rw [hkept.flag _ (by decide), hholder] at hnext
    exact (Option.some.inj hnext).symm
  | taken hnone =>
    rw [hnone _ (by decide)] at hholder
    cases hholder
  | released hnone =>
    rw [hnone _ (by decide)] at hnext
    cases hnext

end FlagsChange

namespace Vault

/-- What the making of a vault leaves in the store: the row of its record and the rows of before,
and the flags, which it takes if they are free for it, and else leaves. -/
structure MadeIn (vault : Vault) (w w' : World) (record : VaultRecord) : Prop where
  /-- There was no record. -/
  absent : w.store.recordText? vault.id = none
  /-- The record has the id of the vault. -/
  id_eq : record.id = vault.id
  /-- The record is valid. -/
  valid : record.validate = .ok ()
  /-- The rows are as before, but for the new one. -/
  row : ∀ id, w'.store.recordText? id =
    if id = vault.id then some record.toStored else w.store.recordText? id
  /-- Flags that are free describe the record. -/
  taken : w.store.FlagsFree vault.id → w'.store.Describes record
  /-- Flags that are not free are as before. -/
  left : ¬w.store.FlagsFree vault.id →
    ∀ key ∈ Flags.describing, w'.store.flag? key = w.store.flag? key

/-- A vault that was made leaves this in the store. -/
theorem create_made {vault : Vault} {migrates : Bool} {w w' : World} {created : CreatedVault}
    (h : vault.create migrates w = (.ok created, w')) : ∃ record, MadeIn vault w w' record := by
  cases make_run h with
  | @done placed _ stored completed _ hplace hcomplete hopen =>
    cases place_run hplace with
    | placed hplaced =>
    refine ⟨placed.draft.record, hplaced.absent, hplaced.id_eq, hplaced.valid, fun id => ?_,
      fun hfree => ?_, fun hbusy key hkey => ?_⟩ <;> rw [openNew_run hopen]
    · exact (complete_row hcomplete id).trans (hplaced.row id)
    · rcases complete_taken hcomplete (hplaced.takes_iff.mpr hfree) with hdescribes | ⟨hfailed, -⟩
      · exact hdescribes
      · exact absurd rfl hfailed
    · have htakes := Bool.eq_false_iff.mpr fun htrue => hbusy (hplaced.takes_iff.mp htrue)
      exact (complete_flag hcomplete htakes hkey).trans (hplaced.flag key)

/-- The record of the new vault can be read. -/
theorem MadeIn.parse {vault : Vault} {w w' : World} {record : VaultRecord}
    (h : MadeIn vault w w' record) :
    w'.store.recordText? record.id = some record.toStored ∧
      VaultRecord.ofStored record.toStored = .ok record :=
  ⟨(h.row record.id).trans (if_pos h.id_eq), VaultRecord.ofStored_toStored h.valid⟩

/-- A vault that was made takes the flags if they are free for it, and else leaves them. -/
theorem created_flags {vault : Vault} {migrates : Bool} {w w' : World} {created : CreatedVault}
    (h : vault.create migrates w = (.ok created, w')) :
    w.store.FlagsKept w'.store ∨ (w.store.FlagsFree vault.id ∧
      w.store.recordText? vault.id = none ∧ w'.store.DescribesStored) := by
  obtain ⟨record, hmade⟩ := create_made h
  by_cases hfree : w.store.FlagsFree vault.id
  · obtain ⟨hstored, hparse⟩ := hmade.parse
    exact .inr ⟨hfree, hmade.absent, _, _, hstored, hparse, hmade.taken hfree⟩
  · refine .inl (.of_other hfree (hmade.left hfree) fun other hother => ?_)
    exact (hmade.row other).trans (if_neg hother)

/-- A vault that is forgotten and has no flags to give up leaves them. -/
theorem forget_flags {vault : Vault} {w w' : World} (h : vault.forget w = (.ok false, w')) :
    w.store.FlagsKept w'.store := by
  cases forget_run h with
  | forgotten hreleases hrow hflag =>
    have hbusy : ¬w.store.FlagsFree vault.id := by
      rw [← hreleases]
      decide
    exact .of_other hbusy (fun key _ => hflag key) fun other hother => (hrow other).trans (if_neg hother)

/-- Deleting a vault keeps flags that are not free for it, whether it succeeds or not. -/
theorem flagsKept_delete {vault : Vault} {w w' : World} {r : Except VaultError Unit}
    (hbusy : ¬w.store.FlagsFree vault.id) (h : vault.delete w = (r, w')) :
    w.store.FlagsKept w'.store := by
  rw [delete_eq] at h
  rcases bind_cases h with ⟨e, -, hforget⟩ | ⟨releases, forgotten, hforget, hrelease⟩
  · cases forget_run hforget with
    | failed hcontent => exact .of_content hcontent
  · have hunreleased : releases = false := by
      cases forget_run hforget with
      | forgotten hreleases => exact Bool.eq_false_iff.mpr (mt hreleases.mp hbusy)
    subst hunreleased
    cases hrelease
    exact forget_flags hforget

/-- A vault for which the flags are free leaves none when it is deleted. -/
theorem describesNone_delete {vault : Vault} {w w' : World} (hfree : w.store.FlagsFree vault.id)
    (h : vault.delete w = (.ok (), w')) : w'.store.DescribesNone := by
  rw [delete_eq] at h
  obtain ⟨releases, forgotten, hforget, hrelease⟩ := bind_ok h
  have hreleases : releases = true := by
    cases forget_run hforget with
    | forgotten hreleases => exact hreleases.mpr hfree
  subst hreleases
  rw [release_true] at hrelease
  obtain ⟨store, hremoved, rfl⟩ := onStore_run hrelease
  exact fun key hkey => ((StoreM.removeFlags_ok hremoved).2 key).trans (if_pos hkey)

/-- The making of a vault, when it succeeds, takes the flags if there are none, and else leaves
them. -/
theorem flagsChange_created {vault : Vault} {migrates : Bool} {w w' : World} {created : CreatedVault}
    (hs : w.store.DescribesNone ∨ w.store.DescribesStored)
    (h : vault.create migrates w = (.ok created, w')) : FlagsChange w.store w'.store := by
  rcases created_flags h with hkept | ⟨hfree, habsent, hdescribes⟩
  · exact .kept hkept
  · rcases hs with hnone | hstored
    · exact .taken hnone hdescribes
    · -- Flags that describe a stored vault are free for no other.
      have hthere := hfree.isSome hstored.namesStored
      rw [habsent] at hthere
      cases hthere

/-- Deleting a vault gives up the flags if they name it or nothing that is stored, and else leaves
them. -/
theorem flagsChange_delete {vault : Vault} {w : World}
    (hundisturbed : VaultOperation.delete.Undisturbed vault w) :
    FlagsChange w.store (vault.delete w).2.store := by
  rcases hdelete : vault.delete w with ⟨r, w'⟩
  rw [delete_eq] at hdelete
  rcases bind_cases hdelete with ⟨e, -, hforget⟩ | ⟨releases, forgotten, hforget, hrelease⟩
  · cases forget_run hforget with
    | failed hcontent => exact .kept (.of_content hcontent)
  · cases releases with
    | false =>
      cases hrelease
      exact .kept (forget_flags hforget)
    | true =>
      have hfrom : VaultOperation.delete.takesBack? vault w =
          some (StoreM.removeFlags Flags.describing, forgotten) := by
        rw [VaultOperation.takesBack?, releasedFrom?_of_ok hforget]
        rfl
      have hok := hundisturbed _ _ hfrom
      rw [release_true] at hrelease
      obtain ⟨store, hremoved, rfl⟩ := onStore_run hrelease
      rw [hremoved] at hok
      rcases r with _ | _
      · cases hok
      · have hgone := (StoreM.removeFlags_ok hremoved).2
        exact .released fun key hkey => (hgone key).trans (if_pos hkey)

end Vault

/-- What an undisturbed operation does to the flags. -/
theorem VaultOperation.flagsChange {operation : VaultOperation} {vault : Vault} {w : World}
    (hs : w.store.DescribesNone ∨ w.store.DescribesStored)
    (hundisturbed : operation.Undisturbed vault w) :
    FlagsChange w.store (operation.after vault w).store := by
  cases operation with
  | create migrates =>
    show FlagsChange w.store (vault.create migrates w).2.store
    rcases hcreate : vault.create migrates w with ⟨e | created, w'⟩
    · have hnames := hs.imp_right Store.DescribesStored.namesStored
      have hundo : ∀ clearsFlags failed, vault.undoneFrom? migrates w = some (clearsFlags, failed) →
          (vault.undo clearsFlags failed.store).1.isOk := fun clearsFlags failed hfrom =>
        hundisturbed _ _ (by rw [takesBack?, hfrom]; rfl)
      obtain ⟨hrows, hflags⟩ := Vault.failedCreate_store hnames hcreate hundo
      exact .kept ⟨hflags, fun active _ => hrows active⟩
    · exact Vault.flagsChange_created hs hcreate
  | unlock => exact .kept (.of_content (Vault.unlock_store rfl).1)
  | lock => exact .kept (.of_content rfl)
  | delete => exact Vault.flagsChange_delete hundisturbed

/-! ## Every reachable world -/

/-- In every world of an undisturbed run the flags are absent or describe a stored record. -/
theorem UndisturbedRun.describes {start w : World} (hflags : start.store.DescribesNone)
    (h : UndisturbedRun start w) : w.store.DescribesNone ∨ w.store.DescribesStored := by
  -- By induction on the run: an operation changes the flags in a known way, the surroundings do not.
  induction h with
  | start => exact .inl hflags
  | operate _ vault operation hundisturbed ih =>
    exact (operation.flagsChange ih hundisturbed).describes ih
  | surround _ hrows hflags ih =>
    exact (FlagsChange.kept ⟨hflags, fun active _ => hrows active⟩).describes ih

/-- The flags always describe one stored vault. When a run starts without flags that describe a
vault, and the writes succeed that take things back, then in every world to which it leads the flags
are all absent, or they describe a record that is stored; and no operation makes them name another
vault than before, unless they named none. -/
theorem publicFlags_describe {start w : World}
    (hflags : start.store.DescribesNone) (h : UndisturbedRun start w) :
    (w.store.DescribesNone ∨ w.store.DescribesStored) ∧
      ∀ (vault : Vault) (operation : VaultOperation), operation.Undisturbed vault w →
        ∀ holder next, w.store.flag? Flags.activeId = some holder →
          (operation.after vault w).store.flag? Flags.activeId = some next → next = holder := by
  have hw := h.describes hflags
  refine ⟨hw, fun vault operation hundisturbed holder next hholder hnext => ?_⟩
  exact (operation.flagsChange hw hundisturbed).holder_eq hholder hnext

/-- A vault was made in a fresh world, and the making of a second one failed: the flags describe the
first, and are the second one's only after they were given up. -/
theorem publicFlags_describe_second :
    ∃ w : World, w.store.flag? Flags.activeId = some "first" ∧
      w.store.recordText? "second" = none ∧
      (w.store.DescribesNone ∨ w.store.DescribesStored) ∧
      ∀ (vault : Vault) (operation : VaultOperation), operation.Undisturbed vault w →
        ∀ holder next, w.store.flag? Flags.activeId = some holder →
          (operation.after vault w).store.flag? Flags.activeId = some next → next = holder := by
  let made := (VaultOperation.create false).after (.ofId "first") .fresh
  let second : Vault := { Vault.ofId "second" with
    counters := .present (fun _ _ => .error (.storage "offline")) false }
  have hfirst : ((VaultOperation.create false).takesBack? (.ofId "first") .fresh).isNone := by
    decide +kernel
  have hsecond : (((VaultOperation.create false).takesBack? second made).map
      fun taken => (taken.1 taken.2.store).1.isOk) = some true := by decide +kernel
  have hrun : UndisturbedRun .fresh ((VaultOperation.create false).after second made) := by
    refine .operate (.operate .start (.ofId "first") (.create false) ?_) second (.create false) ?_
    · intro writes begun h
      rw [h] at hfirst
      cases hfirst
    · intro writes begun h
      rw [h] at hsecond
      exact Option.some.inj hsecond
  exact ⟨_, by decide +kernel, by decide +kernel,
    publicFlags_describe (fun key _ => rfl) hrun⟩

end CredentialVault
