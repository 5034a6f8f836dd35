import CredentialVault.Proofs.Vault.PublicFlags

/-!
# The flag that tells of a vault

Where the flag `vault.enabled` tells that there is a vault, the flags should name one that is stored
(`Store.EnabledIsStored`). To write them in order keeps that, whatever write fails. To take them
back does not: the record goes first, and when the flag itself cannot be removed then, it tells of a
vault that is gone. `enabledFlag_stored_iff` says exactly when that happens
(`VaultOperation.Strands`).
-/

namespace CredentialVault

open Operation VaultM

/-! ## Writes that take back, successful or not -/

namespace StoreM

/-- A flag is gone after its removal, unless this failed. -/
theorem flag?_removeFlag (key : String) (s : Store) :
    (removeFlag key s).2.flag? key = if (removeFlag key s).1.isOk then none else s.flag? key := by
  rcases hremove : removeFlag key s with ⟨e | _, t⟩
  · exact flag?_congr key (atomic_removeFlag key s e t hremove)
  · exact ((removeFlag_ok hremove).2 key).trans (if_pos rfl)

/-- A row is gone after its deletion, unless this failed. -/
theorem recordText?_deleteRecord (id : String) (s : Store) :
    (deleteRecord id s).2.recordText? id =
      if (deleteRecord id s).1.isOk then none else s.recordText? id := by
  rcases hdelete : deleteRecord id s with ⟨e | _, t⟩
  · exact recordText?_congr id (atomic_deleteRecord id s e t hdelete)
  · exact ((deleteRecord_ok hdelete).1 id).trans (if_pos rfl)

/-- To remove flags brings none back. -/
theorem maintains_absent_removeFlags (key : String) (keys : List String) :
    Maintains (fun s => s.flag? key = none) (removeFlags keys) :=
  (Within.forIn fun other _ => maintains_absent_removeFlag key other).bind fun _ => .pure _

end StoreM

/-! ## The flag -/

namespace Store

/-- Where the flag tells that there is a vault, the flags name one that is stored. -/
def EnabledIsStored (store : Store) : Prop :=
  store.flag? Flags.enabled = some "true" → store.NamesStored

variable {s t : Store}

/-- It is enough that the flags stay and the row that they name. -/
theorem EnabledIsStored.of_kept (h : s.EnabledIsStored) (hkept : s.FlagsKept t) :
    t.EnabledIsStored := by
  intro htrue
  rw [hkept.flag _ (by decide)] at htrue
  obtain ⟨active, hactive, hstored⟩ := h htrue
  refine ⟨active, (hkept.flag _ (by decide)).trans hactive, ?_⟩
  rw [hkept.row active hactive]
  exact hstored

/-- Where the flag does not tell of a vault, nothing has to be stored. -/
theorem enabledIsStored_of_ne (h : s.flag? Flags.enabled ≠ some "true") : s.EnabledIsStored :=
  fun htrue => absurd htrue h

/-- When the flags are free for a vault that is not stored, the flag does not tell of one. -/
theorem EnabledIsStored.enabled_ne (h : s.EnabledIsStored) {id : String} (hfree : s.FlagsFree id)
    (habsent : s.recordText? id = none) : s.flag? Flags.enabled ≠ some "true" := by
  intro htrue
  have hthere := hfree.isSome (h htrue)
  rw [habsent] at hthere
  cases hthere

end Store

namespace Vault

/-! ## Undoing -/

/-- The undoing of the making of a vault strands the flag: it was written, and cannot be removed,
though the record is deleted or the id of the vault is removed. -/
structure UndoStrands (vault : Vault) (s : Store) : Prop where
  /-- The flag was written. -/
  written : s.flag? Flags.enabled = some "true"
  /-- The flag cannot be removed. -/
  unremoved : (StoreM.removeFlag Flags.enabled (StoreM.deleteRecord vault.id s).2).1.isOk = false
  /-- The record is deleted, or the id is removed. -/
  unnamed : (StoreM.deleteRecord vault.id s).1.isOk = true ∨
    (StoreM.removeFlag Flags.activeId
      (StoreM.removeFlag Flags.enabled (StoreM.deleteRecord vault.id s).2).2).1.isOk = true

/-- What is left after the record was deleted and the flags were cleared: each of them is gone
unless its removal failed. -/
theorem left_of_undo (vault : Vault) (s : Store) {left : Store}
    (hleft : vault.undoEach true s = left) :
    left.flag? Flags.enabled =
        (if (StoreM.removeFlag Flags.enabled (StoreM.deleteRecord vault.id s).2).1.isOk then none
          else s.flag? Flags.enabled) ∧
      left.flag? Flags.activeId =
        (if (StoreM.removeFlag Flags.activeId
            (StoreM.removeFlag Flags.enabled (StoreM.deleteRecord vault.id s).2).2).1.isOk then none
          else s.flag? Flags.activeId) ∧
      left.recordText? vault.id =
        if (StoreM.deleteRecord vault.id s).1.isOk then none else s.recordText? vault.id := by
  have hdeleted : ∀ key, (StoreM.deleteRecord vault.id s).2.flag? key = s.flag? key := fun key =>
    StoreM.preserves_flag_deleteRecord vault.id key s
  have hid : ∀ t, (StoreM.removeFlag Flags.enabled t).2.flag? Flags.activeId =
      t.flag? Flags.activeId := StoreM.preserves_flag_removeFlag (by decide)
  have hleft : left = StoreM.removeEach Flags.describing (StoreM.deleteRecord vault.id s).2 :=
    hleft.symm
  refine ⟨?_, ?_, ?_⟩
  · rw [hleft, Flags.describing, StoreM.removeEach_cons, StoreM.flag?_removeEach (by decide),
      StoreM.flag?_removeFlag, hdeleted]
  · rw [hleft, Flags.describing, StoreM.removeEach_cons, StoreM.removeEach_cons,
      StoreM.flag?_removeEach (by decide), StoreM.flag?_removeFlag, hid, hdeleted]
  · rw [hleft, StoreM.recordText?_removeEach, StoreM.recordText?_deleteRecord]

/-- The undoing that clears the flags keeps the flag in order exactly if it does not strand it. -/
theorem undoEach_true_stored_iff {vault : Vault} {s : Store}
    (hnamed : s.flag? Flags.enabled = some "true" →
      s.flag? Flags.activeId = some vault.id ∧ (s.recordText? vault.id).isSome) :
    (vault.undoEach true s).EnabledIsStored ↔ ¬vault.UndoStrands s := by
  generalize hleft : vault.undoEach true s = left
  obtain ⟨henabled, hactive, hrow⟩ := left_of_undo vault s hleft
  constructor
  · rintro hstored ⟨hwritten, hunremoved, hunnamed⟩
    obtain ⟨hid, -⟩ := hnamed hwritten
    obtain ⟨active, hleft, hthere⟩ := hstored (by rw [henabled, hunremoved]; exact hwritten)
    rw [hactive, hid] at hleft
    -- The flag names the vault if it names any, and so it was the record that went.
    split at hleft
    · cases hleft
    · next hkept =>
      cases hleft
      rw [hrow, if_pos (hunnamed.resolve_right hkept)] at hthere
      cases hthere
  · -- If the flag is left, neither the record nor the id went, and they are those of the vault.
    intro hnot htrue
    rw [henabled] at htrue
    split at htrue
    · cases htrue
    · next hunremoved =>
      obtain ⟨hid, hthere⟩ := hnamed htrue
      have hkept := fun hunnamed => hnot ⟨htrue, Bool.eq_false_iff.mpr hunremoved, hunnamed⟩
      refine ⟨vault.id, ?_, ?_⟩
      · rw [hactive, if_neg fun hremoved => hkept (.inr hremoved)]
        exact hid
      · rw [hrow, if_neg fun hdeleted => hkept (.inl hdeleted)]
        exact hthere

/-! ## Making -/

/-- Where the undoing begins, the flag was written only if the flags name the new vault, whose
record is stored. -/
theorem named_of_taken {vault : Vault} {placed : Placed} {w stored failed : World}
    {r : Except VaultError Unit} (h : w.store.EnabledIsStored) (hplaced : PlacedIn vault w placed stored)
    (hcomplete : vault.complete placed stored = (r, failed)) (htakes : placed.takesFlags = true)
    (hwritten : failed.store.flag? Flags.enabled = some "true") :
    failed.store.flag? Flags.activeId = some vault.id ∧
      (failed.store.recordText? vault.id).isSome := by
  rcases complete_taken hcomplete htakes with hdescribes | ⟨-, hsame⟩
  · refine ⟨hdescribes.activeId.trans (congrArg some hplaced.id_eq), ?_⟩
    rw [complete_row hcomplete, hplaced.row, if_pos rfl]
    rfl
  · -- Before, the flag told of no vault, since the flags were free.
    have hbefore := h.enabled_ne (hplaced.takes_iff.mp htakes) hplaced.absent
    rw [hsame, hplaced.flag] at hwritten
    exact absurd hwritten hbefore

/-- A failed making of a vault that leaves the flags to another one keeps them, and the row of the
other one. -/
theorem flagsKept_of_untaken {vault : Vault} {placed : Placed} {w stored failed : World}
    {r : Except VaultError Unit} (hplaced : PlacedIn vault w placed stored)
    (hcomplete : vault.complete placed stored = (r, failed)) (htakes : placed.takesFlags = false) :
    w.store.FlagsKept (vault.undoEach false failed.store) := by
  have hbusy := hplaced.not_flagsFree htakes
  refine .of_other hbusy (fun key hkey => ?_) fun other hother => ?_
  · calc (StoreM.deleteRecord vault.id failed.store).2.flag? key
        = failed.store.flag? key := StoreM.preserves_flag_deleteRecord vault.id key failed.store
      _ = stored.store.flag? key := complete_flag hcomplete htakes hkey
      _ = w.store.flag? key := hplaced.flag key
  · calc (StoreM.deleteRecord vault.id failed.store).2.recordText? other
        = failed.store.recordText? other :=
          StoreM.preserves_recordText_deleteRecord hother failed.store
      _ = stored.store.recordText? other := complete_row hcomplete other
      _ = w.store.recordText? other := (hplaced.row other).trans (if_neg hother)

/-- The making of a vault keeps the flag in order exactly if it is not undone in a way that strands
it. -/
theorem create_enabledIsStored_iff {vault : Vault} {migrates : Bool} {w : World}
    (h : w.store.EnabledIsStored) :
    (vault.create migrates w).2.store.EnabledIsStored ↔
      ¬∃ failed, vault.undoneFrom? migrates w = some (true, failed) ∧
        vault.UndoStrands failed.store := by
  rcases hcreate : vault.create migrates w with ⟨r, w'⟩
  cases make_run hcreate with
  | unplaced hplace =>
    have hfrom : vault.undoneFrom? migrates w = none := by rw [undoneFrom?, hplace]
    cases place_run hplace with
    | failed hcontent => exact iff_of_true (h.of_kept (.of_content hcontent)) (by simp [hfrom])
  | done hplace hcomplete =>
    have hfrom : vault.undoneFrom? migrates w = none := by
      rw [undoneFrom?, hplace]
      dsimp only
      rw [hcomplete]
    refine iff_of_true ?_ (by simp [hfrom])
    rcases created_flags hcreate with hkept | ⟨-, -, hdescribes⟩
    · exact h.of_kept hkept
    · exact fun _ => hdescribes.namesStored
  | @undone placed _ stored failed _ hplace hcomplete hundo =>
    have hfrom := undoneFrom?_of_error hplace hcomplete
    rw [rollBack_eq] at hundo
    cases hundo
    cases place_run hplace with
    | placed hplaced =>
    rcases htakes : placed.takesFlags with _ | _
    · have hkept := flagsKept_of_untaken hplaced hcomplete htakes
      exact iff_of_true (h.of_kept hkept) (by simp [hfrom, htakes])
    · have hnamed := named_of_taken h hplaced hcomplete htakes
      rw [undoEach_true_stored_iff hnamed, hfrom, htakes]
      simp

/-! ## Deleting -/

/-- Where the flags name no stored vault, to give them up keeps the flag in order exactly if it can
be removed when it is there. -/
theorem release_stored_iff {w : World} (hunnamed : ¬w.store.NamesStored) :
    (release true w).2.store.EnabledIsStored ↔
      ¬(w.store.flag? Flags.enabled = some "true" ∧
        (StoreM.removeFlag Flags.enabled w.store).1.isOk = false) := by
  rcases hrelease : release true w with ⟨r, w'⟩
  rw [release_true, Flags.describing, StoreM.removeFlags_cons] at hrelease
  obtain ⟨store, hremove, rfl⟩ := onStore_run hrelease
  rcases bind_cases hremove with ⟨e, -, hfailed⟩ | ⟨_, t, hremoved, hrest⟩
  · -- Nothing is written, and so the flag is as before.
    have hkept : w.store.FlagsKept store :=
      .of_content (StoreM.atomic_removeFlag _ _ _ _ hfailed)
    have hstored : ¬store.NamesStored := by
      rintro ⟨active, hactive, hthere⟩
      rw [hkept.flag _ (by decide)] at hactive
      rw [hkept.row active hactive] at hthere
      exact hunnamed ⟨active, hactive, hthere⟩
    have hflag : store.EnabledIsStored ↔ ¬w.store.flag? Flags.enabled = some "true" := by
      rw [← hkept.flag _ (by decide)]
      exact ⟨fun h htrue => hstored (h htrue), Store.enabledIsStored_of_ne⟩
    rw [hfailed]
    exact hflag.trans (not_congr (and_iff_left rfl).symm)
  · -- The flag is gone, and no other removal brings it back.
    have hgone : t.flag? Flags.enabled = none :=
      ((StoreM.removeFlag_ok hremoved).2 _).trans (if_pos rfl)
    have hleft : store.flag? Flags.enabled = none :=
      (StoreM.maintains_absent_removeFlags Flags.enabled _).of_run hrest hgone
    have hunwritten : store.flag? Flags.enabled ≠ some "true" := by
      rw [hleft]
      exact (Option.some_ne_none _).symm
    refine iff_of_true (Store.enabledIsStored_of_ne hunwritten) ?_
    rw [hremoved]
    rintro ⟨-, hfailed⟩
    cases hfailed

/-- Deleting a vault keeps the flag in order exactly if it does not fail to remove the flag after
the record is gone. -/
theorem delete_enabledIsStored_iff {vault : Vault} {w : World} (h : w.store.EnabledIsStored) :
    (vault.delete w).2.store.EnabledIsStored ↔
      ¬∃ forgotten, vault.releasedFrom? w = some forgotten ∧
        forgotten.store.flag? Flags.enabled = some "true" ∧
        (StoreM.removeFlag Flags.enabled forgotten.store).1.isOk = false := by
  rw [delete_eq]
  rcases hforget : vault.forget w with ⟨e | releases, forgotten⟩
  · rw [run_bind_of_error hforget]
    cases forget_run hforget with
    | failed hcontent =>
      exact iff_of_true (h.of_kept (.of_content hcontent)) (by simp [releasedFrom?, hforget])
  · rw [run_bind_of_ok hforget]
    cases releases with
    | false =>
      exact iff_of_true (h.of_kept (forget_flags hforget)) (by simp [releasedFrom?, hforget])
    | true =>
      have hfrom := releasedFrom?_of_ok hforget
      have hunnamed : ¬forgotten.store.NamesStored := by
        cases forget_run hforget with
        | forgotten hreleases hrow hflag =>
          rintro ⟨active, hactive, hthere⟩
          rw [hflag] at hactive
          rw [hrow] at hthere
          -- The flags named the vault itself or nothing that is stored.
          rcases hreleases.mp rfl active hactive with rfl | hnone
          · rw [if_pos rfl] at hthere
            cases hthere
          · rw [hnone, ite_self] at hthere
            cases hthere
      rw [release_stored_iff hunnamed, hfrom]
      simp

end Vault

/-! ## Every operation -/

/-- An operation strands the flag that tells of a vault: it takes back what is stored, and the flag
cannot be removed, though the flags name no stored vault any more. -/
def VaultOperation.Strands (operation : VaultOperation) (vault : Vault) (w : World) : Prop :=
  match operation with
  | create migrates => ∃ failed, vault.undoneFrom? migrates w = some (true, failed) ∧
    vault.UndoStrands failed.store
  | delete => ∃ forgotten, vault.releasedFrom? w = some forgotten ∧
    forgotten.store.flag? Flags.enabled = some "true" ∧
    (StoreM.removeFlag Flags.enabled forgotten.store).1.isOk = false
  | unlock | lock => False

/-- The flag that tells of a vault points at a stored one after an operation, whatever writes
failed, exactly if it was not stranded. -/
theorem enabledFlag_stored_iff {vault : Vault} {operation : VaultOperation} {w : World}
    (h : w.store.EnabledIsStored) :
    (operation.after vault w).store.EnabledIsStored ↔ ¬operation.Strands vault w := by
  cases operation with
  | create migrates => exact Vault.create_enabledIsStored_iff h
  | delete => exact Vault.delete_enabledIsStored_iff h
  | unlock => exact iff_of_true (h.of_kept (.of_content (Vault.unlock_store rfl).1)) not_false
  | lock => exact iff_of_true h not_false

/-- A world with a vault, in which the flag that tells of it cannot be removed. -/
def World.undeletable : World :=
  let w := (VaultOperation.create false).after (.ofId "default") .fresh
  { w with store.faults := [⟨.removeFlag, some Flags.enabled, "removal refused", 0, some 1⟩] }

/-- There the flag is in order, and the vault is deleted: its row is gone, and the flag still tells
of it. -/
theorem enabledFlag_stored_iff_undeletable :
    World.undeletable.store.EnabledIsStored ∧
      (let left := (VaultOperation.delete.after (.ofId "default") .undeletable).store
      left.recordText? "default" = none ∧ left.flag? Flags.enabled = some "true" ∧
        left.flag? Flags.activeId = some "default") ∧
      (((VaultOperation.delete.after (.ofId "default") .undeletable).store.EnabledIsStored) ↔
        ¬VaultOperation.delete.Strands (.ofId "default") .undeletable) := by
  have hbefore : World.undeletable.store.flag? Flags.activeId = some "default" ∧
      (World.undeletable.store.recordText? "default").isSome := by decide +kernel
  have hafter : (VaultOperation.delete.after (.ofId "default") .undeletable).store.recordText?
        "default" = none ∧
      (VaultOperation.delete.after (.ofId "default") .undeletable).store.flag? Flags.enabled =
        some "true" ∧
      (VaultOperation.delete.after (.ofId "default") .undeletable).store.flag? Flags.activeId =
        some "default" := by decide +kernel
  have hstored : World.undeletable.store.EnabledIsStored := fun _ => ⟨_, hbefore⟩
  exact ⟨hstored, hafter, enabledFlag_stored_iff hstored⟩

end CredentialVault
