import CredentialVault.Proofs.Vault.PublicFlags

/-!
# The vault that has the flags

Of the vaults that share a store one has the flags at a time. A vault takes them when it is made
while none has them, and only its own deletion gives them up, to nobody. So the operations alone
tell who has them (`holderAfter`), and the flag that tells of a vault is there exactly while one has
them (`enabledFlag_iff_held`). When that one is deleted, the flag is gone though others are stored
(`enabledFlag_gone_with_holder`), until the next one is made.
-/

namespace CredentialVault

open Operation VaultM

/-! ## Runs of operations that succeed -/

/-- Whether an operation of a vault succeeds. -/
def VaultOperation.succeeds (operation : VaultOperation) (vault : Vault) (w : World) : Bool :=
  match operation with
  | create migrates => (vault.create migrates w).1.isOk
  | unlock => (vault.unlock w).1.isOk
  | lock => (vault.lock w).1.isOk
  | delete => (vault.delete w).1.isOk

/-- An operation of the vault of an id. -/
structure VaultStep where
  /-- The id of the vault. -/
  id : String
  /-- What it does. -/
  operation : VaultOperation
deriving DecidableEq, Repr

/-- The vault that has the flags after a step, if one has: to be made takes them if none has them,
and to be deleted gives them up. -/
def VaultStep.holder (step : VaultStep) (before : Option String) : Option String :=
  match step.operation with
  | .create _ => before.or (some step.id)
  | .delete => before.filter (· ≠ step.id)
  | .unlock | .lock => before

/-- The vault that has the flags after some steps, the latest first. -/
def holderAfter (steps : List VaultStep) : Option String :=
  steps.foldr VaultStep.holder none

/-- The vault that had the flags was deleted, and none was made since. -/
def Released (steps : List VaultStep) : Prop :=
  ∃ later id earlier, steps = later ++ ⟨id, .delete⟩ :: earlier ∧ holderAfter earlier = some id ∧
    ∀ step ∈ later, ∀ migrates, step.operation ≠ .create migrates

/-- The worlds to which operations of vaults lead that all succeed, with the steps, the latest
first. Between operations everything may change but the rows of the store and the flags that
describe a vault. -/
inductive SuccessfulRun (start : World) : List VaultStep → World → Prop where
  /-- The start of the run. -/
  | start : SuccessfulRun start [] start
  /-- A vault does an operation. -/
  | operate {steps : List VaultStep} {w : World} (h : SuccessfulRun start steps w) (vault : Vault)
    (operation : VaultOperation) (hok : operation.succeeds vault w = true) :
    SuccessfulRun start (⟨vault.id, operation⟩ :: steps) (operation.after vault w)
  /-- The surroundings change. -/
  | surround {steps : List VaultStep} {w w' : World} (h : SuccessfulRun start steps w)
    (hrows : ∀ id, w'.store.recordText? id = w.store.recordText? id)
    (hflags : ∀ key ∈ Flags.describing, w'.store.flag? key = w.store.flag? key) :
    SuccessfulRun start steps w'

/-! ## Who has the flags -/

/-- The flags of a released history stay released until a vault is made. -/
theorem Released.cons {steps : List VaultStep} (h : Released steps) {step : VaultStep}
    (hstep : ∀ migrates, step.operation ≠ .create migrates) : Released (step :: steps) := by
  obtain ⟨later, id, earlier, rfl, hheld, hlater⟩ := h
  exact ⟨step :: later, id, earlier, rfl, hheld, List.forall_mem_cons.mpr ⟨hstep, hlater⟩⟩

/-- When vaults were made and none has the flags, the one that had them was deleted. -/
theorem released_of_unheld {steps : List VaultStep} (hunheld : holderAfter steps = none)
    (hmade : ∃ step ∈ steps, ∃ migrates, step.operation = .create migrates) : Released steps := by
  induction steps with
  | nil =>
    obtain ⟨step, hmem, -⟩ := hmade
    cases hmem
  | cons step steps ih =>
    obtain ⟨id, operation⟩ := step
    obtain ⟨made, hmem, migrates, hcreate⟩ := hmade
    -- Unless it makes a vault, the latest step is not the one by which a vault was made.
    have hearlier : (∀ migrates, operation ≠ .create migrates) → holderAfter steps = none →
        Released (⟨id, operation⟩ :: steps) := by
      intro hother hbefore
      rcases List.mem_cons.mp hmem with rfl | hmem
      · exact absurd hcreate (hother migrates)
      · exact (ih hbefore ⟨made, hmem, migrates, hcreate⟩).cons hother
    cases operation with
    | create migrates =>
      have hheld : (holderAfter steps).or (some id) = none := hunheld
      cases (Option.or_eq_none_iff.mp hheld).2
    | unlock => exact hearlier nofun hunheld
    | lock => exact hearlier nofun hunheld
    | delete =>
      have hheld : (holderAfter steps).filter (· ≠ id) = none := hunheld
      rcases hbefore : holderAfter steps with _ | holder
      · exact hearlier nofun hbefore
      · rw [hbefore, Option.filter_eq_none_iff] at hheld
        obtain rfl : holder = id := by simpa using hheld
        exact ⟨[], holder, steps, rfl, hbefore, nofun⟩

namespace Store

/-- The flags are those of the vault that has them, which is stored; if none has them, there are
none. -/
def HeldBy (store : Store) : Option String → Prop
  | none => store.DescribesNone
  | some id => store.flag? Flags.enabled = some "true" ∧ store.flag? Flags.activeId = some id ∧
    (store.recordText? id).isSome

variable {s t : Store} {holder : Option String}

/-- Where the flags stay and the row that they name, the same vault has them. -/
theorem HeldBy.of_kept (h : s.HeldBy holder) (hkept : s.FlagsKept t) : t.HeldBy holder := by
  cases holder with
  | none => exact fun key hkey => (hkept.flag key hkey).trans (h key hkey)
  | some id =>
    obtain ⟨henabled, hactive, hstored⟩ := h
    refine ⟨(hkept.flag _ (by decide)).trans henabled, (hkept.flag _ (by decide)).trans hactive, ?_⟩
    rw [hkept.row id hactive]
    exact hstored

/-- The flags are free for the vault that has them, and for every vault if none has them. -/
theorem HeldBy.flagsFree_iff (h : s.HeldBy holder) (id : String) :
    s.FlagsFree id ↔ ∀ other, holder = some other → other = id := by
  cases holder with
  | none =>
    have hfree : s.FlagsFree id := by
      intro active hactive
      rw [h _ (by decide)] at hactive
      cases hactive
    exact iff_of_true hfree nofun
  | some other =>
    obtain ⟨-, hactive, hstored⟩ := h
    constructor
    · rintro hfree _ ⟨⟩
      refine (hfree other hactive).resolve_right fun hnone => ?_
      rw [hnone] at hstored
      cases hstored
    · intro hsame active hother
      exact .inl ((Option.some.inj (hother.symm.trans hactive)).trans (hsame other rfl))

end Store

namespace Vault

variable {vault : Vault} {w w' : World} {holder : Option String}

/-- A vault that was made has the flags, unless another one had them. -/
theorem heldBy_create {migrates : Bool} {created : CreatedVault} (h : w.store.HeldBy holder)
    (hcreate : vault.create migrates w = (.ok created, w')) :
    w'.store.HeldBy (VaultStep.holder ⟨vault.id, .create migrates⟩ holder) := by
  obtain ⟨record, hmade⟩ := create_made hcreate
  cases holder with
  | none =>
    have hdescribes := hmade.taken ((h.flagsFree_iff vault.id).mpr nofun)
    refine ⟨hdescribes.enabled, hdescribes.activeId.trans (congrArg some hmade.id_eq), ?_⟩
    rw [hmade.row, if_pos rfl]
    rfl
  | some other =>
    -- The one that has them is stored, and so it is not the new one.
    have hother : other ≠ vault.id := by
      rintro rfl
      obtain ⟨-, -, hstored⟩ := h
      rw [hmade.absent] at hstored
      cases hstored
    have hbusy : ¬w.store.FlagsFree vault.id := fun hfree =>
      hother ((h.flagsFree_iff vault.id).mp hfree other rfl)
    exact h.of_kept (.of_other hbusy (hmade.left hbusy) fun id hid =>
      (hmade.row id).trans (if_neg hid))

/-- A vault that was deleted does not have the flags. -/
theorem heldBy_delete (h : w.store.HeldBy holder) (hdelete : vault.delete w = (.ok (), w')) :
    w'.store.HeldBy (VaultStep.holder ⟨vault.id, .delete⟩ holder) := by
  show w'.store.HeldBy (holder.filter (· ≠ vault.id))
  by_cases hfree : w.store.FlagsFree vault.id
  · -- The vault had the flags if any had, and all of them are removed.
    have hnone : holder.filter (· ≠ vault.id) = none := by
      simpa [Option.filter_eq_none_iff] using (h.flagsFree_iff vault.id).mp hfree
    rw [hnone]
    exact describesNone_delete hfree hdelete
  · have hkept : holder.filter (· ≠ vault.id) = holder := by
      cases holder with
      | none => rfl
      | some other =>
        have hother : other ≠ vault.id := by simpa [h.flagsFree_iff] using hfree
        rw [Option.filter_some, if_pos (by simpa using hother)]
    rw [hkept]
    exact h.of_kept (flagsKept_delete hfree hdelete)

end Vault

/-- After an operation that succeeded the flags are with the vault that the step says. -/
theorem VaultOperation.heldBy_after {operation : VaultOperation} {vault : Vault} {w : World}
    {holder : Option String} (h : w.store.HeldBy holder) (hok : operation.succeeds vault w = true) :
    (operation.after vault w).store.HeldBy (VaultStep.holder ⟨vault.id, operation⟩ holder) := by
  cases operation with
  | create migrates =>
    rcases hrun : vault.create migrates w with ⟨e | created, w'⟩ <;>
      simp only [succeeds, after, hrun] at hok ⊢
    · cases hok
    · exact Vault.heldBy_create h hrun
  | unlock => exact h.of_kept (.of_content (Vault.unlock_store rfl).1)
  | lock => exact h
  | delete =>
    rcases hrun : vault.delete w with ⟨e | _, w'⟩ <;> simp only [succeeds, after, hrun] at hok ⊢
    · cases hok
    · exact Vault.heldBy_delete h hrun

/-! ## Every reachable world -/

namespace SuccessfulRun

variable {start w : World} {steps : List VaultStep}

/-- In every world of the run the flags are with the vault that the steps say. -/
theorem heldBy (hflags : start.store.DescribesNone) (h : SuccessfulRun start steps w) :
    w.store.HeldBy (holderAfter steps) := by
  -- By induction on the run: each step moves the flags as it says, the surroundings leave them.
  induction h with
  | start => exact hflags
  | operate _ vault operation hok ih => exact operation.heldBy_after ih hok
  | surround _ hrows hflags ih => exact ih.of_kept ⟨hflags, fun active _ => hrows active⟩

/-- A vault that is stored was made in the run, if none was stored at the start. -/
theorem exists_create (hrows : ∀ id, start.store.recordText? id = none)
    (h : SuccessfulRun start steps w) {id : String} (hstored : (w.store.recordText? id).isSome) :
    ∃ step ∈ steps, ∃ migrates, step.operation = .create migrates := by
  induction h with
  | start =>
    rw [hrows] at hstored
    cases hstored
  | @operate steps w _ vault operation hok ih =>
    have hbefore : (w.store.recordText? id).isSome →
        ∃ step ∈ (⟨vault.id, operation⟩ : VaultStep) :: steps,
          ∃ migrates, step.operation = .create migrates := by
      intro hthere
      obtain ⟨step, hmem, hcreate⟩ := ih hthere
      exact ⟨step, List.mem_cons_of_mem _ hmem, hcreate⟩
    cases operation with
    | create migrates => exact ⟨_, List.mem_cons_self, migrates, rfl⟩
    | unlock =>
      refine hbefore ?_
      rwa [← StoreM.recordText?_congr id (Vault.unlock_store rfl).1]
    | lock => exact hbefore hstored
    | delete =>
      by_cases hid : id = vault.id
      · -- After the deletion the vault itself is not stored.
        subst hid
        rcases hrun : vault.delete w with ⟨e | _, w'⟩ <;>
          simp only [VaultOperation.succeeds, VaultOperation.after, hrun] at hok hstored
        · cases hok
        · rw [((vault.deleteContract w).ok w' hrun).1] at hstored
          cases hstored
      · refine hbefore ?_
        have hrow : (vault.delete w).2.store.recordText? id = w.store.recordText? id :=
          (vault.deleteContract w).rows _ _ rfl id hid
        rwa [← hrow]
  | surround _ hrows _ ih =>
    rw [hrows] at hstored
    exact ih hstored

end SuccessfulRun

/-- The flag that tells of a vault is there exactly while a vault has the flags. When a run of
operations that succeed starts without rows and flags, then in every world to which it leads the
flag is `"true"` exactly if by the steps some vault has the flags, and that one is named by them and
stored; and the flag is `"true"` exactly while a vault is stored, unless the one that had the flags
was deleted and none was made since. -/
theorem enabledFlag_iff_held {start w : World} {steps : List VaultStep}
    (hrows : ∀ id, start.store.recordText? id = none) (hflags : start.store.DescribesNone)
    (h : SuccessfulRun start steps w) :
    (w.store.flag? Flags.enabled = some "true" ↔ ∃ id, holderAfter steps = some id) ∧
      (∀ id, holderAfter steps = some id → w.store.flag? Flags.activeId = some id ∧
        (w.store.recordText? id).isSome) ∧
      (¬Released steps → (w.store.flag? Flags.enabled = some "true" ↔
        ∃ id, (w.store.recordText? id).isSome)) := by
  have hheld := h.heldBy hflags
  rcases hholder : holderAfter steps with _ | holder <;> rw [hholder] at hheld
  · have hnone : w.store.flag? Flags.enabled ≠ some "true" := by
      rw [hheld _ (by decide)]
      exact nofun
    refine ⟨iff_of_false hnone nofun, nofun, fun hunreleased => iff_of_false hnone ?_⟩
    rintro ⟨id, hstored⟩
    exact hunreleased (released_of_unheld hholder (h.exists_create hrows hstored))
  · obtain ⟨htrue, hactive, hstored⟩ := hheld
    refine ⟨iff_of_true htrue ⟨holder, rfl⟩, ?_, fun _ => iff_of_true htrue ⟨holder, hstored⟩⟩
    rintro _ ⟨⟩
    exact ⟨hactive, hstored⟩

/-- The world in which two vaults were made. -/
def World.shared : World :=
  (VaultOperation.create false).after (.ofId "second")
    ((VaultOperation.create false).after (.ofId "first") .fresh)

/-- The operations by which two vaults are made succeed. -/
theorem successfulRun_shared :
    SuccessfulRun .fresh [⟨"second", .create false⟩, ⟨"first", .create false⟩] .shared := by
  have hfirst : (VaultOperation.create false).succeeds (.ofId "first") .fresh = true := by
    decide +kernel
  have hsecond : (VaultOperation.create false).succeeds (.ofId "second")
      ((VaultOperation.create false).after (.ofId "first") .fresh) = true := by decide +kernel
  exact .operate (.operate .start (.ofId "first") (.create false) hfirst) (.ofId "second")
    (.create false) hsecond

/-- In that world the first vault has the flags, the flag tells of a vault, and so it should. -/
theorem enabledFlag_iff_held_shared :
    SuccessfulRun .fresh [⟨"second", .create false⟩, ⟨"first", .create false⟩] .shared ∧
      holderAfter [⟨"second", .create false⟩, ⟨"first", .create false⟩] = some "first" ∧
      World.shared.store.flag? Flags.enabled = some "true" ∧
      World.shared.store.flag? Flags.activeId = some "first" ∧
      (World.shared.store.flag? Flags.enabled = some "true" ↔
        ∃ id, (World.shared.store.recordText? id).isSome) := by
  obtain ⟨htold, hheld, hstored⟩ :=
    enabledFlag_iff_held (fun _ => rfl) (fun _ _ => rfl) successfulRun_shared
  refine ⟨successfulRun_shared, rfl, htold.mpr ⟨"first", rfl⟩, (hheld "first" rfl).1, hstored ?_⟩
  -- No vault was deleted.
  rintro ⟨later, id, earlier, hsteps, -⟩
  have hmem : (⟨id, .delete⟩ : VaultStep) ∈ later ++ ⟨id, .delete⟩ :: earlier := by simp
  rw [← hsteps] at hmem
  simp at hmem

/-- A vault may be stored though the flag tells of none: the first of two vaults has the flags, and
when it is deleted, the second is left without. -/
theorem enabledFlag_gone_with_holder :
    ∃ steps w, SuccessfulRun .fresh steps w ∧
      ¬(w.store.flag? Flags.enabled = some "true" ↔ ∃ id, (w.store.recordText? id).isSome) := by
  have hdelete : VaultOperation.delete.succeeds (.ofId "first") .shared = true := by decide +kernel
  have hleft : (VaultOperation.delete.after (.ofId "first") .shared).store.flag? Flags.enabled = none ∧
      ((VaultOperation.delete.after (.ofId "first") .shared).store.recordText? "second").isSome := by
    decide +kernel
  refine ⟨_, _, .operate successfulRun_shared (.ofId "first") .delete hdelete, fun hiff => ?_⟩
  have htrue := hiff.mpr ⟨"second", hleft.2⟩
  rw [hleft.1] at htrue
  cases htrue

end CredentialVault
