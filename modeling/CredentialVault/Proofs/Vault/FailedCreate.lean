import CredentialVault.Proofs.Vault.MigrationUndo

/-!
# A failed making leaves no trace

When the making of a vault fails, the rows, the flags that describe a vault and the cache are as
before, and the failure is that of the step which failed (`failedCreate_restores`). What is undone
has to succeed, and the flags have to describe no vault or name one that is stored: then the undoing
clears flags only where there were none.
-/

namespace CredentialVault

open Operation VaultM

/-- The undoing of a move raises no failure. -/
theorem LegacyKey.Traces.restore_ok (traces : Traces) (w : World) :
    ∃ w', traces.restore w = (.ok (), w') := by
  obtain ⟨oldMarker, newMarker, marker, identifier⟩ := traces
  unfold restore
  dsimp only
  cases marker <;> cases identifier <;> dsimp only
  · exact ⟨_, rfl⟩
  · exact ⟨_, rfl⟩
  all_goals split <;> exact ⟨_, rfl⟩

namespace Vault

/-! ## The step that fails -/

/-- What is done after the record of a new vault was stored, when nothing is undone. -/
def settleOnce (vault : Vault) (record : VaultRecord) : Option LegacyKey → VaultM Unit
  | some legacy => do
    let traces ← legacy.traces record.publicKeyHex
    onStore traces.move
  | none => vault.counters.reset record.publicKeyHex

/-- The steps of the making of a vault that can fail, when nothing is undone. -/
def makeOnce (vault : Vault) (migrates : Bool) : VaultM Unit := do
  let placed ← vault.place migrates
  if placed.takesFlags then onStore (describe placed.draft.record)
  vault.settleOnce placed.draft.record placed.legacy

/-- What comes after the storing fails with the failure of its step. -/
theorem settleOnce_of_error {vault : Vault} {record : VaultRecord} {legacy : Option LegacyKey}
    {w w' : World} {e : VaultError} (h : vault.settle record legacy w = (.error e, w')) :
    ∃ failed, vault.settleOnce record legacy w = (.error e, failed) := by
  cases legacy with
  | none => exact ⟨w', h⟩
  | some legacy =>
    rw [settle, LegacyKey.finish_eq] at h
    rw [settleOnce]
    rcases bind_cases h with ⟨e, hr, htraces⟩ | ⟨traces, u, htraces, h₁⟩
    · cases hr
      exact ⟨w', run_bind_of_error htraces⟩
    · rw [run_bind_of_ok htraces]
      rcases tryCatch_cases h₁ with ⟨_, hr, -⟩ | ⟨e', v, hmove, hrestore⟩
      · cases hr
      · -- The move is undone without a failure, and then its own is raised.
        obtain ⟨restored, hrestored⟩ := traces.restore_ok v
        rw [run_bind_of_ok hrestored] at hrestore
        cases hrestore
        exact ⟨v, hmove⟩

/-- The making of a vault fails with the failure of the step that failed, not with one of the
undoing. -/
theorem makeOnce_of_error {vault : Vault} {migrates : Bool} {w w' : World} {e : VaultError}
    (h : vault.create migrates w = (.error e, w')) :
    ∃ failed, vault.makeOnce migrates w = (.error e, failed) := by
  unfold makeOnce
  cases make_run h with
  | unplaced hplace => exact ⟨w', run_bind_of_error hplace⟩
  | undone hplace hcomplete =>
    -- The first part runs alike in both, and so does the describing of the record.
    rw [run_bind_of_ok hplace]
    unfold complete at hcomplete
    split at hcomplete
    · next htakes =>
      rw [if_pos htakes]
      rcases bind_cases hcomplete with ⟨e, hr, hdescribe⟩ | ⟨_, u, hdescribe, hsettle⟩
      · cases hr
        exact ⟨_, run_bind_of_error hdescribe⟩
      · rw [run_bind_of_ok hdescribe]
        exact settleOnce_of_error hsettle
    · next htakes =>
      rw [if_neg htakes]
      exact settleOnce_of_error hcomplete

/-! ## What is left -/

/-- When the making of a vault fails and the writes succeed that undo it, the rows are as before,
and so are the flags, if they described no vault or named one that is stored. -/
theorem failedCreate_store {vault : Vault} {migrates : Bool} {w w' : World} {e : VaultError}
    (hflags : w.store.DescribesNone ∨ w.store.NamesStored)
    (h : vault.create migrates w = (.error e, w'))
    (hundo : ∀ clearsFlags failed, vault.undoneFrom? migrates w = some (clearsFlags, failed) →
      (vault.undo clearsFlags failed.store).1.isOk) :
    (∀ id, w'.store.recordText? id = w.store.recordText? id) ∧
      ∀ key ∈ Flags.describing, w'.store.flag? key = w.store.flag? key := by
  cases make_run h with
  | unplaced hplace =>
    cases place_run hplace with
    | failed hcontent =>
      exact ⟨fun id => StoreM.recordText?_congr id hcontent,
        fun key _ => StoreM.flag?_congr key hcontent⟩
  | @undone placed _ stored failed _ hplace hcomplete hrollBack =>
    cases place_run hplace with
    | placed hplaced =>
    have hok := hundo _ _ (undoneFrom?_of_error hplace hcomplete)
    rcases hwrites : vault.undo placed.takesFlags failed.store with ⟨_ | _, store⟩ <;>
      rw [hwrites] at hok
    · cases hok
    rw [rollBack_eq, undoEach_of_ok hwrites] at hrollBack
    cases hrollBack
    obtain ⟨hrows, hkept⟩ := undo_ok hwrites
    refine ⟨fun id => ?_, fun key hkey => ?_⟩
    · -- The only new row is that of the vault, and it is deleted.
      rw [hrows, complete_row hcomplete, hplaced.row]
      split
      · next hid => rw [hid, hplaced.absent]
      · rfl
    · rw [hkept]
      rcases htakes : placed.takesFlags with _ | _
      · rw [if_neg (by simp), complete_flag hcomplete htakes hkey, hplaced.flag]
      · -- Flags that were taken named no stored vault, and so there were none to be cleared.
        have hnone : w.store.DescribesNone := by
          rcases hflags with hnone | hnames
          · exact hnone
          · have hthere := (hplaced.takes_iff.mp htakes).isSome hnames
            rw [hplaced.absent] at hthere
            cases hthere
        rw [if_pos ⟨rfl, hkey⟩, hnone key hkey]

end Vault

/-- A failed making leaves no trace. When the flags describe no vault or name one that is stored,
and the writes succeed that undo the making, then the rows, the flags that describe a vault and the
cache are as before, no observer was told of anything, and the failure is that of the step that
failed. -/
theorem failedCreate_restores {vault : Vault} {migrates : Bool} {w w' : World} {e : VaultError}
    (hflags : w.store.DescribesNone ∨ w.store.NamesStored)
    (h : vault.create migrates w = (.error e, w'))
    (hundo : ∀ clearsFlags failed, vault.undoneFrom? migrates w = some (clearsFlags, failed) →
      (vault.undo clearsFlags failed.store).1.isOk) :
    (∀ id, w'.store.recordText? id = w.store.recordText? id) ∧
      (∀ key ∈ Flags.describing, w'.store.flag? key = w.store.flag? key) ∧
      w'.cache = w.cache ∧ ∃ failed, vault.makeOnce migrates w = (.error e, failed) := by
  obtain ⟨hrows, hkept⟩ := Vault.failedCreate_store hflags h hundo
  exact ⟨hrows, hkept, Vault.failedCreate_cache h, Vault.makeOnce_of_error h⟩

/-- A fresh world in which the flag that tells of a vault cannot be written. -/
def World.flagless : World :=
  { World.fresh with store.faults := [⟨.setFlag, some Flags.enabled, "flag refused", 0, none⟩] }

/-- There the record and three flags are written before the making of a vault fails, and all of it
is undone. -/
theorem failedCreate_restores_flagless :
    ∃ e w', (Vault.ofId "default").create false .flagless = (.error e, w') ∧
      w'.store.journal.length = 10 ∧
      (∀ id, w'.store.recordText? id = World.flagless.store.recordText? id) ∧
      (∀ key ∈ Flags.describing, w'.store.flag? key = World.flagless.store.flag? key) ∧
      w'.cache = World.flagless.cache ∧
      ∃ failed, (Vault.ofId "default").makeOnce false .flagless = (.error e, failed) := by
  have hrun : ((Vault.ofId "default").create false .flagless).1.isOk = false ∧
      ((Vault.ofId "default").create false .flagless).2.store.journal.length = 10 := by
    decide +kernel
  have hundone : (((Vault.ofId "default").undoneFrom? false .flagless).all
      fun failed => ((Vault.ofId "default").undo failed.1 failed.2.store).1.isOk) = true := by
    decide +kernel
  rcases hcreate : (Vault.ofId "default").create false .flagless with ⟨e | created, w'⟩ <;>
    rw [hcreate] at hrun
  · refine ⟨e, w', rfl, hrun.2, ?_⟩
    refine failedCreate_restores (.inl fun key _ => rfl) hcreate fun clearsFlags failed hfrom => ?_
    rw [hfrom] at hundone
    exact hundone
  · cases hrun.1

end CredentialVault
