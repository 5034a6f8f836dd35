import CredentialVault.Proofs.Vault.Migration
import CredentialVault.Vault.Lifecycle

/-!
# Storing a new vault, step by step

`persist_run` says in which ways the storing of a new vault can end. After success its row is the
text of its record (`persist_ok`); when it is undone there is no row, unless the record could not be
deleted (`rollBack_row`). The frames say what the storing leaves alone: apart from a migration, a
vault writes its own record and the flags that describe a vault, and nothing else.
-/

namespace CredentialVault

open Operation VaultM

variable {γ : Type} {view : World → γ} {writes : StoreWrite → Prop}

/-- The writes to the store that are made on behalf of the vault of an id. -/
inductive VaultWrite (id : String) : StoreWrite → Prop where
  /-- The record of the vault is written. -/
  | put : VaultWrite id (.put id)
  /-- The record of the vault is deleted. -/
  | delete : VaultWrite id (.delete id)
  /-- A flag that describes a vault is written. -/
  | setFlag {key : String} (h : key ∈ Flags.describing) (value : String) :
    VaultWrite id (.setFlag key value)
  /-- A flag that describes a vault is removed. -/
  | removeFlag {key : String} (h : key ∈ Flags.describing) : VaultWrite id (.removeFlag key)

/-! ## Frames of the parts -/

/-- A view that does not see the faults does not see who has the flags. -/
theorem Vault.preserves_ownsFlags
    (hview : ∀ w faults, view { w with store := { w.store with faults } } = view w)
    (vault : Vault) : Preserves view vault.ownsFlags := by
  refine (preserves_getFlag hview _).bind fun active => ?_
  split
  · exact .pure _
  · split
    · exact .pure _
    · exact (preserves_contains hview _).bind fun _ => .pure _

/-- To ask whose the flags are writes nothing. -/
theorem Vault.unwritten_of_ownsFlags {vault : Vault} {w w' : World} {r : Except VaultError Bool}
    (h : vault.ownsFlags w = (r, w')) : Unwritten w w' :=
  (vault.preserves_ownsFlags fun _ _ => rfl).of_run h

namespace Frame

/-- The flags of a vault describe it. -/
theorem describe (h : Frame writes view)
    (hmiss : ∀ key ∈ Flags.describing, ∀ value, ¬writes (.setFlag key value))
    (record : VaultRecord) : Preserves view (onStore (Vault.describe record)) := by
  have hset : ∀ key ∈ Flags.describing, ∀ value, Preserves view (onStore (StoreM.setFlag key value)) :=
    fun key hkey value => h.setFlag key value (hmiss key hkey value)
  unfold Vault.describe
  rw [onStore_bind]
  refine (hset _ (by simp [Flags.describing]) _).bind fun _ => ?_
  rw [onStore_bind]
  refine (hset _ (by simp [Flags.describing]) _).bind fun _ => ?_
  rw [onStore_bind]
  exact (hset _ (by simp [Flags.describing]) _).bind fun _ => hset _ (by simp [Flags.describing]) _

/-- To undo the making of a vault is on behalf of the vault. -/
theorem rollBack (h : Frame writes view) (vault : Vault)
    (hmiss : ∀ write, VaultWrite vault.id write → ¬writes write) (clearsFlags : Bool) :
    Preserves view (vault.rollBack clearsFlags) := by
  refine (preserves_attemptOnStore (h.delete _ (hmiss _ .delete))).bind fun _ => ?_
  split
  · have hremove : ∀ key ∈ Flags.describing,
        Preserves view (attemptOnStore (StoreM.removeFlag key)) := fun key hkey =>
      preserves_attemptOnStore (h.removeFlag key (hmiss _ (.removeFlag hkey)))
    exact (Within.forIn hremove).bind fun _ => .pure _
  · exact .pure _

end Frame

/-! ## Runs of the parts -/

namespace Vault

/-- Attempts to remove flags raise no failure. -/
theorem removeFlags_ok (keys : List String) (w : World) :
    ∃ w', (forIn keys PUnit.unit fun key _ => do
      attemptOnStore (StoreM.removeFlag key)
      pure (ForInStep.yield PUnit.unit) : VaultM PUnit) w = (.ok ⟨⟩, w') := by
  induction keys generalizing w with
  | nil => exact ⟨w, rfl⟩
  | cons key keys ih =>
    obtain ⟨w', hrest⟩ := ih { w with store := (StoreM.removeFlag key w.store).2 }
    refine ⟨w', ?_⟩
    rw [List.forIn_cons, ← hrest]
    rfl

/-- The undoing raises no failure. -/
theorem rollBack_ok (vault : Vault) (clearsFlags : Bool) (w : World) :
    ∃ w', vault.rollBack clearsFlags w = (.ok (), w') := by
  unfold rollBack
  rw [run_bind_of_ok (show attemptOnStore (StoreM.deleteRecord vault.id) w = (.ok (), _) from rfl)]
  split
  · obtain ⟨w', hrest⟩ := removeFlags_ok Flags.describing
      { w with store := (StoreM.deleteRecord vault.id w.store).2 }
    exact ⟨w', by rw [run_bind_of_ok hrest]; rfl⟩
  · exact ⟨_, rfl⟩

/-- What is done after the record of a new vault was stored: a legacy key is erased, or counters are
reset. -/
def settle (vault : Vault) (record : VaultRecord) : Option LegacyKey → VaultM Unit
  | some legacy => legacy.finish record.publicKeyHex
  | none => vault.counters.reset record.publicKeyHex

/-- The ways in which the storing of a new vault can end. -/
inductive PersistRun (vault : Vault) (record : VaultRecord) (legacy : Option LegacyKey)
    (w : World) : Except VaultError Unit → World → Prop where
  /-- It is unknown whose the flags are. -/
  | unowned {e : VaultError} {w' : World} (howns : vault.ownsFlags w = (.error e, w')) :
    PersistRun vault record legacy w (.error e) w'
  /-- The record cannot be written. -/
  | unstored {takes : Bool} {e : VaultError} {w₁ w' : World}
    (howns : vault.ownsFlags w = (.ok takes, w₁))
    (hput : onStore (StoreM.putRecord record) w₁ = (.error e, w')) :
    PersistRun vault record legacy w (.error e) w'
  /-- The flags cannot be written, and what was done is undone. -/
  | undescribed {e : VaultError} {w₁ w₂ w₃ w' : World}
    (howns : vault.ownsFlags w = (.ok true, w₁))
    (hput : onStore (StoreM.putRecord record) w₁ = (.ok (), w₂))
    (hdescribe : onStore (describe record) w₂ = (.error e, w₃))
    (hundo : vault.rollBack true w₃ = (.ok (), w')) :
    PersistRun vault record legacy w (.error e) w'
  /-- What comes after fails, and what was done is undone. -/
  | unsettled {takes : Bool} {e : VaultError} {w₁ w₂ w₃ w₄ w' : World}
    (howns : vault.ownsFlags w = (.ok takes, w₁))
    (hput : onStore (StoreM.putRecord record) w₁ = (.ok (), w₂))
    (hdescribe : (if takes then onStore (describe record) else pure ()) w₂ = (.ok (), w₃))
    (hsettle : vault.settle record legacy w₃ = (.error e, w₄))
    (hundo : vault.rollBack takes w₄ = (.ok (), w')) :
    PersistRun vault record legacy w (.error e) w'
  /-- All is done. -/
  | done {takes : Bool} {w₁ w₂ w₃ w' : World}
    (howns : vault.ownsFlags w = (.ok takes, w₁))
    (hput : onStore (StoreM.putRecord record) w₁ = (.ok (), w₂))
    (hdescribe : (if takes then onStore (describe record) else pure ()) w₂ = (.ok (), w₃))
    (hsettle : vault.settle record legacy w₃ = (.ok (), w')) :
    PersistRun vault record legacy w (.ok ()) w'

/-- An action that is undone when it fails. -/
theorem undoing_run {vault : Vault} {takes : Bool} {act : VaultM Unit} {w w' : World}
    {r : Except VaultError Unit}
    (h : (tryCatch act fun e => do vault.rollBack takes; throw e) w = (r, w')) :
    (r = .ok () ∧ act w = (.ok (), w')) ∨
      ∃ e u, r = .error e ∧ act w = (.error e, u) ∧ vault.rollBack takes u = (.ok (), w') := by
  rcases tryCatch_cases h with ⟨_, rfl, hact⟩ | ⟨e, u, hact, hhandle⟩
  · exact .inl ⟨rfl, hact⟩
  · obtain ⟨v, hundo⟩ := vault.rollBack_ok takes u
    rw [run_bind_of_ok hundo] at hhandle
    cases hhandle
    exact .inr ⟨e, u, rfl, hact, hundo⟩

/-- Storing a new vault ends in one of these ways. -/
theorem persist_run {vault : Vault} {record : VaultRecord} {legacy : Option LegacyKey}
    {w w' : World} {r : Except VaultError Unit} (h : vault.persist record legacy w = (r, w')) :
    PersistRun vault record legacy w r w' := by
  -- The last part, whichever it is, is undone when it fails.
  have hsettle : ∀ {takes : Bool} {u : World},
      (tryCatch (match legacy with
        | some legacy => legacy.finish record.publicKeyHex
        | none => vault.counters.reset record.publicKeyHex) fun e => do
          vault.rollBack takes; throw e) u = (r, w') →
      (r = .ok () ∧ vault.settle record legacy u = (.ok (), w')) ∨
        ∃ e v, r = .error e ∧ vault.settle record legacy u = (.error e, v) ∧
          vault.rollBack takes v = (.ok (), w') := by
    intro takes u h
    cases legacy <;> exact undoing_run h
  unfold persist at h
  rcases bind_cases h with ⟨e, rfl, howns⟩ | ⟨takes, w₁, howns, h₁⟩
  · exact .unowned howns
  rcases bind_cases h₁ with ⟨e, rfl, hput⟩ | ⟨_, w₂, hput, h₂⟩
  · exact .unstored howns hput
  dsimp only at h₂
  split at h₂
  · -- The flags are taken: the vault is described first, which is undone when it fails.
    next htakes =>
    subst htakes
    rcases bind_cases h₂ with ⟨e, rfl, hdescribe⟩ | ⟨_, w₃, hdescribe, h₃⟩
    · rcases undoing_run hdescribe with ⟨hr, -⟩ | ⟨e', w₃, hr, hdescribe, hundo⟩
      · cases hr
      · cases hr
        exact .undescribed howns hput hdescribe hundo
    · rcases undoing_run hdescribe with ⟨-, hdescribed⟩ | ⟨e', w₃, hr, -, -⟩
      · rcases hsettle h₃ with ⟨rfl, hend⟩ | ⟨e, w₄, rfl, hend, hundo⟩
        · exact .done howns hput hdescribed hend
        · exact .unsettled howns hput hdescribed hend hundo
      · cases hr
  · next htakes =>
    have hdescribed : (if takes then onStore (describe record) else pure ()) w₂ = (.ok (), w₂) := by
      rw [if_neg htakes]
      rfl
    rcases hsettle h₂ with ⟨rfl, hend⟩ | ⟨e, w₄, rfl, hend, hundo⟩
    · exact .done howns hput hdescribed hend
    · exact .unsettled howns hput hdescribed hend hundo

end Vault

namespace Frame

/-- What comes after the storing writes nothing, or moves a legacy key. -/
theorem settle (h : Frame writes view) (vault : Vault) (record : VaultRecord)
    {legacy : Option LegacyKey}
    (hmiss : legacy.isSome → ∀ write, MigrationWrite write → ¬writes write) :
    Preserves view (vault.settle record legacy) := by
  cases legacy with
  | some legacy => exact h.finish (hmiss rfl) legacy _
  | none => exact h.reset _ _

/-- A vault is described if it takes the flags. -/
theorem describeIf (h : Frame writes view)
    (hmiss : ∀ key ∈ Flags.describing, ∀ value, ¬writes (.setFlag key value))
    (takes : Bool) (record : VaultRecord) :
    Preserves view (if takes then onStore (Vault.describe record) else pure ()) := by
  split
  · exact h.describe hmiss record
  · exact .pure _

/-- To a frame that sees no writes on behalf of the vault, only what comes after the storing of its
record matters. -/
theorem persist_run (h : Frame writes view) {vault : Vault} {record : VaultRecord}
    {legacy : Option LegacyKey} {w w' : World} {r : Except VaultError Unit}
    (hmiss : ∀ write, VaultWrite vault.id write → ¬writes write) (hid : record.id = vault.id)
    (hrun : Vault.PersistRun vault record legacy w r w') :
    (view w' = view w ∧ r ≠ .ok ()) ∨
      ∃ u v, view u = view w ∧ vault.settle record legacy u = (r, v) ∧ view w' = view v := by
  have hput : Preserves view (onStore (StoreM.putRecord record)) :=
    h.put record (hmiss _ (hid ▸ .put))
  have hset : ∀ key ∈ Flags.describing, ∀ value, ¬writes (.setFlag key value) :=
    fun key hkey value => hmiss _ (.setFlag hkey value)
  have howns := vault.preserves_ownsFlags h.faults
  have hundo := h.rollBack vault hmiss
  cases hrun with
  | unowned h₁ => exact .inl ⟨howns.of_run h₁, nofun⟩
  | unstored h₁ h₂ => exact .inl ⟨(hput.of_run h₂).trans (howns.of_run h₁), nofun⟩
  | undescribed h₁ h₂ h₃ h₄ =>
    refine .inl ⟨?_, nofun⟩
    calc view w' = _ := (hundo true).of_run h₄
      _ = _ := (h.describe hset record).of_run h₃
      _ = _ := hput.of_run h₂
      _ = view w := howns.of_run h₁
  | unsettled h₁ h₂ h₃ h₄ h₅ =>
    have hbefore := ((h.describeIf hset _ record).of_run h₃).trans
      ((hput.of_run h₂).trans (howns.of_run h₁))
    exact .inr ⟨_, _, hbefore, h₄, (hundo _).of_run h₅⟩
  | done h₁ h₂ h₃ h₄ =>
    have hbefore := ((h.describeIf hset _ record).of_run h₃).trans
      ((hput.of_run h₂).trans (howns.of_run h₁))
    exact .inr ⟨_, _, hbefore, h₄, rfl⟩

/-- The storing of a new vault writes on its behalf, and what a migration writes. -/
theorem persist (h : Frame writes view) {vault : Vault} {record : VaultRecord}
    {legacy : Option LegacyKey} (hmiss : ∀ write, VaultWrite vault.id write → ¬writes write)
    (hmigration : legacy.isSome → ∀ write, MigrationWrite write → ¬writes write)
    (hid : record.id = vault.id) : Preserves view (vault.persist record legacy) := by
  intro w
  rcases h.persist_run hmiss hid (Vault.persist_run rfl) with ⟨hsame, -⟩ | ⟨u, v, hu, hrun, hv⟩
  · exact hsame
  · exact (hv.trans ((h.settle vault record hmigration).of_run hrun)).trans hu

end Frame

namespace Vault

/-! ## The stored row -/

/-- A frame that sees the row of an id sees no flags. -/
theorem not_recordWrite_setFlag {id key value : String} : ¬RecordWrite id (.setFlag key value) :=
  nofun

/-- A frame that sees the row of an id sees no migration. -/
theorem not_recordWrite_migration {id : String} {write : StoreWrite} (h : MigrationWrite write) :
    ¬RecordWrite id write := by
  cases h <;> exact nofun

/-- A new vault that was stored has a valid record, whose text is its row. -/
theorem persist_ok {vault : Vault} {record : VaultRecord} {legacy : Option LegacyKey}
    {w w' : World} (h : vault.persist record legacy w = (.ok (), w')) :
    record.validate = .ok () ∧ w'.store.recordText? record.id = some record.toStored := by
  have hframe := frame_recordText record.id
  have hrun := persist_run h
  cases hrun with
  | done _ hput hdescribe hsettle =>
    -- What comes after the record was written touches no row.
    have hlater := (hframe.settle vault record fun _ _ => not_recordWrite_migration).of_run hsettle
    have hdescribed :=
      (hframe.describeIf (fun _ _ _ => not_recordWrite_setFlag) _ record).of_run hdescribe
    obtain ⟨store, hstored, rfl⟩ := onStore_run hput
    obtain ⟨hvalid, hrow, -⟩ := StoreM.putRecord_ok hstored
    refine ⟨hvalid, ?_⟩
    calc w'.store.recordText? record.id = _ := hlater
      _ = _ := hdescribed
      _ = some record.toStored := (hrow _).trans (if_pos rfl)

/-- After the undoing there is no row, unless the deletion failed. -/
theorem rollBack_row {vault : Vault} {clearsFlags : Bool} {w w' : World}
    (h : vault.rollBack clearsFlags w = (.ok (), w')) :
    w'.store.recordText? vault.id = none ∨
      ∃ e store, StoreM.deleteRecord vault.id w.store = (.error e, store) := by
  have hframe := frame_recordText vault.id
  rcases hdelete : StoreM.deleteRecord vault.id w.store with ⟨e | _, store⟩
  · exact .inr ⟨e, store, rfl⟩
  · refine .inl ?_
    have hdeleted := (StoreM.deleteRecord_ok hdelete).1 vault.id
    rw [if_pos rfl] at hdeleted
    unfold rollBack at h
    rw [run_bind_of_ok (attemptOnStore_of_ok hdelete)] at h
    split at h
    · have hremove : ∀ key ∈ Flags.describing, Preserves
          (fun w : World => w.store.recordText? vault.id)
          (attemptOnStore (StoreM.removeFlag key)) :=
        fun key _ => preserves_attemptOnStore (hframe.removeFlag key nofun)
      exact (((Within.forIn hremove).bind fun _ => .pure _).of_run h).trans hdeleted
    · cases h
      exact hdeleted

end Vault

end CredentialVault
