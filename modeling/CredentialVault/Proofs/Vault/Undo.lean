import CredentialVault.Proofs.Vault.Create
import CredentialVault.Proofs.Vault.Flags

/-!
# Undoing the making of a vault

The making of a vault has three parts (`create_eq`). Up to the storing of its record there is
nothing to be undone (`place`); what comes then is undone when it fails (`complete`); and at the end
the session comes into the cache (`openNew`). `undoneFrom?` is the point at which the undoing
begins, and `undo` are the writes of which it consists: when they succeed, the record is gone, and
so are the flags if they were taken (`undo_ok`). The cache is as before when the making fails
(`failedCreate_cache`).
-/

namespace CredentialVault

open Operation VaultM

variable {γ : Type} {view : World → γ} {writes : StoreWrite → Prop}

namespace Vault

/-! ## The parts -/

/-- A new vault whose record is stored, and nothing else yet. -/
structure Placed where
  /-- The record with its content. -/
  draft : Draft
  /-- The legacy key that the vault takes over. -/
  legacy : Option LegacyKey
  /-- Whether the vault takes the flags. -/
  takesFlags : Bool

/-- Makes the record of a new vault with a given legacy key, and stores it. -/
def placeWith (vault : Vault) (legacy : Option LegacyKey) : VaultM Placed := do
  let draft ← vault.draft (legacy.map (·.privateKey))
  let takesFlags ← vault.ownsFlags
  onStore (StoreM.putRecord draft.record)
  return ⟨draft, legacy, takesFlags⟩

/-- What the making of a vault does up to the storing of its record. -/
def place (vault : Vault) (migrates : Bool) : VaultM Placed := do
  if ← onStore (StoreM.contains vault.id) then throw (.vaultExists vault.id)
  let legacy ← if migrates then LegacyKey.find else pure none
  vault.placeWith legacy

/-- What the making of a vault does once its record is stored. -/
def complete (vault : Vault) (placed : Placed) : VaultM Unit := do
  if placed.takesFlags then onStore (describe placed.draft.record)
  vault.settle placed.draft.record placed.legacy

/-- The end of the making of a vault: its session comes into the cache. -/
def openNew (vault : Vault) (placed : Placed) : VaultM CreatedVault := do
  let session := Session.ofBundle vault.id placed.draft.record.credentialId placed.draft.bundle
    (← get).now
  onCache (·.set session)
  return ⟨session, placed.draft.method, placed.legacy.isSome⟩

/-- Does something, and undoes the making of the vault when it fails. -/
def undoing (vault : Vault) (clearsFlags : Bool) (act : VaultM Unit) : VaultM Unit :=
  tryCatch act fun e => do
    vault.rollBack clearsFlags
    throw e

/-- To undo a sequence when it fails is to undo each of its parts when it fails. -/
theorem undoing_bind (vault : Vault) (clearsFlags : Bool) (first second : VaultM Unit) :
    vault.undoing clearsFlags (first >>= fun _ => second) =
      (vault.undoing clearsFlags first >>= fun _ => vault.undoing clearsFlags second) := by
  funext w
  simp only [undoing, run_tryCatch, run_bind]
  rcases first w with ⟨e | _, u⟩
  · -- The first part fails and is undone; the undoing does not fail, so the failure is raised again.
    obtain ⟨v, hundo⟩ := vault.rollBack_ok clearsFlags u
    simp only [hundo]
    rfl
  · rfl

/-- The storing of a new vault: what comes after the record is undone as a whole. -/
theorem persist_eq (vault : Vault) (record : VaultRecord) (legacy : Option LegacyKey) :
    vault.persist record legacy = (do
      let takesFlags ← vault.ownsFlags
      onStore (StoreM.putRecord record)
      vault.undoing takesFlags do
        if takesFlags then onStore (describe record)
        vault.settle record legacy) := by
  unfold persist
  refine congrArg _ (funext fun takesFlags => congrArg _ (funext fun _ => ?_))
  cases takesFlags with
  | true => cases legacy <;> exact (undoing_bind _ _ _ _).symm
  | false => cases legacy <;> rfl

/-- The making of a vault in its parts. -/
theorem create_eq (vault : Vault) (migrates : Bool) :
    vault.create migrates = (do
      let placed ← vault.place migrates
      vault.undoing placed.takesFlags (vault.complete placed)
      vault.openNew placed) := by
  unfold create place placeWith
  simp only [persist_eq, bind_assoc]
  refine congrArg _ (funext fun found => ?_)
  cases found with
  | true => rfl
  | false =>
    cases migrates <;>
      simp only [Bool.false_eq_true, if_false, if_true, bind_assoc, pure_bind] <;> rfl

/-- The ways in which the making of a vault can end, by its parts. -/
inductive MakeRun (vault : Vault) (migrates : Bool) (w : World) :
    Except VaultError CreatedVault → World → Prop where
  /-- The record is not stored. -/
  | unplaced {e : VaultError} {w' : World} (hplace : vault.place migrates w = (.error e, w')) :
    MakeRun vault migrates w (.error e) w'
  /-- Something fails once the record is stored, and what was stored is undone. -/
  | undone {placed : Placed} {e : VaultError} {stored failed w' : World}
    (hplace : vault.place migrates w = (.ok placed, stored))
    (hcomplete : vault.complete placed stored = (.error e, failed))
    (hundo : vault.rollBack placed.takesFlags failed = (.ok (), w')) :
    MakeRun vault migrates w (.error e) w'
  /-- The vault is made. -/
  | done {placed : Placed} {created : CreatedVault} {stored completed w' : World}
    (hplace : vault.place migrates w = (.ok placed, stored))
    (hcomplete : vault.complete placed stored = (.ok (), completed))
    (hopen : vault.openNew placed completed = (.ok created, w')) :
    MakeRun vault migrates w (.ok created) w'

/-- The making of a vault ends in one of these ways. -/
theorem make_run {vault : Vault} {migrates : Bool} {w w' : World}
    {r : Except VaultError CreatedVault} (h : vault.create migrates w = (r, w')) :
    MakeRun vault migrates w r w' := by
  rw [create_eq] at h
  rcases bind_cases h with ⟨e, rfl, hplace⟩ | ⟨placed, stored, hplace, h₁⟩
  · exact .unplaced hplace
  -- The last part cannot fail, so the ends are those of the second one.
  rcases bind_cases h₁ with ⟨e, rfl, hundoing⟩ | ⟨_, completed, hundoing, hopen⟩
  · rcases undoing_run hundoing with ⟨hr, -⟩ | ⟨e, failed, hr, hcomplete, hundo⟩
    · cases hr
    · cases hr
      exact .undone hplace hcomplete hundo
  · rcases undoing_run hundoing with ⟨-, hcomplete⟩ | ⟨e, failed, hr, -, -⟩
    · cases hopen
      exact .done hplace hcomplete rfl
    · cases hr

/-! ## The record is stored -/

/-- What is known once the record of a new vault is stored: there was none before, and nothing else
in the store has changed. -/
structure PlacedIn (vault : Vault) (w : World) (placed : Placed) (stored : World) : Prop where
  /-- There was no record. -/
  absent : w.store.recordText? vault.id = none
  /-- The record has the id of the vault. -/
  id_eq : placed.draft.record.id = vault.id
  /-- The record is valid. -/
  valid : placed.draft.record.validate = .ok ()
  /-- The vault takes the flags if they are free. -/
  takes_iff : placed.takesFlags = true ↔ w.store.FlagsFree vault.id
  /-- The rows are as before, but for the new one. -/
  row : ∀ id, stored.store.recordText? id =
    if id = vault.id then some placed.draft.record.toStored else w.store.recordText? id
  /-- The flags are as before. -/
  flag : ∀ key, stored.store.flag? key = w.store.flag? key
  /-- The cache is as before. -/
  cache : stored.cache = w.cache

/-- A vault that does not take the flags finds them with another one. -/
theorem PlacedIn.not_flagsFree {vault : Vault} {w stored : World} {placed : Placed}
    (h : PlacedIn vault w placed stored) (htakes : placed.takesFlags = false) :
    ¬w.store.FlagsFree vault.id := by
  rw [← h.takes_iff, htakes]
  decide

/-- The ways in which the first part can end: nothing in the store has changed, or the record is
stored. -/
inductive PlaceRun (vault : Vault) (w : World) : Except VaultError Placed → World → Prop where
  /-- It fails. -/
  | failed {e : VaultError} {w' : World} (hcontent : w'.store.content = w.store.content)
    (hcache : w'.cache = w.cache) : PlaceRun vault w (.error e) w'
  /-- It succeeds. -/
  | placed {placed : Placed} {stored : World} (hplaced : PlacedIn vault w placed stored) :
    PlaceRun vault w (.ok placed) stored

/-- A failure that wrote nothing. -/
theorem PlaceRun.of_unwritten {vault : Vault} {e : VaultError} {w w' : World}
    (h : Unwritten w w') : PlaceRun vault w (.error e) w' :=
  .failed h.content h.cache

/-- The storing of a record with a given legacy key ends in one of these ways. -/
theorem placeWith_run {vault : Vault} {legacy : Option LegacyKey} {w u w' : World}
    {r : Except VaultError Placed} (habsent : w.store.recordText? vault.id = none)
    (hsame : Unwritten w u) (h : vault.placeWith legacy u = (r, w')) : PlaceRun vault w r w' := by
  rcases bind_cases h with ⟨e, rfl, hdraft⟩ | ⟨draft, w₁, hdraft, h₁⟩
  · exact .of_unwritten (hsame.trans (unwritten_of_draft hdraft))
  have hsame := hsame.trans (unwritten_of_draft hdraft)
  obtain ⟨hrun⟩ := draft_run hdraft
  rcases bind_cases h₁ with ⟨e, rfl, howns⟩ | ⟨takes, w₂, howns, h₂⟩
  · exact .of_unwritten (hsame.trans (unwritten_of_ownsFlags howns))
  -- The draft left the store, so the flags are as free as at the beginning.
  have htakes : takes = true ↔ w.store.FlagsFree vault.id := by
    rw [ownsFlags_ok howns]
    simp only [Store.FlagsFree, hsame.flag?, hsame.recordText?]
  have hsame := hsame.trans (unwritten_of_ownsFlags howns)
  rcases bind_cases h₂ with ⟨e, rfl, hput⟩ | ⟨_, w₃, hput, h₃⟩ <;>
    obtain ⟨store, hstored, rfl⟩ := onStore_run hput
  · -- A failed write leaves the content.
    exact .failed ((StoreM.atomic_putRecord _ _ _ _ hstored).trans hsame.content) hsame.cache
  · cases h₃
    obtain ⟨hvalid, hrows, hflags⟩ := StoreM.putRecord_ok hstored
    refine .placed ⟨habsent, hrun.id_eq, hvalid, htakes, fun id => ?_, fun key => ?_, hsame.cache⟩
    · rw [← hrun.id_eq, ← hsame.recordText? id]
      exact hrows id
    · exact (hflags key).trans (hsame.flag? key)

/-- The first part ends in one of these ways. -/
theorem place_run {vault : Vault} {migrates : Bool} {w w' : World} {r : Except VaultError Placed}
    (h : vault.place migrates w = (r, w')) : PlaceRun vault w r w' := by
  rcases bind_cases h with ⟨e, rfl, hcontains⟩ | ⟨found, w₁, hcontains, h₁⟩
  · exact .of_unwritten (.of_contains hcontains)
  have hsame := Unwritten.of_contains hcontains
  obtain ⟨store, hfound, rfl⟩ := onStore_run hcontains
  have hfound := StoreM.contains_ok hfound
  dsimp only at h₁
  cases found with
  | true =>
    cases h₁
    exact .of_unwritten hsame
  | false =>
    have habsent : w.store.recordText? vault.id = none := by simpa using hfound.symm
    rw [if_neg (by decide)] at h₁
    split at h₁
    · rcases bind_cases h₁ with ⟨e, rfl, hfind⟩ | ⟨legacy, w₂, hfind, h₂⟩
      · exact .of_unwritten (hsame.trans (LegacyKey.unwritten_of_find hfind))
      · exact placeWith_run habsent (hsame.trans (LegacyKey.unwritten_of_find hfind)) h₂
    · rcases bind_cases h₁ with ⟨e, -, hpure⟩ | ⟨legacy, w₂, hpure, h₂⟩ <;> cases hpure
      exact placeWith_run habsent hsame h₂

/-! ## What comes then -/

/-- The record is described, if the flags are taken, and then the rest follows. -/
theorem complete_eq (vault : Vault) (placed : Placed) :
    vault.complete placed = (do
      (if placed.takesFlags then onStore (describe placed.draft.record) else pure ())
      vault.settle placed.draft.record placed.legacy) := by
  unfold complete
  split <;> simp only [pure_bind]

end Vault

/-- What comes once the record is stored writes flags if these are taken, and what a migration
writes. -/
theorem Frame.complete (h : Frame writes view) (vault : Vault) (placed : Vault.Placed)
    (hdescribe : placed.takesFlags = true →
      ∀ key ∈ Flags.describing, ∀ value, ¬writes (.setFlag key value))
    (hmigration : ∀ write, MigrationWrite write → ¬writes write) :
    Preserves view (vault.complete placed) := by
  rw [Vault.complete_eq]
  refine Within.bind ?_ fun _ => h.settle vault _ fun _ => hmigration
  split
  · next htakes => exact h.describe (hdescribe htakes) _
  · exact .pure _

namespace Vault

/-- What comes once the record is stored leaves the rows. -/
theorem complete_row {vault : Vault} {placed : Placed} {w w' : World} {r : Except VaultError Unit}
    (h : vault.complete placed w = (r, w')) (id : String) :
    w'.store.recordText? id = w.store.recordText? id :=
  ((frame_recordText id).complete vault placed (fun _ _ _ _ => nofun)
    fun _ => not_recordWrite_migration).of_run h

/-- What comes once the record is stored leaves the cache. -/
theorem complete_cache {vault : Vault} {placed : Placed} {w w' : World} {r : Except VaultError Unit}
    (h : vault.complete placed w = (r, w')) : w'.cache = w.cache :=
  (frame_cache.complete vault placed (fun _ _ _ _ => not_false) fun _ _ => not_false).of_run h

/-- Flags that describe a vault and are not taken are left. -/
theorem complete_flag {vault : Vault} {placed : Placed} {w w' : World} {r : Except VaultError Unit}
    (h : vault.complete placed w = (r, w')) (htakes : placed.takesFlags = false) {key : String}
    (hkey : key ∈ Flags.describing) : w'.store.flag? key = w.store.flag? key :=
  ((frame_flag key).complete vault placed (by simp [htakes])
    fun _ => not_flagWrite_of_migration hkey).of_run h

/-- Flags that are taken describe the record, unless they could not be written; then the flag that
tells whether there is a vault is as before. -/
theorem complete_taken {vault : Vault} {placed : Placed} {w w' : World} {r : Except VaultError Unit}
    (h : vault.complete placed w = (r, w')) (htakes : placed.takesFlags = true) :
    w'.store.Describes placed.draft.record ∨
      (r ≠ .ok () ∧ w'.store.flag? Flags.enabled = w.store.flag? Flags.enabled) := by
  rw [complete_eq, if_pos htakes] at h
  rcases bind_cases h with ⟨e, rfl, hdescribe⟩ | ⟨_, u, hdescribe, hsettle⟩ <;>
    obtain ⟨store, hdescribed, rfl⟩ := onStore_run hdescribe
  · exact .inr ⟨nofun, describe_error hdescribed⟩
  · -- What comes after the flags are written does not write them.
    have hkept : ∀ key ∈ Flags.describing, w'.store.flag? key = store.flag? key := fun key hkey =>
      ((frame_flag key).settle vault placed.draft.record
        fun _ _ => not_flagWrite_of_migration hkey).of_run hsettle
    obtain ⟨-, henabled, hid, hcredential, hpublic⟩ := describe_ok hdescribed
    exact .inl ⟨(hkept _ (by decide)).trans henabled, (hkept _ (by decide)).trans hid,
      (hkept _ (by decide)).trans hcredential, (hkept _ (by decide)).trans hpublic⟩

/-- At the end only the cache changes. -/
theorem openNew_run {vault : Vault} {placed : Placed} {w w' : World}
    {r : Except VaultError CreatedVault} (h : vault.openNew placed w = (r, w')) :
    w'.store = w.store := by
  obtain ⟨-, rfl⟩ := Prod.mk.inj h
  rfl

/-! ## The undoing -/

/-- The writes that undo the making of a vault, each of which has to succeed. -/
def undo (vault : Vault) (clearsFlags : Bool) : StoreM Unit := do
  StoreM.deleteRecord vault.id
  if clearsFlags then StoreM.removeFlags Flags.describing

/-- Where the undoing of a vault begins whose making fails, if there is something to be undone:
whether the flags are cleared, and the world that the failure leaves. -/
def undoneFrom? (vault : Vault) (migrates : Bool) (w : World) : Option (Bool × World) :=
  match vault.place migrates w with
  | (.ok placed, stored) =>
    match vault.complete placed stored with
    | (.error _, failed) => some (placed.takesFlags, failed)
    | (.ok _, _) => none
  | (.error _, _) => none

/-- The undoing begins where the second part failed. -/
theorem undoneFrom?_of_error {vault : Vault} {migrates : Bool} {placed : Placed} {e : VaultError}
    {w stored failed : World} (hplace : vault.place migrates w = (.ok placed, stored))
    (hcomplete : vault.complete placed stored = (.error e, failed)) :
    vault.undoneFrom? migrates w = some (placed.takesFlags, failed) := by
  rw [undoneFrom?, hplace]
  dsimp only
  rw [hcomplete]

/-- The store after the attempts to undo the making of a vault. -/
def undoEach (vault : Vault) (clearsFlags : Bool) (s : Store) : Store :=
  let deleted := (StoreM.deleteRecord vault.id s).2
  if clearsFlags then StoreM.removeEach Flags.describing deleted else deleted

/-- The undoing attempts its writes, and changes the store alone. -/
theorem rollBack_eq (vault : Vault) (clearsFlags : Bool) (w : World) :
    vault.rollBack clearsFlags w =
      (.ok (), { w with store := vault.undoEach clearsFlags w.store }) := by
  have hdelete : attemptOnStore (StoreM.deleteRecord vault.id) w =
    (.ok (), { w with store := (StoreM.deleteRecord vault.id w.store).2 }) := rfl
  unfold rollBack
  rw [run_bind_of_ok hdelete]
  cases clearsFlags with
  | true => exact attempt_removeFlags Flags.describing _
  | false => rfl

/-- When the writes succeed, the attempts come to the same. -/
theorem undoEach_of_ok {vault : Vault} {clearsFlags : Bool} {s t : Store}
    (h : vault.undo clearsFlags s = (.ok (), t)) : vault.undoEach clearsFlags s = t := by
  obtain ⟨_, u, hdelete, hclear⟩ := bind_ok h
  unfold undoEach
  rw [hdelete]
  cases clearsFlags with
  | true => exact StoreM.removeEach_of_ok hclear
  | false =>
    cases hclear
    rfl

/-- After the undoing the record is gone, and so are the flags that are cleared. -/
theorem undo_ok {vault : Vault} {clearsFlags : Bool} {s t : Store}
    (h : vault.undo clearsFlags s = (.ok (), t)) :
    (∀ id, t.recordText? id = if id = vault.id then none else s.recordText? id) ∧
      ∀ key, t.flag? key =
        if clearsFlags = true ∧ key ∈ Flags.describing then none else s.flag? key := by
  obtain ⟨_, u, hdelete, hclear⟩ := bind_ok h
  obtain ⟨hrows, hflags⟩ := StoreM.deleteRecord_ok hdelete
  cases clearsFlags with
  | true =>
    obtain ⟨hrows', hflags'⟩ := StoreM.removeFlags_ok hclear
    refine ⟨fun id => (hrows' id).trans (hrows id), fun key => ?_⟩
    rw [hflags', hflags]
    simp
  | false =>
    cases hclear
    refine ⟨hrows, fun key => ?_⟩
    rw [hflags]
    simp

/-- When the making of a vault fails, the cache is as before, and no observer was told of
anything. -/
theorem failedCreate_cache {vault : Vault} {migrates : Bool} {w w' : World} {e : VaultError}
    (h : vault.create migrates w = (.error e, w')) : w'.cache = w.cache := by
  cases make_run h with
  | unplaced hplace =>
    cases place_run hplace with
    | failed _ hcache => exact hcache
  | undone hplace hcomplete hundo =>
    cases place_run hplace with
    | placed hplaced =>
      have hundone := (frame_cache.rollBack vault (fun _ _ => not_false) _).of_run hundo
      calc w'.cache = _ := hundone
        _ = _ := complete_cache hcomplete
        _ = w.cache := hplaced.cache

end Vault

end CredentialVault
