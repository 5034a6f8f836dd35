import CredentialVault.Proofs.Vault.Lifecycle

/-!
# Undoing the move of a legacy key

A new vault takes over a legacy key, and the move of the key fails. Then the flags that the move
touches are written back. When these writes succeed, every flag is as before, but for those that
describe a vault and one more: a marker that was stored under the public key of the vault already is
lost (`failedMigration_flag`).
-/

namespace CredentialVault

open Operation VaultM

namespace LegacyKey

/-! ## The move and its undoing -/

/-- Notes what the move of a key into a vault with the given public key erases. -/
def traces (legacy : LegacyKey) (publicKeyHex : String) : VaultM Traces := do
  let oldMarker := Flags.registered legacy.identifier
  let marker ← onStore (StoreM.getFlag oldMarker)
  let identifier ← onStore (StoreM.getFlag Flags.legacyPublicKey)
  return ⟨oldMarker, Flags.registered publicKeyHex, marker, identifier⟩

/-- A migration ends with the move, which is undone from what was noted. -/
theorem finish_eq (legacy : LegacyKey) (publicKeyHex : String) :
    legacy.finish publicKeyHex = (do
      let traces ← legacy.traces publicKeyHex
      tryCatch (onStore traces.move) fun e => do
        traces.restore
        throw e) := by
  simp only [finish, traces, bind_assoc, pure_bind]

/-- A view that does not see the faults sees no noting. -/
theorem preserves_traces {γ : Type} {view : World → γ}
    (hview : ∀ w faults, view { w with store := { w.store with faults } } = view w)
    (legacy : LegacyKey) (publicKeyHex : String) : Preserves view (legacy.traces publicKeyHex) :=
  (preserves_getFlag hview _).bind fun _ => (preserves_getFlag hview _).bind fun _ => .pure _

/-- What is noted is what is stored. -/
theorem traces_ok {legacy : LegacyKey} {publicKeyHex : String} {w w' : World} {traces : Traces}
    (h : legacy.traces publicKeyHex w = (.ok traces, w')) :
    traces = ⟨Flags.registered legacy.identifier, Flags.registered publicKeyHex,
      w.store.flag? (Flags.registered legacy.identifier),
      w.store.flag? Flags.legacyPublicKey⟩ := by
  obtain ⟨marker, w₁, hmarker, h₁⟩ := bind_ok h
  have hflags := (Unwritten.of_getFlag hmarker).flag? Flags.legacyPublicKey
  obtain ⟨store, hget, rfl⟩ := onStore_run hmarker
  obtain ⟨identifier, w₂, hidentifier, h₂⟩ := bind_ok h₁
  obtain ⟨store', hget', rfl⟩ := onStore_run hidentifier
  cases h₂
  rw [StoreM.getFlag_ok hget, StoreM.getFlag_ok hget', ← hflags]

namespace Traces

/-- The writes that undo a move, each of which has to succeed. -/
def undo (traces : Traces) : StoreM Unit := do
  if let some value := traces.marker then
    if traces.oldMarker ≠ traces.newMarker then StoreM.removeFlag traces.newMarker
    StoreM.setFlag traces.oldMarker value
  if let some identifier := traces.identifier then
    StoreM.setFlag Flags.legacyPublicKey identifier

/-- When the writes succeed, the undoing comes to the same. -/
theorem restore_eq {traces : Traces} {w : World} {store : Store}
    (h : traces.undo w.store = (.ok (), store)) :
    traces.restore w = (.ok (), { w with store }) := by
  obtain ⟨oldMarker, newMarker, marker, identifier⟩ := traces
  -- The identifier is written back at the end in each of the cases.
  have hrest : ∀ {s : Store}, ((do
      if let some identifier := identifier then
        StoreM.setFlag Flags.legacyPublicKey identifier : StoreM Unit) s = (.ok (), store)) →
      (do
        if let some identifier := identifier then
          attemptOnStore (StoreM.setFlag Flags.legacyPublicKey identifier) : VaultM Unit)
        { w with store := s } = (.ok (), { w with store }) := by
    intro s hset
    cases identifier with
    | none =>
      cases hset
      rfl
    | some identifier => exact attemptOnStore_of_ok hset
  unfold undo at h
  unfold restore
  cases marker with
  | none => exact hrest h
  | some value =>
    dsimp only at h ⊢
    split at h
    · next hmarkers =>
      obtain ⟨_, s₁, hremove, h₁⟩ := bind_ok h
      obtain ⟨_, s₂, hset, h₂⟩ := bind_ok h₁
      rw [if_pos hmarkers, run_bind_of_ok (attemptOnStore_of_ok hremove),
        run_bind_of_ok (attemptOnStore_of_ok hset)]
      exact hrest h₂
    · next hmarkers =>
      obtain ⟨_, s₁, hset, h₁⟩ := bind_ok h
      rw [if_neg hmarkers, run_bind_of_ok (attemptOnStore_of_ok hset)]
      exact hrest h₁

/-- The flags after the undoing. -/
theorem undo_ok {traces : Traces} {s t : Store} (h : traces.undo s = (.ok (), t)) (key : String) :
    t.flag? key =
      if key = Flags.legacyPublicKey ∧ traces.identifier.isSome then traces.identifier
      else if key = traces.oldMarker ∧ traces.marker.isSome then traces.marker
      else if key = traces.newMarker ∧ traces.marker.isSome then none
      else s.flag? key := by
  obtain ⟨oldMarker, newMarker, marker, identifier⟩ := traces
  -- The identifier comes last, and so the flag has it whatever was written before.
  have hrest : ∀ {u : Store}, ((do
      if let some identifier := identifier then
        StoreM.setFlag Flags.legacyPublicKey identifier : StoreM Unit) u = (.ok (), t)) →
      t.flag? key = if key = Flags.legacyPublicKey ∧ identifier.isSome then identifier
        else u.flag? key := by
    intro u hset
    cases identifier with
    | none =>
      cases hset
      simp
    | some identifier => simp [(StoreM.setFlag_ok hset).2 key]
  unfold undo at h
  cases marker with
  | none => simpa using hrest h
  | some value =>
    dsimp only at h ⊢
    split at h
    · obtain ⟨_, s₁, hremove, h₁⟩ := bind_ok h
      obtain ⟨_, s₂, hset, h₂⟩ := bind_ok h₁
      rw [hrest h₂, (StoreM.setFlag_ok hset).2 key, (StoreM.removeFlag_ok hremove).2 key]
      simp
    · next hmarkers =>
      obtain ⟨_, s₁, hset, h₁⟩ := bind_ok h
      rw [hrest h₁, (StoreM.setFlag_ok hset).2 key, Classical.not_not.mp hmarkers]
      by_cases hkey : key = newMarker <;> simp [hkey]

/-- A move does not bring the identifier back. -/
theorem maintains_move {traces : Traces} (hnew : traces.newMarker ≠ Flags.legacyPublicKey) :
    Maintains (fun s => s.flag? Flags.legacyPublicKey = none) traces.move := by
  have hremove : ∀ key, Maintains (fun s => s.flag? Flags.legacyPublicKey = none)
      (StoreM.removeFlag key) := StoreM.maintains_absent_removeFlag _
  unfold move
  dsimp only
  split
  · refine Within.bind ?_ fun _ => ?_
    · exact fun s h => (StoreM.preserves_flag_setFlag hnew.symm s).trans h
    · split
      · exact (hremove _).bind fun _ => (hremove _).bind fun _ => hremove _
      · exact (hremove _).bind fun _ => hremove _
  · exact (hremove _).bind fun _ => hremove _

/-- A failed move leaves all flags but the identifier and, if there is a marker, both markers. -/
theorem failed_flag {traces : Traces} {s t : Store} {e : VaultError} {key : String}
    (hnew : traces.newMarker ≠ Flags.legacyPrivateKey)
    (hold : traces.oldMarker ≠ Flags.legacyPrivateKey)
    (hmove : traces.move s = (.error e, t)) (hidentifier : key ≠ Flags.legacyPublicKey)
    (hmarker : traces.marker.isSome → key ≠ traces.oldMarker ∧ key ≠ traces.newMarker) :
    t.flag? key = s.flag? key := by
  by_cases hkey : key = Flags.legacyPrivateKey
  · -- The key goes last, and a failed removal leaves it.
    subst hkey
    exact atomic_move hnew hold _ _ _ hmove
  · have hremove : ∀ {other}, key ≠ other → Preserves (·.flag? key) (StoreM.removeFlag other) :=
      StoreM.preserves_flag_removeFlag
    have hrest : Preserves (·.flag? key) (do
        StoreM.removeFlag Flags.legacyPublicKey
        StoreM.removeFlag Flags.legacyPrivateKey) :=
      (hremove hidentifier).bind fun _ => hremove hkey
    suffices h : Preserves (·.flag? key) traces.move from h.of_run hmove
    unfold move
    dsimp only
    split
    · next value hsome =>
      obtain ⟨holdKey, hnewKey⟩ := hmarker (by rw [hsome]; rfl)
      refine (StoreM.preserves_flag_setFlag hnewKey).bind fun _ => ?_
      split
      · exact (hremove holdKey).bind fun _ => hrest
      · exact hrest
    · exact hrest

/-- A failed move that was undone leaves the flags as they were, but for the new marker: if there
was an old one elsewhere, the new one is gone. -/
theorem undone_flag {traces : Traces} {s t u : Store} {e : VaultError}
    (hmarker : traces.marker = s.flag? traces.oldMarker)
    (hidentifier : traces.identifier = s.flag? Flags.legacyPublicKey)
    (hold : ∃ identity, traces.oldMarker = Flags.registered identity)
    (hnew : ∃ identity, traces.newMarker = Flags.registered identity)
    (hmove : traces.move s = (.error e, t)) (hundo : traces.undo t = (.ok (), u)) (key : String) :
    u.flag? key =
      if key = traces.newMarker ∧ traces.oldMarker ≠ traces.newMarker ∧ traces.marker.isSome then
        none
      else s.flag? key := by
  obtain ⟨oldIdentity, hold⟩ := hold
  obtain ⟨newIdentity, hnew⟩ := hnew
  have holdPublic := hold ▸ Flags.registered_ne_legacyPublicKey oldIdentity
  have hnewPublic := hnew ▸ Flags.registered_ne_legacyPublicKey newIdentity
  have holdPrivate := hold ▸ Flags.registered_ne_legacyPrivateKey oldIdentity
  have hnewPrivate := hnew ▸ Flags.registered_ne_legacyPrivateKey newIdentity
  -- By cases on the flag: the identifier, the old marker, the new marker, or another one.
  rw [undo_ok hundo]
  by_cases hpublic : key = Flags.legacyPublicKey
  · subst hpublic
    simp only [holdPublic.symm, hnewPublic.symm, true_and, false_and, if_false]
    split
    · exact hidentifier
    · next hnone =>
      -- There was no identifier, and the move brings none back.
      have hnone : s.flag? Flags.legacyPublicKey = none := by simpa [hidentifier] using hnone
      rw [hnone]
      exact (maintains_move hnewPublic).of_run hmove hnone
  · rw [if_neg (fun h => hpublic h.1)]
    have hkept := failed_flag hnewPrivate holdPrivate hmove hpublic
    by_cases hsome : traces.marker.isSome = true
    · simp only [hsome, and_true] at hkept ⊢
      by_cases holdKey : key = traces.oldMarker
      · rw [if_pos holdKey, if_neg (fun h => h.2 (holdKey ▸ h.1)), holdKey, hmarker]
      · rw [if_neg holdKey]
        by_cases hnewKey : key = traces.newMarker
        · rw [if_pos hnewKey, if_pos ⟨hnewKey, fun h => holdKey (hnewKey.trans h.symm)⟩]
        · rw [if_neg hnewKey, if_neg (fun h => hnewKey h.1)]
          exact hkept fun _ => ⟨holdKey, hnewKey⟩
    · simp only [hsome, Bool.false_eq_true, and_false, if_false]
      exact hkept fun h => absurd h hsome

end Traces

end LegacyKey

namespace Vault

/-! ## Failed migrations -/

/-- What the making of a vault does up to the move of a legacy key, once its record is known. -/
def storeBeforeMove (vault : Vault) (record : VaultRecord) (legacy : LegacyKey) :
    VaultM LegacyKey.Traces := do
  let takesFlags ← vault.ownsFlags
  onStore (StoreM.putRecord record)
  if takesFlags then onStore (describe record)
  legacy.traces record.publicKeyHex

/-- What the making of a vault with a migration does up to the move of the legacy key. If there is
no legacy key, nothing will be moved. -/
def beforeMove (vault : Vault) : VaultM (Option LegacyKey.Traces) := do
  if ← onStore (StoreM.contains vault.id) then throw (.vaultExists vault.id)
  let some legacy ← LegacyKey.find | return none
  let draft ← vault.draft (some legacy.privateKey)
  return some (← vault.storeBeforeMove draft.record legacy)

/-- The move that fails when the vault is made with a migration, if one does: what was noted before,
and the store that the move leaves. -/
def failedMove? (vault : Vault) (w : World) : Option (LegacyKey.Traces × Store) :=
  match vault.beforeMove w with
  | (.ok (some traces), before) =>
    match traces.move before.store with
    | (.error _, failed) => some (traces, failed)
    | (.ok _, _) => none
  | _ => none

/-- A marker is lost when a vault is made with a migration: the legacy key was registered under
another identifier, there was a marker under the public key of the vault already, and the move
fails. -/
def LosesMarker (vault : Vault) (w : World) (key : String) : Prop :=
  ∃ traces failed, vault.failedMove? w = some (traces, failed) ∧ key = traces.newMarker ∧
    traces.oldMarker ≠ traces.newMarker ∧ traces.marker.isSome ∧ (w.store.flag? key).isSome

/-- When something fails before the move, no move fails. -/
theorem failedMove?_of_error {vault : Vault} {w u : World} {e : VaultError}
    (h : vault.beforeMove w = (.error e, u)) : vault.failedMove? w = none := by
  rw [failedMove?, h]

/-- When there is no legacy key, no move fails. -/
theorem failedMove?_of_none {vault : Vault} {w u : World}
    (h : vault.beforeMove w = (.ok none, u)) : vault.failedMove? w = none := by
  rw [failedMove?, h]

/-- What comes after the storing fails before the move, or the move fails and is undone. -/
theorem settle_error {vault : Vault} {record : VaultRecord} {legacy : LegacyKey} {w w' : World}
    {e : VaultError} (h : vault.settle record (some legacy) w = (.error e, w')) :
    (∃ e, legacy.traces record.publicKeyHex w = (.error e, w') ∧ Unwritten w w') ∨
      ∃ traces before e failed, legacy.traces record.publicKeyHex w = (.ok traces, before) ∧
        Unwritten w before ∧ traces.move before.store = (.error e, failed) ∧
          ∀ store, traces.undo failed = (.ok (), store) → w' = { before with store } := by
  rw [settle, LegacyKey.finish_eq] at h
  rcases bind_cases h with ⟨e, -, htraces⟩ | ⟨traces, before, htraces, h₁⟩
  · have hsame : Unwritten w w' := (legacy.preserves_traces (fun _ _ => rfl) _).of_run htraces
    exact .inl ⟨e, htraces, hsame⟩
  · have hsame : Unwritten w before := (legacy.preserves_traces (fun _ _ => rfl) _).of_run htraces
    rcases tryCatch_cases h₁ with ⟨_, hr, -⟩ | ⟨e, u, hmove, hhandle⟩
    · cases hr
    obtain ⟨failed, hmoved, rfl⟩ := onStore_run hmove
    refine .inr ⟨traces, before, e, failed, htraces, hsame, hmoved, fun store hundo => ?_⟩
    rw [run_bind_of_ok (LegacyKey.Traces.restore_eq hundo)] at hhandle
    cases hhandle
    rfl

/-- The ways in which the storing of a new vault with a legacy key can fail. -/
inductive FailedStoring (vault : Vault) (record : VaultRecord) (legacy : LegacyKey) (w w' : World) :
    Prop where
  /-- It fails before the move, and the flags stay that describe no vault. -/
  | unmoved {e : VaultError} {before : World}
    (hbefore : vault.storeBeforeMove record legacy w = (.error e, before))
    (hflags : ∀ key, key ∉ Flags.describing → w'.store.flag? key = w.store.flag? key)
  /-- The move fails, and is undone. -/
  | undone {e : VaultError} {traces : LegacyKey.Traces} {before : World} {failed : Store}
    (hbefore : vault.storeBeforeMove record legacy w = (.ok traces, before))
    (htraces : traces = ⟨Flags.registered legacy.identifier, Flags.registered record.publicKeyHex,
      before.store.flag? (Flags.registered legacy.identifier),
      before.store.flag? Flags.legacyPublicKey⟩)
    (hmove : traces.move before.store = (.error e, failed))
    (hflags : ∀ key, key ∉ Flags.describing → before.store.flag? key = w.store.flag? key)
    (hundo : ∀ store, traces.undo failed = (.ok (), store) →
      ∀ key, key ∉ Flags.describing → w'.store.flag? key = store.flag? key)

/-- The storing of a new vault with a legacy key fails in one of these ways. -/
theorem failedStoring {vault : Vault} {record : VaultRecord} {legacy : LegacyKey} {w w' : World}
    {e : VaultError} (h : vault.persist record (some legacy) w = (.error e, w')) :
    FailedStoring vault record legacy w w' := by
  -- To a flag that describes no vault, each part of the storing but the last is nothing.
  have hmiss : ∀ {key}, key ∉ Flags.describing →
      ∀ write, VaultWrite vault.id write → ¬FlagWrite key write :=
    fun hkey _ => not_flagWrite_of_vaultWrite hkey
  have howns : ∀ {w w' : World} {r} (key), vault.ownsFlags w = (r, w') →
      w'.store.flag? key = w.store.flag? key :=
    fun key h => (unwritten_of_ownsFlags h).flag? key
  have hput : ∀ {w w' : World} {r} (key), onStore (StoreM.putRecord record) w = (r, w') →
      w'.store.flag? key = w.store.flag? key :=
    fun key h => ((frame_flag key).put record nofun).of_run h
  have hdescribed : ∀ {takes : Bool} {w w' : World} {r} {key}, key ∉ Flags.describing →
      (if takes then onStore (describe record) else pure ()) w = (r, w') →
      w'.store.flag? key = w.store.flag? key := fun hkey h =>
    ((frame_flag _).describeIf (fun _ h value => hmiss hkey _ (.setFlag h value)) _ record).of_run h
  have hundone : ∀ {takes} {w w' : World} {r} {key}, key ∉ Flags.describing →
      vault.rollBack takes w = (r, w') → w'.store.flag? key = w.store.flag? key := fun hkey h =>
    ((frame_flag _).rollBack vault (hmiss hkey) _).of_run h
  cases persist_run h with
  | unowned h₁ =>
    exact .unmoved (run_bind_of_error h₁) fun key _ => howns key h₁
  | unstored h₁ h₂ =>
    refine .unmoved ((run_bind_of_ok h₁).trans (run_bind_of_error h₂)) fun key _ => ?_
    exact (hput key h₂).trans (howns key h₁)
  | undescribed h₁ h₂ h₃ h₄ =>
    refine .unmoved ((run_bind_of_ok h₁).trans ((run_bind_of_ok h₂).trans
      (run_bind_of_error h₃))) fun key hkey => ?_
    calc w'.store.flag? key = _ := hundone hkey h₄
      _ = _ := @hdescribed true _ _ _ _ hkey h₃
      _ = _ := hput key h₂
      _ = w.store.flag? key := howns key h₁
  | @unsettled takes _ w₁ w₂ w₃ w₄ _ h₁ h₂ h₃ h₄ h₅ =>
    have hbefore : vault.storeBeforeMove record legacy w = legacy.traces record.publicKeyHex w₃ := by
      refine (run_bind_of_ok h₁).trans ((run_bind_of_ok h₂).trans ?_)
      cases takes with
      | true => exact run_bind_of_ok h₃
      | false =>
        cases h₃
        rfl
    have hflags : ∀ key, key ∉ Flags.describing → w₃.store.flag? key = w.store.flag? key :=
      fun key hkey => (hdescribed hkey h₃).trans ((hput key h₂).trans (howns key h₁))
    rcases settle_error h₄ with ⟨e', htraces, hnoted⟩ |
      ⟨traces, before, e', failed, htraces, hnoted, hmove, hrestored⟩
    · refine .unmoved (hbefore.trans htraces) fun key hkey => ?_
      exact (hundone hkey h₅).trans ((hnoted.flag? key).trans (hflags key hkey))
    · refine .undone (hbefore.trans htraces) ?_ hmove
        (fun key hkey => (hnoted.flag? key).trans (hflags key hkey)) fun store hundo key hkey => ?_
      · rw [LegacyKey.traces_ok htraces, hnoted.flag?, hnoted.flag?]
      · rw [hundone hkey h₅, hrestored store hundo]

/-- The ways in which the making of a vault with a migration can fail. -/
inductive FailedMigration (vault : Vault) (w w' : World) : Prop where
  /-- Nothing was to be moved yet, and the flags stay that describe no vault. -/
  | unmoved (hnone : vault.failedMove? w = none)
    (hflags : ∀ key, key ∉ Flags.describing → w'.store.flag? key = w.store.flag? key)
  /-- The move failed. When it was undone, the flags stay that describe no vault, but for the marker
  under the public key of the vault. -/
  | undone {traces : LegacyKey.Traces} {failed : Store}
    (hfailed : vault.failedMove? w = some (traces, failed))
    (hflags : ∀ store, traces.undo failed = (.ok (), store) → ∀ key, key ∉ Flags.describing →
      w'.store.flag? key =
        if key = traces.newMarker ∧ traces.oldMarker ≠ traces.newMarker ∧ traces.marker.isSome then
          none
        else w.store.flag? key)

/-- When there is a legacy key and the storing fails, the making of the vault fails in one of these
ways. -/
theorem failedMigration_of_storing {vault : Vault} {record : VaultRecord} {legacy : LegacyKey}
    {w ready w' : World} {e : VaultError} (hsame : Unwritten w ready)
    (hbefore : vault.beforeMove w =
      (vault.storeBeforeMove record legacy >>= fun traces => pure (some traces)) ready)
    (hpersist : vault.persist record (some legacy) ready = (.error e, w')) :
    FailedMigration vault w w' := by
  cases failedStoring hpersist with
  | unmoved hfailed hflags =>
    refine .unmoved (failedMove?_of_error (hbefore.trans (run_bind_of_error hfailed))) ?_
    exact fun key hkey => (hflags key hkey).trans (hsame.flag? key)
  | @undone _ traces before failed hnoted htraces hmove hflags hundo =>
    have hready : vault.beforeMove w = (.ok (some traces), before) :=
      hbefore.trans (run_bind_of_ok hnoted)
    have hfailed : vault.failedMove? w = some (traces, failed) := by
      simp only [failedMove?, hready, hmove]
    refine .undone hfailed fun store hstore key hkey => ?_
    have hundone := LegacyKey.Traces.undone_flag (by rw [htraces]) (by rw [htraces])
      ⟨_, by rw [htraces]⟩ ⟨_, by rw [htraces]⟩ hmove hstore key
    rw [hundo store hstore key hkey, hundone, hflags key hkey, hsame.flag? key]

/-- The making of a vault with a migration fails in one of these ways. -/
theorem failedMigration_cases {vault : Vault} {w w' : World} {e : VaultError}
    (h : vault.create true w = (.error e, w')) : FailedMigration vault w w' := by
  rcases bind_cases h with ⟨e, -, hcontains⟩ | ⟨found, w₁, hcontains, h₁⟩
  · exact .unmoved (failedMove?_of_error (run_bind_of_error hcontains))
      fun key _ => (Unwritten.of_contains hcontains).flag? key
  have hsame := Unwritten.of_contains hcontains
  dsimp only at h₁
  cases found with
  | true =>
    cases h₁
    exact .unmoved (failedMove?_of_error (run_bind_of_ok hcontains)) fun key _ => hsame.flag? key
  | false =>
    rw [if_neg (by decide), if_pos rfl] at h₁
    rcases bind_cases h₁ with ⟨e, -, hfind⟩ | ⟨legacy, w₂, hfind, h₂⟩
    · refine .unmoved (failedMove?_of_error
        ((run_bind_of_ok hcontains).trans (run_bind_of_error hfind))) ?_
      exact fun key _ => (hsame.trans (LegacyKey.unwritten_of_find hfind)).flag? key
    have hsame := hsame.trans (LegacyKey.unwritten_of_find hfind)
    rcases bind_cases h₂ with ⟨e, -, hdraft⟩ | ⟨draft, w₃, hdraft, h₃⟩
    · refine .unmoved ?_ fun key _ => (hsame.trans (unwritten_of_draft hdraft)).flag? key
      cases legacy with
      | none => exact failedMove?_of_none ((run_bind_of_ok hcontains).trans (run_bind_of_ok hfind))
      | some legacy =>
        exact failedMove?_of_error ((run_bind_of_ok hcontains).trans
          ((run_bind_of_ok hfind).trans (run_bind_of_error hdraft)))
    have hsame := hsame.trans (unwritten_of_draft hdraft)
    rcases bind_cases h₃ with ⟨e, -, hpersist⟩ | ⟨_, w₄, hpersist, h₄⟩
    · cases legacy with
      | none =>
        refine .unmoved (failedMove?_of_none
          ((run_bind_of_ok hcontains).trans (run_bind_of_ok hfind))) fun key hkey => ?_
        obtain ⟨hrun⟩ := draft_run hdraft
        have hkept : Preserves (fun w : World => w.store.flag? key) (vault.persist draft.record none) :=
          (frame_flag key).persist (fun _ => not_flagWrite_of_vaultWrite hkey) nofun hrun.id_eq
        exact (hkept.of_run hpersist).trans (hsame.flag? key)
      | some legacy =>
        refine failedMigration_of_storing hsame ?_ hpersist
        exact (run_bind_of_ok hcontains).trans ((run_bind_of_ok hfind).trans (run_bind_of_ok hdraft))
    · -- After the storing nothing fails any more.
      cases h₄

end Vault

/-- A failed migration restores the flags, apart from those that describe a vault, if the writes
succeed that undo it; just one marker may be lost. -/
theorem failedMigration_flag {vault : Vault} {w w' : World} {e : VaultError}
    (h : vault.create true w = (.error e, w'))
    (hundo : ∀ traces failed, vault.failedMove? w = some (traces, failed) →
      (traces.undo failed).1.isOk) {key : String} (hkey : key ∉ Flags.describing) :
    w'.store.flag? key = w.store.flag? key ↔ ¬vault.LosesMarker w key := by
  cases Vault.failedMigration_cases h with
  | unmoved hnone hflags =>
    refine iff_of_true (hflags key hkey) ?_
    rintro ⟨traces, failed, hfailed, -⟩
    rw [hnone] at hfailed
    cases hfailed
  | @undone traces failed hfailed hflags =>
    have hok := hundo traces failed hfailed
    rcases hundone : traces.undo failed with ⟨e' | _, store⟩ <;> rw [hundone] at hok
    · cases hok
    rw [hflags store hundone key hkey]
    -- The move that failed is the only one, and so the marker is that of its traces.
    have hloses : vault.LosesMarker w key ↔ (key = traces.newMarker ∧
        traces.oldMarker ≠ traces.newMarker ∧ traces.marker.isSome) ∧
          (w.store.flag? key).isSome := by
      constructor
      · rintro ⟨traces', failed', hfailed', hnew, hne, hmarker, hsome⟩
        rw [hfailed] at hfailed'
        cases hfailed'
        exact ⟨⟨hnew, hne, hmarker⟩, hsome⟩
      · rintro ⟨⟨hnew, hne, hmarker⟩, hsome⟩
        exact ⟨traces, failed, hfailed, hnew, hne, hmarker, hsome⟩
    rw [hloses]
    split
    · next hlost =>
      rw [and_iff_right hlost, Option.isSome_iff_ne_none, Classical.not_not]
      exact eq_comm
    · next hkept => exact iff_of_true rfl fun h => hkept h.1

/-- A world with a legacy key that is registered under an account and, with another marker, under
its public key. The next removal of the key fails. -/
def World.registeredTwice : World :=
  let w := World.fresh.withFlags
    [(Flags.legacyPrivateKey, "9d61b19deffd5a60ba844af492ec2cc44449c5697b326919703bac031cae7f60"),
      (Flags.legacyPublicKey, "account"), (Flags.registered "account", "1"),
      (Flags.registered "d75a980182b10ab7d54bfed3c964073a0ee172f3daa62325af021a68f707511a", "2")]
  { w with store.faults :=
    [⟨.removeFlag, some Flags.legacyPrivateKey, "erase refused", 0, some 1⟩] }

/-- There the making of a vault fails, what it wrote is undone, and the second marker is lost. -/
theorem failedMigration_flag_registeredTwice :
    ∃ e w', (Vault.ofId "default").create true .registeredTwice = (.error e, w') ∧
      ∀ key ∈ [Flags.registered "account",
          Flags.registered "d75a980182b10ab7d54bfed3c964073a0ee172f3daa62325af021a68f707511a"],
        (w'.store.flag? key = World.registeredTwice.store.flag? key ↔
          ¬(Vault.ofId "default").LosesMarker .registeredTwice key) ∧
        (w'.store.flag? key = none ↔ key ≠ Flags.registered "account") := by
  have hrun : ((Vault.ofId "default").create true .registeredTwice).1.isOk = false ∧
      ∀ key ∈ [Flags.registered "account",
        Flags.registered "d75a980182b10ab7d54bfed3c964073a0ee172f3daa62325af021a68f707511a"],
      key ∉ Flags.describing ∧
        (((Vault.ofId "default").create true .registeredTwice).2.store.flag? key = none ↔
          key ≠ Flags.registered "account") := by decide +kernel
  have hundone : (((Vault.ofId "default").failedMove? .registeredTwice).all
      fun move => (move.1.undo move.2).1.isOk) = true := by decide +kernel
  obtain ⟨hfails, hflags⟩ := hrun
  rcases hcreate : (Vault.ofId "default").create true .registeredTwice with ⟨e | created, w'⟩
  · rw [hcreate] at hflags
    refine ⟨e, w', rfl, fun key hkey => ⟨?_, (hflags key hkey).2⟩⟩
    refine failedMigration_flag hcreate (fun traces failed hfailed => ?_) (hflags key hkey).1
    rw [hfailed] at hundone
    exact hundone
  · rw [hcreate] at hfails
    cases hfails

end CredentialVault
