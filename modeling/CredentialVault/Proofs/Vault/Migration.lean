import CredentialVault.Proofs.Vault.World
import CredentialVault.Vault.Migration

/-!
# Moving a legacy key, step by step

`find_ok` says which key is found. The frames say what the move of a key writes (`MigrationWrite`):
markers, the identifier, and the removal of the key. The key is removed last, so that a failure
keeps it (`atomic_finish`).
-/

namespace CredentialVault

open Operation VaultM

/-- A marker is no flag whose name starts otherwise. -/
theorem Flags.registered_ne {identity key : String} (h : key.toList.head? ≠ some 'r') :
    Flags.registered identity ≠ key := by
  rintro rfl
  rw [Flags.registered, String.toList_append] at h
  exact h rfl

/-- A marker is not the flag of the legacy key. -/
theorem Flags.registered_ne_legacyPrivateKey (identity : String) :
    Flags.registered identity ≠ Flags.legacyPrivateKey :=
  registered_ne (by decide)

/-- A marker is not the flag of the identifier. -/
theorem Flags.registered_ne_legacyPublicKey (identity : String) :
    Flags.registered identity ≠ Flags.legacyPublicKey :=
  registered_ne (by decide)

/-- The writes to the store that move a legacy key into a vault. -/
inductive MigrationWrite : StoreWrite → Prop where
  /-- A marker is written. -/
  | setMarker (identity value : String) : MigrationWrite (.setFlag (Flags.registered identity) value)
  /-- A marker is removed. -/
  | removeMarker (identity : String) : MigrationWrite (.removeFlag (Flags.registered identity))
  /-- The identifier is written. -/
  | setIdentifier (value : String) : MigrationWrite (.setFlag Flags.legacyPublicKey value)
  /-- The identifier is removed. -/
  | removeIdentifier : MigrationWrite (.removeFlag Flags.legacyPublicKey)
  /-- The legacy key is removed. -/
  | removeKey : MigrationWrite (.removeFlag Flags.legacyPrivateKey)

namespace LegacyKey

/-! ## Finding the key -/

/-- What a search of a store finds: the key of the flag, under the stored identifier or else its
own, or nothing if there is no flag. -/
def FoundIn (store : Store) (legacy : Option LegacyKey) : Prop :=
  match store.flag? Flags.legacyPrivateKey with
  | none => legacy = none
  | some text => ∃ key, parse text = .ok key ∧
      legacy = some ⟨key, (store.flag? Flags.legacyPublicKey).getD key.publicKeyHex⟩

/-- What is found depends on the content of the store alone. -/
theorem FoundIn.congr {store store' : Store} {legacy : Option LegacyKey} (h : FoundIn store legacy)
    (hcontent : store'.content = store.content) : FoundIn store' legacy := by
  unfold FoundIn at h ⊢
  rwa [StoreM.flag?_congr _ hcontent, StoreM.flag?_congr _ hcontent]

/-- A view that does not see the faults sees no search for a key. -/
theorem preserves_find {γ : Type} {view : World → γ}
    (hview : ∀ w faults, view { w with store := { w.store with faults } } = view w) :
    Preserves view find := by
  refine (preserves_getFlag hview _).bind fun text => ?_
  split
  · exact .pure _
  · exact (preserves_ofExcept _).bind fun _ => (preserves_getFlag hview _).bind fun _ => .pure _

/-- A search writes nothing. -/
theorem unwritten_of_find {w w' : World} {r : Except VaultError (Option LegacyKey)}
    (h : find w = (r, w')) : Unwritten w w' :=
  (preserves_find fun _ _ => rfl).of_run h

/-- A search that succeeds finds what there is. -/
theorem find_ok {w w' : World} {legacy : Option LegacyKey} (h : find w = (.ok legacy, w')) :
    FoundIn w.store legacy := by
  obtain ⟨text, w₁, hkey, h₁⟩ := bind_ok h
  have hflags := (Unwritten.of_getFlag hkey).flag? Flags.legacyPublicKey
  obtain ⟨store, hget, rfl⟩ := onStore_run hkey
  rw [FoundIn, ← StoreM.getFlag_ok hget]
  cases text with
  | none =>
    cases h₁
    rfl
  | some text =>
    obtain ⟨key, w₂, hparse, h₂⟩ := bind_ok h₁
    obtain ⟨hkey', rfl⟩ := ofExcept_run hparse
    obtain ⟨registered, w₃, hregistered, h₃⟩ := bind_ok h₂
    obtain ⟨store', hget', rfl⟩ := onStore_run hregistered
    cases h₃
    refine ⟨key, hkey'.symm, ?_⟩
    rw [StoreM.getFlag_ok hget', ← hflags]

end LegacyKey

/-! ## Frames -/

namespace Frame

variable {γ : Type} {view : World → γ} {writes : StoreWrite → Prop}

/-- The move writes the new marker, and removes the old one, the identifier and the key. -/
theorem move (h : Frame writes view) {traces : LegacyKey.Traces}
    (hnew : ∀ value ∈ traces.marker, ¬writes (.setFlag traces.newMarker value))
    (hold : traces.marker.isSome → ¬writes (.removeFlag traces.oldMarker))
    (hidentifier : ¬writes (.removeFlag Flags.legacyPublicKey))
    (hkey : ¬writes (.removeFlag Flags.legacyPrivateKey)) :
    Preserves view (onStore traces.move) := by
  -- With a marker or without one, the identifier and the key are removed at the end.
  have hrest : Preserves view (onStore do
      StoreM.removeFlag Flags.legacyPublicKey
      StoreM.removeFlag Flags.legacyPrivateKey) := by
    rw [onStore_bind]
    exact (h.removeFlag _ hidentifier).bind fun _ => h.removeFlag _ hkey
  unfold LegacyKey.Traces.move
  dsimp only
  split
  · next value hmarker =>
    rw [onStore_bind]
    refine (h.setFlag _ _ (hnew _ hmarker)).bind fun _ => ?_
    split
    · rw [onStore_bind]
      exact (h.removeFlag _ (hold (by rw [hmarker]; rfl))).bind fun _ => hrest
    · exact hrest
  · exact hrest

/-- The identifier is written back if there was one. -/
theorem restoreIdentifier (h : Frame writes view) (identifier : Option String)
    (hmiss : ∀ value, ¬writes (.setFlag Flags.legacyPublicKey value)) :
    Preserves view (do
      if let some identifier := identifier then
        attemptOnStore (StoreM.setFlag Flags.legacyPublicKey identifier) : VaultM Unit) := by
  split
  · exact preserves_attemptOnStore (h.setFlag _ _ (hmiss _))
  · exact .pure _

/-- The undoing removes the new marker, and writes the old one and the identifier. -/
theorem restore (h : Frame writes view) {traces : LegacyKey.Traces}
    (hnew : ¬writes (.removeFlag traces.newMarker))
    (hold : ∀ value, ¬writes (.setFlag traces.oldMarker value))
    (hidentifier : ∀ value, ¬writes (.setFlag Flags.legacyPublicKey value)) :
    Preserves view traces.restore := by
  have hrest := h.restoreIdentifier traces.identifier hidentifier
  unfold LegacyKey.Traces.restore
  dsimp only
  split
  · split
    · refine (preserves_attemptOnStore (h.removeFlag _ hnew)).bind fun _ => ?_
      exact (preserves_attemptOnStore (h.setFlag _ _ (hold _))).bind fun _ => hrest
    · exact (preserves_attemptOnStore (h.setFlag _ _ (hold _))).bind fun _ => hrest
  · exact hrest

/-- The end of a migration makes no writes but those of migrations. -/
theorem finish (h : Frame writes view) (hmiss : ∀ write, MigrationWrite write → ¬writes write)
    (legacy : LegacyKey) (publicKeyHex : String) : Preserves view (legacy.finish publicKeyHex) := by
  refine (preserves_getFlag h.faults _).bind fun marker =>
    (preserves_getFlag h.faults _).bind fun identifier => ?_
  refine .tryCatch ?_ fun e => ?_
  · exact h.move (fun value _ => hmiss _ (.setMarker _ value)) (fun _ => hmiss _ (.removeMarker _))
      (hmiss _ .removeIdentifier) (hmiss _ .removeKey)
  · exact (h.restore (hmiss _ (.removeMarker _)) (fun value => hmiss _ (.setMarker _ value))
      fun value => hmiss _ (.setIdentifier value)).bind fun _ => .throw _

end Frame

/-! ## The key goes last -/

namespace LegacyKey

/-- A failed move keeps the key. -/
theorem Traces.atomic_move {traces : Traces}
    (hnew : traces.newMarker ≠ Flags.legacyPrivateKey)
    (hold : traces.oldMarker ≠ Flags.legacyPrivateKey) :
    Atomic (·.flag? Flags.legacyPrivateKey) traces.move := by
  have hrest : Atomic (·.flag? Flags.legacyPrivateKey) (do
      StoreM.removeFlag Flags.legacyPublicKey
      StoreM.removeFlag Flags.legacyPrivateKey) := by
    refine .bind (StoreM.preserves_flag_removeFlag (by decide)) fun _ => ?_
    exact fun s e t h => StoreM.flag?_congr _ (StoreM.atomic_removeFlag _ s e t h)
  unfold Traces.move
  dsimp only
  split
  · refine .bind (StoreM.preserves_flag_setFlag hnew.symm) fun _ => ?_
    split
    · exact .bind (StoreM.preserves_flag_removeFlag hold.symm) fun _ => hrest
    · exact hrest
  · exact hrest

/-- A failed end of a migration keeps the key. -/
theorem atomic_finish (legacy : LegacyKey) (publicKeyHex : String) :
    Atomic (·.store.flag? Flags.legacyPrivateKey) (legacy.finish publicKeyHex) := by
  have hframe := frame_flag Flags.legacyPrivateKey
  refine .bind (preserves_getFlag hframe.faults _) fun marker =>
    .bind (preserves_getFlag hframe.faults _) fun identifier => ?_
  -- The move fails with the key in its place, and the undoing does not write the key.
  intro w e w' h
  have hnew := Flags.registered_ne_legacyPrivateKey publicKeyHex
  have hold := Flags.registered_ne_legacyPrivateKey legacy.identifier
  rcases tryCatch_cases h with ⟨_, hr, -⟩ | ⟨e', u, hmove, hhandle⟩
  · cases hr
  · obtain ⟨store, hmoved, rfl⟩ := onStore_run hmove
    have hkept := Traces.atomic_move hnew hold _ _ _ hmoved
    have hrestore : Preserves (fun w : World => w.store.flag? Flags.legacyPrivateKey)
        (Traces.restore ⟨Flags.registered legacy.identifier, Flags.registered publicKeyHex, marker,
          identifier⟩) := by
      refine hframe.restore ?_ ?_ ?_
      · rwa [flagWrite_removeFlag]
      · intro value
        rwa [flagWrite_setFlag]
      · intro value
        rw [flagWrite_setFlag]
        decide
    exact ((hrestore.bind fun _ => .throw e').of_run hhandle).trans hkept

end LegacyKey

end CredentialVault
