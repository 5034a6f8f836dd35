import CredentialVault.Proofs.Vault.Persist

/-!
# The flags that describe a vault

The flags describe no vault (`Store.DescribesNone`) or a record (`Store.Describes`), and a vault may
take them when they name no other vault that is stored (`ownsFlags_ok`). To describe a vault writes
the flag `vault.enabled` last, so that a failure leaves it as it was (`describe_ok`,
`describe_error`); to give the flags up removes all of them (`removeFlags_ok`), or attempts to
(`removeEach`).
-/

namespace CredentialVault

open Operation VaultM

namespace Store

/-- No flag describes a vault. -/
def DescribesNone (store : Store) : Prop :=
  ∀ key ∈ Flags.describing, store.flag? key = none

/-- The flags describe a record. -/
structure Describes (store : Store) (record : VaultRecord) : Prop where
  /-- There is a vault. -/
  enabled : store.flag? Flags.enabled = some "true"
  /-- The id is that of the record. -/
  activeId : store.flag? Flags.activeId = some record.id
  /-- The credential is that of the record. -/
  credentialId : store.flag? Flags.credentialId = some record.credentialId.text
  /-- The public key is that of the record. -/
  publicKeyHex : store.flag? Flags.publicKeyHex = some record.publicKeyHex

/-- The flags name a vault that is stored. -/
def NamesStored (store : Store) : Prop :=
  ∃ active, store.flag? Flags.activeId = some active ∧ (store.recordText? active).isSome

/-- The flags may be taken by the vault of an id: they name no other vault that is stored. -/
def FlagsFree (store : Store) (id : String) : Prop :=
  ∀ active, store.flag? Flags.activeId = some active → active = id ∨ store.recordText? active = none

/-- When the flags name a stored vault, they are free for that vault alone. -/
theorem FlagsFree.isSome {store : Store} {id : String} (h : store.FlagsFree id)
    (hnames : store.NamesStored) : (store.recordText? id).isSome := by
  obtain ⟨active, hactive, hstored⟩ := hnames
  rcases h active hactive with rfl | hnone
  · exact hstored
  · rw [hnone] at hstored
    cases hstored

end Store

/-- The flags that describe a vault are not written by a migration. -/
theorem not_flagWrite_of_migration {key : String} (h : key ∈ Flags.describing) {write : StoreWrite}
    (hwrite : MigrationWrite write) : ¬FlagWrite key write := by
  have hname : key.toList.head? ≠ some 'r' ∧ Flags.legacyPublicKey ≠ key ∧
      Flags.legacyPrivateKey ≠ key := by
    revert key
    decide
  obtain ⟨hmarker, hpublic, hprivate⟩ := hname
  cases hwrite with
  | setMarker identity value => exact (not_congr flagWrite_setFlag).mpr (Flags.registered_ne hmarker)
  | removeMarker identity => exact (not_congr flagWrite_removeFlag).mpr (Flags.registered_ne hmarker)
  | setIdentifier value => exact (not_congr flagWrite_setFlag).mpr hpublic
  | removeIdentifier => exact (not_congr flagWrite_removeFlag).mpr hpublic
  | removeKey => exact (not_congr flagWrite_removeFlag).mpr hprivate

/-! ## Giving up the flags -/

namespace StoreM

/-- Removes flags, one after another. -/
def removeFlags (keys : List String) : StoreM Unit := do
  for key in keys do
    removeFlag key

/-- The first flag is removed first. -/
@[simp]
theorem removeFlags_cons (key : String) (keys : List String) :
    removeFlags (key :: keys) = (do removeFlag key; removeFlags keys) := by
  unfold removeFlags
  rw [List.forIn_cons]
  simp only [bind_assoc, pure_bind]

/-- Flags that were removed have no value, and nothing else has changed. -/
theorem removeFlags_ok {keys : List String} {s t : Store} (h : removeFlags keys s = (.ok (), t)) :
    (∀ id, t.recordText? id = s.recordText? id) ∧
      ∀ key, t.flag? key = if key ∈ keys then none else s.flag? key := by
  induction keys generalizing s with
  | nil =>
    cases h
    exact ⟨fun _ => rfl, fun _ => rfl⟩
  | cons first keys ih =>
    rw [removeFlags_cons] at h
    obtain ⟨_, u, hremove, hrest⟩ := bind_ok h
    obtain ⟨hrows, hflags⟩ := removeFlag_ok hremove
    obtain ⟨hrows', hflags'⟩ := ih hrest
    refine ⟨fun id => (hrows' id).trans (hrows id), fun key => ?_⟩
    rw [hflags', hflags]
    by_cases hfirst : key = first <;> by_cases hkeys : key ∈ keys <;> simp [hfirst, hkeys]

/-- The store after attempts to remove flags, one after another. -/
def removeEach (keys : List String) (s : Store) : Store :=
  keys.foldl (fun s key => (removeFlag key s).2) s

/-- The first flag is removed first. -/
theorem removeEach_cons (key : String) (keys : List String) (s : Store) :
    removeEach (key :: keys) s = removeEach keys (removeFlag key s).2 := rfl

/-- When the flags can be removed, the attempts come to the same. -/
theorem removeEach_of_ok {keys : List String} {s t : Store}
    (h : removeFlags keys s = (.ok (), t)) : removeEach keys s = t := by
  induction keys generalizing s with
  | nil =>
    cases h
    rfl
  | cons key keys ih =>
    rw [removeFlags_cons] at h
    obtain ⟨_, u, hremove, hrest⟩ := bind_ok h
    rw [removeEach_cons, hremove]
    exact ih hrest

/-- The attempts leave the rows. -/
theorem recordText?_removeEach (keys : List String) (s : Store) (id : String) :
    (removeEach keys s).recordText? id = s.recordText? id := by
  induction keys generalizing s with
  | nil => rfl
  | cons key keys ih =>
    rw [removeEach_cons, ih]
    exact preserves_recordText_removeFlag key id s

/-- The attempts leave other flags. -/
theorem flag?_removeEach {keys : List String} {key : String} (h : key ∉ keys) (s : Store) :
    (removeEach keys s).flag? key = s.flag? key := by
  induction keys generalizing s with
  | nil => rfl
  | cons first keys ih =>
    obtain ⟨hne, hrest⟩ := List.ne_and_not_mem_of_not_mem_cons h
    rw [removeEach_cons, ih hrest]
    exact preserves_flag_removeFlag hne s

end StoreM

namespace VaultM

/-- To remove flags in a world is to remove them from its store. -/
theorem onStore_removeFlags (keys : List String) :
    (do for key in keys do onStore (StoreM.removeFlag key) : VaultM Unit) =
      onStore (StoreM.removeFlags keys) := by
  induction keys with
  | nil => rfl
  | cons key keys ih =>
    rw [StoreM.removeFlags_cons, onStore_bind, ← ih, List.forIn_cons]
    simp only [bind_assoc, pure_bind]

/-- The attempts to remove flags change the store alone. -/
theorem attempt_removeFlags (keys : List String) (w : World) :
    (do for key in keys do attemptOnStore (StoreM.removeFlag key) : VaultM Unit) w =
      (.ok (), { w with store := StoreM.removeEach keys w.store }) := by
  induction keys generalizing w with
  | nil => rfl
  | cons key keys ih =>
    have hfirst : attemptOnStore (StoreM.removeFlag key) w =
      (.ok (), { w with store := (StoreM.removeFlag key w.store).2 }) := rfl
    rw [List.forIn_cons]
    simp only [bind_assoc, pure_bind]
    rw [run_bind_of_ok hfirst, StoreM.removeEach_cons]
    exact ih _

end VaultM

namespace Vault

/-! ## Taking the flags -/

/-- Whether a vault may take the flags is told as it is stored. -/
theorem ownsFlags_ok {vault : Vault} {w w' : World} {owns : Bool}
    (h : vault.ownsFlags w = (.ok owns, w')) : owns = true ↔ w.store.FlagsFree vault.id := by
  obtain ⟨active, w₁, hactive, h₁⟩ := bind_ok h
  have hrows := (Unwritten.of_getFlag hactive).recordText?
  obtain ⟨store, hget, rfl⟩ := onStore_run hactive
  unfold Store.FlagsFree
  rw [← StoreM.getFlag_ok hget]
  cases active with
  | none =>
    cases h₁
    exact iff_of_true rfl nofun
  | some active =>
    simp only [Option.some.injEq, forall_eq']
    dsimp only at h₁
    split at h₁
    · next hown =>
      cases h₁
      exact iff_of_true rfl (.inl hown)
    · next hother =>
      -- The flags name another vault, and it is looked up whether that one is stored.
      obtain ⟨found, w₂, hcontains, h₂⟩ := bind_ok h₁
      obtain ⟨store', hfound, rfl⟩ := onStore_run hcontains
      cases h₂
      rw [StoreM.contains_ok hfound, or_iff_right hother, ← hrows active]
      simp

/-- A record that was described is described, and its row stays. -/
theorem describe_ok {record : VaultRecord} {s t : Store} (h : describe record s = (.ok (), t)) :
    (∀ id, t.recordText? id = s.recordText? id) ∧ t.Describes record := by
  obtain ⟨_, s₁, hid, h₁⟩ := bind_ok h
  obtain ⟨_, s₂, hcredential, h₂⟩ := bind_ok h₁
  obtain ⟨_, s₃, hkey, henabled⟩ := bind_ok h₂
  obtain ⟨hrows₁, hflags₁⟩ := StoreM.setFlag_ok hid
  obtain ⟨hrows₂, hflags₂⟩ := StoreM.setFlag_ok hcredential
  obtain ⟨hrows₃, hflags₃⟩ := StoreM.setFlag_ok hkey
  obtain ⟨hrows₄, hflags₄⟩ := StoreM.setFlag_ok henabled
  refine ⟨fun id => ?_, ?_, ?_, ?_, ?_⟩
  · rw [hrows₄, hrows₃, hrows₂, hrows₁]
  -- The four writes are to different flags, so each flag has what was written to it.
  all_goals
    rw [hflags₄, hflags₃, hflags₂, hflags₁]
    rfl

/-- A record that could not be described leaves the flag that tells whether there is a vault. -/
theorem describe_error {record : VaultRecord} {s t : Store} {e : VaultError}
    (h : describe record s = (.error e, t)) :
    t.flag? Flags.enabled = s.flag? Flags.enabled := by
  have hset : ∀ {key value}, Flags.enabled ≠ key →
      Preserves (·.flag? Flags.enabled) (StoreM.setFlag key value) :=
    StoreM.preserves_flag_setFlag
  have hatomic : Atomic (·.flag? Flags.enabled) (describe record) := by
    refine .bind (hset (by decide)) fun _ => .bind (hset (by decide)) fun _ =>
      .bind (hset (by decide)) fun _ => ?_
    -- The flag is written last, and a failed write leaves it.
    exact fun s e t h => StoreM.flag?_congr _ (StoreM.atomic_setFlag _ _ s e t h)
  exact hatomic _ _ _ h

end Vault

end CredentialVault
