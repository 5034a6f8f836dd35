import CredentialVault.Proofs.Vault.EnabledFlag

/-!
# Vaults leave each other alone

Vaults of several ids share a store, its flags and a cache with one slot. Whatever a vault does, and
whatever fails meanwhile, another one keeps its row, the flags if they are its own, and its session
in the cache, which only the session of a vault that was opened replaces (`vaults_isolated`).
-/

namespace CredentialVault

open Operation VaultM

/-- The session that an operation puts into the cache, or finds there, when it succeeds. -/
def VaultOperation.opened? (operation : VaultOperation) (vault : Vault) (w : World) :
    Option Session :=
  match operation with
  | create migrates => (vault.create migrates w).1.toOption.map (·.session)
  | unlock => (vault.unlock w).1.toOption
  | lock | delete => none

/-- Flags that name another vault, which is stored, are not free for this one. -/
theorem Store.not_flagsFree_of_named {store : Store} {id other : String} (hother : other ≠ id)
    (hnamed : store.flag? Flags.activeId = some other)
    (hstored : (store.recordText? other).isSome) : ¬store.FlagsFree id := by
  intro hfree
  rcases hfree other hnamed with hsame | hnone
  · exact hother hsame
  · rw [hnone] at hstored
    cases hstored

/-- To clear the session of a vault leaves a cache that holds the one of another vault. -/
theorem SessionCache.clearVault_of_other {cache : SessionCache} {session : Session}
    {id other : String} (hother : other ≠ id) (h : cache.sessionOf other = some session) :
    (cache.clearVault id).2 = cache := by
  obtain ⟨hslot, rfl⟩ := sessionOf_eq_some.mp h
  rw [clearVault_snd, hslot, if_neg (by simpa using hother)]

namespace Vault

variable {vault : Vault} {w w' : World}

/-! ## The flags of another vault -/

/-- The making of a vault keeps flags that are not free for it, whether it succeeds or not. -/
theorem flagsKept_create {migrates : Bool} {r : Except VaultError CreatedVault}
    (hbusy : ¬w.store.FlagsFree vault.id) (h : vault.create migrates w = (r, w')) :
    w.store.FlagsKept w'.store := by
  cases make_run h with
  | unplaced hplace =>
    cases place_run hplace with
    | failed hcontent => exact .of_content hcontent
  | undone hplace hcomplete hundo =>
    rw [rollBack_eq] at hundo
    cases hundo
    cases place_run hplace with
    | placed hplaced =>
      have htakes := Bool.eq_false_iff.mpr (mt hplaced.takes_iff.mp hbusy)
      rw [htakes]
      exact flagsKept_of_untaken hplaced hcomplete htakes
  | done =>
    obtain ⟨record, hmade⟩ := create_made h
    exact .of_other hbusy (hmade.left hbusy) fun id hid => (hmade.row id).trans (if_neg hid)

/-! ## The session of another vault -/

/-- The making of a vault that succeeds puts its session into the cache. -/
theorem create_cache {migrates : Bool} {created : CreatedVault}
    (h : vault.create migrates w = (.ok created, w')) :
    created.session.vaultId = vault.id ∧ w'.cache = w.cache.set created.session := by
  cases create_run h with
  | done _ _ hready hdraft hpersist hsession =>
    obtain ⟨hrun⟩ := hdraft
    have hcache := (persist_cache hrun.id_eq hpersist).trans hready.cache
    refine ⟨congrArg Session.vaultId hsession, ?_⟩
    exact congrArg (fun cache : SessionCache => cache.set _) hcache

/-- Unlocking leaves the cache, or puts the session of the vault into it and succeeds. -/
theorem unlock_cache {r : Except VaultError Session} (h : vault.unlock w = (r, w')) :
    w'.cache = w.cache ∨
      ∃ session, r = .ok session ∧ session.vaultId = vault.id ∧ w'.cache = w.cache.set session := by
  cases unlock_run h with
  | cached => exact .inl rfl
  | failed hsame => exact .inl hsame.cache
  | @opened _ _ _ _ _ _ session _ _ _ _ _ _ _ hready _ hsession =>
    refine .inr ⟨session, rfl, congrArg Session.vaultId hsession, ?_⟩
    exact congrArg (fun cache : SessionCache => cache.set session) hready.cache

end Vault

namespace VaultOperation

variable {operation : VaultOperation} {vault : Vault} {w : World} {other : String}

/-- An operation of a vault leaves the rows of other ids. -/
theorem recordText?_after (hother : other ≠ vault.id) :
    (operation.after vault w).store.recordText? other = w.store.recordText? other := by
  cases operation with
  | create migrates => exact vault.preserves_recordText_create migrates hother w
  | unlock => exact StoreM.recordText?_congr other (Vault.unlock_store rfl).1
  | lock => rfl
  | delete => exact vault.preserves_recordText_delete hother w

/-- An operation of a vault keeps flags that are not free for it. -/
theorem flagsKept_after (hbusy : ¬w.store.FlagsFree vault.id) :
    w.store.FlagsKept (operation.after vault w).store := by
  cases operation with
  | create migrates => exact Vault.flagsKept_create hbusy rfl
  | unlock => exact .of_content (Vault.unlock_store rfl).1
  | lock => exact .of_content rfl
  | delete => exact Vault.flagsKept_delete hbusy rfl

/-- An operation of a vault leaves a cache that holds the session of another one, unless it opens
the vault and puts that session into the cache. -/
theorem cache_after (hother : other ≠ vault.id) {session : Session}
    (h : w.cache.sessionOf other = some session) :
    (operation.after vault w).cache = w.cache ∨
      ∃ own, operation.opened? vault w = some own ∧ own.vaultId = vault.id ∧
        (operation.after vault w).cache = w.cache.set own := by
  cases operation with
  | create migrates =>
    rcases hcreate : vault.create migrates w with ⟨e | created, w'⟩ <;>
      simp only [after, opened?, hcreate]
    · exact .inl (Vault.failedCreate_cache hcreate)
    · obtain ⟨hid, hcache⟩ := Vault.create_cache hcreate
      exact .inr ⟨created.session, rfl, hid, hcache⟩
  | unlock =>
    rcases hunlock : vault.unlock w with ⟨r, w'⟩
    simp only [after, opened?, hunlock]
    rcases Vault.unlock_cache hunlock with hcache | ⟨own, rfl, hid, hcache⟩
    · exact .inl hcache
    · exact .inr ⟨own, rfl, hid, hcache⟩
  | lock => exact .inl (SessionCache.clearVault_of_other hother h)
  | delete =>
    rcases (vault.deleteContract w).cache _ _ rfl with hcache | hcache
    · exact .inl hcache
    · exact .inl (hcache.trans (SessionCache.clearVault_of_other hother h))

end VaultOperation

/-- Vaults leave each other alone. Whatever an operation of a vault does, and whatever fails
meanwhile, for every other id the row is as before; the flags that describe a vault are as before if
they name the other one and that is stored; and a cache that holds the session of the other one is
as before, and so no observer was told of anything, unless the operation opened its own vault, and
then the session of that was put into the cache. -/
theorem vaults_isolated {vault : Vault} {operation : VaultOperation} {w : World} {other : String}
    (hother : other ≠ vault.id) :
    (operation.after vault w).store.recordText? other = w.store.recordText? other ∧
      (w.store.flag? Flags.activeId = some other → (w.store.recordText? other).isSome →
        ∀ key ∈ Flags.describing, (operation.after vault w).store.flag? key = w.store.flag? key) ∧
      ∀ session, w.cache.sessionOf other = some session →
        (operation.after vault w).cache = w.cache ∨
          ∃ own, operation.opened? vault w = some own ∧ own.vaultId = vault.id ∧
            (operation.after vault w).cache = w.cache.set own := by
  refine ⟨VaultOperation.recordText?_after hother, fun hnamed hstored => ?_, fun session h =>
    VaultOperation.cache_after hother h⟩
  exact (VaultOperation.flagsKept_after (Store.not_flagsFree_of_named hother hnamed hstored)).flag

/-- A vault was made, and the making of a second one in the same store fails at its end, when its
record was stored: the first has its row, the flags and its session in the cache as before. -/
theorem vaults_isolated_failed :
    ∃ (w : World) (second : Vault) (session : Session), "first" ≠ second.id ∧
      (w.store.recordText? "first").isSome ∧ w.store.flag? Flags.activeId = some "first" ∧
      w.cache.sessionOf "first" = some session ∧
      ((VaultOperation.create false).after second w).store.recordText? "first" =
        w.store.recordText? "first" ∧
      (∀ key ∈ Flags.describing,
        ((VaultOperation.create false).after second w).store.flag? key = w.store.flag? key) ∧
      ((VaultOperation.create false).after second w).cache = w.cache := by
  let made := (VaultOperation.create false).after (.ofId "first") .fresh
  let second : Vault := { Vault.ofId "second" with
    counters := .present (fun _ _ => .error (.storage "offline")) false }
  have hother : "first" ≠ second.id := by decide
  have hmade : (made.store.recordText? "first").isSome ∧
      made.store.flag? Flags.activeId = some "first" ∧ (made.cache.sessionOf "first").isSome ∧
      (VaultOperation.create false).opened? second made = none := by decide +kernel
  obtain ⟨hstored, hnamed, hheld, hunopened⟩ := hmade
  obtain ⟨session, hsession⟩ := Option.isSome_iff_exists.mp hheld
  obtain ⟨hrow, hflags, hcache⟩ := @vaults_isolated second (.create false) made "first" hother
  refine ⟨made, second, session, hother, hstored, hnamed, hsession, hrow, hflags hnamed hstored, ?_⟩
  rcases hcache session hsession with hsame | ⟨own, hopened, -⟩
  · exact hsame
  · rw [hunopened] at hopened
    cases hopened

end CredentialVault
