import CredentialVault.Proofs.Credential.Cooperation
import CredentialVault.Proofs.Vault.Isolation
import CredentialVault.Proofs.Vault.Success

/-!
# Damaged vaults

Neither the deleting of a vault nor the making of one reads the text of a row: whether there is a
vault is told by there being a row (`state_of_sound`), and whose the flags are by the flag that
names a vault. So a vault can be deleted and made anew whatever its row and the flags hold, if the
store accepts writes and the platform cooperates (`damaged_recreated`).
-/

namespace CredentialVault

open Operation VaultM

namespace Vault

variable {vault : Vault} {w w' : World}

/-! ## Deleting -/

/-- What deleting a vault leaves: nothing of the vault, the rows of the others, and the flags of
another one. -/
structure Gone (vault : Vault) (w w' : World) : Prop where
  /-- There is no row of the vault. -/
  row : w'.store.recordText? vault.id = none
  /-- There is no session of the vault. -/
  session : w'.cache.sessionOf vault.id = none
  /-- There is no vault. -/
  state : vault.state w' = (.ok .absent, w')
  /-- The other rows are as before. -/
  rows : ∀ id, id ≠ vault.id → w'.store.recordText? id = w.store.recordText? id
  /-- The flags that name no vault, this one, or one that is not stored, are gone. -/
  released : w.store.FlagsFree vault.id → ∀ key ∈ Flags.describing, w'.store.flag? key = none
  /-- The flags that name another vault, which is stored, are as before. -/
  left : ¬w.store.FlagsFree vault.id →
    ∀ key ∈ Flags.describing, w'.store.flag? key = w.store.flag? key

/-- A vault that was deleted from a store, whose calls answer, is gone. -/
theorem gone_of_delete (h : vault.delete w = (.ok (), w')) (hsound : w'.store.Sound) :
    Gone vault w w' := by
  have hcontract := vault.deleteContract w
  obtain ⟨hrow, hsession⟩ := hcontract.ok w' h
  have hstate := vault.state_of_sound hsound
  rw [hrow, hsession] at hstate
  exact ⟨hrow, hsession, hstate, hcontract.rows _ _ h, fun hfree => describesNone_delete hfree h,
    fun hbusy => (flagsKept_delete hbusy h).flag⟩

/-! ## Making anew -/

/-- On a platform that cooperates a valid record is sealed for a new vault. -/
theorem draft_of_cooperates (h : w.device.Cooperates vault.allowsLargeBlob) (hid : vault.id ≠ "") :
    ∃ draft w', vault.draft none w = (.ok draft, w') ∧ draft.record.validate = .ok () := by
  obtain ⟨credential, enrolled, henroll, hyields⟩ := vault.rp.exists_secret_of_cooperates h
  rcases hsalt : enrolled.host.random.draw Keys.saltSize with ⟨salt, salted⟩
  obtain ⟨secret, derived, hderive, hsecret⟩ := hyields salted salt
  obtain ⟨draft, random, hdraft, hvalid, -⟩ := draft_of_secret hid henroll hsalt hderive hsecret
  exact ⟨draft, _, hdraft, hvalid⟩

/-- A vault that is not there is made when the store accepts writes, the platform cooperates, and
the counters can be reset; its session is put into the cache. -/
theorem create_of_cooperates (h : w.store.Accepting)
    (hplatform : w.device.Cooperates vault.allowsLargeBlob) (hcounters : vault.counters.CanReset)
    (hid : vault.id ≠ "") (habsent : w.store.recordText? vault.id = none) :
    ∃ created w', vault.create false w = (.ok created, w') ∧
      created.session.vaultId = vault.id ∧ w'.cache = w.cache.set created.session := by
  obtain ⟨draft, drafted, hdraft, hvalid⟩ := draft_of_cooperates hplatform hid
  obtain ⟨stored, -, -, hcreate⟩ := create_of_draft false h hcounters habsent nofun hdraft hvalid
  exact ⟨_, _, hcreate, create_cache hcreate⟩

/-- A damaged vault can be deleted and made anew. Whatever the rows, the flags and the cache hold,
from a store that accepts writes a vault is deleted, and is gone; and then it is made anew, at any
time and on any device whose platform cooperates, if its id is not empty and its counters can be
reset. Then it is open, unless an observer clears the cache as soon as it is told of the session. -/
theorem damaged_recreated (vault : Vault) (h : w.store.Accepting) (hid : vault.id ≠ "") :
    ∃ w', vault.delete w = (.ok (), w') ∧ Gone vault w w' ∧
      ∀ device now, device.Cooperates vault.allowsLargeBlob → vault.counters.CanReset →
        ∃ created w'', vault.create false { w' with device, now } = (.ok created, w'') ∧
          w''.cache = w'.cache.set created.session ∧
          (w.cache.IsQuiet → vault.state w'' = (.ok .unlocked, w'')) := by
  obtain ⟨w', hdelete, haccepting⟩ := vault.delete_of_accepting h
  have hgone := gone_of_delete hdelete haccepting.toSound
  refine ⟨w', hdelete, hgone, fun device now hplatform hcounters => ?_⟩
  obtain ⟨created, w'', hcreate, hvault, hcache⟩ :=
    create_of_cooperates (w := { w' with device, now }) haccepting hplatform hcounters hid hgone.row
  refine ⟨created, w'', hcreate, hcache, fun hquiet => ?_⟩
  -- The observers are those from before, since deleting registers none.
  have hstill : w'.cache.IsQuiet := by
    rcases (vault.deleteContract w).cache _ _ hdelete with hsame | hcleared
    · rwa [hsame]
    · rw [hcleared]
      exact hquiet.clearVault _
  have hsession : w''.cache.sessionOf vault.id = some created.session := by
    rw [hcache, SessionCache.sessionOf_eq_some]
    exact ⟨(hstill.set _).1, hvault⟩
  exact state_of_session (by rw [hsession]; rfl)

end Vault

/-- A world in which the row of a vault holds no record, the flags name a vault that is not stored,
and a session of the vault is in the cache. The authenticator has stored data alone, and keeps a
file. -/
def World.damaged : World where
  device := ⟨.virtual { VirtualAuthenticator.fresh (.only .largeBlob) with
    path := some "/keys/state.json" }, ⟨⟨[(["keys"], .directory)], []⟩, .counting 4⟩⟩
  store := { Store.memory with
    content := { Database.empty with
      records := some ⟨[("first", "not a record"), ("second", "nor this")]⟩
      flags := some ⟨[(Flags.enabled, "maybe"), (Flags.activeId, "missing")]⟩ } }
  cache := { SessionCache.empty with
    slot := some (.ofBundle "first" ⟨[1]⟩
      ⟨(Keys.PrivateKey.draw (.counting 0)).1, (Keys.PrivateKey.draw (.counting 1)).1⟩
      ⟨0⟩) }
  now := ⟨0⟩
  resets := []

/-- There the vault is deleted, with the stale flags, and made anew. -/
theorem Vault.damaged_recreated_stale :
    ∃ deleted created again, (Vault.ofId "first").delete .damaged = (.ok (), deleted) ∧
      Gone (.ofId "first") .damaged deleted ∧ deleted.store.DescribesNone ∧
      deleted.store.recordText? "second" = some "nor this" ∧
      (Vault.ofId "first").create false { deleted with device := World.damaged.device, now := ⟨5⟩ } =
        (.ok created, again) ∧
      (Vault.ofId "first").state again = (.ok .unlocked, again) := by
  have haccepting : World.damaged.store.Accepting := ⟨⟨rfl, rfl, rfl⟩, nofun, rfl⟩
  have hfree : World.damaged.store.FlagsFree "first" := by
    intro active hactive
    cases hactive
    exact .inr rfl
  have hfile : VirtualAuthenticator.StaysReplaceable "/keys/state.json"
      World.damaged.device.host.files :=
    VirtualAuthenticator.staysReplaceable_of_canReplace rfl rfl (by decide +kernel)
  have hcooperates : World.damaged.device.Cooperates true := by
    refine .virtual ⟨rfl, ⟨nofun, rfl⟩, rfl, fun path hpath => ?_⟩ fun _ => rfl
    obtain rfl := Option.some.inj hpath
    exact hfile
  obtain ⟨deleted, hdelete, hgone, hcreates⟩ :=
    damaged_recreated (.ofId "first") haccepting (by decide)
  obtain ⟨created, again, hcreate, -, hopen⟩ :=
    hcreates World.damaged.device ⟨5⟩ hcooperates trivial
  exact ⟨deleted, created, again, hdelete, hgone, hgone.released hfree,
    hgone.rows "second" (by decide), hcreate, hopen SessionCache.isQuiet_empty⟩

end CredentialVault
