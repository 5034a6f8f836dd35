import CredentialVault.Proofs.Vault.Bundle
import CredentialVault.Proofs.Vault.Lifecycle

/-!
# The legacy key is never lost

Whatever fails, after a vault was made with a migration the legacy key is still in its flag, or it
is the primary key of the sealed bundle in the stored record of the vault. No other operation
touches the flag (`legacyKey_kept_or_sealed`).
-/

namespace CredentialVault

open Operation VaultM

/-- The key that a text holds is the one of its digits, without the white space around them. -/
theorem LegacyKey.parse_ok {text : String} {key : Keys.PrivateKey} (h : parse text = .ok key) :
    Hex.decodeExact Keys.privateKeySize (Text.trim text) = .ok key.bytes := by
  unfold parse at h
  split at h
  · cases h
  · next bytes hdecode =>
    rcases hkey : Keys.PrivateKey.ofBytes? bytes with _ | other <;> rw [hkey] at h <;> cases h
    unfold Keys.PrivateKey.ofBytes? at hkey
    split at hkey <;> cases hkey
    exact hdecode

namespace Vault

/-- The flag of the legacy key is not written on behalf of a vault. -/
theorem not_flagWrite_legacyPrivateKey {id : String} {write : StoreWrite}
    (h : VaultWrite id write) : ¬FlagWrite Flags.legacyPrivateKey write :=
  not_flagWrite_of_vaultWrite (by decide) h

/-- A failure while a new vault is stored keeps the legacy key. -/
theorem atomic_persist {vault : Vault} {record : VaultRecord} {legacy : Option LegacyKey}
    (hid : record.id = vault.id) :
    Atomic (·.store.flag? Flags.legacyPrivateKey) (vault.persist record legacy) := by
  intro w e w' h
  have hframe := frame_flag Flags.legacyPrivateKey
  rcases hframe.persist_run (fun _ => not_flagWrite_legacyPrivateKey) hid (persist_run h) with
    ⟨hsame, -⟩ | ⟨u, v, hu, hsettle, hv⟩
  · exact hsame
  · -- Only the last part may touch the key, and that keeps it when it fails.
    have hkept : v.store.flag? Flags.legacyPrivateKey = u.store.flag? Flags.legacyPrivateKey := by
      cases legacy with
      | none => exact (hframe.settle vault record (by simp)).of_run hsettle
      | some legacy => exact legacy.atomic_finish _ _ _ _ hsettle
    exact hv.trans (hkept.trans hu)

/-- The record of a vault is stored, and its envelope is a bundle that was sealed for the vault, and
opens under the key of its sealing; the primary key of the bundle is the one of a legacy text. -/
def HoldsLegacyKey (vault : Vault) (text : String) (w : World) : Prop :=
  ∃ row record secret sealing bundle random last,
    w.store.recordText? vault.id = some row ∧ VaultRecord.ofStored row = .ok record ∧
      Keys.sealingKey secret record.salt = .ok sealing ∧
      SecretBundle.sealFor bundle sealing vault.id random = (.ok record.envelope, last) ∧
      SecretBundle.openFor sealing vault.id record.envelope = .ok bundle ∧
      Hex.decodeExact Keys.privateKeySize (Text.trim text) = .ok bundle.primaryKey.bytes

/-- The making of a vault with a migration keeps the legacy key, or succeeds and holds it. -/
theorem create_keeps_legacyKey {vault : Vault} {text : String} {w w' : World}
    {r : Except VaultError CreatedVault}
    (hflag : w.store.flag? Flags.legacyPrivateKey = some text)
    (h : vault.create true w = (r, w')) :
    w'.store.flag? Flags.legacyPrivateKey = some text ∨
      ((∃ created, r = .ok created) ∧ vault.HoldsLegacyKey text w') := by
  cases create_run h with
  | undrafted hsame => exact .inl ((hsame.flag? _).trans hflag)
  | unstored _ _ hready hdraft hpersist =>
    obtain ⟨hrun⟩ := hdraft
    have hkept := atomic_persist hrun.id_eq _ _ _ hpersist
    exact .inl (hkept.trans ((hready.flag? _).trans hflag))
  | done _ hlegacy _ hdraft hpersist =>
    obtain ⟨hrun⟩ := hdraft
    obtain ⟨hvalid, hrow⟩ := persist_ok hpersist
    -- The key that was found is the primary key of the bundle.
    rw [if_pos rfl, LegacyKey.FoundIn, hflag] at hlegacy
    obtain ⟨key, hparse, rfl⟩ := hlegacy
    have hprimary := hrun.primaryKey_eq key rfl
    refine .inr ⟨⟨_, rfl⟩, _, _, _, _, _, _, _, hrun.id_eq ▸ hrow,
      VaultRecord.ofStored_toStored hvalid, hrun.sealing_eq, hrun.seal_eq,
      SecretBundle.openFor_sealFor hrun.seal_eq, ?_⟩
    rw [hprimary]
    exact LegacyKey.parse_ok hparse

/-- An operation that migrates nothing does not touch the legacy key. -/
theorem flag_legacyPrivateKey_after {vault : Vault} {operation : VaultOperation}
    (h : operation ≠ .create true) (w : World) :
    (operation.after vault w).store.flag? Flags.legacyPrivateKey =
      w.store.flag? Flags.legacyPrivateKey := by
  have hframe := frame_flag Flags.legacyPrivateKey
  cases operation with
  | create migrates =>
    cases migrates with
    | true => exact absurd rfl h
    | false =>
      exact hframe.create (fun _ _ => rfl) (fun _ _ => rfl)
        (fun _ => not_flagWrite_legacyPrivateKey) (fun h => by cases h) w
  | unlock =>
    exact StoreM.flag?_congr _ (unlock_store rfl).1
  | lock => rfl
  | delete =>
    exact hframe.delete_run (fun _ _ => rfl) (fun _ => not_flagWrite_legacyPrivateKey) rfl

end Vault

/-- The only copy of a legacy key is never lost. After a vault was made with a migration, whatever
failed meanwhile, the key is in its flag as before, or the vault is stored and holds it; and no
other operation changes the flag. -/
theorem legacyKey_kept_or_sealed (vault : Vault) (w : World) :
    (∀ text r w', w.store.flag? Flags.legacyPrivateKey = some text →
      vault.create true w = (r, w') →
      w'.store.flag? Flags.legacyPrivateKey = some text ∨
        ((∃ created, r = .ok created) ∧ vault.HoldsLegacyKey text w')) ∧
    ∀ operation : VaultOperation, operation ≠ .create true →
      (operation.after vault w).store.flag? Flags.legacyPrivateKey =
        w.store.flag? Flags.legacyPrivateKey :=
  ⟨fun _ _ _ hflag h => Vault.create_keeps_legacyKey hflag h,
    fun _ h => Vault.flag_legacyPrivateKey_after h w⟩

/-- A world with a legacy key and nothing else. -/
def World.legacy : World :=
  World.fresh.withFlags
    [(Flags.legacyPrivateKey, "9d61b19deffd5a60ba844af492ec2cc44449c5697b326919703bac031cae7f60")]

/-- There the legacy key moves into the sealed bundle of a new vault. -/
theorem legacyKey_sealed_legacy :
    ∃ text r w', World.legacy.store.flag? Flags.legacyPrivateKey = some text ∧
      (Vault.ofId "first").create true .legacy = (r, w') ∧
      w'.store.flag? Flags.legacyPrivateKey = none ∧ (Vault.ofId "first").HoldsLegacyKey text w' := by
  have hflag : World.legacy.store.flag? Flags.legacyPrivateKey =
      some "9d61b19deffd5a60ba844af492ec2cc44449c5697b326919703bac031cae7f60" := by decide +kernel
  have hgone : ((Vault.ofId "first").create true .legacy).2.store.flag? Flags.legacyPrivateKey =
      none := by decide +kernel
  rcases hrun : (Vault.ofId "first").create true .legacy with ⟨r, w'⟩
  rw [hrun] at hgone
  refine ⟨_, r, w', hflag, rfl, hgone, ?_⟩
  rcases (legacyKey_kept_or_sealed _ _).1 _ r w' hflag hrun with hkept | ⟨-, hheld⟩
  · rw [hgone] at hkept
    cases hkept
  · exact hheld

end CredentialVault
