import CredentialVault.CommandLine.Lifecycle
import CredentialVault.Proofs.Vault.History
import CredentialVault.Proofs.Vault.LegacyKey
import CredentialVault.Proofs.Vault.Opening
import CredentialVault.Proofs.Vault.Success
import Mathlib.Logic.Function.Basic
import Mathlib.Logic.Nonempty

/-!
# The keys of vaults

Which vaults there are is a map from their ids to their public keys. A world holds the vaults of
such a map (`World.HoldsKeys`) when there is no row of any other id, and what the making of each
vault fixed is kept. To make a vault adds its key to the map (`HoldsKeys.create`), to delete it
takes the key away (`HoldsKeys.delete`), and to open it yields its key (`HoldsKeys.proved_of_some`).
-/

namespace CredentialVault

open Operation VaultM

/-- A signature of a message that is made with the key is accepted. -/
def Keys.PrivateKey.Signs (key : Keys.PrivateKey) (message : Bytes) : Prop :=
  Ed25519.isSignature (Ed25519.publicKey key.bytes) message (Ed25519.sign key.bytes message) = true

/-- Whether a signature is accepted is computed. -/
instance (key : Keys.PrivateKey) (message : Bytes) : Decidable (key.Signs message) :=
  inferInstanceAs (Decidable (_ = true))

/-- A vault was made with a public key: its secret is that of the pseudo-random function, its
private key signs, and no credential that is made later has the name of its own. -/
structure CreatedVault.Has (created : CreatedVault) (key : String) (later : List CredentialId) :
    Prop where
  /-- The secret is that of the pseudo-random function. -/
  method : created.method = .prf
  /-- The public key is the given one. -/
  publicKeyHex : created.session.publicKeyHex = key
  /-- The private key signs. -/
  signs : created.session.primaryKey.Signs UnlockCommand.checkMessage
  /-- The credential is not made again. -/
  credentialId : created.session.credentialId ∉ later

/-- If a credential is not made again, it is not made again after another. -/
theorem CreatedVault.Has.of_cons {created : CreatedVault} {key : String} {credential : CredentialId}
    {later : List CredentialId} (h : created.Has key (credential :: later)) :
    created.Has key later :=
  ⟨h.method, h.publicKeyHex, h.signs, fun hlater => h.credentialId (.tail _ hlater)⟩

/-- In a world there are exactly the vaults of a map, with their public keys, and no credential of
them is made later; and there is no legacy key. -/
structure World.HoldsKeys (vaults : String → Vault) (keys : String → Option String)
    (later : List CredentialId) (w : World) : Prop where
  /-- There is no row of an id outside of the map. -/
  absent : ∀ id, keys id = none → w.store.recordText? id = none
  /-- What the making of a vault of the map fixed is kept. -/
  made : ∀ id key, keys id = some key → ∃ created : CreatedVault, created.Has key later ∧
    ∃ fixed : Sealed (vaults id) created, fixed.Kept w
  /-- There is no legacy key. -/
  legacy : w.store.flag? Flags.legacyPrivateKey = none

/-- Without a legacy key, there is none after a vault was made. -/
theorem Vault.flag_legacyPrivateKey_create {vault : Vault} {migrates : Bool} {w w' : World}
    {created : CreatedVault} (h : vault.create migrates w = (.ok created, w'))
    (hlegacy : w.store.flag? Flags.legacyPrivateKey = none) :
    w'.store.flag? Flags.legacyPrivateKey = none := by
  cases Vault.create_run h with
  | @done legacy draft session ready stored _ hfound hready hdraft hpersist hsession =>
    have hnone : legacy = none := by
      split at hfound
      · rwa [LegacyKey.FoundIn, hlegacy] at hfound
      · exact hfound
    have hkept : stored.store.flag? Flags.legacyPrivateKey =
        ready.store.flag? Flags.legacyPrivateKey :=
      ((frame_flag Flags.legacyPrivateKey).persist (fun _ => Vault.not_flagWrite_legacyPrivateKey)
        (fun hsome => absurd hsome (by rw [hnone]; exact Bool.false_ne_true))
        hdraft.some.id_eq).of_run hpersist
    exact hkept.trans ((hready.flag? _).trans hlegacy)

/-- An authenticator that is willing has the pseudo-random function as its first mechanism. -/
theorem World.IsReady.first? {w : World} {path : String} (h : w.IsReady path) :
    w.device.first? = some .prf := by
  obtain ⟨authenticator, hplatform, hwilling⟩ := h.platform
  unfold Device.first?
  rw [hplatform]
  exact hwilling.offers.first

namespace World.HoldsKeys

variable {vaults : String → Vault} {keys : String → Option String} {later : List CredentialId}
  {w w' : World} {id key path : String}

/-- A vault of the map that an operation spares is kept. -/
theorem operate (h : w.HoldsKeys vaults keys later) (other : Vault) (operation : VaultOperation)
    (hkey : keys id = some key)
    (hspares : ∀ created : CreatedVault, created.Has key later →
      Spares (vaults id) created w other operation) :
    ∃ created : CreatedVault, created.Has key later ∧
      ∃ fixed : Sealed (vaults id) created, fixed.Kept (operation.after other w) := by
  obtain ⟨created, hcreated, fixed, hkept⟩ := h.made id key hkey
  exact ⟨created, hcreated, fixed, hkept.operate (hspares created hcreated)⟩

variable (hid : ∀ id, (vaults id).id = id)

include hid

/-- A vault that is made comes into the map, with the credential that is made next. -/
theorem create {migrates : Bool} {created : CreatedVault} {authenticator : VirtualAuthenticator}
    (h : w.HoldsKeys vaults keys (w.device.nextCredential :: later))
    (hplatform : w.device.platform = .virtual authenticator)
    (hrun : (vaults id).create migrates w = (.ok created, w')) (hcreated : created.Has key later) :
    w'.HoldsKeys vaults (Function.update keys id (some key)) later where
  absent other hother := by
    rcases eq_or_ne other id with rfl | hne
    · rw [Function.update_self] at hother
      cases hother
    · rw [Function.update_of_ne hne] at hother
      have hrow := (Vault.preserves_recordText_create (vaults id) migrates
        (show other ≠ (vaults id).id by rwa [hid])).of_run hrun
      exact hrow.trans (h.absent other hother)
  made other otherKey hother := by
    rcases eq_or_ne other id with rfl | hne
    · rw [Function.update_self] at hother
      obtain rfl := Option.some.inj hother
      exact ⟨created, hcreated, Vault.create_sealed hplatform hrun⟩
    · rw [Function.update_of_ne hne] at hother
      have hafter : (VaultOperation.create migrates).after (vaults id) w = w' :=
        congrArg Prod.snd hrun
      -- The new credential does not take the name of one that a vault of the map was made with.
      obtain ⟨made, hmade, hkept⟩ := h.operate (vaults id) (.create migrates) hother fun made hmade =>
        { undeleted := nofun
          unnamed := fun _ _ _ hsame => hmade.credentialId (hsame ▸ .head _)
          sameMethod := nofun }
      exact ⟨made, hmade.of_cons, hafter ▸ hkept⟩
  legacy := Vault.flag_legacyPrivateKey_create hrun h.legacy

omit hid in
/-- To open a vault, be it a success or not, leaves the map. -/
theorem unlock {r : Except VaultError Session} (h : w.HoldsKeys vaults keys later)
    (hfirst : w.device.first? = some .prf) (hrun : (vaults id).unlock w = (r, w')) :
    w'.HoldsKeys vaults keys later where
  absent other hother := by
    rw [StoreM.recordText?_congr _ (Vault.unlock_store hrun).1]
    exact h.absent other hother
  made other otherKey hother := by
    have hafter : VaultOperation.unlock.after (vaults id) w = w' := congrArg Prod.snd hrun
    rw [← hafter]
    exact h.operate (vaults id) .unlock hother fun made hmade =>
      { undeleted := nofun
        unnamed := nofun
        sameMethod := fun _ _ => .inl (hmade.method ▸ hfirst) }
  legacy := by
    rw [StoreM.flag?_congr _ (Vault.unlock_store hrun).1]
    exact h.legacy

/-- A vault that is deleted goes from the map. -/
theorem delete (h : w.HoldsKeys vaults keys later) (hrun : (vaults id).delete w = (.ok (), w')) :
    w'.HoldsKeys vaults (Function.update keys id none) later where
  absent other hother := by
    rcases eq_or_ne other id with rfl | hne
    · have hrow := ((Vault.deleteContract (vaults other) w).ok w' hrun).1
      rwa [hid] at hrow
    · rw [Function.update_of_ne hne] at hother
      have hrow := (Vault.deleteContract (vaults id) w).rows _ w' hrun other (by rwa [hid])
      exact hrow.trans (h.absent other hother)
  made other otherKey hother := by
    have hne : other ≠ id := by
      rintro rfl
      rw [Function.update_self] at hother
      cases hother
    rw [Function.update_of_ne hne] at hother
    have hafter : VaultOperation.delete.after (vaults id) w = w' := congrArg Prod.snd hrun
    rw [← hafter]
    exact h.operate (vaults id) .delete hother fun made _ =>
      { undeleted := fun _ => by rw [hid, hid]; exact hne.symm
        unnamed := nofun
        sameMethod := nofun }
  legacy := ((Vault.deleteContract (vaults id) w).flags _ w' hrun _ (by decide)).trans h.legacy

omit hid in
/-- A vault of the map has a row. -/
theorem row_of_some (h : w.HoldsKeys vaults keys later) (hid : (vaults id).id = id)
    (hkey : keys id = some key) : w.store.recordText? id ≠ none := by
  obtain ⟨created, -, fixed, hkept⟩ := h.made id key hkey
  obtain ⟨text, hrow, -⟩ := hkept.row
  rw [hid] at hrow
  rw [hrow]
  exact nofun

omit hid in
/-- A vault of the map is opened to its key, and signs with it. -/
theorem proved_of_some (h : w.HoldsKeys vaults keys later) (hready : w.IsReady path)
    (hkey : keys id = some key) :
    ∃ session w', UnlockCommand.proved (vaults id) w = (.ok session, w') ∧
      (vaults id).unlock w = (.ok session, w') ∧ session.publicKeyHex = key := by
  obtain ⟨created, hcreated, fixed, hkept⟩ := h.made id key hkey
  obtain ⟨authenticator, hplatform, hwilling⟩ := hready.platform
  have hunlock : (vaults id).CanUnlock created.method w := by
    rw [hcreated.method]
    exact ⟨(hready.store.check _ _).1, ⟨authenticator, hplatform, hwilling.offers⟩, nofun⟩
  obtain ⟨session, w', hrun, hagrees⟩ := hkept.unlock_ok rfl rfl hunlock
  have hsigns : session.isSignature UnlockCommand.checkMessage
      (session.sign UnlockCommand.checkMessage) = true := by
    unfold Session.isSignature Session.sign
    rw [hagrees.primaryKey]
    exact hcreated.signs
  refine ⟨session, w', ?_, hrun, hagrees.publicKeyHex.trans hcreated.publicKeyHex⟩
  unfold UnlockCommand.proved
  rw [run_bind_of_ok hrun, if_pos hsigns]
  rfl

/-- A vault outside of the map is not opened. -/
theorem proved_of_none (h : w.HoldsKeys vaults keys later) (hready : w.IsReady path)
    (hcache : w.cache = .empty) (hkey : keys id = none) :
    ∃ e w', UnlockCommand.proved (vaults id) w = (.error e, w') ∧
      (vaults id).unlock w = (.error e, w') := by
  have hlocked : w.cache.sessionOf (vaults id).id = none := by rw [hcache]; rfl
  have hrow : w.store.recordText? (vaults id).id = none := by
    rw [hid]
    exact h.absent id hkey
  have herror := Vault.unlock_of_absent hlocked
    ⟨(hready.store.check _ _).1, hready.store.records⟩ hrow
  rcases hrun : (vaults id).unlock w with ⟨r, w'⟩
  rw [hrun] at herror
  obtain rfl : r = _ := herror
  exact ⟨_, w', run_bind_of_error hrun, rfl⟩

end World.HoldsKeys

end CredentialVault
