import CredentialVault.Credential.Provider
import CredentialVault.Store.Status
import CredentialVault.Vault.SessionCache

/-!
# The world of a vault

The operations of a vault work with a device, a store, a cache for the session, and counters of its
surroundings that are reset for a new key. `VaultM` is the type of these operations; one that fails
keeps what it did before.
-/

namespace CredentialVault

/-- What the operations of vaults work with. -/
structure World where
  /-- The device that holds the credentials. -/
  device : Device
  /-- The store of records and flags. -/
  store : Store
  /-- The cache that holds the session. -/
  cache : SessionCache
  /-- The present time. -/
  now : Instant
  /-- The public keys for which counters were reset, the latest last. -/
  resets : List String

/-- An operation of a vault, which may fail. -/
abbrev VaultM := ExceptT VaultError (StateM World)

namespace VaultM

/-- Works with the store. -/
def onStore {α : Type} (act : StoreM α) : VaultM α := ExceptT.mk fun world =>
  let (result, store) := act world.store
  (result, { world with store })

/-- Works with the store; a failure is not raised. -/
def attemptOnStore (act : StoreM Unit) : VaultM Unit := ExceptT.mk fun world =>
  (.ok (), { world with store := (act world.store).2 })

/-- Uses the device. -/
def onDevice {α : Type} (act : DeviceM α) : VaultM α := ExceptT.mk fun world =>
  let (result, device) := act world.device
  (result, { world with device })

/-- Changes the cache. -/
def onCache (change : SessionCache → SessionCache) : VaultM Unit :=
  modify fun world => { world with cache := change world.cache }

/-- Raises a failure. -/
def ofExcept {α : Type} : Except VaultError α → VaultM α
  | .ok value => pure value
  | .error e => throw e

end VaultM

/-- Counters outside of the vault that belong to a key, and have to be reset for a new one. -/
inductive Counters where
  /-- There are none. -/
  | absent
  /-- There are some. The outcome of a reset is given, whatever it may be, by the keys for which they
  were reset before and the new one; after a failure a store in memory may refuse writes. -/
  | present (outcome : List String → String → Except VaultError Unit) (breaksStore : Bool)

/-- Resets the counters for a key. -/
def Counters.reset (counters : Counters) (publicKeyHex : String) : VaultM Unit := do
  match counters with
  | absent => return
  | present outcome breaksStore =>
    let before := (← get).resets
    modify fun world => { world with resets := before ++ [publicKeyHex] }
    match outcome before publicKeyHex with
    | .ok () => return
    | .error e =>
      if breaksStore then
        modify fun world => { world with store := world.store.setReadOnly true }
      throw e

end CredentialVault
