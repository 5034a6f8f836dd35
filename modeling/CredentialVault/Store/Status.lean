import CredentialVault.Store.Basic

/-!
# Flags of vaults

Next to the records a store holds flags that describe one vault in public, so that its state can be
told without a ceremony. Older stores hold a private key in a flag, and markers of the identities
that were registered.
-/

namespace CredentialVault

namespace Flags

/-- The flag that is `"true"` while there is a vault. -/
def enabled : String := "vault.enabled"

/-- The flag that holds the id of the vault that the flags describe. -/
def activeId : String := "vault.activeId"

/-- The flag that holds the text of the vault's credential. -/
def credentialId : String := "vault.credentialId"

/-- The flag that holds the vault's public key. -/
def publicKeyHex : String := "vault.publicKeyHex"

/-- The flag that holds the private key of a store from before there were vaults. -/
def legacyPrivateKey : String := "legacy.privateKeyHex"

/-- The flag that holds the identifier under which the legacy key was registered. -/
def legacyPublicKey : String := "legacy.publicKeyHex"

/-- The marker of a registered identity. -/
def registered (identity : String) : String :=
  "registered:" ++ identity

/-- The flags that describe a vault, in the order of their removal. -/
def describing : List String := [enabled, activeId, credentialId, publicKeyHex]

end Flags

/-- What the flags tell of a vault. -/
structure VaultStatus where
  /-- Whether there is a vault. -/
  isEnabled : Bool
  /-- The id of the vault. -/
  activeId : Option String
  /-- The text of its credential. -/
  credentialId : Option String
  /-- Its public key. -/
  publicKeyHex : Option String
  /-- Whether there is a legacy key. -/
  hasLegacyKey : Bool
deriving DecidableEq, Repr

/-- Reads the flags of the vault. -/
def StoreM.readStatus : StoreM VaultStatus := do
  return {
    isEnabled := (← getFlag Flags.enabled) = some "true"
    activeId := ← getFlag Flags.activeId
    credentialId := ← getFlag Flags.credentialId
    publicKeyHex := ← getFlag Flags.publicKeyHex
    hasLegacyKey := (← getFlag Flags.legacyPrivateKey).isSome }

end CredentialVault
