import CredentialVault.Text.Blank
import CredentialVault.Vault.World

/-!
# Migration of a legacy key

Before there were vaults, the private key was held in a flag, and a marker told that its public key
was registered. A vault can take over the key (`LegacyKey.find`); then the marker moves to the
public key of the vault and the flags of the legacy key are erased (`LegacyKey.finish`). The private
key goes last, and a failure before restores what was changed.
-/

namespace CredentialVault

/-- A private key from before there were vaults. -/
structure LegacyKey where
  /-- The key. -/
  privateKey : Keys.PrivateKey
  /-- The identifier under which it was registered. -/
  identifier : String
deriving DecidableEq, Repr

namespace LegacyKey

/-- The key that the text of a flag holds. -/
def parse (text : String) : Except VaultError Keys.PrivateKey :=
  match Hex.decodeExact Keys.privateKeySize (Text.trim text) with
  | .error e => .error (.invalidLegacyKey ("expected 64 hex chars: " ++ e.message))
  | .ok bytes =>
    match Keys.PrivateKey.ofBytes? bytes with
    | some key => .ok key
    | none =>
      .error (.invalidLegacyKey ("expected 64 hex chars: " ++ Hex.Error.wrongLength.message))

/-- The key in the store, if there is one. -/
def find : VaultM (Option LegacyKey) := do
  match ← VaultM.onStore (StoreM.getFlag Flags.legacyPrivateKey) with
  | none => return none
  | some text =>
    let privateKey ← VaultM.ofExcept (parse text)
    let registered ← VaultM.onStore (StoreM.getFlag Flags.legacyPublicKey)
    return some ⟨privateKey, registered.getD privateKey.publicKeyHex⟩

/-- What is erased and restored when a key moves into a vault: the marker of its registration, and
the identifier in the store. -/
structure Traces where
  /-- The marker's flag. -/
  oldMarker : String
  /-- The flag of the marker of the vault's public key. -/
  newMarker : String
  /-- The value of the marker, if there is one. -/
  marker : Option String
  /-- The identifier in the store, if there is one. -/
  identifier : Option String
deriving DecidableEq, Repr

/-- Moves the marker to the vault's public key and erases the legacy key, last. -/
def Traces.move (traces : Traces) : StoreM Unit := do
  if let some value := traces.marker then
    StoreM.setFlag traces.newMarker value
    -- The old marker goes only when the new one is there, which may be the same.
    if traces.oldMarker ≠ traces.newMarker then StoreM.removeFlag traces.oldMarker
  StoreM.removeFlag Flags.legacyPublicKey
  StoreM.removeFlag Flags.legacyPrivateKey

/-- Restores the marker and the identifier; what cannot be restored is left. -/
def Traces.restore (traces : Traces) : VaultM Unit := do
  if let some value := traces.marker then
    if traces.oldMarker ≠ traces.newMarker then
      VaultM.attemptOnStore (StoreM.removeFlag traces.newMarker)
    VaultM.attemptOnStore (StoreM.setFlag traces.oldMarker value)
  if let some identifier := traces.identifier then
    VaultM.attemptOnStore (StoreM.setFlag Flags.legacyPublicKey identifier)

/-- Ends the move of a key into a vault with the given public key. -/
def finish (legacy : LegacyKey) (publicKeyHex : String) : VaultM Unit := do
  let oldMarker := Flags.registered legacy.identifier
  let marker ← VaultM.onStore (StoreM.getFlag oldMarker)
  let identifier ← VaultM.onStore (StoreM.getFlag Flags.legacyPublicKey)
  let traces : Traces := ⟨oldMarker, Flags.registered publicKeyHex, marker, identifier⟩
  tryCatch (VaultM.onStore traces.move) fun e => do
    traces.restore
    throw e

end LegacyKey

end CredentialVault
