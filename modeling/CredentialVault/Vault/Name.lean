import CredentialVault.Error

/-!
# Names of vaults

The id of a vault that a user may choose has lower-case letters, digits and inner hyphens, at most
64 of them.
-/

namespace CredentialVault.VaultName

/-- The most bytes that a name may have. -/
def maxSize : Nat := 64

/-- Whether a character may stand in a name. -/
def isNameChar (c : Char) : Bool := c.isLower || c.isDigit || c = '-'

/-- Accepts a name, or says what is wrong with it; the first fault counts. -/
def check (id : String) : Except VaultError Unit :=
  if id = "" then .error (.configuration "vault id cannot be empty")
  else if id.utf8ByteSize > maxSize then
    .error (.configuration "vault id cannot exceed 64 characters")
  else if !id.toList.all isNameChar then
    .error (.configuration
      s!"vault id '{id}' is invalid: only lowercase letters, digits, and hyphens are allowed")
  else if id.toList.head? = some '-' || id.toList.getLast? = some '-' then
    .error (.configuration s!"vault id '{id}' cannot start or end with a hyphen")
  else .ok ()

end CredentialVault.VaultName
