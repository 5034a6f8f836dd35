/-!
# Code points in hexadecimal digits

`hexValue?` gives the value of a digit to base 16, and `codePoint?` the character whose code point
is written in such digits.
-/

namespace CredentialVault.Text

/-- The value of a digit to base 16. -/
def hexValue? (c : Char) : Option Nat :=
  if '0' ≤ c ∧ c ≤ '9' then some (c.toNat - 48)
  else if 'a' ≤ c ∧ c ≤ 'f' then some (c.toNat - 87)
  else if 'A' ≤ c ∧ c ≤ 'F' then some (c.toNat - 55)
  else none

/-- The character whose code point is written in digits to base 16. -/
def codePoint? (digits : List Char) : Option Char := do
  let values ← digits.mapM hexValue?
  let n := values.foldl (fun n d => 16 * n + d) 0
  if n.isValidChar then some (Char.ofNat n) else none

end CredentialVault.Text
