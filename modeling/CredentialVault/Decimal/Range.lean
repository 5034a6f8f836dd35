import CredentialVault.Decimal.Shortest

/-!
# The range of floating-point values

A decimal that is too large for a floating-point value of 64 bits rounds to infinity.
-/

namespace CredentialVault.Decimal

/-- The number of digits of a number. -/
def digitCount (n : Nat) : Nat :=
  (Nat.toDigits 10 n).length

/-- Whether the decimal rounds to infinity: it does from halfway between the largest value and the
next power of two on. Decimals far from that point are told by the number of their digits. -/
def Scaled.overflows (d : Scaled) : Bool :=
  let magnitude : Int := digitCount d.digits + d.exponent
  if d.digits = 0 ∨ magnitude < 300 then false
  else if magnitude > 320 then true
  else compareScaled d.digits d.exponent (Nat.pow 2 54 - 1) 970 != .lt

end CredentialVault.Decimal
