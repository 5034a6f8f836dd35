import CredentialVault.Decimal.Range

/-!
# The binary value of a decimal

A decimal stands for the nearest floating-point value of 64 bits. `Scaled.toBinary?` finds it in
exact arithmetic: it takes the power of two at which the quotient has 53 bits, or the least one
there is, and rounds the quotient, a half going to the even neighbour.
-/

namespace CredentialVault.Decimal

/-- The quotient rounded to the nearest number, a half going to the even one. -/
def roundDiv (numerator denominator : Nat) : Nat :=
  let quotient := numerator / denominator
  match compare (2 * (numerator % denominator)) denominator with
  | .lt => quotient
  | .gt => quotient + 1
  | .eq => if quotient % 2 = 0 then quotient else quotient + 1

/-- The power of two of the value nearest to a positive quotient: the value has 53 bits at most. -/
def exponentOf (numerator denominator : Nat) : Int :=
  let guess : Int := (Nat.log2 numerator : Int) - Nat.log2 denominator
  let isBelow := numerator * Nat.pow 2 (-guess).toNat < denominator * Nat.pow 2 guess.toNat
  max (-1074) ((if isBelow then guess - 1 else guess) - 52)

/-- The value nearest to a positive quotient. -/
def Binary.ofQuotient (numerator denominator : Nat) : Binary :=
  let exponent := exponentOf numerator denominator
  let mantissa :=
    roundDiv (numerator * Nat.pow 2 (-exponent).toNat) (denominator * Nat.pow 2 exponent.toNat)
  if mantissa = Nat.pow 2 53 then ⟨Nat.pow 2 52, exponent + 1, true⟩
  else ⟨mantissa, exponent, mantissa = Nat.pow 2 52 ∧ exponent > -1074⟩

/-- The value nearest to a decimal, if the decimal is not too large. One that is far too small is
not computed, as it rounds to zero. -/
def Scaled.toBinary? (d : Scaled) : Option Binary :=
  let magnitude : Int := digitCount d.digits + d.exponent
  if d.digits = 0 ∨ magnitude < -330 then some ⟨0, -1074, false⟩
  else if d.overflows then none
  else
    some (.ofQuotient (d.digits * Nat.pow 10 d.exponent.toNat) (Nat.pow 10 (-d.exponent).toNat))

/-- The shortest decimal of the value nearest to a decimal, if the decimal is not too large. -/
def Scaled.shorten? (d : Scaled) (tie : Tie) : Option Scaled :=
  d.toBinary?.map fun x => if x.mantissa = 0 then ⟨0, 0⟩ else x.shortest tie

end CredentialVault.Decimal
