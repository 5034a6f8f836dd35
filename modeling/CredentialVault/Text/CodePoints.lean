/-!
# Sets of code points

A property of characters is a set of code points. A set is given by its inclusive ranges in
increasing order, and `CodePoints.contains` says whether one of them has a character.
-/

namespace CredentialVault.Text

/-- A set of code points. -/
structure CodePoints where
  /-- The inclusive ranges of the set, in increasing order. -/
  ranges : Array (Nat × Nat)

/-- Whether a character is in a set. -/
def CodePoints.contains (points : CodePoints) (c : Char) : Bool :=
  points.ranges.any fun range => range.1 ≤ c.toNat && c.toNat ≤ range.2

end CredentialVault.Text
