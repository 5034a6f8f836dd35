/-!
# The shortest decimal of a binary fraction

A finite binary value stands for the interval of reals that round to it. Among the decimals in the
interval, those with the fewest digits are shortest, and the nearest of them is chosen. `Binary`
is a value as mantissa and power of two; `Binary.shortest` searches the decimal grids from coarse to
fine, in exact arithmetic; `Scaled.render` lays the digits out.
-/

namespace CredentialVault.Decimal

/-- The value `mantissa * 2^exponent` of a finite binary number that is not negative. -/
structure Binary where
  /-- The integral mantissa. -/
  mantissa : Nat
  /-- The power of two. -/
  exponent : Int
  /-- Whether the value below is at half the distance of the value above. -/
  isNarrowBelow : Bool

/-- The value of 64 bits without their sign. -/
def Binary.ofBits (bits : UInt64) : Binary :=
  let exponent := ((bits >>> 52) &&& 0x7ff).toNat
  let fraction := (bits &&& 0xfffffffffffff).toNat
  if exponent = 0 then ⟨fraction, -1074, false⟩
  else ⟨Nat.pow 2 52 + fraction, (exponent : Int) - 1075, fraction = 0 && exponent > 1⟩

/-- The decimal `digits * 10^exponent`. -/
structure Scaled where
  /-- The digits, read as one number. -/
  digits : Nat
  /-- The power of ten. -/
  exponent : Int
deriving DecidableEq, Repr

/-- Which of two decimals at equal distance is chosen. -/
inductive Tie where
  /-- The one whose last digit is even. -/
  | toEven
  /-- The greater one. -/
  | up
deriving DecidableEq, Repr

/-- Compares `a * 10^i` with `n * 2^j`. -/
def compareScaled (a : Nat) (i : Int) (n : Nat) (j : Int) : Ordering :=
  compare (a * Nat.pow 10 i.toNat * Nat.pow 2 (-j).toNat)
    (n * Nat.pow 2 j.toNat * Nat.pow 10 (-i).toNat)

/-- Whether the decimal lies among the reals that round to the value, a half going to the even
neighbour. -/
def Binary.isReadFrom (x : Binary) (d : Scaled) : Bool :=
  let low := if x.isNarrowBelow then 4 * x.mantissa - 1 else 4 * x.mantissa - 2
  let high := 4 * x.mantissa + 2
  let isClosed := x.mantissa % 2 = 0
  let below := compareScaled d.digits d.exponent low (x.exponent - 2)
  let above := compareScaled d.digits d.exponent high (x.exponent - 2)
  (below == .gt || (isClosed && below == .eq)) && (above == .lt || (isClosed && above == .eq))

/-- The whole number of steps `10^exponent` in the value. -/
def Binary.steps (x : Binary) (exponent : Int) : Nat :=
  (x.mantissa * Nat.pow 2 x.exponent.toNat * Nat.pow 10 (-exponent).toNat) /
    (Nat.pow 2 (-x.exponent).toNat * Nat.pow 10 exponent.toNat)

/-- The least power of ten above a value that is not zero. -/
def Binary.magnitude (x : Binary) : Int :=
  let powers := (List.range 700).map fun k : Nat => (k : Int) - 340
  (powers.find? fun k => compareScaled 1 k x.mantissa x.exponent == .gt).getD 0

/-- Of the two neighbours of the value on the grid of `10^exponent`, the nearer one that reads as
the value; at equal distance the one that the tie says. -/
def Binary.nearest? (x : Binary) (tie : Tie) (exponent : Int) : Option Scaled :=
  let lower : Scaled := ⟨x.steps exponent, exponent⟩
  let upper : Scaled := ⟨x.steps exponent + 1, exponent⟩
  match x.isReadFrom lower, x.isReadFrom upper with
  | true, true =>
    match compareScaled (2 * lower.digits + 1) exponent (2 * x.mantissa) x.exponent with
    | .gt => some lower
    | .lt => some upper
    | .eq => if tie = .toEven ∧ lower.digits % 2 = 0 then some lower else some upper
  | true, false => some lower
  | false, true => some upper
  | false, false => none

/-- The digits without trailing zeros, at most `fuel` of which are removed. -/
def Scaled.stripZeros : Nat → Scaled → Scaled
  | 0, d => d
  | fuel + 1, d =>
    if d.digits % 10 = 0 ∧ d.digits ≠ 0 then stripZeros fuel ⟨d.digits / 10, d.exponent + 1⟩ else d

/-- The shortest decimal of a value that is not zero. -/
def Binary.shortest (x : Binary) (tie : Tie) : Scaled :=
  let k := x.magnitude
  let found := (List.range 17).findSome? fun n : Nat => x.nearest? tie (k - (n + 1))
  (found.getD ⟨x.steps (k - 17), k - 17⟩).stripZeros 20

/-- The text of a decimal: positional while its leading digit stands between the places `-5` and
`16`, and otherwise with a signed exponent. -/
def Scaled.render (d : Scaled) : String :=
  let digits := Nat.toDigits 10 d.digits
  let point := (digits.length : Int) + d.exponent
  let chars :=
    if 0 ≤ d.exponent ∧ point ≤ 16 then
      digits ++ List.replicate d.exponent.toNat '0' ++ ['.', '0']
    else if 0 < point ∧ point ≤ 16 then
      digits.take point.toNat ++ ['.'] ++ digits.drop point.toNat
    else if -5 < point ∧ point ≤ 0 then
      ['0', '.'] ++ List.replicate (-point).toNat '0' ++ digits
    else
      let power := point - 1
      let mantissa := if digits.length = 1 then digits else digits.take 1 ++ ['.'] ++ digits.drop 1
      mantissa ++ ['e', if power < 0 then '-' else '+'] ++ Nat.toDigits 10 power.natAbs
  String.ofList chars

/-- The text of a decimal without an exponent, and without a point if it is whole. -/
def Scaled.renderPositional (d : Scaled) : String :=
  let digits := Nat.toDigits 10 d.digits
  let point := (digits.length : Int) + d.exponent
  let chars :=
    if 0 ≤ d.exponent then digits ++ List.replicate d.exponent.toNat '0'
    else if 0 < point then digits.take point.toNat ++ ['.'] ++ digits.drop point.toNat
    else ['0', '.'] ++ List.replicate (-point).toNat '0' ++ digits
  String.ofList chars

/-- The text of a finite floating-point number. -/
def ofFloat (x : Float) : String :=
  let bits := x.toBits
  let sign := if bits >>> 63 = 1 then "-" else ""
  let value := Binary.ofBits (bits &&& 0x7fffffffffffffff)
  sign ++ (if value.mantissa = 0 then "0.0" else (value.shortest .toEven).render)

end CredentialVault.Decimal
