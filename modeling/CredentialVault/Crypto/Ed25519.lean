import CredentialVault.Crypto.Sha512

/-!
# Signatures on the twisted Edwards curve

The curve is `-x^2 + y^2 = 1 + d x^2 y^2` over the field of `2^255 - 19` elements. A seed of 32
bytes gives a secret scalar, and the scalar times the base point is the public key. `sign` makes a
signature of a point and a scalar; `isSignature` tests one, and refuses encodings and points that
would let two texts stand for one signature.
-/

namespace CredentialVault.Ed25519

/-- The order of the field. -/
def fieldOrder : Nat := Nat.pow 2 255 - 19

/-- The order of the base point. -/
def groupOrder : Nat := Nat.pow 2 252 + 27742317777372353535851937790883648493

/-- The power `a ^ n` modulo `m` by square-and-multiply over the `bits` low bits of `n`. -/
def powMod (m : Nat) : Nat → Nat → Nat → Nat
  | 0, _, _ => 1 % m
  | bits + 1, a, n =>
    let r := powMod m bits (a * a % m) (n / 2)
    if n % 2 = 1 then r * a % m else r

/-- The power of a field element. -/
def fieldPow (a n : Nat) : Nat :=
  powMod fieldOrder 256 a n

/-- The difference of two field elements. -/
def fieldSub (a b : Nat) : Nat :=
  (a + (fieldOrder - b % fieldOrder)) % fieldOrder

/-- The inverse of a field element that is not zero. -/
def fieldInverse (a : Nat) : Nat :=
  fieldPow a (fieldOrder - 2)

/-- The constant of the curve, `-121665 / 121666`. -/
def curveConstant : Nat :=
  37095705934669439343138083508754565189542113879843219016388785533085940283555

/-- A point in extended coordinates: `x = X / Z`, `y = Y / Z` and `x y = T / Z`. -/
structure Point where
  /-- The numerator of the first coordinate. -/
  x : Nat
  /-- The numerator of the second coordinate. -/
  y : Nat
  /-- The common denominator. -/
  z : Nat
  /-- The numerator of the product of the coordinates. -/
  t : Nat

namespace Point

/-- The neutral point. -/
def zero : Point := ⟨0, 1, 1, 0⟩

/-- The sum of two points. -/
def add (p q : Point) : Point :=
  let a := fieldSub p.y p.x * fieldSub q.y q.x % fieldOrder
  let b := (p.y + p.x) * (q.y + q.x) % fieldOrder
  let c := p.t * 2 * curveConstant % fieldOrder * q.t % fieldOrder
  let d := p.z * 2 * q.z % fieldOrder
  let e := fieldSub b a
  let f := fieldSub d c
  let g := (d + c) % fieldOrder
  let h := (b + a) % fieldOrder
  ⟨e * f % fieldOrder, g * h % fieldOrder, f * g % fieldOrder, e * h % fieldOrder⟩

/-- The point on the other side of the second axis. -/
def neg (p : Point) : Point :=
  ⟨fieldSub 0 p.x, p.y, p.z, fieldSub 0 p.t⟩

/-- The multiple `n p`, by double-and-add over the `bits` low bits of `n`. -/
def mulBits : Nat → Nat → Point → Point
  | 0, _, _ => zero
  | bits + 1, n, p =>
    let r := mulBits bits (n / 2) (p.add p)
    if n % 2 = 1 then r.add p else r

/-- The multiple of a point by a number below `2^256`. -/
def mul (n : Nat) (p : Point) : Point :=
  mulBits 256 n p

/-- Whether two points are equal. -/
def isEqual (p q : Point) : Bool :=
  p.x * q.z % fieldOrder == q.x * p.z % fieldOrder &&
    p.y * q.z % fieldOrder == q.y * p.z % fieldOrder

/-- Whether eight times the point is the neutral point. -/
def isSmallOrder (p : Point) : Bool :=
  (mul 8 p).isEqual zero

end Point

/-- The number whose bytes, the least significant first, are given. -/
def numberOfBytes (bytes : Bytes) : Nat :=
  bytes.foldr (fun byte n => byte.toNat + 256 * n) 0

/-- The 32 bytes of a number, the least significant first. -/
def bytesOfNumber (n : Nat) : Bytes :=
  (List.range 32).map fun i => UInt8.ofNat (n / Nat.pow 256 i % 256)

/-- The encoding of a point: its second coordinate, and the parity of the first in the top bit. -/
def encodePoint (p : Point) : Bytes :=
  let inverse := fieldInverse p.z
  let x := p.x * inverse % fieldOrder
  let y := p.y * inverse % fieldOrder
  bytesOfNumber (y + x % 2 * Nat.pow 2 255)

/-- The point of an encoding; the second coordinate is taken modulo the order of the field. -/
def decodePoint? (bytes : Bytes) : Option Point :=
  let n := numberOfBytes bytes
  let y := n % Nat.pow 2 255 % fieldOrder
  let u := fieldSub (y * y % fieldOrder) 1
  let v := (curveConstant * (y * y % fieldOrder) + 1) % fieldOrder
  -- A square root of u / v, if there is one, up to a root of minus one.
  let root := u * fieldPow v 3 % fieldOrder *
    fieldPow (u * fieldPow v 7 % fieldOrder) ((fieldOrder - 5) / 8) % fieldOrder
  let square := v * (root * root % fieldOrder) % fieldOrder
  let x? :=
    if square = u then some root
    else if square = fieldSub 0 u then
      some (root * fieldPow 2 ((fieldOrder - 1) / 4) % fieldOrder)
    else none
  x?.map fun x =>
    let x := if x % 2 = n / Nat.pow 2 255 % 2 then x else fieldSub 0 x
    ⟨x, y, 1, x * y % fieldOrder⟩

/-- The base point, whose second coordinate is `4 / 5` and whose first is even. -/
def basePoint : Point :=
  let x := 15112221349535400772501151409588531511454012693041857206046113283949847762202
  let y := 46316835694926478169428394003475163141307993866256225615783033603165251855960
  ⟨x, y, 1, x * y % fieldOrder⟩

/-- The secret scalar of the first half of a seed's digest: a multiple of eight between `2^254` and
`2^255`. -/
def clamp (bytes : Bytes) : Nat :=
  let n := numberOfBytes bytes
  Nat.pow 2 254 + n % Nat.pow 2 254 / 8 * 8

/-- The public key of a seed. -/
def publicKey (seed : Bytes) : Bytes :=
  encodePoint (Point.mul (clamp ((Sha512.digest seed).take 32)) basePoint)

/-- The scalar that binds a signature's point to the public key and the message. -/
def challenge (point key message : Bytes) : Nat :=
  numberOfBytes (Sha512.digest (point ++ key ++ message)) % groupOrder

/-- The signature of a message under a seed. -/
def sign (seed message : Bytes) : Bytes :=
  let expanded := Sha512.digest seed
  let scalar := clamp (expanded.take 32)
  let key := publicKey seed
  let nonce := numberOfBytes (Sha512.digest (expanded.drop 32 ++ message)) % groupOrder
  let point := encodePoint (Point.mul nonce basePoint)
  point ++ bytesOfNumber ((nonce + challenge point key message * scalar) % groupOrder)

/-- Whether the text is a signature of the message under the public key: its scalar is reduced, its
point and the key are not of small order, and the equation of the scheme holds. -/
def isSignature (key message signature : Bytes) : Bool :=
  let point := signature.take 32
  let scalar := numberOfBytes (signature.drop 32)
  match decodePoint? key, decodePoint? point with
  | some a, some r =>
    signature.length == 64 && scalar < groupOrder && !a.isSmallOrder && !r.isSmallOrder &&
      encodePoint ((Point.mul scalar basePoint).add
        (Point.mul (challenge point key message) a.neg)) == point
  | _, _ => false

end CredentialVault.Ed25519
