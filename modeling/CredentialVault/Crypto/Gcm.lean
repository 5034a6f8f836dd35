import CredentialVault.Crypto.Aes

/-!
# Authenticated encryption

The plaintext is added to a key stream, the images of successive counter blocks, and a tag is
computed from the associated data and the ciphertext: they are the coefficients of a polynomial over
the field of `2^128` elements, which is evaluated at a point that depends on the key, and the value
is added to the image of the first counter block. `encrypt` appends the tag; `decrypt` answers only
when the tag is the right one.
-/

namespace CredentialVault.Gcm

/-- An element of the field. The coefficient of the lowest power of `x` is the most significant
bit. -/
abbrev Element := BitVec 128

/-- The element whose bytes, the most significant first, are given. -/
def elementOfBytes (bytes : Bytes) : Element :=
  bytes.foldl (fun element byte => (element <<< 8) ||| BitVec.ofNat 128 byte.toNat) 0

/-- The sixteen bytes of an element, the most significant first. -/
def bytesOfElement (element : Element) : Bytes :=
  (List.range 16).map fun i => UInt8.ofNat ((element >>> (120 - 8 * i)).toNat % 256)

/-- The reduction of the power `x^128`, which is `x^7 + x^2 + x + 1`. -/
def reduction : Element :=
  BitVec.ofNat 128 (0xe1 <<< 120)

/-- The element times `x`. -/
def timesX (element : Element) : Element :=
  if element.getLsbD 0 then (element >>> 1) ^^^ reduction else element >>> 1

/-- The sum of the multiples `y * x^i` for the bits `i` of `x` that are set, from bit `128 - count`
on; `y` is already multiplied by the power of its first bit. -/
def mulFrom (x : Element) : Nat → Element → Element → Element
  | 0, _, sum => sum
  | count + 1, y, sum =>
    mulFrom x count (timesX y) (if x.getLsbD count then sum ^^^ y else sum)

/-- The product of two elements. -/
def mul (x y : Element) : Element :=
  mulFrom x 128 y 0

/-- The elements of a byte string, the last filled up with zero bytes; at most `count`. -/
def elements : Nat → Bytes → List Element
  | 0, _ => []
  | count + 1, bytes =>
    if bytes = [] then []
    else
      let group := bytes.take 16
      elementOfBytes (group ++ List.replicate (16 - group.length) 0) ::
        elements count (bytes.drop 16)

/-- The element that states the lengths in bits of the associated data and the ciphertext. -/
def lengths (aad ciphertext : Bytes) : Element :=
  BitVec.ofNat 128 (aad.length * 8 * Nat.pow 2 64 + ciphertext.length * 8)

/-- The coefficients that the tag depends on: the associated data, the ciphertext, and their
lengths. -/
def coefficients (aad ciphertext : Bytes) : List Element :=
  elements aad.length aad ++ elements ciphertext.length ciphertext ++ [lengths aad ciphertext]

/-- The value at `point` of the polynomial with the given coefficients, the one of the highest power
first, and no constant term. -/
def evaluate (point : Element) (coefficients : List Element) : Element :=
  coefficients.foldl (fun sum coefficient => mul (sum ^^^ coefficient) point) 0

/-- The image of a block under the cipher. -/
def image (keys : List Aes.Block) (block : Element) : Element :=
  elementOfBytes (Aes.encryptBlock keys (Aes.Block.ofBytes (bytesOfElement block))).toBytes

/-- The size of an initialisation vector. -/
def ivSize : Nat := 12

/-- The size of a tag. -/
def tagSize : Nat := 16

/-- The counter block with the number `n` for an initialisation vector of twelve bytes. -/
def counterBlock (iv : Bytes) (n : Nat) : Element :=
  elementOfBytes iv <<< 32 ||| BitVec.ofNat 128 (n % Nat.pow 2 32)

/-- The text added to the key stream from the counter block `n` on. -/
def stream (keys : List Aes.Block) (iv : Bytes) : Nat → Nat → Bytes → Bytes
  | 0, _, _ => []
  | count + 1, n, text =>
    if text = [] then []
    else
      List.zipWith (· ^^^ ·) (text.take 16) (bytesOfElement (image keys (counterBlock iv n))) ++
        stream keys iv count (n + 1) (text.drop 16)

/-- The text under the key stream; the first counter block is kept for the tag. -/
def applyStream (keys : List Aes.Block) (iv text : Bytes) : Bytes :=
  stream keys iv text.length 2 text

/-- The tag of a ciphertext with its associated data. -/
def tag (keys : List Aes.Block) (iv aad ciphertext : Bytes) : Bytes :=
  bytesOfElement
    (evaluate (image keys 0) (coefficients aad ciphertext) ^^^ image keys (counterBlock iv 1))

/-- The ciphertext of a plaintext, with the tag appended, under a key of 32 bytes and an
initialisation vector of twelve. -/
def encrypt (key iv aad plaintext : Bytes) : Bytes :=
  let keys := Aes.roundKeys key
  let ciphertext := applyStream keys iv plaintext
  ciphertext ++ tag keys iv aad ciphertext

/-- The plaintext of a ciphertext with its tag, if the tag is the right one. -/
def decrypt? (key iv aad sealed : Bytes) : Option Bytes :=
  let keys := Aes.roundKeys key
  let ciphertext := sealed.take (sealed.length - tagSize)
  if sealed.length < tagSize then none
  else if sealed.drop (sealed.length - tagSize) = tag keys iv aad ciphertext then
    some (applyStream keys iv ciphertext)
  else none

end CredentialVault.Gcm
