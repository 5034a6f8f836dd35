import CredentialVault.Bytes

/-!
# The digest of 32 bytes

The message is padded to whole blocks of 64 bytes, its length in bits at the end, and each block
is mixed into a state of eight words by 64 rounds. `digest` is the state after the last block.
-/

namespace CredentialVault.Sha256

/-- The constants of the rounds: the first bits of the fractional parts of the cube roots of the
first primes. -/
def roundConstants : List UInt32 := [
  0x428a2f98, 0x71374491, 0xb5c0fbcf, 0xe9b5dba5, 0x3956c25b, 0x59f111f1, 0x923f82a4, 0xab1c5ed5,
  0xd807aa98, 0x12835b01, 0x243185be, 0x550c7dc3, 0x72be5d74, 0x80deb1fe, 0x9bdc06a7, 0xc19bf174,
  0xe49b69c1, 0xefbe4786, 0x0fc19dc6, 0x240ca1cc, 0x2de92c6f, 0x4a7484aa, 0x5cb0a9dc, 0x76f988da,
  0x983e5152, 0xa831c66d, 0xb00327c8, 0xbf597fc7, 0xc6e00bf3, 0xd5a79147, 0x06ca6351, 0x14292967,
  0x27b70a85, 0x2e1b2138, 0x4d2c6dfc, 0x53380d13, 0x650a7354, 0x766a0abb, 0x81c2c92e, 0x92722c85,
  0xa2bfe8a1, 0xa81a664b, 0xc24b8b70, 0xc76c51a3, 0xd192e819, 0xd6990624, 0xf40e3585, 0x106aa070,
  0x19a4c116, 0x1e376c08, 0x2748774c, 0x34b0bcb5, 0x391c0cb3, 0x4ed8aa4a, 0x5b9cca4f, 0x682e6ff3,
  0x748f82ee, 0x78a5636f, 0x84c87814, 0x8cc70208, 0x90befffa, 0xa4506ceb, 0xbef9a3f7, 0xc67178f2]

/-- The working variables. -/
structure State where
  /-- The first word. -/
  a : UInt32
  /-- The second word. -/
  b : UInt32
  /-- The third word. -/
  c : UInt32
  /-- The fourth word. -/
  d : UInt32
  /-- The fifth word. -/
  e : UInt32
  /-- The sixth word. -/
  f : UInt32
  /-- The seventh word. -/
  g : UInt32
  /-- The eighth word. -/
  h : UInt32

/-- The state before the first block: the first bits of the fractional parts of the square roots of
the first primes. -/
def initialState : State :=
  ⟨0x6a09e667, 0xbb67ae85, 0x3c6ef372, 0xa54ff53a,
    0x510e527f, 0x9b05688c, 0x1f83d9ab, 0x5be0cd19⟩

/-- The word rotated to the right. -/
def rotateRight (x : UInt32) (count : UInt32) : UInt32 :=
  (x >>> count) ||| (x <<< (32 - count))

/-- The word of 4 bytes, the first of which is the most significant. -/
def wordOfBytes (bytes : Bytes) : UInt32 :=
  bytes.foldl (fun word byte => (word <<< 8) ||| byte.toUInt32) 0

/-- The 4 bytes of a word, the most significant first. -/
def bytesOfWord (word : UInt32) : Bytes :=
  [24, 16, 8, 0].map fun shift : UInt32 => (word >>> shift).toUInt8

/-- The groups of `size` bytes of a byte string, at most `count` of them. -/
def groups (size : Nat) : Nat → Bytes → List Bytes
  | 0, _ => []
  | count + 1, bytes => bytes.take size :: groups size count (bytes.drop size)

/-- The message with a one bit, zero bits and its length in bits, in whole blocks. -/
def pad (message : Bytes) : Bytes :=
  let zeros := (64 - (message.length + 1 + 8) % 64) % 64
  let bits := message.length * 8
  message ++ [0x80] ++ List.replicate zeros 0 ++
    (List.range 8).map fun i => UInt8.ofNat (bits / Nat.pow 256 (8 - 1 - i))

/-- Extends the last sixteen words of a schedule, the newest first, by `count` words. -/
def extend : Nat → List UInt32 → List UInt32
  | 0, words => words
  | count + 1, words =>
    let w2 := words.getD 1 0
    let w7 := words.getD 6 0
    let w15 := words.getD 14 0
    let w16 := words.getD 15 0
    let s0 := rotateRight w15 7 ^^^ rotateRight w15 18 ^^^ (w15 >>> 3)
    let s1 := rotateRight w2 17 ^^^ rotateRight w2 19 ^^^ (w2 >>> 10)
    extend count ((s1 + w7 + s0 + w16) :: words)

/-- The words of the 64 rounds of a block. -/
def scheduleOf (block : Bytes) : List UInt32 :=
  (extend 48 ((groups 4 16 block).map wordOfBytes).reverse).reverse

/-- One round, with its constant and its word of the schedule. -/
def round (s : State) (input : UInt32 × UInt32) : State :=
  let s1 := rotateRight s.e 6 ^^^ rotateRight s.e 11 ^^^ rotateRight s.e 25
  let choice := (s.e &&& s.f) ^^^ (~~~s.e &&& s.g)
  let t1 := s.h + s1 + choice + input.1 + input.2
  let s0 := rotateRight s.a 2 ^^^ rotateRight s.a 13 ^^^ rotateRight s.a 22
  let majority := (s.a &&& s.b) ^^^ (s.a &&& s.c) ^^^ (s.b &&& s.c)
  ⟨t1 + (s0 + majority), s.a, s.b, s.c, s.d + t1, s.e, s.f, s.g⟩

/-- Mixes a block into the state. -/
def compress (s : State) (block : Bytes) : State :=
  let t := (roundConstants.zip (scheduleOf block)).foldl round s
  ⟨s.a + t.a, s.b + t.b, s.c + t.c, s.d + t.d, s.e + t.e, s.f + t.f, s.g + t.g, s.h + t.h⟩

/-- The digest of a message. -/
def digest (message : Bytes) : Bytes :=
  let padded := pad message
  let s := (groups 64 (padded.length / 64) padded).foldl compress initialState
  [s.a, s.b, s.c, s.d, s.e, s.f, s.g, s.h].flatMap bytesOfWord

end CredentialVault.Sha256
