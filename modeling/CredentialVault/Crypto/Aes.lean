import CredentialVault.Bytes

/-!
# The block cipher

A key of 32 bytes fixes a permutation of the blocks of 16 bytes. A block is held as four columns of
four bytes; a round substitutes each byte, shifts the rows, mixes each column and adds a round key,
and the last of the fourteen rounds leaves out the mixing.
-/

namespace CredentialVault.Aes

/-- Four bytes, from the top row down. -/
structure Column where
  /-- The byte of the first row. -/
  b0 : UInt8
  /-- The byte of the second row. -/
  b1 : UInt8
  /-- The byte of the third row. -/
  b2 : UInt8
  /-- The byte of the fourth row. -/
  b3 : UInt8
deriving DecidableEq, Repr, Inhabited

/-- A block of four columns. -/
structure Block where
  /-- The first column. -/
  c0 : Column
  /-- The second column. -/
  c1 : Column
  /-- The third column. -/
  c2 : Column
  /-- The fourth column. -/
  c3 : Column
deriving DecidableEq, Repr, Inhabited

/-- The substitutes of the 256 bytes. -/
def substitutes : Array UInt8 := #[
  0x63, 0x7c, 0x77, 0x7b, 0xf2, 0x6b, 0x6f, 0xc5, 0x30, 0x01, 0x67, 0x2b, 0xfe, 0xd7, 0xab, 0x76,
  0xca, 0x82, 0xc9, 0x7d, 0xfa, 0x59, 0x47, 0xf0, 0xad, 0xd4, 0xa2, 0xaf, 0x9c, 0xa4, 0x72, 0xc0,
  0xb7, 0xfd, 0x93, 0x26, 0x36, 0x3f, 0xf7, 0xcc, 0x34, 0xa5, 0xe5, 0xf1, 0x71, 0xd8, 0x31, 0x15,
  0x04, 0xc7, 0x23, 0xc3, 0x18, 0x96, 0x05, 0x9a, 0x07, 0x12, 0x80, 0xe2, 0xeb, 0x27, 0xb2, 0x75,
  0x09, 0x83, 0x2c, 0x1a, 0x1b, 0x6e, 0x5a, 0xa0, 0x52, 0x3b, 0xd6, 0xb3, 0x29, 0xe3, 0x2f, 0x84,
  0x53, 0xd1, 0x00, 0xed, 0x20, 0xfc, 0xb1, 0x5b, 0x6a, 0xcb, 0xbe, 0x39, 0x4a, 0x4c, 0x58, 0xcf,
  0xd0, 0xef, 0xaa, 0xfb, 0x43, 0x4d, 0x33, 0x85, 0x45, 0xf9, 0x02, 0x7f, 0x50, 0x3c, 0x9f, 0xa8,
  0x51, 0xa3, 0x40, 0x8f, 0x92, 0x9d, 0x38, 0xf5, 0xbc, 0xb6, 0xda, 0x21, 0x10, 0xff, 0xf3, 0xd2,
  0xcd, 0x0c, 0x13, 0xec, 0x5f, 0x97, 0x44, 0x17, 0xc4, 0xa7, 0x7e, 0x3d, 0x64, 0x5d, 0x19, 0x73,
  0x60, 0x81, 0x4f, 0xdc, 0x22, 0x2a, 0x90, 0x88, 0x46, 0xee, 0xb8, 0x14, 0xde, 0x5e, 0x0b, 0xdb,
  0xe0, 0x32, 0x3a, 0x0a, 0x49, 0x06, 0x24, 0x5c, 0xc2, 0xd3, 0xac, 0x62, 0x91, 0x95, 0xe4, 0x79,
  0xe7, 0xc8, 0x37, 0x6d, 0x8d, 0xd5, 0x4e, 0xa9, 0x6c, 0x56, 0xf4, 0xea, 0x65, 0x7a, 0xae, 0x08,
  0xba, 0x78, 0x25, 0x2e, 0x1c, 0xa6, 0xb4, 0xc6, 0xe8, 0xdd, 0x74, 0x1f, 0x4b, 0xbd, 0x8b, 0x8a,
  0x70, 0x3e, 0xb5, 0x66, 0x48, 0x03, 0xf6, 0x0e, 0x61, 0x35, 0x57, 0xb9, 0x86, 0xc1, 0x1d, 0x9e,
  0xe1, 0xf8, 0x98, 0x11, 0x69, 0xd9, 0x8e, 0x94, 0x9b, 0x1e, 0x87, 0xe9, 0xce, 0x55, 0x28, 0xdf,
  0x8c, 0xa1, 0x89, 0x0d, 0xbf, 0xe6, 0x42, 0x68, 0x41, 0x99, 0x2d, 0x0f, 0xb0, 0x54, 0xbb, 0x16]

/-- The substitute of a byte. -/
def substitute (byte : UInt8) : UInt8 :=
  substitutes.getD byte.toNat 0

/-- The byte times the polynomial `x`, in the field of 256 elements. -/
def double (byte : UInt8) : UInt8 :=
  if byte < 0x80 then byte <<< 1 else (byte <<< 1) ^^^ 0x1b

namespace Column

/-- The sum of two columns. -/
def add (x y : Column) : Column :=
  ⟨x.b0 ^^^ y.b0, x.b1 ^^^ y.b1, x.b2 ^^^ y.b2, x.b3 ^^^ y.b3⟩

/-- The column with `f` applied to each byte. -/
def map (f : UInt8 → UInt8) (x : Column) : Column :=
  ⟨f x.b0, f x.b1, f x.b2, f x.b3⟩

/-- The column with its bytes moved up by one row. -/
def rotate (x : Column) : Column :=
  ⟨x.b1, x.b2, x.b3, x.b0⟩

/-- The column times the fixed matrix with the rows 2 3 1 1, 1 2 3 1, 1 1 2 3 and 3 1 1 2. -/
def mix (x : Column) : Column :=
  ⟨double x.b0 ^^^ double x.b1 ^^^ x.b1 ^^^ x.b2 ^^^ x.b3,
    x.b0 ^^^ double x.b1 ^^^ double x.b2 ^^^ x.b2 ^^^ x.b3,
    x.b0 ^^^ x.b1 ^^^ double x.b2 ^^^ double x.b3 ^^^ x.b3,
    double x.b0 ^^^ x.b0 ^^^ x.b1 ^^^ x.b2 ^^^ double x.b3⟩

end Column

namespace Block

/-- The sum of two blocks. -/
def add (x y : Block) : Block :=
  ⟨x.c0.add y.c0, x.c1.add y.c1, x.c2.add y.c2, x.c3.add y.c3⟩

/-- The block with each byte substituted. -/
def substituteBytes (x : Block) : Block :=
  ⟨x.c0.map substitute, x.c1.map substitute, x.c2.map substitute, x.c3.map substitute⟩

/-- The block with row `i` moved left by `i` places. -/
def shiftRows (x : Block) : Block :=
  ⟨⟨x.c0.b0, x.c1.b1, x.c2.b2, x.c3.b3⟩, ⟨x.c1.b0, x.c2.b1, x.c3.b2, x.c0.b3⟩,
    ⟨x.c2.b0, x.c3.b1, x.c0.b2, x.c1.b3⟩, ⟨x.c3.b0, x.c0.b1, x.c1.b2, x.c2.b3⟩⟩

/-- The block with each column mixed. -/
def mixColumns (x : Block) : Block :=
  ⟨x.c0.mix, x.c1.mix, x.c2.mix, x.c3.mix⟩

/-- The bytes of a block, column by column. -/
def toBytes (x : Block) : Bytes :=
  [x.c0, x.c1, x.c2, x.c3].flatMap fun c => [c.b0, c.b1, c.b2, c.b3]

end Block

/-- The columns that bytes fill, four to each; a rest is dropped. -/
def columnsOfBytes : Bytes → List Column
  | b0 :: b1 :: b2 :: b3 :: rest => ⟨b0, b1, b2, b3⟩ :: columnsOfBytes rest
  | _ => []

/-- The blocks that columns fill, four to each; a rest is dropped. -/
def blocksOfColumns : List Column → List Block
  | c0 :: c1 :: c2 :: c3 :: rest => ⟨c0, c1, c2, c3⟩ :: blocksOfColumns rest
  | _ => []

/-- The block of sixteen bytes. -/
def Block.ofBytes (bytes : Bytes) : Block :=
  (blocksOfColumns (columnsOfBytes bytes)).headD default

/-- The next eight columns of the key schedule after the eight given ones; `constant` is the round
constant. -/
def nextColumns (constant : UInt8) : List Column → List Column
  | [k0, k1, k2, k3, k4, k5, k6, k7] =>
    let n0 := k0.add ((k7.rotate.map substitute).add ⟨constant, 0, 0, 0⟩)
    let n1 := k1.add n0
    let n2 := k2.add n1
    let n3 := k3.add n2
    let n4 := k4.add (n3.map substitute)
    let n5 := k5.add n4
    let n6 := k6.add n5
    let n7 := k7.add n6
    [n0, n1, n2, n3, n4, n5, n6, n7]
  | columns => columns

/-- The key schedule from eight columns on, one group of eight for each round constant. -/
def schedule : List UInt8 → List Column → List Column
  | [], columns => columns
  | constant :: constants, columns =>
    columns ++ schedule constants (nextColumns constant columns)

/-- The round constants: the powers of `x`. -/
def roundConstants : List UInt8 :=
  [0x01, 0x02, 0x04, 0x08, 0x10, 0x20, 0x40]

/-- The fifteen round keys of a key of 32 bytes. -/
def roundKeys (key : Bytes) : List Block :=
  (blocksOfColumns (schedule roundConstants (columnsOfBytes key))).take 15

/-- The rounds after the first round key was added: all but the last mix the columns. -/
def rounds : List Block → Block → Block
  | [], x => x
  | [last], x => x.substituteBytes.shiftRows.add last
  | key :: keys, x => rounds keys (x.substituteBytes.shiftRows.mixColumns.add key)

/-- The image of a block under the permutation that the round keys fix. -/
def encryptBlock (keys : List Block) (x : Block) : Block :=
  match keys with
  | [] => x
  | first :: rest => rounds rest (x.add first)

end CredentialVault.Aes
