import CredentialVault.Crypto.Aes

/-!
# The block cipher is injective

Under fixed round keys different blocks have different images (`encryptBlock_injective`): each part
of a round can be undone. The substitutes are pairwise different; the matrix that mixes a column is
understood through its square, which adds the same byte to the first and the third row, and the same
to the second and the fourth (`mix_mix`), and so leaves their sums.
-/

namespace CredentialVault.Aes

/-! ## Substitution -/

/-- Whether numbers are pairwise different, and none of them is the place of a bit that is set in
`seen`. -/
def areNew : Nat → List Nat → Bool
  | _, [] => true
  | seen, n :: ns => !seen.testBit n && areNew (seen ||| 1 <<< n) ns

/-- Numbers that pass the test are pairwise different. -/
theorem nodup_of_areNew {seen : Nat} {ns : List Nat} (h : areNew seen ns = true) :
    ns.Nodup ∧ ∀ n ∈ ns, seen.testBit n = false := by
  induction ns generalizing seen with
  | nil => exact ⟨List.nodup_nil, nofun⟩
  | cons n ns ih =>
    simp only [areNew, Bool.and_eq_true, Bool.not_eq_true'] at h
    obtain ⟨hnodup, hrest⟩ := ih h.2
    -- The later numbers are neither set at the start nor equal to this one.
    have hlater : ∀ m ∈ ns, seen.testBit m = false ∧ n ≠ m := by
      intro m hm
      have hunset := hrest m hm
      rw [Nat.testBit_or, Bool.or_eq_false_iff, Nat.testBit_shiftLeft] at hunset
      refine ⟨hunset.1, ?_⟩
      rintro rfl
      simp at hunset
    exact ⟨List.nodup_cons.mpr ⟨fun hn => (hlater n hn).2 rfl, hnodup⟩,
      List.forall_mem_cons.mpr ⟨h.1, fun m hm => (hlater m hm).1⟩⟩

/-- The substitutes are pairwise different. -/
theorem nodup_substitutes : (substitutes.toList.map (·.toNat)).Nodup :=
  (nodup_of_areNew (by decide +kernel : areNew 0 _ = true)).1

/-- Different bytes have different substitutes. -/
theorem substitute_injective {x y : UInt8} (h : substitute x = substitute y) : x = y := by
  have hsize : substitutes.size = 2 ^ 8 := by decide +kernel
  have hbound : ∀ byte : UInt8, byte.toNat < substitutes.size := fun byte =>
    hsize ▸ byte.toNat_lt
  -- The substitute of a byte is the entry at its place.
  have hentry : ∀ byte : UInt8,
      (substitutes.toList.map (·.toNat))[byte.toNat]? = some (substitute byte).toNat := by
    intro byte
    simp [substitute, Array.getD, hbound byte]
  have hlength : x.toNat < (substitutes.toList.map (·.toNat)).length := by
    simpa using hbound x
  rw [← UInt8.toNat_inj]
  refine (List.getElem?_inj hlength nodup_substitutes).mp ?_
  rw [hentry, hentry, h]

/-! ## The mixing of a column -/

/-- Of three bytes that are added, the first two may be exchanged. -/
theorem xor_left_comm (x y z : UInt8) : x ^^^ (y ^^^ z) = y ^^^ (x ^^^ z) := by
  rw [← UInt8.xor_assoc, UInt8.xor_comm x, UInt8.xor_assoc]

/-- A byte that is added twice is not added at all. -/
theorem xor_cancel_left (x y : UInt8) : x ^^^ (x ^^^ y) = y := by
  rw [← UInt8.xor_assoc, UInt8.xor_self, UInt8.zero_xor]

/-- A byte is less than `0x80` when its first bit is not set. -/
theorem lt_iff_msb (x : UInt8) : x < 0x80 ↔ x.toBitVec.msb = false := by
  rw [UInt8.lt_iff_toNat_lt, BitVec.msb_eq_decide, decide_eq_false_iff_not, Nat.not_le]
  rfl

/-- To double is linear. -/
theorem double_xor (x y : UInt8) : double (x ^^^ y) = double x ^^^ double y := by
  unfold double
  simp only [lt_iff_msb, UInt8.toBitVec_xor, BitVec.msb_xor, UInt8.shiftLeft_xor]
  -- The reduction is added once for each first bit that is set, and twice is not at all.
  cases x.toBitVec.msb <;> cases y.toBitVec.msb <;>
    simp [UInt8.xor_assoc, UInt8.xor_comm, xor_left_comm]

namespace Column

/-- To mix a column twice adds the same byte to the first and the third row, and the same to the
second and the fourth: four times the sum of the two. -/
theorem mix_mix (x : Column) : x.mix.mix =
    ⟨x.b0 ^^^ double (double (x.b0 ^^^ x.b2)), x.b1 ^^^ double (double (x.b1 ^^^ x.b3)),
      x.b2 ^^^ double (double (x.b0 ^^^ x.b2)), x.b3 ^^^ double (double (x.b1 ^^^ x.b3))⟩ := by
  simp only [mix, double_xor, UInt8.xor_assoc, UInt8.xor_comm, xor_left_comm, xor_cancel_left,
    UInt8.xor_self, UInt8.zero_xor]

/-- Two rows to which the same byte was added, one that depends on their sum, can be told from the
result. -/
theorem rows_of_added {f : UInt8 → UInt8} {a b c d : UInt8}
    (h : a ^^^ f (a ^^^ b) = c ^^^ f (c ^^^ d)) (h' : b ^^^ f (a ^^^ b) = d ^^^ f (c ^^^ d)) :
    a = c ∧ b = d := by
  -- What is added to both rows leaves their sum.
  have hcancel : ∀ x y z : UInt8, (x ^^^ z) ^^^ (y ^^^ z) = x ^^^ y := fun x y z => by
    rw [UInt8.xor_comm y, ← UInt8.xor_assoc, UInt8.xor_assoc x, UInt8.xor_self, UInt8.xor_zero]
  have hsum : a ^^^ b = c ^^^ d := by
    calc a ^^^ b = (a ^^^ f (a ^^^ b)) ^^^ (b ^^^ f (a ^^^ b)) := (hcancel _ _ _).symm
      _ = (c ^^^ f (c ^^^ d)) ^^^ (d ^^^ f (c ^^^ d)) := by rw [h, h']
      _ = c ^^^ d := hcancel _ _ _
  rw [hsum] at h h'
  exact ⟨(UInt8.xor_left_inj _).mp h, (UInt8.xor_left_inj _).mp h'⟩

/-- Different columns are mixed to different columns. -/
theorem mix_injective {x y : Column} (h : x.mix = y.mix) : x = y := by
  obtain ⟨x0, x1, x2, x3⟩ := x
  obtain ⟨y0, y1, y2, y3⟩ := y
  have htwice := congrArg mix h
  simp only [mix_mix, mk.injEq] at htwice
  obtain ⟨h0, h1, h2, h3⟩ := htwice
  obtain ⟨rfl, rfl⟩ := rows_of_added (f := fun sum => double (double sum)) h0 h2
  obtain ⟨rfl, rfl⟩ := rows_of_added (f := fun sum => double (double sum)) h1 h3
  rfl

/-- Different columns have different sums with a column. -/
theorem add_injective {x y z : Column} (h : x.add z = y.add z) : x = y := by
  obtain ⟨x0, x1, x2, x3⟩ := x
  obtain ⟨y0, y1, y2, y3⟩ := y
  simpa only [add, mk.injEq, UInt8.xor_left_inj] using h

/-- Columns whose bytes have the same substitutes are the same. -/
theorem map_substitute_injective {x y : Column} (h : x.map substitute = y.map substitute) :
    x = y := by
  obtain ⟨x0, x1, x2, x3⟩ := x
  obtain ⟨y0, y1, y2, y3⟩ := y
  simp only [map, mk.injEq] at h
  obtain ⟨h0, h1, h2, h3⟩ := h
  rw [substitute_injective h0, substitute_injective h1, substitute_injective h2,
    substitute_injective h3]

end Column

/-! ## The rounds -/

namespace Block

variable {x y : Block}

/-- Different blocks have different sums with a block. -/
theorem add_injective {z : Block} (h : x.add z = y.add z) : x = y := by
  obtain ⟨x0, x1, x2, x3⟩ := x
  obtain ⟨y0, y1, y2, y3⟩ := y
  simp only [add, mk.injEq] at h
  obtain ⟨h0, h1, h2, h3⟩ := h
  rw [Column.add_injective h0, Column.add_injective h1, Column.add_injective h2,
    Column.add_injective h3]

/-- Blocks whose bytes have the same substitutes are the same. -/
theorem substituteBytes_injective (h : x.substituteBytes = y.substituteBytes) : x = y := by
  obtain ⟨x0, x1, x2, x3⟩ := x
  obtain ⟨y0, y1, y2, y3⟩ := y
  simp only [substituteBytes, mk.injEq] at h
  obtain ⟨h0, h1, h2, h3⟩ := h
  rw [Column.map_substitute_injective h0, Column.map_substitute_injective h1,
    Column.map_substitute_injective h2, Column.map_substitute_injective h3]

/-- Blocks whose shifted rows are the same are the same. -/
theorem shiftRows_injective (h : x.shiftRows = y.shiftRows) : x = y := by
  obtain ⟨⟨_, _, _, _⟩, ⟨_, _, _, _⟩, ⟨_, _, _, _⟩, ⟨_, _, _, _⟩⟩ := x
  obtain ⟨⟨_, _, _, _⟩, ⟨_, _, _, _⟩, ⟨_, _, _, _⟩, ⟨_, _, _, _⟩⟩ := y
  cases h
  rfl

/-- Blocks whose mixed columns are the same are the same. -/
theorem mixColumns_injective (h : x.mixColumns = y.mixColumns) : x = y := by
  obtain ⟨x0, x1, x2, x3⟩ := x
  obtain ⟨y0, y1, y2, y3⟩ := y
  simp only [mixColumns, mk.injEq] at h
  obtain ⟨h0, h1, h2, h3⟩ := h
  rw [Column.mix_injective h0, Column.mix_injective h1, Column.mix_injective h2,
    Column.mix_injective h3]

end Block

/-- Different blocks go through the rounds to different blocks. -/
theorem rounds_injective {keys : List Block} {x y : Block} (h : rounds keys x = rounds keys y) :
    x = y := by
  -- By induction on the round keys; the last round is the one that does not mix.
  induction keys generalizing x y with
  | nil => exact h
  | cons key keys ih =>
    cases keys with
    | nil => exact Block.substituteBytes_injective (Block.shiftRows_injective (Block.add_injective h))
    | cons next keys =>
      have hround := Block.add_injective (ih h)
      exact Block.substituteBytes_injective
        (Block.shiftRows_injective (Block.mixColumns_injective hround))

/-- Under fixed round keys different blocks have different images. -/
theorem encryptBlock_injective {keys : List Block} {x y : Block}
    (h : encryptBlock keys x = encryptBlock keys y) : x = y := by
  cases keys with
  | nil => exact h
  | cons first rest => exact Block.add_injective (rounds_injective h)

/-! ## Blocks and their bytes -/

/-- Bytes that fill columns are the bytes of the columns, row by row. -/
theorem flatMap_columnsOfBytes {bytes : Bytes} {count : Nat} (h : bytes.length = 4 * count) :
    (columnsOfBytes bytes).length = count ∧
      (columnsOfBytes bytes).flatMap (fun c => [c.b0, c.b1, c.b2, c.b3]) = bytes := by
  induction bytes using columnsOfBytes.induct generalizing count with
  | case1 b0 b1 b2 b3 rest ih =>
    cases count with
    | zero => cases h
    | succ count =>
      have hrest : rest.length = 4 * count := by
        simp only [List.length_cons] at h
        omega
      obtain ⟨hcount, hbytes⟩ := ih hrest
      simp [columnsOfBytes, hcount, hbytes]
  | case2 bytes hshort =>
    -- Fewer than four bytes fill a number of columns only if there are none.
    rcases bytes with _ | ⟨b0, _ | ⟨b1, _ | ⟨b2, _ | ⟨b3, rest⟩⟩⟩⟩ <;>
      simp only [List.length_cons, List.length_nil] at h
    · obtain rfl : count = 0 := by omega
      exact ⟨rfl, rfl⟩
    · omega
    · omega
    · omega
    · exact absurd rfl (hshort b0 b1 b2 b3 rest)

namespace Block

/-- A block has sixteen bytes. -/
theorem length_toBytes (x : Block) : x.toBytes.length = 16 := rfl

/-- Blocks with the same bytes are the same. -/
theorem toBytes_injective {x y : Block} (h : x.toBytes = y.toBytes) : x = y := by
  obtain ⟨⟨_, _, _, _⟩, ⟨_, _, _, _⟩, ⟨_, _, _, _⟩, ⟨_, _, _, _⟩⟩ := x
  obtain ⟨⟨_, _, _, _⟩, ⟨_, _, _, _⟩, ⟨_, _, _, _⟩, ⟨_, _, _, _⟩⟩ := y
  cases h
  rfl

/-- The block of sixteen bytes has these bytes. -/
theorem toBytes_ofBytes {bytes : Bytes} (h : bytes.length = 16) : (ofBytes bytes).toBytes = bytes := by
  have h : bytes.length = 4 * 4 := h
  obtain ⟨hcount, hbytes⟩ := flatMap_columnsOfBytes h
  unfold ofBytes
  generalize columnsOfBytes bytes = columns at hcount hbytes
  rcases columns with _ | ⟨c0, _ | ⟨c1, _ | ⟨c2, _ | ⟨c3, _ | ⟨c4, rest⟩⟩⟩⟩⟩
  · cases hcount
  · cases hcount
  · cases hcount
  · cases hcount
  · exact hbytes
  · simp at hcount

end Block

end CredentialVault.Aes
