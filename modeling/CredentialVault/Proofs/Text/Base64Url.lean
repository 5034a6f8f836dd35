import CredentialVault.Base64Url
import CredentialVault.Proofs.Operation
import CredentialVault.Proofs.Text.Utf8

/-!
# Base64 is read back

Decoding the encoding of a byte string gives the byte string (`decode_encode`), whatever its length:
the last group of symbols holds two, three or four of them, and its unused bits are zero. Padding
that fills the last group changes nothing (`decodeBytes_padded`). Two byte strings with one encoding
are equal (`encode_injective`).
-/

namespace CredentialVault.Base64Url

/-! ## Symbols -/

/-- The byte of the symbol of a value. -/
def symbolByte (value : Nat) : UInt8 :=
  UInt8.ofNat (symbol value).toNat

/-- A symbol is below 128 and no white space, and its byte stands for its value. -/
theorem symbol_facts : ∀ value < 64, (symbol value).toNat < 128 ∧
    Text.isBlank (symbol value) = false ∧ value? (symbolByte value) = some value ∧
      symbolByte value ≠ paddingByte := by
  decide

/-- The six-bit values of a byte string are below 64. -/
theorem lt_of_mem_sextets {bytes : Bytes} {value : Nat} (h : value ∈ sextets bytes) :
    value < 64 := by
  fun_induction sextets bytes with
  | case1 a b c rest ih =>
    have ha := a.toNat_lt
    have hb := b.toNat_lt
    have hc := c.toNat_lt
    simp only [List.mem_cons] at h
    rcases h with rfl | rfl | rfl | rfl | h
    · omega
    · omega
    · omega
    · omega
    · exact ih h
  | case2 a b =>
    have ha := a.toNat_lt
    have hb := b.toNat_lt
    simp only [List.mem_cons, List.not_mem_nil, or_false] at h
    omega
  | case3 a =>
    have ha := a.toNat_lt
    simp only [List.mem_cons, List.not_mem_nil, or_false] at h
    omega
  | case4 => simp at h

/-- The form of an encoding: the bytes of its symbols. -/
theorem ofText_encode (bytes : Bytes) :
    Bytes.ofText (encode bytes) = (sextets bytes).map symbolByte := by
  have hascii : ∀ c ∈ encodeChars bytes, c.toNat < 128 := by
    intro c hc
    obtain ⟨value, hvalue, rfl⟩ := List.mem_map.mp hc
    exact (symbol_facts value (lt_of_mem_sextets hvalue)).1
  rw [encode, Bytes.ofText_ofList, Bytes.ofChars_of_lt hascii, encodeChars, List.map_map]
  rfl

/-- No symbol of an encoding is white space. -/
theorem isBlank_of_mem_encodeChars {bytes : Bytes} {c : Char} (h : c ∈ encodeChars bytes) :
    Text.isBlank c = false := by
  obtain ⟨value, hvalue, rfl⟩ := List.mem_map.mp h
  exact (symbol_facts value (lt_of_mem_sextets hvalue)).2.1

/-- An encoding has no white space around it. -/
theorem trim_encode (bytes : Bytes) : Text.trim (encode bytes) = encode bytes :=
  Text.trim_of_forall fun _ => isBlank_of_mem_encodeChars

/-! ## Reading symbols -/

/-- The values of a run of symbols are read back. -/
theorem symbolValues_map (offset : Nat) {values : List Nat} (h : ∀ value ∈ values, value < 64) :
    symbolValues offset (values.map symbolByte) = .ok values := by
  induction values generalizing offset with
  | nil => rfl
  | cons value values ih =>
    have hvalue := (symbol_facts value (h value (by simp))).2.2.1
    rw [List.map_cons, symbolValues, hvalue, ih (offset + 1) fun v hv => h v (by simp [hv])]
    rfl

/-- Padding that follows padding is counted. -/
theorem paddingCount_replicate (first padding : Nat) :
    paddingCount first (List.replicate padding paddingByte) = .ok padding := by
  induction padding with
  | zero => rfl
  | succ padding ih =>
    rw [List.replicate_succ, paddingCount, if_pos rfl, ih]
    rfl

/-- The values of a last group are read back, with the padding after two symbols or more. -/
theorem lastGroup_map (start seen padding : Nat) {values : List Nat}
    (h : ∀ value ∈ values, value < 64) (hpadding : padding ≠ 0 → 2 ≤ seen + values.length) :
    lastGroup start seen (values.map symbolByte ++ List.replicate padding paddingByte) =
      .ok (values, padding) := by
  induction values generalizing seen with
  | nil =>
    rcases padding with _ | padding
    · rfl
    · have hseen : ¬seen < 2 := Nat.not_lt.mpr (hpadding (Nat.succ_ne_zero padding))
      rw [List.map_nil, List.nil_append, List.replicate_succ, lastGroup, if_pos rfl, if_neg hseen,
        paddingCount_replicate]
      rfl
  | cons value values ih =>
    obtain ⟨-, -, hvalue, hsign⟩ := symbol_facts value (h value (by simp))
    have hrest := ih (seen + 1) (fun v hv => h v (by simp [hv])) fun hsome => by
      have := hpadding hsome
      rw [List.length_cons] at this
      omega
    rw [List.map_cons, List.cons_append, lastGroup, if_neg hsign, hvalue, hrest]
    rfl

/-! ## Groups -/

/-- The bytes of six-bit values are read back. -/
theorem bytesOfSextets_sextets (bytes : Bytes) : bytesOfSextets (sextets bytes) = bytes := by
  fun_induction sextets bytes with
  | case1 a b c rest ih =>
    have ha := a.toNat_lt
    have hb := b.toNat_lt
    have hc := c.toNat_lt
    simp only [bytesOfSextets, ih, List.cons.injEq, ← UInt8.toNat_inj, UInt8.toNat_ofNat', and_true]
    omega
  | case2 a b =>
    have ha := a.toNat_lt
    have hb := b.toNat_lt
    simp only [bytesOfSextets, List.cons.injEq, ← UInt8.toNat_inj, UInt8.toNat_ofNat', and_true]
    omega
  | case3 a =>
    have ha := a.toNat_lt
    simp only [bytesOfSextets, List.cons.injEq, ← UInt8.toNat_inj, UInt8.toNat_ofNat', and_true]
    omega
  | case4 => rfl

/-- The last group starts four symbols later when four symbols come before the others. -/
theorem lastGroupStart_add_four (length : Nat) (h : 0 < length) :
    lastGroupStart (length + 4) = lastGroupStart length + 4 := by
  unfold lastGroupStart
  have hmod : (length + 4) % 4 = length % 4 := by omega
  rw [hmod]
  split <;> omega

/-- The last group of an encoding: it has two values at least, unless there are none at all, and
the bits that fill no byte are zero. -/
theorem lastGroup_sextets (bytes : Bytes) :
    let values := sextets bytes
    let group := values.drop (lastGroupStart values.length)
    (group = [] ∨ 2 ≤ group.length) ∧ unusedBits group = 0 := by
  fun_induction sextets bytes with
  | case1 a b c rest ih =>
    -- The first four values are the last group when no others come after them.
    rcases hrest : sextets rest with _ | ⟨value, values⟩
    · simp [lastGroupStart, unusedBits]
    · simp only [hrest] at ih
      have hstart := lastGroupStart_add_four (value :: values).length (by simp)
      simp only [List.length_cons] at hstart ih ⊢
      rw [hstart]
      simpa only [List.drop_succ_cons] using ih
  | case2 a b =>
    refine ⟨.inr (by simp [lastGroupStart]), ?_⟩
    simp only [lastGroupStart, List.length_cons, List.length_nil, unusedBits]
    simp only [Nat.reduceAdd, Nat.reduceMod, Nat.reduceEqDiff, if_false, Nat.sub_self,
      List.drop_zero]
    omega
  | case3 a =>
    refine ⟨.inr (by simp [lastGroupStart]), ?_⟩
    simp only [lastGroupStart, List.length_cons, List.length_nil]
    simp only [Nat.reduceAdd, Nat.reduceMod, Nat.reduceEqDiff, if_false, Nat.sub_self,
      List.drop_zero, unusedBits]
    omega
  | case4 => simp [unusedBits]

/-! ## The round trip -/

/-- The padding that may follow a number of symbols: none, or the one or two signs that bring the
length to a multiple of four. -/
def Fills (padding symbols : Nat) : Prop :=
  padding = 0 ∨ (padding = 1 ∨ padding = 2) ∧ (symbols + padding) % 4 = 0

/-- Where the last group starts: after groups of four, with one to four symbols of its own, unless
the text is empty. -/
theorem lastGroupStart_facts (length : Nat) :
    lastGroupStart length % 4 = 0 ∧ lastGroupStart length ≤ length ∧
      length ≤ lastGroupStart length + 4 ∧ (0 < length → lastGroupStart length < length) := by
  unfold lastGroupStart
  split <;> omega

/-- The last group starts where it starts without padding. -/
theorem lastGroupStart_add_of_fills {padding symbols : Nat} (h : Fills padding symbols) :
    lastGroupStart (symbols + padding) = lastGroupStart symbols := by
  unfold lastGroupStart
  rcases h with rfl | ⟨hcount, hfull⟩
  · rfl
  · rw [if_pos hfull]
    split <;> omega

/-- Reading the symbols of a byte string, with padding that fills the last group or none, gives the
byte string. -/
theorem decodeBytes_padded (bytes : Bytes) {padding : Nat}
    (h : Fills padding (sextets bytes).length) :
    decodeBytes ((sextets bytes).map symbolByte ++ List.replicate padding paddingByte) =
      .ok bytes := by
  have hlt : ∀ value ∈ sextets bytes, value < 64 := fun _ => lt_of_mem_sextets
  obtain ⟨hgroup, hunused⟩ := lastGroup_sextets bytes
  have hback := bytesOfSextets_sextets bytes
  rw [← List.take_append_drop (lastGroupStart (sextets bytes).length) (sextets bytes)] at hback
  generalize hvalues : sextets bytes = values at h hlt hgroup hunused hback ⊢
  have hstart := lastGroupStart_add_of_fills h
  obtain ⟨hmod, hle, -, hwithin⟩ := lastGroupStart_facts values.length
  generalize lastGroupStart values.length = start at hgroup hunused hback hstart hmod hle hwithin
  have htake : (values.map symbolByte ++ List.replicate padding paddingByte).take start =
      (values.take start).map symbolByte := by
    rw [List.take_append_of_le_length (by rwa [List.length_map]), List.map_take]
  have hdrop : (values.map symbolByte ++ List.replicate padding paddingByte).drop start =
      (values.drop start).map symbolByte ++ List.replicate padding paddingByte := by
    rw [List.drop_append_of_le_length (by rwa [List.length_map]), List.map_drop]
  -- The last group has two values at least, unless the text is empty.
  have htwo : values.drop start = [] ∧ padding = 0 ∨ 2 ≤ (values.drop start).length := by
    refine hgroup.imp_left fun hnone => ⟨hnone, ?_⟩
    have hlength := List.drop_eq_nil_iff.mp hnone
    rcases h with h | ⟨hcount, hfull⟩
    · exact h
    · omega
  have hfirst := symbolValues_map 0 fun v hv => hlt v (List.mem_of_mem_take (i := start) hv)
  have hlast := lastGroup_map start 0 padding
    (fun v hv => hlt v (List.mem_of_mem_drop (i := start) hv)) (by omega)
  have hone : ((values.drop start).map symbolByte ++ List.replicate padding paddingByte).length ≠
      1 := by
    rw [List.length_append, List.length_map, List.length_replicate]
    rcases htwo with ⟨hnone, rfl⟩ | htwo
    · simp [hnone]
    · omega
  have hshort : ¬((values.drop start).map symbolByte ++ List.replicate padding paddingByte ≠ [] ∧
      (values.drop start).length < 2) := by
    rintro ⟨hne, hlt2⟩
    rcases htwo with ⟨hnone, rfl⟩ | htwo
    · simp [hnone] at hne
    · omega
  have hfills : ¬(padding ≠ 0 ∧ ((values.drop start).length + padding) % 4 ≠ 0) := by
    rw [List.length_drop]
    rintro ⟨hsome, hrest⟩
    rcases h with h | ⟨-, hfull⟩
    · exact hsome h
    · omega
  unfold decodeBytes
  dsimp only
  rw [List.length_append, List.length_map, List.length_replicate, hstart, htake, hdrop, if_neg hone]
  simp only [hfirst, hlast, Operation.ok_bind, if_neg hshort, if_neg hfills, hunused, hback, ne_eq,
    not_true_eq_false, if_false]
  rfl

/-- Decoding an encoding gives the byte string. -/
theorem decode_encode (bytes : Bytes) : decode (encode bytes) = .ok bytes := by
  have hread := decodeBytes_padded bytes (.inl rfl)
  rw [List.replicate_zero, List.append_nil] at hread
  rw [decode, trim_encode, ofText_encode, hread]

/-- Byte strings with one encoding are equal. -/
theorem encode_injective {bytes other : Bytes} (h : encode bytes = encode other) :
    bytes = other := by
  have hdecode := decode_encode bytes
  rw [h, decode_encode] at hdecode
  exact (Except.ok.inj hdecode).symm

end CredentialVault.Base64Url
