import CredentialVault.Proofs.Text.Base64Url

/-!
# What base64 decoding accepts

A text that was read is the symbols of what was read, with padding that fills the last group or none
(`decodeBytes_ok`): the last group has two symbols at least, and leaves no bit over. With the round
trip, decoding accepts the canonical texts of a byte string, up to white space around them, and no
others (`decode_canonical`).
-/

namespace CredentialVault.Base64Url

open Operation

/-! ## Symbols -/

/-- A byte with a value is the byte of the symbol of that value. -/
theorem value?_facts : ∀ n < 256, (value? (UInt8.ofNat n)).all
    (fun value => value < 64 && symbolByte value == UInt8.ofNat n) = true := by
  decide +kernel

/-- A value is below 64, and the byte that has it is that of its symbol. -/
theorem value?_eq_some {byte : UInt8} {value : Nat} (h : value? byte = some value) :
    value < 64 ∧ symbolByte value = byte := by
  have hfacts := value?_facts byte.toNat byte.toNat_lt
  rw [UInt8.ofNat_toNat, h] at hfacts
  simpa using hfacts

/-- Symbols that were read are those of their values. -/
theorem symbolValues_ok {offset : Nat} {text : Bytes} {values : List Nat}
    (h : symbolValues offset text = .ok values) :
    values.map symbolByte = text ∧ ∀ value ∈ values, value < 64 := by
  induction text generalizing offset values with
  | nil =>
    cases h
    exact ⟨rfl, nofun⟩
  | cons byte text ih =>
    rw [symbolValues] at h
    rcases hvalue : value? byte with _ | value <;> rw [hvalue] at h
    · cases h
    · dsimp only at h
      rcases hrest : symbolValues (offset + 1) text with e | rest <;> rw [hrest] at h <;> cases h
      obtain ⟨hlt, hbyte⟩ := value?_eq_some hvalue
      obtain ⟨htext, hall⟩ := ih hrest
      refine ⟨by rw [List.map_cons, hbyte, htext], fun other hother => ?_⟩
      rcases List.mem_cons.mp hother with rfl | hother
      · exact hlt
      · exact hall other hother

/-- Padding that was counted is all that there is. -/
theorem paddingCount_ok {first count : Nat} {text : Bytes}
    (h : paddingCount first text = .ok count) :
    text = List.replicate count paddingByte := by
  induction text generalizing count with
  | nil =>
    cases h
    rfl
  | cons byte text ih =>
    rw [paddingCount] at h
    split at h
    · next hbyte =>
      rcases hrest : paddingCount first text with e | rest <;> rw [hrest] at h <;> cases h
      rw [List.replicate_succ, hbyte, ← ih hrest]
    · cases h

/-- A last group that was read is the symbols of its values and the padding that was counted, which
comes after two symbols or more. -/
theorem lastGroup_ok {start seen padding : Nat} {text : Bytes} {values : List Nat}
    (h : lastGroup start seen text = .ok (values, padding)) :
    text = values.map symbolByte ++ List.replicate padding paddingByte ∧
      (∀ value ∈ values, value < 64) ∧ (padding ≠ 0 → 2 ≤ seen + values.length) := by
  induction text generalizing seen values padding with
  | nil =>
    cases h
    exact ⟨rfl, nofun, fun hnone => absurd rfl hnone⟩
  | cons byte text ih =>
    rw [lastGroup] at h
    split at h
    · next hbyte =>
      split at h
      · cases h
      · next hseen =>
        rcases hrest : paddingCount (start + seen) text with e | rest <;>
          rw [hrest] at h <;> cases h
        refine ⟨?_, nofun, fun _ => ?_⟩
        · rw [List.map_nil, List.nil_append, List.replicate_succ, hbyte, ← paddingCount_ok hrest]
        · rw [List.length_nil]
          omega
    · rcases hvalue : value? byte with _ | value <;> rw [hvalue] at h
      · cases h
      · dsimp only at h
        rcases hrest : lastGroup start (seen + 1) text with e | ⟨others, count⟩ <;>
          rw [hrest] at h <;> cases h
        obtain ⟨hlt, hbyte⟩ := value?_eq_some hvalue
        obtain ⟨htext, hall, hseen⟩ := ih hrest
        refine ⟨by rw [List.map_cons, hbyte, List.cons_append, ← htext], fun other hother => ?_,
          fun hpadding => ?_⟩
        · rcases List.mem_cons.mp hother with rfl | hother
          · exact hlt
          · exact hall other hother
        · have hcount := hseen hpadding
          simp only [List.length_cons] at hcount ⊢
          omega

/-! ## Groups -/

/-- Six-bit values whose last group leaves no bit over are those of the bytes they hold. -/
theorem sextets_bytesOfSextets {values : List Nat} (hlt : ∀ value ∈ values, value < 64)
    (hlength : values.length % 4 ≠ 1)
    (hunused : unusedBits (values.drop (lastGroupStart values.length)) = 0) :
    sextets (bytesOfSextets values) = values := by
  fun_induction bytesOfSextets values with
  | case1 a b c d rest ih => 
    have ha := hlt a (by simp)
    have hb := hlt b (by simp)
    have hc := hlt c (by simp)
    have hd := hlt d (by simp)
    have hrest : sextets (bytesOfSextets rest) = rest := by
      refine ih (fun value hvalue => hlt value (by simp [hvalue])) ?_ ?_
      · simp only [List.length_cons] at hlength
        omega
      · rcases rest with _ | ⟨value, values⟩
        · rfl
        · have hstart := lastGroupStart_add_four (value :: values).length (by simp)
          simp only [List.length_cons] at hstart hunused ⊢
          rw [hstart] at hunused
          simpa only [List.drop_succ_cons] using hunused
    simp only [sextets, hrest, UInt8.toNat_ofNat', List.cons.injEq, and_true]
    omega
  | case2 a b c =>
    have ha := hlt a (by simp)
    have hb := hlt b (by simp)
    have hc := hlt c (by simp)
    have hbits : c % 4 = 0 := hunused
    simp only [sextets, UInt8.toNat_ofNat', List.cons.injEq, and_true]
    omega
  | case3 a b => 
    have ha := hlt a (by simp)
    have hb := hlt b (by simp)
    have hbits : b % 16 = 0 := hunused
    simp only [sextets, UInt8.toNat_ofNat', List.cons.injEq, and_true]
    omega
  | case4 values hfour hthree htwo => 
    rcases values with _ | ⟨a, _ | ⟨b, _ | ⟨c, _ | ⟨d, rest⟩⟩⟩⟩
    · rfl
    · exact absurd rfl hlength
    · exact absurd rfl (htwo a b)
    · exact absurd rfl (hthree a b c)
    · exact absurd rfl (hfour a b c d rest)

/-- A check that was passed: its condition does not hold, and what comes after gave the result. -/
theorem check_ok {ε α : Type} {c : Prop} [Decidable c] {e : ε} {rest : PUnit → Except ε α} {a : α}
    (h : (if c then throw e >>= rest else rest ⟨⟩) = .ok a) : ¬c ∧ rest ⟨⟩ = .ok a := by
  split at h
  · cases h
  · next hc => exact ⟨hc, h⟩

/-- The reading of a text whose last group starts at `start`, after the first check of the last
symbol. -/
def readGroups (start : Nat) (text : Bytes) : Except Error Bytes := do
  let group := text.drop start
  let values ← symbolValues 0 (text.take start)
  let (lastValues, padding) ← lastGroup start 0 group
  if group ≠ [] ∧ lastValues.length < 2 then
    throw (.invalidLength (start + lastValues.length))
  if padding ≠ 0 ∧ (lastValues.length + padding) % 4 ≠ 0 then
    throw .invalidPadding
  if unusedBits lastValues ≠ 0 then
    let place := lastValues.length - 1
    throw (.invalidLastSymbol (group.getD place 0) (start + place))
  return bytesOfSextets (values ++ lastValues)

/-- A text that was read passed the first check. -/
theorem readGroups_of_decodeBytes {text bytes : Bytes} (h : decodeBytes text = .ok bytes) :
    readGroups (lastGroupStart text.length) text = .ok bytes := by
  unfold decodeBytes at h
  dsimp only at h
  split at h
  · split at h
    · exact (check_ok h).2
    · exact h
  · exact h

/-- The parts of a text that was read, and the checks they passed. -/
theorem readGroups_ok {start : Nat} {text bytes : Bytes} (h : readGroups start text = .ok bytes) :
    ∃ values lastValues padding, symbolValues 0 (text.take start) = .ok values ∧
      lastGroup start 0 (text.drop start) = .ok (lastValues, padding) ∧
      ¬(text.drop start ≠ [] ∧ lastValues.length < 2) ∧
      ¬(padding ≠ 0 ∧ (lastValues.length + padding) % 4 ≠ 0) ∧ unusedBits lastValues = 0 ∧
      bytes = bytesOfSextets (values ++ lastValues) := by
  unfold readGroups at h
  rcases hvalues : symbolValues 0 (text.take start) with e | values <;> rw [hvalues] at h
  · cases h
  rcases hlast : lastGroup start 0 (text.drop start) with e | ⟨lastValues, padding⟩ <;>
    simp only [hlast, ok_bind, error_bind] at h
  · cases h
  obtain ⟨hsize, h₁⟩ := check_ok h
  obtain ⟨hpadding, h₂⟩ := check_ok h₁
  obtain ⟨hunused, h₃⟩ := check_ok h₂
  cases h₃
  exact ⟨values, lastValues, padding, rfl, rfl, hsize, hpadding, Classical.not_not.mp hunused, rfl⟩

/-- A text that was read is the symbols of what was read, with padding that fills the last group or
none. -/
theorem decodeBytes_ok {text bytes : Bytes} (h : decodeBytes text = .ok bytes) :
    ∃ padding, Fills padding (sextets bytes).length ∧
      text = (sextets bytes).map symbolByte ++ List.replicate padding paddingByte := by
  obtain ⟨values, lastValues, padding, hvalues, hlast, hsize, hpadding, hunused, rfl⟩ :=
    readGroups_ok (readGroups_of_decodeBytes h)
  obtain ⟨hfirst, hlt⟩ := symbolValues_ok hvalues
  obtain ⟨hgroup, hlt', htwo⟩ := lastGroup_ok hlast
  obtain ⟨hstart, hle, hle', hwithin⟩ := lastGroupStart_facts text.length
  generalize lastGroupStart text.length = start at *
  have hcount : values.length = start := by
    have := congrArg List.length hfirst
    rw [List.length_map, List.length_take] at this
    omega
  have hcount' : text.length = start + (lastValues.length + padding) := by
    have := congrArg List.length hgroup
    rw [List.length_drop, List.length_append, List.length_map, List.length_replicate] at this
    omega
  -- The last group has two values at least, unless the text is empty.
  have htwo : text.length = 0 ∨ 2 ≤ lastValues.length := by
    rcases Nat.eq_zero_or_pos text.length with hempty | hsome
    · exact .inl hempty
    · have hgroup : text.drop start ≠ [] := fun hnone =>
        absurd (List.drop_eq_nil_iff.mp hnone) (by have := hwithin hsome; omega)
      exact .inr (Nat.le_of_not_lt fun hshort => hsize ⟨hgroup, hshort⟩)
  have hsextets : sextets (bytesOfSextets (values ++ lastValues)) = values ++ lastValues := by
    refine sextets_bytesOfSextets (fun value hvalue => ?_) ?_ ?_
    · exact (List.mem_append.mp hvalue).elim (hlt value) (hlt' value)
    · rw [List.length_append]
      omega
    · have hlastStart : lastGroupStart (values ++ lastValues).length = values.length := by
        rw [List.length_append]
        unfold lastGroupStart
        split <;> omega
      rw [hlastStart, List.drop_left, hunused]
  refine ⟨padding, ?_, ?_⟩
  · rw [hsextets, List.length_append]
    unfold Fills
    omega
  · rw [hsextets, List.map_append, hfirst, List.append_assoc, ← hgroup, List.take_append_drop]

/-! ## Texts -/

/-- A text that is `core`, or `core` with exactly the one or two equals signs after it that bring
its length to a multiple of four. -/
inductive Padded (core : String) : String → Prop where
  /-- Without padding. -/
  | bare : Padded core core
  /-- With one sign. -/
  | one (h : (core.length + 1) % 4 = 0) : Padded core (core ++ "=")
  /-- With two signs. -/
  | two (h : (core.length + 2) % 4 = 0) : Padded core (core ++ "==")

/-- The padding is none, one sign or two, and fills the last group. -/
theorem padded_iff {core text : String} :
    Padded core text ↔ ∃ padding, Fills padding core.length ∧
      text = core ++ String.ofList (List.replicate padding '=') := by
  constructor
  · rintro (_ | h | h)
    · exact ⟨0, .inl rfl, (String.append_empty).symm⟩
    · exact ⟨1, .inr ⟨.inl rfl, h⟩, rfl⟩
    · exact ⟨2, .inr ⟨.inr rfl, h⟩, rfl⟩
  · rintro ⟨padding, rfl | ⟨rfl | rfl, h⟩, rfl⟩
    · have hbare : core ++ String.ofList (List.replicate 0 '=') = core := String.append_empty
      rw [hbare]
      exact .bare
    · exact .one h
    · exact .two h

/-- The number of symbols of an encoding. -/
theorem length_encode (bytes : Bytes) : (encode bytes).length = (sextets bytes).length := by
  rw [encode, String.length_ofList, encodeChars, List.length_map]

/-- The form of an encoding with signs after it. -/
theorem ofText_encode_append (bytes : Bytes) (padding : Nat) :
    Bytes.ofText (encode bytes ++ String.ofList (List.replicate padding '=')) =
      (sextets bytes).map symbolByte ++ List.replicate padding paddingByte := by
  have hsigns : Bytes.ofChars (List.replicate padding '=') =
      List.replicate padding paddingByte := by
    rw [Bytes.ofChars_of_lt (by simp +decide), List.map_replicate]
    rfl
  rw [Bytes.ofText_eq_ofChars, String.toList_append, Bytes.ofChars_append, String.toList_ofList,
    hsigns, ← Bytes.ofText_eq_ofChars, ofText_encode]

/-- A text is read as a byte string exactly when, without the white space around it, it is the
encoding of the byte string with padding or without. -/
theorem decode_eq_ok_iff {text : String} {bytes : Bytes} :
    decode text = .ok bytes ↔ Padded (encode bytes) (Text.trim text) := by
  have hdecode : decode text = .ok bytes ↔
      decodeBytes (Bytes.ofText (Text.trim text)) = .ok bytes := by
    unfold decode
    split <;> simp_all
  rw [hdecode, padded_iff, length_encode]
  constructor
  · intro h
    obtain ⟨padding, hfills, htext⟩ := decodeBytes_ok h
    rw [← ofText_encode_append] at htext
    exact ⟨padding, hfills, Bytes.ofText_injective htext⟩
  · rintro ⟨padding, hfills, htext⟩
    rw [htext, ofText_encode_append, decodeBytes_padded bytes hfills]

/-- A padded encoding has no white space. -/
theorem Padded.isBlank_of_mem {bytes : Bytes} {text : String} (h : Padded (encode bytes) text) :
    ∀ c ∈ text.toList, Text.isBlank c = false := by
  obtain ⟨padding, -, rfl⟩ := padded_iff.mp h
  intro c hc
  rw [String.toList_append, List.mem_append, encode, String.toList_ofList,
    String.toList_ofList] at hc
  rcases hc with hc | hc
  · exact isBlank_of_mem_encodeChars hc
  · rw [List.eq_of_mem_replicate hc]
    decide

/-- A text that is `core`, padded or not, with white space around it or none. -/
def Wrapped (core text : String) : Prop :=
  ∃ padded, Padded core padded ∧ Text.Surrounded padded text

/-- A text that cannot be read is answered with a serialization error. -/
theorem decode_error {text : String} (h : ∀ bytes, decode text ≠ .ok bytes) :
    ∃ reason, decode text = .error (.serialization reason) := by
  rcases hread : decodeBytes (Bytes.ofText (Text.trim text)) with e | bytes
  · exact ⟨_, by rw [decode, hread]⟩
  · exact absurd (by rw [decode, hread]) (h bytes)

/-- A text is read as a byte string exactly when it is the encoding of the byte string, padded or
not, with white space around it or none. -/
theorem decode_ok_iff_wrapped {text : String} {bytes : Bytes} :
    decode text = .ok bytes ↔ Wrapped (encode bytes) text := by
  rw [decode_eq_ok_iff]
  constructor
  · exact fun h => ⟨Text.trim text, h, (Text.trim_eq_iff h.isBlank_of_mem).mp rfl⟩
  · rintro ⟨padded, h, hsurrounded⟩
    rwa [(Text.trim_eq_iff h.isBlank_of_mem).mpr hsurrounded]

/-- A text is read with an expected length exactly when it is read and has that length. -/
theorem decodeExact_eq_ok_iff {length : Nat} {text : String} {bytes : Bytes} :
    decodeExact length text = .ok bytes ↔ decode text = .ok bytes ∧ bytes.length = length := by
  unfold decodeExact
  rcases decode text with e | read
  · exact ⟨nofun, nofun⟩
  · rw [ok_bind]
    constructor
    · intro h
      split at h
      · next hlength =>
        cases h
        exact ⟨rfl, hlength⟩
      · cases h
    · rintro ⟨hread, hlength⟩
      cases hread
      rw [if_pos hlength]
      rfl

/-- Decoding accepts exactly the canonical texts: the encoding of a byte string, or that encoding
with the one or two equals signs that bring its length to a multiple of four, with white space
around it or none. It answers any other text with a serialization error. So the encoding of a byte
string is read back, two texts are read alike only when they agree up to white space around them and
padding, and a text is read with an expected length exactly when it is read and has that length. -/
theorem decode_canonical :
    (∀ text bytes, decode text = .ok bytes ↔ Wrapped (encode bytes) text) ∧
    (∀ text, (∀ bytes, ¬Wrapped (encode bytes) text) →
      ∃ reason, decode text = .error (.serialization reason)) ∧
    (∀ bytes, decode (encode bytes) = .ok bytes) ∧
    (∀ text other bytes, decode text = .ok bytes → decode other = .ok bytes →
      ∃ core, Wrapped core text ∧ Wrapped core other) ∧
    ∀ length text bytes, decodeExact length text = .ok bytes ↔
      decode text = .ok bytes ∧ bytes.length = length := by
  refine ⟨fun _ _ => decode_ok_iff_wrapped, fun text h => decode_error fun bytes hread => ?_,
    decode_encode, fun text other bytes htext hother => ?_, fun _ _ _ => decodeExact_eq_ok_iff⟩
  · exact h bytes (decode_ok_iff_wrapped.mp hread)
  · exact ⟨encode bytes, decode_ok_iff_wrapped.mp htext, decode_ok_iff_wrapped.mp hother⟩

/-- Two bytes: their three symbols with one sign after them, a space before and a line end after
that, are read like the symbols alone; two signs are refused. -/
theorem decode_canonical_padded :
    decode " AQI=\n" = .ok [1, 2] ∧ decode "AQI" = .ok [1, 2] ∧
      (∃ core, Wrapped core " AQI=\n" ∧ Wrapped core "AQI") ∧
      (∃ reason, decode "AQI==" = .error (.serialization reason)) ∧
      decodeExact 2 " AQI=\n" = .ok [1, 2] := by
  obtain ⟨haccepts, hrefuses, hback, hagree, hexact⟩ := decode_canonical
  have hencode : encode [1, 2] = "AQI" := by decide +kernel
  have hbare : decode "AQI" = .ok [1, 2] := by
    rw [← hencode]
    exact hback [1, 2]
  have hpadded : decode " AQI=\n" = .ok [1, 2] := by
    have hspace : ∀ c ∈ " ".toList, Text.isBlank c = true := List.all_eq_true.mp (by decide)
    have hline : ∀ c ∈ "\n".toList, Text.isBlank c = true := List.all_eq_true.mp (by decide)
    refine (haccepts _ _).mpr ⟨"AQI=", ?_, " ", "\n", hspace, hline, rfl⟩
    rw [hencode]
    exact .one rfl
  have hrefused : (decode "AQI==").isOk = false := by decide +kernel
  refine ⟨hpadded, hbare, hagree _ _ _ hpadded hbare, hrefuses _ fun bytes hwrapped => ?_,
    (hexact _ _ _).mpr ⟨hpadded, rfl⟩⟩
  rw [(haccepts _ bytes).mpr hwrapped] at hrefused
  cases hrefused

end CredentialVault.Base64Url
