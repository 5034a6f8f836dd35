import CredentialVault.Proofs.Json.Reads

/-!
# Objects of JSON are read back

Bytes spell a value (`Spells`) when they are its JSON form up to the white space between the members
of its objects; the compact and the indented form of a value both do (`spells_compact`,
`spells_indented`). A reader of objects goes through the members one by one (`MembersRead`), and so
finds what each of them gives: `Fields.reads` for values with named fields, and `reads_dictionary`
for tables.
-/

namespace CredentialVault.Json

variable {α σ : Type}

/-! ## Spellings -/

/-- The white space of an object: before each member, after its colon, and before the end. -/
structure Spacing where
  /-- Before each member. -/
  before : Bytes
  /-- After the colon of each member. -/
  between : Bytes
  /-- Before the end. -/
  after : Bytes
  /-- All of it is white space. -/
  isSpace_before : IsSpace before
  /-- All of it is white space. -/
  isSpace_between : IsSpace between
  /-- All of it is white space. -/
  isSpace_after : IsSpace after

/-- The members of an object up to its end, each given by its key and the bytes of its value. -/
def memberBytes (spacing : Spacing) (isFirst : Bool) : List (String × Bytes) → Bytes
  | [] => spacing.after ++ [125]
  | (key, value) :: rest =>
    (if isFirst then [] else [44]) ++ (spacing.before ++ (Bytes.ofChars (quote key) ++
      58 :: (spacing.between ++ (value ++ memberBytes spacing false rest))))

/-- An object with the given members. -/
def objectBytes (spacing : Spacing) (members : List (String × Bytes)) : Bytes :=
  123 :: memberBytes spacing true members

mutual

/-- Bytes are the JSON form of a value, up to the white space in its objects. -/
inductive Spells : Value → Bytes → Prop where
  /-- A string between its quotes. -/
  | text (value : String) : Spells (.text value) (Bytes.ofChars (quote value))
  /-- A whole number. -/
  | integer (value : Int) : Spells (.integer value) (Bytes.ofChars (integerChars value))
  /-- An object. -/
  | object {members : List (String × Value)} {items : List (String × Bytes)} (spacing : Spacing)
      (h : MembersSpell members items) : Spells (.object members) (objectBytes spacing items)

/-- The bytes of each member's value spell the value. -/
inductive MembersSpell : List (String × Value) → List (String × Bytes) → Prop where
  /-- There are no members. -/
  | nil : MembersSpell [] []
  /-- One more member. -/
  | cons {key : String} {value : Value} {bytes : Bytes} {members : List (String × Value)}
      {items : List (String × Bytes)} (h : Spells value bytes) (hrest : MembersSpell members items) :
      MembersSpell ((key, value) :: members) ((key, bytes) :: items)

end

/-- No white space. -/
def Spacing.none : Spacing := ⟨[], [], [], isSpace_nil, isSpace_nil, isSpace_nil⟩

/-- The start of a line is white space. -/
theorem isSpace_newLine (depth : Nat) : IsSpace (Bytes.ofChars (Value.newLine depth)) := by
  have hblank : ∀ c ∈ Value.newLine depth, c = '\n' ∨ c = ' ' := by
    intro c hc
    rcases List.mem_cons.mp hc with rfl | hc
    · exact .inl rfl
    · exact .inr (List.eq_of_mem_replicate hc)
  intro byte hbyte
  rw [Bytes.ofChars_of_lt fun c hc => by rcases hblank c hc with rfl | rfl <;> decide] at hbyte
  obtain ⟨c, hc, rfl⟩ := List.mem_map.mp hbyte
  rcases hblank c hc with rfl | rfl <;> decide

/-- Each member on a line of its own, one level deeper than `depth`. -/
def Spacing.lines (depth : Nat) : Spacing :=
  ⟨Bytes.ofChars (Value.newLine (depth + 1)), [32], Bytes.ofChars (Value.newLine depth),
    isSpace_newLine _, by simp [IsSpace, isSpace], isSpace_newLine _⟩

/-! ## Members -/

/-- What comes after the value of a member may come after a value. -/
theorem ends_memberBytes (spacing : Spacing) (items : List (String × Bytes)) (rest : Bytes) :
    Ends (memberBytes spacing false items ++ rest) := by
  rcases items with _ | ⟨⟨key, value⟩, items⟩
  · rw [memberBytes]
    rcases hafter : spacing.after with _ | ⟨byte, after⟩
    · exact ends_cons _ (by simp)
    · have hspace := spacing.isSpace_after byte (by simp [hafter])
      exact ends_cons _ (by simp [hspace])
  · exact ends_cons _ (by simp)

/-- Each member takes a byte at least. -/
theorem length_le_memberBytes (spacing : Spacing) (isFirst : Bool) (items : List (String × Bytes)) :
    items.length ≤ (memberBytes spacing isFirst items).length := by
  induction items generalizing isFirst with
  | nil => simp
  | cons item items ih =>
    have := ih false
    simp only [memberBytes, List.length_append, List.length_cons]
    omega

/-- The end of an object is found. -/
theorem nextMember_end {space : Bytes} (hspace : IsSpace space) (isFirst : Bool) (rest : Bytes) :
    Reader.nextMember isFirst (space ++ 125 :: rest) = .ok (false, 125 :: rest) := by
  unfold Reader.nextMember
  rw [Reader.bind_of_ok (Reader.peek_append hspace (by decide) _)]
  rfl

/-- The next member of an object is found. -/
theorem nextMember_quote {space : Bytes} (hspace : IsSpace space) (isFirst : Bool) (rest : Bytes) :
    Reader.nextMember isFirst ((if isFirst then [] else [44]) ++ (space ++ 34 :: rest)) =
      .ok (true, 34 :: rest) := by
  have hquote : Reader.peek (space ++ 34 :: rest) = .ok (some 34, 34 :: rest) :=
    Reader.peek_append hspace (by decide) rest
  unfold Reader.nextMember
  cases isFirst
  · simp only [Bool.false_eq_true, if_false, List.cons_append, List.nil_append]
    rw [Reader.bind_of_ok (Reader.peek_cons (by decide) _)]
    dsimp only
    rw [if_neg (by decide), if_neg (by decide), Reader.bind_of_ok (Reader.advance_cons ..),
      Reader.bind_of_ok hquote]
    rfl
  · simp only [if_true, List.nil_append]
    rw [Reader.bind_of_ok hquote]
    rfl

/-- A reader of members goes from one state to another with the given members. -/
inductive MembersRead (member : String → σ → Reader σ) (spacing : Spacing) :
    σ → List (String × Bytes) → σ → Prop where
  /-- There are no members. -/
  | nil (state : σ) : MembersRead member spacing state [] state
  /-- One more member is read. -/
  | cons {key : String} {value : Bytes} {items : List (String × Bytes)} {state next last : σ}
      (h : Reads (member key state) next (58 :: (spacing.between ++ value)))
      (hrest : MembersRead member spacing next items last) :
      MembersRead member spacing state ((key, value) :: items) last

/-- The members of an object are read one by one, up to its end. -/
theorem members_ok {member : String → σ → Reader σ} {spacing : Spacing} {state last : σ}
    {items : List (String × Bytes)} (h : MembersRead member spacing state items last)
    (isFirst : Bool) {steps : Nat} (hsteps : items.length < steps) (rest : Bytes) :
    Reader.members member steps isFirst state (memberBytes spacing isFirst items ++ rest) =
      .ok (last, rest) := by
  -- By induction on the members, each of which takes one of the steps.
  induction h generalizing isFirst steps with
  | nil state =>
    obtain ⟨steps, rfl⟩ : ∃ n, steps = n + 1 := ⟨steps - 1, by simp at hsteps; omega⟩
    rw [memberBytes, Reader.members, List.append_assoc, List.singleton_append,
      Reader.bind_of_ok (nextMember_end spacing.isSpace_after isFirst rest)]
    rfl
  | @cons key value items state next last h hrest ih =>
    obtain ⟨steps, rfl⟩ : ∃ n, steps = n + 1 := ⟨steps - 1, by simp at hsteps; omega⟩
    have hnext := h [] _ isSpace_nil (ends_memberBytes spacing items rest)
    have hlater := ih false (show items.length < steps by simpa using hsteps)
    simp only [List.nil_append, List.cons_append, List.append_assoc] at hnext
    simp only [memberBytes, ofChars_quote, List.append_assoc, List.cons_append, List.nil_append]
    rw [Reader.members, Reader.bind_of_ok (nextMember_quote spacing.isSpace_before isFirst _),
      if_pos rfl, Reader.bind_of_ok (Reader.advance_cons ..),
      Reader.bind_of_ok (a := key) (by rw [Reader.token, scanString_flatMap]; rfl),
      Reader.bind_of_ok hnext]
    exact hlater

/-- The members of an object are read, after its opening brace. -/
theorem objectBody_ok {member : String → σ → Reader σ} {spacing : Spacing} {state last : σ}
    {items : List (String × Bytes)} (h : MembersRead member spacing state items last)
    (rest : Bytes) :
    Reader.objectBody member state (memberBytes spacing true items ++ rest) = .ok (last, rest) := by
  -- There are as many steps as bytes, and so as members at least.
  have hlength := length_le_memberBytes spacing true items
  unfold Reader.objectBody
  rw [Reader.bind_of_ok (a := memberBytes spacing true items ++ rest) (by rfl)]
  exact members_ok h true (by rw [List.length_append]; omega) rest

/-- The colon after a key is left out. -/
theorem Reads.colon {reader : Reader α} {value : α} {bytes : Bytes} (h : Reads reader value bytes)
    (spacing : Spacing) :
    Reads (do Reader.colon; reader) value (58 :: (spacing.between ++ bytes)) := by
  intro space rest hspace hrest
  have hcolon : Reader.colon (space ++ 58 :: (spacing.between ++ bytes) ++ rest) =
      .ok ((), spacing.between ++ (bytes ++ rest)) := by
    unfold Reader.colon
    rw [List.append_assoc, List.cons_append,
      Reader.bind_of_ok (Reader.peek_append hspace (by decide) _), List.append_assoc]
    rfl
  rw [← List.append_assoc, Reader.bind_of_ok hcolon]
  exact h _ _ spacing.isSpace_between hrest

/-! ## Values with named fields -/

/-- A member that is a field is read as the field. -/
theorem Fields.member_reads {shape : Fields σ} {key : String} {field : Field σ} {draft next : σ}
    {value : Bytes} (hfind : shape.fields.find? (·.name = key) = some field)
    (hgiven : field.isGiven draft = false) (h : Reads (field.read draft) next value)
    (spacing : Spacing) :
    Reads (shape.member key draft) next (58 :: (spacing.between ++ value)) := by
  have hmember : shape.member key draft = (do Reader.colon; field.read draft) := by
    unfold Fields.member
    simp [hfind, hgiven]
  rw [hmember]
  exact h.colon spacing

/-- A value with named fields is read back when its members give all fields that it must have. -/
theorem Fields.reads {shape : Fields σ} {spacing : Spacing} {items : List (String × Bytes)}
    {draft : σ} (h : MembersRead shape.member spacing shape.empty items draft)
    (hall : shape.fields.find? (fun field => !field.isOptional && !field.isGiven draft) = none) :
    Reads shape.read draft (objectBytes spacing items) := by
  intro space rest hspace _
  have hbody := objectBody_ok h rest
  unfold Fields.read objectBytes
  rw [List.cons_append, Reader.bind_of_ok (Reader.peek_append hspace (by decide) _)]
  dsimp only
  rw [if_pos rfl, Reader.bind_of_ok (Reader.advance_cons ..),
    Reader.bind_of_ok hbody, hall]
  rfl

/-! ## Tables -/

/-- The entries that a table read row by row ends with. -/
def gather (entries rows : List (String × α)) : List (String × α) :=
  rows.foldl (fun entries row => entries.filter (·.1 ≠ row.1) ++ [row]) entries

/-- The rows of a table are read in order. -/
theorem membersRead_rows {value : Reader α} {toJson : α → Value} {spacing : Spacing}
    {rows : List (String × α)} {items : List (String × Bytes)} {entries : List (String × α)}
    (hread : ∀ row ∈ rows, ∀ bytes, Spells (toJson row.2) bytes → Reads value row.2 bytes)
    (h : MembersSpell (rows.map fun row => (row.1, toJson row.2)) items) :
    MembersRead (fun key entries => do
      Reader.colon
      let item ← value
      return entries.filter (·.1 ≠ key) ++ [(key, item)]) spacing entries items
      (gather entries rows) := by
  induction rows generalizing items entries with
  | nil =>
    cases h
    exact .nil entries
  | cons row rows ih =>
    obtain ⟨key, content⟩ := row
    cases h with
    | cons hspell hrest =>
      have hcontent := hread _ (by simp) _ hspell
      refine .cons ?_ (ih (fun r hr => hread r (by simp [hr])) hrest)
      exact Reads.colon (hcontent.map fun item => entries.filter (·.1 ≠ key) ++ [(key, item)])
        spacing

/-- A table is read back. -/
theorem reads_dictionary {value : Reader α} {toJson : α → Value} {rows : List (String × α)}
    {bytes : Bytes}
    (hread : ∀ row ∈ rows, ∀ bytes, Spells (toJson row.2) bytes → Reads value row.2 bytes)
    (h : Spells (.object (rows.map fun row => (row.1, toJson row.2))) bytes) :
    Reads (Reader.dictionary value) (gather [] rows) bytes := by
  cases h with
  | object spacing hmembers =>
    intro space rest hspace _
    have hrows : MembersRead _ spacing [] _ (gather [] rows) := membersRead_rows hread hmembers
    have hbody := objectBody_ok hrows rest
    unfold Reader.dictionary objectBytes
    rw [List.cons_append, Reader.bind_of_ok (Reader.peek_append hspace (by decide) _)]
    dsimp only
    rw [if_pos rfl, Reader.bind_of_ok (Reader.advance_cons ..)]
    exact hbody

/-- Rows of other keys do not change the entries of a key. -/
theorem filter_gather_of_nil {key : String} {entries rows : List (String × α)}
    (h : rows.filter (·.1 = key) = []) :
    (gather entries rows).filter (·.1 = key) = entries.filter (·.1 = key) := by
  induction rows generalizing entries with
  | nil => rfl
  | cons row rows ih =>
    have hrow : row.1 ≠ key := by
      intro heq
      simp [heq] at h
    have hrows : rows.filter (·.1 = key) = [] := by simpa [hrow] using h
    rw [gather, List.foldl_cons, ← gather, ih hrows, List.filter_append, List.filter_filter]
    simp only [hrow, decide_false, List.filter_cons, Bool.false_eq_true, if_false, List.filter_nil,
      List.append_nil]
    refine List.filter_congr fun entry _ => ?_
    by_cases hentry : entry.1 = key <;> simp [hentry, Ne.symm hrow]

/-- The only row of a key is its only entry. -/
theorem filter_gather {key : String} {value : α} {entries rows : List (String × α)}
    (h : rows.filter (·.1 = key) = [(key, value)]) :
    (gather entries rows).filter (·.1 = key) = [(key, value)] := by
  induction rows generalizing entries with
  | nil => cases h
  | cons row rows ih =>
    rw [gather, List.foldl_cons, ← gather]
    -- The row of the key drops the entries before it, and no row after it is of the key.
    by_cases hrow : row.1 = key
    · rw [List.filter_cons_of_pos (by simp [hrow])] at h
      obtain ⟨rfl, hrows⟩ := List.cons.inj h
      rw [filter_gather_of_nil hrows, List.filter_append, List.filter_filter]
      simp
    · rw [List.filter_cons_of_neg (by simp [hrow])] at h
      exact ih h

/-! ## The compact and the indented form -/

/-- Later members differ from the first by the comma before them. -/
theorem memberBytes_false {items : List (String × Bytes)} (h : items ≠ []) (spacing : Spacing) :
    memberBytes spacing false items = 44 :: memberBytes spacing true items := by
  cases items with
  | nil => exact absurd rfl h
  | cons item items => simp [memberBytes]

/-- The members of the compact form, up to the closing brace. -/
theorem ofChars_compactMembers : ∀ members : List (String × Value),
    Bytes.ofChars (Value.compactMembers members) ++ [125] =
      memberBytes .none true (members.map fun m => (m.1, Bytes.ofChars m.2.compactChars))
  | [] => rfl
  | [(key, value)] => by
    have hcolon : String.utf8EncodeChar ':' = [58] := by decide
    simp [Value.compactMembers, memberBytes, Spacing.none, Bytes.ofChars_cons, hcolon]
  | (key, value) :: member :: rest => by
    have hcolon : String.utf8EncodeChar ':' = [58] := by decide
    have hcomma : String.utf8EncodeChar ',' = [44] := by decide
    have hrest := ofChars_compactMembers (member :: rest)
    rw [List.map_cons, memberBytes, memberBytes_false (by simp), ← hrest]
    simp [Value.compactMembers, Spacing.none, Bytes.ofChars_cons, hcolon, hcomma]

mutual

/-- The compact form of a value spells it. -/
theorem spells_compactChars : ∀ value : Value, Spells value (Bytes.ofChars value.compactChars)
  | .text value => by
    rw [Value.compactChars]
    exact .text value
  | .integer value => by
    rw [Value.compactChars]
    exact .integer value
  | .object members => by
    have hopen : String.utf8EncodeChar '\x7b' = [123] := by decide
    have hclose : Bytes.ofChars ['\x7d'] = [125] := by decide
    have hspell := Spells.object .none (membersSpell_compactChars members)
    rw [objectBytes, ← ofChars_compactMembers] at hspell
    rw [Value.compactChars, List.cons_append, Bytes.ofChars_cons, hopen, Bytes.ofChars_append, hclose]
    exact hspell

/-- The members of the compact form spell the members. -/
theorem membersSpell_compactChars : ∀ members : List (String × Value),
    MembersSpell members (members.map fun m => (m.1, Bytes.ofChars m.2.compactChars))
  | [] => .nil
  | (_, value) :: rest => .cons (spells_compactChars value) (membersSpell_compactChars rest)

end

/-- The members of the indented form, up to the closing brace. -/
theorem ofChars_indentedMembers (depth : Nat) : ∀ members : List (String × Value), members ≠ [] →
    Bytes.ofChars (Value.indentedMembers (depth + 1) members) ++
        (Bytes.ofChars (Value.newLine depth) ++ [125]) =
      memberBytes (.lines depth) true
        (members.map fun m => (m.1, Bytes.ofChars (m.2.indentedChars (depth + 1))))
  | [], h => absurd rfl h
  | [(key, value)], _ => by
    have hcolon : String.utf8EncodeChar ':' = [58] := by decide
    have hblank : String.utf8EncodeChar ' ' = [32] := by decide
    simp [Value.indentedMembers, memberBytes, Spacing.lines, Bytes.ofChars_cons, hcolon, hblank]
  | (key, value) :: member :: rest, _ => by
    have hcolon : String.utf8EncodeChar ':' = [58] := by decide
    have hblank : String.utf8EncodeChar ' ' = [32] := by decide
    have hcomma : String.utf8EncodeChar ',' = [44] := by decide
    have hrest := ofChars_indentedMembers depth (member :: rest) (by simp)
    rw [List.map_cons, memberBytes, memberBytes_false (by simp), ← hrest]
    simp [Value.indentedMembers, Spacing.lines, Bytes.ofChars_cons, hcolon, hblank, hcomma]

mutual

/-- The indented form of a value spells it. -/
theorem spells_indentedChars (depth : Nat) : ∀ value : Value,
    Spells value (Bytes.ofChars (value.indentedChars depth))
  | .text value => by
    rw [Value.indentedChars]
    exact .text value
  | .integer value => by
    rw [Value.indentedChars]
    exact .integer value
  | .object [] => by
    have hbytes : Bytes.ofChars ['\x7b', '\x7d'] = objectBytes .none [] := by decide
    rw [Value.indentedChars, hbytes]
    exact .object .none .nil
  | .object (member :: rest) => by
    have hopen : String.utf8EncodeChar '\x7b' = [123] := by decide
    have hclose : Bytes.ofChars ['\x7d'] = [125] := by decide
    have hspell := Spells.object (.lines depth) (membersSpell_indentedChars depth (member :: rest))
    rw [objectBytes, ← ofChars_indentedMembers depth _ (by simp)] at hspell
    rw [Value.indentedChars, List.append_assoc, List.cons_append, Bytes.ofChars_cons, hopen,
      Bytes.ofChars_append, Bytes.ofChars_append, hclose]
    exact hspell

/-- The members of the indented form spell the members. -/
theorem membersSpell_indentedChars (depth : Nat) : ∀ members : List (String × Value),
    MembersSpell members
      (members.map fun m => (m.1, Bytes.ofChars (m.2.indentedChars (depth + 1))))
  | [] => .nil
  | (_, value) :: rest =>
    .cons (spells_indentedChars (depth + 1) value) (membersSpell_indentedChars depth rest)

end

/-- The compact text of a value spells it. -/
theorem spells_compact (value : Value) : Spells value (Bytes.ofText value.compact) := by
  rw [Value.compact, Bytes.ofText_ofList]
  exact spells_compactChars value

/-- The indented text of a value spells it. -/
theorem spells_indented (value : Value) : Spells value (Bytes.ofText value.indented) := by
  rw [Value.indented, Bytes.ofText_ofList]
  exact spells_indentedChars 0 value

/-- A text that is one value and nothing else is read back. -/
theorem Reads.run {reader : Reader α} {value : α} {bytes : Bytes} (h : Reads reader value bytes) :
    reader.run bytes = .ok value := by
  have hread := h [] [] isSpace_nil ends_nil
  rw [List.nil_append, List.append_nil] at hread
  unfold Reader.run
  rw [hread]
  rfl

/-! ## How values begin -/

/-- A value of another kind is never read. -/
theorem Reader.wrongKind_ne_ok {α : Type} {byte : UInt8} {expected : String} {bytes rest : Bytes}
    {value : α} : wrongKind byte expected bytes ≠ .ok (value, rest) := by
  have hfail : ∀ {β : Type} {first : Reader β} {found : β → Found},
      (do throw (.wrongKind (found (← first)) expected) : Reader α) bytes ≠ .ok (value, rest) := by
    intro β first found h
    rcases hfirst : first bytes with e | ⟨b, later⟩
    · simp only [bind, StateT.bind, hfirst, Except.bind] at h
      cases h
    · rw [bind_of_ok hfirst] at h
      cases h
  unfold wrongKind
  repeat' split
  · exact @hfail Unit (word [117, 108, 108]) fun _ => .null
  · exact @hfail Unit (word [114, 117, 101]) fun _ => .boolean true
  · exact @hfail Unit (word [97, 108, 115, 101]) fun _ => .boolean false
  · exact hfail
  · exact @hfail String (do advance; token scanString) .text
  · nofun
  · nofun
  · nofun

/-- Whether a value with named fields may begin with a byte: an object or a list, or white space
before it. -/
def beginsFields (byte : UInt8) : Bool :=
  isSpace byte || byte == 123 || byte == 91

/-- A value with named fields begins with one of six bytes. -/
theorem beginsFields_cases {byte : UInt8} (h : beginsFields byte = true) :
    byte = 32 ∨ byte = 10 ∨ byte = 9 ∨ byte = 13 ∨ byte = 123 ∨ byte = 91 := by
  simpa [beginsFields, isSpace, or_assoc] using h

/-- What is read as a value with named fields begins so. -/
theorem Fields.read_begins {σ : Type} {shape : Fields σ} {bytes : Bytes} {draft : σ}
    (h : shape.read.run bytes = .ok draft) :
    ∃ first rest, bytes = first :: rest ∧ beginsFields first = true := by
  have hread : ∃ rest, shape.read bytes = .ok (draft, rest) := by
    unfold Reader.run at h
    rcases hread : shape.read bytes with e | ⟨value, rest⟩ <;> rw [hread] at h
    · cases h
    · refine ⟨rest, ?_⟩
      simp only [bind, Except.bind] at h
      split at h <;> cases h
      rfl
  obtain ⟨rest, hread⟩ := hread
  have hpeek : Reader.peek bytes = .ok ((skipSpace bytes).head?, skipSpace bytes) := rfl
  unfold read at hread
  rw [Reader.bind_of_ok hpeek] at hread
  cases bytes with
  | nil => cases hread
  | cons first later =>
    refine ⟨first, later, rfl, ?_⟩
    unfold beginsFields
    by_cases hspace : isSpace first = true
    · rw [hspace]
      rfl
    have hskip : skipSpace (first :: later) = first :: later := List.dropWhile_cons_of_neg hspace
    rw [hskip] at hread
    dsimp only [List.head?_cons] at hread
    split at hread
    · next hobject => simp [hobject]
    · split at hread
      · next hlist => simp [hlist]
      · exact absurd hread Reader.wrongKind_ne_ok

end CredentialVault.Json
