import CredentialVault.Proofs.Files.Tree

/-!
# Names in paths

The names in a path that was joined from two are those in the first and then those in the second
(`names_join`). So a file in a directory has its own name as the last one (`lastName_join`), and at
its location as well (`databaseLocation?_lastName`), which tells it from the other files there.
-/

namespace CredentialVault.Files

/-! ## Pieces -/

/-- The pieces of a text between its slashes, without the empty ones. -/
def pieces (text : List Char) : List (List Char) :=
  (text.splitOnP (· = '/')).filter (· ≠ [])

/-- The names in a path are its pieces. -/
theorem names_eq (path : String) : names path = (pieces path.toList).map String.ofList := rfl

/-- There are no pieces in nothing. -/
theorem pieces_nil : pieces [] = [] := by decide

/-- A slash parts the pieces before it from those after it. -/
theorem pieces_append_cons (first second : List Char) :
    pieces (first ++ '/' :: second) = pieces first ++ pieces second := by
  unfold pieces
  rw [List.splitOnP_append_cons, List.filter_append]
  decide

/-- A text without slashes is one piece. -/
theorem pieces_eq_singleton {text : List Char} (hempty : text ≠ []) (hslash : '/' ∉ text) :
    pieces text = [text] := by
  unfold pieces
  rw [List.splitOnP_eq_singleton]
  · simp [hempty]
  · intro c hc
    simp only [decide_eq_false_iff_not]
    rintro rfl
    exact hslash hc

/-- The parts of a text between its slashes hold no slash. -/
theorem slashless_of_mem_splitOnP {text part : List Char} (h : part ∈ text.splitOnP (· = '/')) :
    '/' ∉ part := by
  induction text generalizing part with
  | nil =>
    rw [List.splitOnP_nil, List.mem_singleton] at h
    rw [h]
    exact List.not_mem_nil
  | cons c text ih =>
    rw [List.splitOnP_cons_eq_if_modifyHead] at h
    split at h
    · rcases List.mem_cons.mp h with rfl | hpart
      · exact List.not_mem_nil
      · exact ih hpart
    · next hc =>
      -- The character comes before the first of the parts of the rest.
      rcases hparts : text.splitOnP (· = '/') with _ | ⟨first, parts⟩ <;> rw [hparts] at h ih
      · cases h
      · rcases List.mem_cons.mp h with rfl | hpart
        · intro hslash
          rcases List.mem_cons.mp hslash with rfl | hslash
          · exact hc (by decide)
          · exact ih List.mem_cons_self hslash
        · exact ih (List.mem_cons_of_mem _ hpart)

/-- A name in a path holds no slash. -/
theorem slashless_of_mem_names {path name : String} (h : name ∈ names path) : '/' ∉ name.toList := by
  obtain ⟨piece, hpiece, rfl⟩ := List.mem_map.mp h
  rw [String.toList_ofList]
  exact slashless_of_mem_splitOnP (List.mem_filter.mp hpiece).1

/-! ## Joined paths -/

/-- The names in a path that was joined are those in its parts. -/
theorem names_join (base : String) {rel : String} (hrel : startsInSlash rel = false) :
    names (join base rel) = names base ++ names rel := by
  have hpieces : pieces (join base rel).toList = pieces base.toList ++ pieces rel.toList := by
    unfold join
    rw [if_neg (by simp [hrel])]
    split
    · next hbase =>
      rcases hbase with rfl | hends
      · rw [String.toList_append]
        rfl
      · -- The slash at the end of the first part is the one between the parts.
        obtain ⟨before, hbefore⟩ := List.getLast?_eq_some_iff.mp (by simpa [endsInSlash] using hends)
        rw [String.toList_append, hbefore, List.append_assoc, List.singleton_append,
          pieces_append_cons, pieces_append_cons, pieces_nil, List.append_nil]
    · rw [String.toList_append, String.toList_append, List.append_assoc]
      exact pieces_append_cons _ _
  rw [names_eq, hpieces, List.map_append, names_eq, names_eq]

/-- The components of a path that was joined are those of its parts. -/
theorem components_join (base : String) {rel : String} (hrel : startsInSlash rel = false) :
    components (join base rel) = components base ++ components rel := by
  unfold components
  rw [names_join base hrel, List.filter_append]

/-! ## The last name -/

/-- The last name in a path. -/
def lastName (path : String) : Option String := (names path).getLast?

/-- A text can be the name of a file: it is one name, which stands for itself, and is not too
long. -/
structure IsFileName (name : String) : Prop where
  /-- There is a name. -/
  nonempty : name ≠ ""
  /-- It is one name. -/
  slashless : '/' ∉ name.toList
  /-- It does not stand for a directory by its place. -/
  own : name ≠ "." ∧ name ≠ ".."
  /-- It is not too long. -/
  size : name.utf8ByteSize ≤ maxName

namespace IsFileName

variable {name : String}

/-- A file name has one name in it. -/
theorem names_eq (h : IsFileName name) : names name = [name] := by
  have hempty : name.toList ≠ [] := by simpa using h.nonempty
  rw [Files.names_eq, pieces_eq_singleton hempty h.slashless, List.map_singleton,
    String.ofList_toList]

/-- A file name starts with no slash. -/
theorem startsInSlash (h : IsFileName name) : startsInSlash name = false := by
  unfold Files.startsInSlash
  rw [decide_eq_false_iff_not]
  intro hhead
  exact h.slashless (List.mem_of_head? hhead)

/-- The names in the path of a file in a directory. -/
theorem names_join (h : IsFileName name) (base : String) :
    names (join base name) = names base ++ [name] := by
  rw [Files.names_join base h.startsInSlash, h.names_eq]

/-- The components of the path of a file in a directory. -/
theorem components_join (h : IsFileName name) (base : String) :
    components (join base name) = components base ++ [name] := by
  have hname : components name = [name] := by
    unfold components
    rw [h.names_eq]
    simp [h.own.1]
  rw [Files.components_join base h.startsInSlash, hname]

/-- The last name in the path of a file in a directory. -/
theorem lastName_join (h : IsFileName name) (base : String) :
    lastName (join base name) = some name := by
  rw [lastName, h.names_join, List.getLast?_concat]

/-- The path of a file in a directory ends in its name. -/
theorem fileName_join (h : IsFileName name) (base : String) : fileName (join base name) = name := by
  unfold fileName
  rw [h.components_join, List.getLast?_concat]
  exact if_neg h.own.2

end IsFileName

/-- What comes before the last name of the path of a database file is followed first. -/
theorem databaseWalk?_concat {files : Files} {here location : Location} {names : List String}
    {name : String} (hname : name ≠ "..")
    (h : files.databaseWalk? here (names ++ [name]) = some location) :
    ∃ there, files.databaseWalk? here names = some there ∧ location = there ++ [name] := by
  induction names generalizing here with
  | nil =>
    rw [List.nil_append, databaseWalk?, if_neg hname] at h
    dsimp only at h
    split at h
    · cases h
      exact ⟨here, rfl, rfl⟩
    · cases h
      exact ⟨here, rfl, rfl⟩
    · cases h
  | cons first names ih =>
    rw [List.cons_append, databaseWalk?] at h
    rw [databaseWalk?]
    split at h
    · next hdots =>
      rw [if_pos hdots]
      exact ih h
    · next hdots =>
      rw [if_neg hdots]
      dsimp only at h ⊢
      split at h
      · exact ih h
      · exact ih h
      · cases h

/-- The location of a database file in a directory ends in its name. -/
theorem databaseLocation?_lastName {files : Files} {base name : String} {location : Location}
    (hname : IsFileName name) (h : files.databaseLocation? (join base name) = some location) :
    location.getLast? = some name := by
  have hwalk := (databaseLocation?_some h).1
  rw [hname.components_join] at hwalk
  obtain ⟨there, -, rfl⟩ := databaseWalk?_concat hname.own.2 hwalk
  exact List.getLast?_concat

end CredentialVault.Files
