import CredentialVault.Files.Tree
import CredentialVault.Proofs.Operation

/-!
# Changes of a tree of files

A change leaves most of a tree as it was. Making directories keeps every node (`Files.Extends`), and
all changes but the removal of a directory keep the directories (`Files.KeepsDirectories`), so that
paths lead where they led before (`locate_of_keeps`). `write_run` and `rename_run` say what else a
change comes to, and `locate_of_placeOf` that a file is found again where it was put.
-/

namespace CredentialVault

open Operation

/-- A plain file that is filled is no directory. -/
theorem Node.refilled_ne (content : Bytes) (node? : Option Node) :
    refilled content node? ≠ .directory := by
  unfold refilled
  split <;> exact nofun

/-- A node that is no directory is none when it may be read. -/
theorem Node.readable_ne {node : Node} (h : node ≠ .directory) : node.readable ≠ .directory := by
  cases node with
  | directory => exact absurd rfl h
  | file | unreadable | database => exact nofun

/-- A plain file that is filled and made readable is one that can be read. -/
theorem Node.readable_refilled (content : Bytes) (node? : Option Node) :
    (refilled content node?).readable = .file content := by
  unfold refilled
  split <;> rfl

namespace Files

/-! ## Nodes -/

/-- Dropping the entries of a key does not change what is found under other keys. -/
theorem lookup_filter_ne {α β : Type} [BEq α] [LawfulBEq α] [DecidableEq α] {key other : α}
    (h : other ≠ key) (entries : List (α × β)) :
    (entries.filter (·.1 ≠ key)).lookup other = entries.lookup other := by
  induction entries with
  | nil => rfl
  | cons entry entries ih =>
    obtain ⟨k, value⟩ := entry
    by_cases hk : k = key
    · subst hk
      rw [List.filter_cons_of_neg (by simp), ih, List.lookup_cons, beq_false_of_ne h]
    · rw [List.filter_cons_of_pos (by simpa using hk), List.lookup_cons, List.lookup_cons, ih]

/-- What is put at a location leaves the other ones. -/
theorem node?_setNode_ne (files : Files) {location other : Location} (h : other ≠ location)
    (node : Node) : (files.setNode location node).node? other = files.node? other := by
  simp only [node?, setNode, List.lookup_cons, beq_false_of_ne h, lookup_filter_ne h]

/-- A node that was put at a location is there, and the others stay. -/
theorem node?_setNode (files : Files) {location : Location} (h : location ≠ []) (node : Node)
    (other : Location) :
    (files.setNode location node).node? other =
      if other = location then some node else files.node? other := by
  by_cases hother : other = location
  · unfold node? setNode
    rw [if_neg (hother ▸ h), if_pos hother, hother, List.lookup_cons_self]
  · rw [if_neg hother, node?_setNode_ne files hother]

/-- Dropping a node leaves the others. -/
theorem node?_dropNode (files : Files) {location other : Location} (h : other ≠ location) :
    (files.dropNode location).node? other = files.node? other := by
  unfold node? dropNode
  rw [lookup_filter_ne h]

/-- A node that was dropped is gone. -/
theorem node?_dropNode_self (files : Files) {location : Location} (h : location ≠ []) :
    (files.dropNode location).node? location = none := by
  unfold node? dropNode
  rw [if_neg h, List.lookup_eq_none_iff]
  rintro ⟨key, node⟩ hentry
  obtain ⟨-, hkey⟩ := List.mem_filter.mp hentry
  exact bne_iff_ne.mpr (Ne.symm (of_decide_eq_true hkey))

/-- The node at a location depends on the nodes alone. -/
theorem node?_congr {files files' : Files} (h : files'.nodes = files.nodes) (location : Location) :
    files'.node? location = files.node? location := by
  rw [node?, h, node?]

/-- Other content is at a location, and the other nodes stay. -/
theorem node?_refill (files : Files) {location : Location} (h : location ≠ []) (content : Bytes)
    (other : Location) : (files.refill location content).node? other =
      if other = location then some (Node.refilled content (files.node? location))
      else files.node? other :=
  node?_setNode files h _ other

/-- The content that comes last is all that counts. -/
theorem refill_refill (files : Files) {location : Location} (h : location ≠ [])
    (first second : Bytes) :
    (files.refill location first).refill location second = files.refill location second := by
  have hnode : Node.refilled second ((files.refill location first).node? location) =
      Node.refilled second (files.node? location) := by
    rw [node?_refill files h, if_pos rfl]
    rcases files.node? location with _ | _ | _ | _ | _ <;> rfl
  rw [refill, hnode, refill, refill]
  simp [setNode, List.filter_filter]

/-- The nodes with other content at a location depend on the nodes alone. -/
theorem nodes_refill_congr {files files' : Files} (h : files'.nodes = files.nodes)
    (location : Location) (content : Bytes) :
    (files'.refill location content).nodes = (files.refill location content).nodes := by
  rw [refill, refill, node?_congr h, setNode, setNode, h]

/-- Every node of the first tree is in the second. -/
def Extends (files files' : Files) : Prop :=
  ∀ location node, files.node? location = some node → files'.node? location = some node

/-- Every directory of the first tree is one of the second. -/
def KeepsDirectories (files files' : Files) : Prop :=
  ∀ location, files.node? location = some .directory → files'.node? location = some .directory

instance : Sequential Extends where
  refl _ _ _ h := h
  trans h h' location node hnode := h' location node (h location node hnode)

/-- A tree with the same nodes extends another. -/
theorem extends_of_nodes {files files' : Files} (h : files'.nodes = files.nodes) :
    files.Extends files' := fun location _ hnode => (node?_congr h location).trans hnode

/-- A tree that extends another keeps its directories. -/
theorem Extends.keepsDirectories {files files' : Files} (h : files.Extends files') :
    files.KeepsDirectories files' := fun location => h location .directory

/-- Directories are kept when another node changes. -/
theorem keepsDirectories_setNode {files : Files} {location : Location} (node : Node)
    (h : files.node? location ≠ some .directory) :
    files.KeepsDirectories (files.setNode location node) := by
  intro other hother
  have hroot : location ≠ [] := by
    rintro rfl
    exact h rfl
  rw [node?_setNode files hroot, if_neg, hother]
  rintro rfl
  exact h hother

/-- Directories are kept when another node is moved. -/
theorem keepsDirectories_move {files : Files} {origin goal : Location} (node : Node)
    (horigin : files.node? origin ≠ some .directory) (hgoal : files.node? goal ≠ some .directory) :
    files.KeepsDirectories ((files.dropNode origin).setNode goal node) := by
  intro other hother
  have hroot : goal ≠ [] := by
    rintro rfl
    exact hgoal rfl
  rw [node?_setNode _ hroot, if_neg, node?_dropNode files, hother]
  · rintro rfl
    exact horigin hother
  · rintro rfl
    exact hgoal hother

/-! ## Paths -/

/-- Names are followed one after another. -/
theorem walk_append (files : Files) (here : Location) (first second : List String) :
    files.walk here (first ++ second) =
      files.walk here first >>= fun there => files.walk there second := by
  induction first generalizing here with
  | nil => rfl
  | cons name first ih =>
    rw [List.cons_append, walk, walk]
    split <;> try rfl
    split <;> try exact ih _
    split <;> try exact ih _
    split <;> try rfl
    exact ih _

/-- Names lead where they led when the directories are kept. -/
theorem walk_of_keeps {files files' : Files} (h : files.KeepsDirectories files')
    {here there : Location} {names : List String} (hwalk : files.walk here names = .ok there) :
    files'.walk here names = .ok there := by
  induction names generalizing here with
  | nil => exact hwalk
  | cons name names ih =>
    -- A step is taken from a directory only, and that one is still there.
    rw [walk] at hwalk ⊢
    split at hwalk
    · cases hwalk
    · next hnode =>
      rw [h here hnode]
      dsimp only
      split at hwalk
      · next hdot =>
        rw [if_pos hdot]
        exact ih hwalk
      · next hdot =>
        rw [if_neg hdot]
        split at hwalk
        · next hdots =>
          rw [if_pos hdots]
          exact ih hwalk
        · next hdots =>
          rw [if_neg hdots]
          split at hwalk
          · cases hwalk
          · next hsize =>
            rw [if_neg hsize]
            exact ih hwalk
    · cases hwalk

/-- A path leads where it led when the directories are kept. -/
theorem locate_of_keeps {files files' : Files} (h : files.KeepsDirectories files') {path : String}
    {location : Location} (hlocate : files.locate path = .ok location) :
    files'.locate path = .ok location := by
  unfold locate at hlocate ⊢
  split at hlocate
  · cases hlocate
  · exact walk_of_keeps h hlocate

/-- The place of a path: no reason against the path, the directory before its last name, and the
name. -/
theorem placeOf_ok {files : Files} {path : String} {place : Place} :
    files.placeOf path = .ok place ↔ refusal? path = none ∧
      files.walk [] ((names path).dropLast ++ ["."]) = .ok place.directory ∧
        place.name = (names path).getLast?.getD "." ∧ place.endsInSlash = Files.endsInSlash path := by
  unfold placeOf
  rcases refusal? path with _ | e
  · rcases files.walk [] ((names path).dropLast ++ ["."]) with e | directory
    · refine iff_of_false nofun ?_
      rintro ⟨-, h, -⟩
      cases h
    · obtain ⟨placeDirectory, name, endsInSlash⟩ := place
      refine Iff.trans (b := (Place.mk directory ((names path).getLast?.getD ".")
        (Files.endsInSlash path)) = ⟨placeDirectory, name, endsInSlash⟩) ⟨Except.ok.inj, ?_⟩ ?_
      · rintro h
        exact congrArg Except.ok h
      · simp only [Place.mk.injEq, Except.ok.injEq, true_and]
        exact ⟨fun ⟨h₁, h₂, h₃⟩ => ⟨h₁, h₂.symm, h₃.symm⟩, fun ⟨h₁, h₂, h₃⟩ => ⟨h₁, h₂.symm, h₃.symm⟩⟩
  · refine iff_of_false nofun ?_
    rintro ⟨h, -⟩
    cases h

/-- A path has the place it had when the directories are kept. -/
theorem placeOf_of_keeps {files files' : Files} (h : files.KeepsDirectories files') {path : String}
    {place : Place} (hplace : files.placeOf path = .ok place) : files'.placeOf path = .ok place := by
  obtain ⟨hrefusal, hwalk, hrest⟩ := placeOf_ok.mp hplace
  exact placeOf_ok.mpr ⟨hrefusal, walk_of_keeps h hwalk, hrest⟩

/-- The names of a path lead to its place, if the last of them is a name of its own. -/
theorem walk_of_placeOf {files : Files} {path : String} {place : Place}
    (hplace : files.placeOf path = .ok place) (hfixed : place.isFixed = false)
    (hsize : place.name.utf8ByteSize ≤ maxName) :
    files.walk [] (names path) = .ok place.location := by
  obtain ⟨-, hwalk, hname, -⟩ := placeOf_ok.mp hplace
  simp only [Place.isFixed, Bool.or_eq_false_iff, decide_eq_false_iff_not] at hfixed
  obtain ⟨hdot, hdots⟩ := hfixed
  have hnames : names path = (names path).dropLast ++ [place.name] := by
    rcases hlast : (names path).getLast? with _ | last
    · rw [hlast] at hname
      exact absurd hname hdot
    · rw [hlast, Option.getD_some] at hname
      obtain ⟨before, hbefore⟩ := List.getLast?_eq_some_iff.mp hlast
      rw [hname, hbefore, List.dropLast_concat]
  -- The walk to the directory ends with a dot, which it can pass only in a directory.
  rw [walk_append] at hwalk
  rcases hdirectory : files.walk [] (names path).dropLast with e | there <;>
    rw [hdirectory] at hwalk
  · cases hwalk
  have hthere : files.node? there = some .directory ∧ there = place.directory := by
    rw [ok_bind, walk] at hwalk
    split at hwalk
    · cases hwalk
    · next hnode =>
      rw [if_pos rfl, walk] at hwalk
      exact ⟨hnode, Except.ok.inj hwalk⟩
    · cases hwalk
  rw [hnames, walk_append, hdirectory, ok_bind, walk, hthere.1]
  dsimp only
  rw [if_neg hdot, if_neg hdots, if_neg (by omega), walk, hthere.2, Place.location]

/-- A path leads to its place, if its last name is a name of its own. -/
theorem locate_of_placeOf {files : Files} {path : String} {place : Place}
    (hplace : files.placeOf path = .ok place) (hfixed : place.isFixed = false)
    (hslash : place.endsInSlash = false) (hsize : place.name.utf8ByteSize ≤ maxName) :
    files.locate path = .ok place.location := by
  obtain ⟨hrefusal, -, -, hends⟩ := placeOf_ok.mp hplace
  unfold locate
  rw [hrefusal, ← hends, hslash]
  dsimp only
  rw [if_neg (by decide), List.append_nil, walk_of_placeOf hplace hfixed hsize]

/-- A path leads to the directory at its place, also with a slash at its end. -/
theorem locate_of_placeOf_directory {files : Files} {path : String} {place : Place}
    (hplace : files.placeOf path = .ok place) (hfixed : place.isFixed = false)
    (hsize : place.name.utf8ByteSize ≤ maxName)
    (hnode : files.node? place.location = some .directory) :
    files.locate path = .ok place.location := by
  unfold locate
  rw [(placeOf_ok.mp hplace).1]
  dsimp only
  rw [walk_append, walk_of_placeOf hplace hfixed hsize, ok_bind]
  split
  · rw [walk, hnode]
    dsimp only
    rw [if_pos rfl, walk]
  · rw [walk]

/-- A path has a place for a plain file: its last name is its own and is not too long, and no
directory has it. -/
structure HasPlace (files : Files) (path : String) (place : Place) : Prop where
  /-- The place is that of the path. -/
  placeOf : files.placeOf path = .ok place
  /-- The last name stands for no directory by its place. -/
  isFixed : place.isFixed = false
  /-- The path names no directory by its end. -/
  endsInSlash : place.endsInSlash = false
  /-- The last name is not too long. -/
  size : place.name.utf8ByteSize ≤ maxName
  /-- No directory is there. -/
  node : files.node? place.location ≠ some .directory

namespace HasPlace

variable {files files' : Files} {path : String} {place : Place} {node : Node}

/-- The place of a file is not the root. -/
theorem location_ne (_ : files.HasPlace path place) : place.location ≠ [] := by
  simp [Place.location]

/-- The path leads to its place. -/
theorem locate (h : files.HasPlace path place) : files.locate path = .ok place.location :=
  locate_of_placeOf h.placeOf h.isFixed h.endsInSlash h.size

/-- A file that was put at the place is there, and the path has the place that it had. -/
theorem of_setNode (h : files.HasPlace path place) (hnode : node ≠ .directory)
    (hnodes : files'.nodes = (files.setNode place.location node).nodes) :
    files'.HasPlace path place ∧ files'.node? place.location = some node := by
  have hkeeps : files.KeepsDirectories files' := fun location hdirectory =>
    (node?_congr hnodes location).trans (keepsDirectories_setNode _ h.node location hdirectory)
  have hthere : files'.node? place.location = some node := by
    rw [node?_congr hnodes, node?_setNode files h.location_ne, if_pos rfl]
  refine ⟨⟨placeOf_of_keeps hkeeps h.placeOf, h.isFixed, h.endsInSlash, h.size, ?_⟩, hthere⟩
  rw [hthere]
  exact fun heq => hnode (Option.some.inj heq)

end HasPlace

end Files

/-! ## Changes -/

/-- A file can be opened to be written anew. -/
def Files.Opens (files : Files) (path : String) : Prop :=
  (FilesM.openEmptied path files).1.isOk = true

namespace FilesM

/-- To ask whether a change is refused leaves the nodes. -/
theorem preserves_nextRefusal : Preserves Files.nodes nextRefusal :=
  .modifyGet fun _ => rfl

/-- To let a change be made leaves the nodes. -/
theorem preserves_permit : Preserves Files.nodes permit := by
  refine preserves_nextRefusal.bind fun refusal? => ?_
  rcases refusal? with _ | refusal
  · exact .pure _
  · exact .throw _

/-- To look for the place of a path has no effect. -/
theorem placeOf_run {path : String} {files files' : Files} {r : Except FileError Files.Place}
    (h : placeOf path files = (r, files')) : files = files' ∧ r = files.placeOf path := by
  rcases bind_cases h with ⟨_, -, hget⟩ | ⟨_, _, hget, h₁⟩
  · cases hget
  · cases hget
    rcases hplace : files.placeOf path with e | place <;> rw [hplace] at h₁ <;> cases h₁ <;>
      exact ⟨rfl, rfl⟩

/-- To look at a place has no effect, and finds the node if the name is not too long. -/
theorem nodeAt?_run {place : Files.Place} {files files' : Files}
    {r : Except FileError (Option Node)} (h : nodeAt? place files = (r, files')) :
    files = files' ∧ ∀ node?, r = .ok node? →
      place.name.utf8ByteSize ≤ Files.maxName ∧ node? = files.node? place.location := by
  unfold nodeAt? at h
  split at h
  · cases h
    exact ⟨rfl, nofun⟩
  · next hsize =>
    cases h
    exact ⟨rfl, fun node? hnode => ⟨by omega, (Except.ok.inj hnode).symm⟩⟩

/-- A change that is permitted goes on from the same nodes. -/
theorem permit_run {change : Files → Files} {files files' : Files} {r : Except FileError Unit}
    (h : (do permit; modify change) files = (r, files')) :
    (r ≠ .ok () ∧ files'.nodes = files.nodes) ∨
      r = .ok () ∧ ∃ permitted, permitted.nodes = files.nodes ∧ files' = change permitted := by
  rcases bind_cases h with ⟨e, rfl, hpermit⟩ | ⟨_, permitted, hpermit, h₁⟩
  · exact .inl ⟨nofun, preserves_permit.of_run hpermit⟩
  · cases h₁
    exact .inr ⟨rfl, permitted, preserves_permit.of_run hpermit, rfl⟩

/-- To open a file leaves the nodes, or empties the file at the place of the path. -/
theorem openEmptied_run {path : String} {files opened : Files} {r : Except FileError Files.Place}
    (h : openEmptied path files = (r, opened)) :
    ((∃ e, r = .error e) ∧ opened.nodes = files.nodes) ∨ ∃ place, r = .ok place ∧
      files.HasPlace path place ∧ opened.nodes = (files.refill place.location []).nodes := by
  -- The place, the node there and the permission are asked for in turn, each without an effect on
  -- the nodes.
  rcases bind_cases h with ⟨e, rfl, hplace⟩ | ⟨place, _, hplace, h₁⟩
  · exact .inl ⟨⟨e, rfl⟩, by rw [(placeOf_run hplace).1]⟩
  obtain ⟨rfl, hplaced⟩ := placeOf_run hplace
  dsimp only at h₁
  split at h₁
  · cases h₁
    exact .inl ⟨⟨_, rfl⟩, rfl⟩
  next hown =>
  rcases bind_cases h₁ with ⟨e, rfl, hnode⟩ | ⟨node?, _, hnode, h₂⟩
  · exact .inl ⟨⟨e, rfl⟩, by rw [(nodeAt?_run hnode).1]⟩
  obtain ⟨rfl, hfound⟩ := nodeAt?_run hnode
  obtain ⟨hsize, rfl⟩ := hfound _ rfl
  split at h₂
  · cases h₂
    exact .inl ⟨⟨_, rfl⟩, rfl⟩
  · next hdirectory =>
    rcases bind_cases h₂ with ⟨e, rfl, hpermit⟩ | ⟨_, permitted, hpermit, h₃⟩
    · exact .inl ⟨⟨e, rfl⟩, preserves_permit.of_run hpermit⟩
    · cases h₃
      simp only [Bool.or_eq_true, not_or, Bool.not_eq_true] at hown
      exact .inr ⟨place, rfl, ⟨hplaced.symm, hown.1, hown.2, hsize, hdirectory⟩,
        Files.nodes_refill_congr (preserves_permit.of_run hpermit) _ _⟩

/-- To fill a file puts the first bytes of what is written there, and on success all of them. -/
theorem fill_run {place : Files.Place} {content : Bytes} {opened files' : Files}
    {r : Except FileError Unit} (h : fill place content opened = (r, files')) :
    ∃ part, part <+: content ∧ (r = .ok () ↔ part = content) ∧
      files'.nodes = (opened.refill place.location part).nodes := by
  rcases bind_cases h with ⟨_, -, hnext⟩ | ⟨refusal?, _, hnext, h₁⟩ <;> cases hnext
  generalize opened.refusals.head?.join = refusal? at h₁
  rcases refusal? with _ | refusal
  · cases h₁
    exact ⟨content, List.prefix_rfl, iff_of_true rfl rfl, Files.nodes_refill_congr rfl _ _⟩
  · refine ⟨content.take refusal.written, List.take_prefix _ _, ?_⟩
    dsimp only at h₁
    rcases bind_cases h₁ with ⟨_, -, hwrite⟩ | ⟨_, _, hwrite, h₂⟩ <;> cases hwrite
    split at h₂
    · next hshort =>
      cases h₂
      refine ⟨iff_of_false nofun fun hall => ?_, Files.nodes_refill_congr rfl _ _⟩
      have hlength := congrArg List.length hall
      rw [List.length_take] at hlength
      omega
    · next hlong =>
      cases h₂
      exact ⟨iff_of_true rfl (List.take_of_length_le (Nat.not_lt.mp hlong)),
        Files.nodes_refill_congr rfl _ _⟩

/-- To write a file that cannot be opened leaves the nodes. If it can be opened, the file at the
place of the path has the first bytes of what is written, and on success all of them. -/
theorem write_run {path : String} {content : Bytes} {files files' : Files}
    {r : Except FileError Unit} (h : write path content files = (r, files')) :
    (¬files.Opens path ∧ r ≠ .ok () ∧ files'.nodes = files.nodes) ∨
      files.Opens path ∧ ∃ place part, files.HasPlace path place ∧ part <+: content ∧
        (r = .ok () ↔ part = content) ∧
        files'.nodes = (files.refill place.location part).nodes := by
  unfold Files.Opens
  rcases bind_cases h with ⟨e, rfl, hopen⟩ | ⟨place, opened, hopen, hfill⟩ <;> rw [hopen]
  · rcases openEmptied_run hopen with ⟨-, hnodes⟩ | ⟨_, hok, -⟩
    · exact .inl ⟨Bool.false_ne_true, nofun, hnodes⟩
    · cases hok
  · rcases openEmptied_run hopen with ⟨⟨_, hfailed⟩, -⟩ | ⟨_, hok, hplace, hopened⟩
    · cases hfailed
    cases hok
    obtain ⟨part, hpart, hall, hnodes⟩ := fill_run hfill
    refine .inr ⟨rfl, place, part, hplace, hpart, hall, ?_⟩
    rw [hnodes, Files.nodes_refill_congr hopened, Files.refill_refill files hplace.location_ne]

/-- To let the owner read a file leaves the nodes, or makes the file readable to which the path
leads. -/
theorem grantOwner_run {path : String} {files files' : Files} {r : Except FileError Unit}
    (h : grantOwner path files = (r, files')) :
    (r ≠ .ok () ∧ files'.nodes = files.nodes) ∨ r = .ok () ∧ ∃ location node,
      files.locate path = .ok location ∧ files.node? location = some node ∧
        files'.nodes = (files.setNode location node.readable).nodes := by
  rcases bind_cases h with ⟨_, -, hget⟩ | ⟨_, _, hget, h₁⟩ <;> cases hget
  rcases hlocate : files.locate path with e | location <;> rw [hlocate] at h₁
  · cases h₁
    exact .inl ⟨nofun, rfl⟩
  rcases hnode : files.node? location with _ | node <;> dsimp only at h₁ <;> rw [hnode] at h₁
  · cases h₁
    exact .inl ⟨nofun, rfl⟩
  rcases permit_run h₁ with hfailed | ⟨rfl, permitted, hpermitted, rfl⟩
  · exact .inl hfailed
  · refine .inr ⟨rfl, location, node, rfl, hnode, ?_⟩
    simp only [Files.setNode, hpermitted]

/-- To make a directory leaves the nodes, or puts the directory at the place of the path, where
there was no node. -/
theorem createDirectory_run {path : String} {files files' : Files} {r : Except FileError Unit}
    (h : createDirectory path files = (r, files')) :
    (r ≠ .ok () ∧ files'.nodes = files.nodes) ∨ r = .ok () ∧ ∃ place,
      files.placeOf path = .ok place ∧ files.node? place.location = none ∧
        (place.isFixed = false ∧ place.name.utf8ByteSize ≤ Files.maxName) ∧
          files'.nodes = (files.setNode place.location .directory).nodes := by
  rcases bind_cases h with ⟨e, rfl, hplace⟩ | ⟨place, _, hplace, h₁⟩
  · exact .inl ⟨nofun, by rw [(placeOf_run hplace).1]⟩
  obtain ⟨rfl, hplaced⟩ := placeOf_run hplace
  rcases bind_cases h₁ with ⟨e, rfl, hnode⟩ | ⟨node?, _, hnode, h₂⟩
  · exact .inl ⟨nofun, by rw [(nodeAt?_run hnode).1]⟩
  obtain ⟨rfl, hfound⟩ := nodeAt?_run hnode
  obtain ⟨hsize, rfl⟩ := hfound _ rfl
  split at h₂
  · cases h₂
    exact .inl ⟨nofun, rfl⟩
  · next hfree =>
    rcases permit_run h₂ with hfailed | ⟨rfl, permitted, hpermitted, rfl⟩
    · exact .inl hfailed
    · simp only [Bool.or_eq_true, not_or, Bool.not_eq_true, Option.isSome_eq_false_iff,
        Option.isNone_iff_eq_none] at hfree
      refine .inr ⟨rfl, place, hplaced.symm, hfree.2, ⟨hfree.1, hsize⟩, ?_⟩
      simp only [Files.setNode, hpermitted]

/-- To make a directory keeps every node. -/
theorem extends_createDirectory (path : String) : Within Files.Extends (createDirectory path) := by
  intro files
  rcases hrun : createDirectory path files with ⟨r, files'⟩
  rcases createDirectory_run hrun with ⟨-, hnodes⟩ | ⟨-, place, -, hfree, -, hnodes⟩
  · exact Files.extends_of_nodes hnodes
  · -- The directory is put where there was no node.
    intro location node hlocation
    rw [Files.node?_congr hnodes, Files.node?_setNode _ (by simp [Files.Place.location]), if_neg,
      hlocation]
    rintro rfl
    rw [hfree] at hlocation
    cases hlocation

/-- To move a file leaves the nodes, or puts the node that was at its place at the place of the
target, where there is no directory. -/
theorem rename_run {source target : String} {files files' : Files}
    {r : Except FileError Unit} (h : rename source target files = (r, files')) :
    (r ≠ .ok () ∧ files'.nodes = files.nodes) ∨ r = .ok () ∧ ∃ origin goal node,
      files.placeOf source = .ok origin ∧ files.placeOf target = .ok goal ∧
        goal.isFixed = false ∧ goal.name.utf8ByteSize ≤ Files.maxName ∧
        files.node? origin.location = some node ∧
        (node ≠ .directory → goal.endsInSlash = false) ∧
        files.node? goal.location ≠ some .directory ∧
        files'.nodes = ((files.dropNode origin.location).setNode goal.location node).nodes := by
  -- The two places.
  rcases bind_cases h with ⟨e, rfl, horigin⟩ | ⟨origin, _, horigin, h₁⟩
  · exact .inl ⟨nofun, by rw [(placeOf_run horigin).1]⟩
  obtain ⟨rfl, hfrom⟩ := placeOf_run horigin
  rcases bind_cases h₁ with ⟨e, rfl, hgoal⟩ | ⟨goal, _, hgoal, h₂⟩
  · exact .inl ⟨nofun, by rw [(placeOf_run hgoal).1]⟩
  obtain ⟨rfl, hto⟩ := placeOf_run hgoal
  dsimp only at h₂
  split at h₂
  · cases h₂
    exact .inl ⟨nofun, rfl⟩
  next hfixed =>
  -- The nodes at them.
  rcases bind_cases h₂ with ⟨e, rfl, hnode⟩ | ⟨node?, _, hnode, h₃⟩
  · exact .inl ⟨nofun, by rw [(nodeAt?_run hnode).1]⟩
  obtain ⟨rfl, hfound⟩ := nodeAt?_run hnode
  obtain ⟨-, rfl⟩ := hfound _ rfl
  rcases bind_cases h₃ with ⟨e, rfl, htaken⟩ | ⟨taken?, _, htaken, h₄⟩
  · exact .inl ⟨nofun, by rw [(nodeAt?_run htaken).1]⟩
  obtain ⟨rfl, hfound⟩ := nodeAt?_run htaken
  obtain ⟨hsize, rfl⟩ := hfound _ rfl
  rcases hnode : files.node? origin.location with _ | node <;> rw [hnode] at h₄
  · cases h₄
    exact .inl ⟨nofun, rfl⟩
  dsimp only at h₄
  split at h₄
  · cases h₄
    exact .inl ⟨nofun, rfl⟩
  next hslash =>
  split at h₄
  · cases h₄
    exact .inl ⟨nofun, rfl⟩
  next hdirectory =>
  -- The change itself, which the permission does not touch.
  rcases permit_run h₄ with hfailed | ⟨rfl, permitted, hpermitted, rfl⟩
  · exact .inl hfailed
  · simp only [Bool.or_eq_true, not_or, Bool.not_eq_true] at hfixed
    refine .inr ⟨rfl, origin, goal, node, hfrom.symm, hto.symm, hfixed.2, hsize, hnode,
      fun hfile => ?_, hdirectory, ?_⟩
    · simp only [Bool.and_eq_true, Bool.or_eq_true, not_and, not_or, Bool.not_eq_true] at hslash
      exact (hslash (by simpa using hfile)).2
    · simp only [Files.setNode, Files.dropNode, hpermitted]

section Directories

variable {R : Files → Files → Prop} [Sequential R]

/-- To make sure that a directory is there stays within a relation if the making of one does. -/
theorem within_ensureDirectory (h : ∀ path, Within R (createDirectory path)) (path : String) :
    Within R (ensureDirectory path) := by
  unfold ensureDirectory
  refine .tryCatch (h path) fun e => ?_
  refine Within.get.bind fun files => ?_
  split
  · exact .throw _
  · exact .pure _

/-- To make the first directory that can be made stays within such a relation. -/
theorem within_createFirst (h : ∀ path, Within R (createDirectory path)) (paths : List String) :
    Within R (createFirst paths) := by
  induction paths with
  | nil => exact .pure _
  | cons path paths ih =>
    unfold createFirst
    refine .bind (.tryCatch ?_ fun e => ?_) fun isMissing => ?_
    · exact (within_ensureDirectory h path).bind fun _ => .pure _
    · split
      · exact .pure _
      · exact .throw _
    · split
      · exact ih.bind fun _ => .pure _
      · exact .pure _

/-- To make a directory and those above it stays within such a relation. -/
theorem within_createDirectories (h : ∀ path, Within R (createDirectory path)) (path : String) :
    Within R (createDirectories path) :=
  (within_createFirst h _).bind fun _ =>
    (Within.forIn fun missing _ => within_ensureDirectory h missing).bind fun _ => .pure _

end Directories

/-- To make a directory and those above it keeps every node. -/
theorem extends_createDirectories (path : String) :
    Within Files.Extends (createDirectories path) :=
  within_createDirectories extends_createDirectory path

end FilesM

namespace Files

/-! ## Contents -/

/-- A path leads to a file with the given bytes, whether they can be read or not. -/
def Contains (files : Files) (path : String) (content : Bytes) : Prop :=
  ∃ location, files.locate path = .ok location ∧
    (files.node? location = some (.file content) ∨ files.node? location = some (.unreadable content))

/-- A path leads to a file that cannot be read. -/
def IsUnreadable (files : Files) (path : String) : Prop :=
  ∃ location content, files.locate path = .ok location ∧
    files.node? location = some (.unreadable content)

/-- A path leads to a plain file with the given content. -/
def Holds (files : Files) (path : String) (content : Bytes) : Prop :=
  ∃ location, files.locate path = .ok location ∧ files.node? location = some (.file content)

namespace Holds

variable {files files' : Files} {path : String} {content : Bytes}

/-- A file that can be read has its bytes. -/
theorem contains (h : files.Holds path content) : files.Contains path content := by
  obtain ⟨location, hlocate, hnode⟩ := h
  exact ⟨location, hlocate, .inl hnode⟩

/-- A file that can be read is none that cannot. -/
theorem not_isUnreadable (h : files.Holds path content) : ¬files.IsUnreadable path := by
  obtain ⟨location, hlocate, hnode⟩ := h
  rintro ⟨there, hidden, hthere, hunreadable⟩
  obtain rfl := Except.ok.inj (hlocate.symm.trans hthere)
  rw [hnode] at hunreadable
  cases hunreadable

/-- A path that leads to a file leads to something. -/
theorem exists? (h : files.Holds path content) : files.exists? path = true := by
  obtain ⟨location, hlocate, hnode⟩ := h
  unfold Files.exists? find
  rw [hlocate, ok_bind, hnode]
  rfl

/-- The text of a file is read. -/
theorem readText {text : String} (h : files.Holds path (Bytes.ofText text)) :
    files.readText path = .ok text := by
  obtain ⟨location, hlocate, hnode⟩ := h
  have hread : files.read path = .ok (Bytes.ofText text) := by
    unfold Files.read find
    rw [hlocate, ok_bind, hnode]
    rfl
  unfold Files.readText
  rw [hread, ok_bind, Bytes.toText?_ofText]
  rfl

/-- A file stays in a tree that extends the first. -/
theorem of_extends (h : files.Holds path content) (hextends : files.Extends files') :
    files'.Holds path content := by
  obtain ⟨location, hlocate, hnode⟩ := h
  exact ⟨location, locate_of_keeps hextends.keepsDirectories hlocate, hextends _ _ hnode⟩

/-- A file stays in a tree with the same nodes. -/
theorem of_nodes (h : files.Holds path content) (hnodes : files'.nodes = files.nodes) :
    files'.Holds path content :=
  h.of_extends (extends_of_nodes hnodes)

/-- A file stays when a node is put elsewhere, where there is no directory; at the same place the
new node takes its place. -/
theorem setNode (h : files.Holds path content) {location : Location} (node : Node)
    (hdirectory : files.node? location ≠ some .directory) :
    (files.setNode location node).Holds path content ∨
      files.node? location = some (.file content) ∧
        ∀ new, node = .file new → (files.setNode location node).Holds path new := by
  obtain ⟨there, hlocate, hnode⟩ := h
  have hkeeps := keepsDirectories_setNode node hdirectory
  have hroot : location ≠ [] := by
    rintro rfl
    exact hdirectory rfl
  by_cases hthere : there = location
  · subst hthere
    refine .inr ⟨hnode, fun new hnew => ⟨there, locate_of_keeps hkeeps hlocate, ?_⟩⟩
    rw [node?_setNode files hroot, if_pos rfl, hnew]
  · refine .inl ⟨there, locate_of_keeps hkeeps hlocate, ?_⟩
    rw [node?_setNode files hroot, if_neg hthere, hnode]

end Holds

/-! ## Database files -/

/-- Where the names of a database file lead depends on the names alone. -/
theorem databaseWalk?_unique {files files' : Files} {here there there' : Location}
    {names : List String} (h : files.databaseWalk? here names = some there)
    (h' : files'.databaseWalk? here names = some there') : there = there' := by
  induction names generalizing here with
  | nil => exact Option.some.inj (h.symm.trans h')
  | cons name names ih =>
    rw [databaseWalk?] at h h'
    split at h
    · next hdots =>
      rw [if_pos hdots] at h'
      exact ih h h'
    · next hdots =>
      rw [if_neg hdots] at h'
      dsimp only at h h'
      -- A name leads on through a directory or to nothing yet, and to the same location in both.
      split at h
      · split at h'
        · exact ih h h'
        · exact ih h h'
        · cases h'
      · split at h'
        · exact ih h h'
        · exact ih h h'
        · cases h'
      · cases h

/-- The location of a database file is that of its names, and no directory. -/
theorem databaseLocation?_some {files : Files} {path : String} {location : Location}
    (h : files.databaseLocation? path = some location) :
    files.databaseWalk? [] (components path) = some location ∧
      files.node? location ≠ some .directory := by
  unfold databaseLocation? at h
  split at h
  · cases h
  · rcases hwalk : files.databaseWalk? [] (components path) with _ | there <;> rw [hwalk] at h
    · cases h
    · rw [Option.bind_eq_bind, Option.bind_some] at h
      split at h
      · next hplace =>
        cases h
        exact ⟨rfl, hplace.2.2⟩
      · cases h

/-- A database file that is opened is a database, or as good as empty. -/
theorem openDatabase_content {files : Files} {path : String} {content : Database}
    (h : files.openDatabase path = .content content) :
    ∃ location, files.databaseLocation? path = some location ∧
      (files.node? location = some (.database content) ∨
        ∀ bytes, files.node? location = some (.file bytes) → bytes.length < 2) ∧
      ∀ database, files.node? location = some (.database database) → content = database := by
  unfold openDatabase at h
  split at h
  · cases h
  · next location hlocation =>
    refine ⟨location, hlocation, ?_⟩
    generalize files.node? location = node at h ⊢
    rcases node with _ | _ | bytes | _ | database
    · exact ⟨.inr nofun, nofun⟩
    · cases h
    · rcases bytes with _ | ⟨byte, _ | ⟨other, bytes⟩⟩
      · exact ⟨.inr fun bytes hbytes => by cases hbytes; simp, nofun⟩
      · exact ⟨.inr fun bytes hbytes => by cases hbytes; simp, nofun⟩
      · cases h
    · cases h
    · cases h
      exact ⟨.inl rfl, fun database hdatabase => by cases hdatabase; rfl⟩

/-- A database that is at the place of a path is opened. -/
theorem openDatabase_of_node {files : Files} {path : String} {location : Location}
    {content : Database} (hlocation : files.databaseLocation? path = some location)
    (hnode : files.node? location = some (.database content)) :
    files.openDatabase path = .content content := by
  unfold openDatabase
  rw [hlocation]
  dsimp only
  rw [hnode]

/-- A database file that was saved is opened. -/
theorem openDatabase_of_saved {files files' : Files} {path : String} {location : Location}
    {content content' : Database} (hlocation : files.databaseLocation? path = some location)
    (hextends : (files.setNode location (.database content)).Extends files')
    (h : files'.openDatabase path = .content content') : content' = content := by
  obtain ⟨hwalk, hdirectory⟩ := databaseLocation?_some hlocation
  obtain ⟨there, hthere, -, hunique⟩ := openDatabase_content h
  obtain rfl : location = there := databaseWalk?_unique hwalk (databaseLocation?_some hthere).1
  have hroot : location ≠ [] := by
    rintro rfl
    exact hdirectory rfl
  refine hunique content (hextends location _ ?_)
  rw [node?_setNode files hroot, if_pos rfl]

/-- A file with more than one byte stays when a database is saved that can be opened. -/
theorem Holds.saveDatabase {files : Files} {path file : String} {content : Bytes}
    (h : files.Holds path content) (hlong : 2 ≤ content.length) {before : Database}
    (hopen : files.openDatabase file = .content before) (database : Database) :
    (files.saveDatabase file database).Holds path content := by
  obtain ⟨location, hlocation, hnode, -⟩ := openDatabase_content hopen
  unfold Files.saveDatabase
  rw [hlocation]
  rcases h.setNode (.database database) (databaseLocation?_some hlocation).2 with hkept | ⟨htaken, -⟩
  · exact hkept
  · -- The place of the database would be that of the file, which is no database.
    rcases hnode with hdatabase | hshort
    · rw [htaken] at hdatabase
      cases hdatabase
    · have := hshort content htaken
      omega

end Files

end CredentialVault
