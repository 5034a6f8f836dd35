import Mathlib.Data.List.Induction
import CredentialVault.Proofs.Files.Writable

/-!
# Files behind missing directories

A path leads nowhere while a directory on its way is missing. Once the directory is made it may lead
to a file that was there all the time: as `a/../f` does, which leads to `f` as soon as there is an
`a`. Such a file is hidden from the path (`Files.Hides`). Where every directory is in one that is
there, only `..` hides files (`not_hides_of_rooted`).

What a path leads to, or would lead to after directories were made, is told by `Files.LeadsOnlyTo`,
which is kept when directories are made (`LeadsOnlyTo.of_grows`) and when files of other names are
written (`LeadsOnlyTo.setNode`).
-/

namespace CredentialVault

open Operation

namespace Files

/-- Nothing changes but that directories come where nothing was. -/
def Grows (files grown : Files) : Prop :=
  ∀ location, grown.node? location = files.node? location ∨
    files.node? location = none ∧ grown.node? location = some .directory

/-- A file is hidden from a path: the path does not lead to it, but would if directories were
made. -/
def Hides (files : Files) (path : String) : Prop :=
  ∃ grown node, files.Grows grown ∧ grown.find path = .ok node ∧ node ≠ .directory ∧
    files.find path ≠ .ok node

/-- Every file to which a path leads, or would lead if directories were made, is such a one. -/
def LeadsOnlyTo (files : Files) (path : String) (P : Node → Prop) : Prop :=
  ∀ grown node, files.Grows grown → grown.find path = .ok node → node ≠ .directory → P node

variable {files files' grown : Files} {path name : String} {location here there : Location}
  {node : Node} {content : Bytes} {P : Node → Prop}

/-! ## Trees that grow -/

instance : Sequential Grows where
  refl _ _ := .inl rfl
  trans h h' location := by
    rcases h location with hsame | ⟨hnone, hmade⟩
    · rcases h' location with hsame' | ⟨hnone', hmade'⟩
      · exact .inl (hsame'.trans hsame)
      · exact .inr ⟨hsame ▸ hnone', hmade'⟩
    · rcases h' location with hsame' | ⟨-, hmade'⟩
      · exact .inr ⟨hnone, hsame'.trans hmade⟩
      · exact .inr ⟨hnone, hmade'⟩

namespace Grows

/-- The nodes are all there is at locations. -/
theorem of_nodes (h : files'.nodes = files.nodes) : files.Grows files' :=
  fun location => .inl (node?_congr h location)

/-- Every node stays. -/
theorem toExtends (h : files.Grows grown) : files.Extends grown := by
  intro location node hnode
  rcases h location with hsame | ⟨hnone, -⟩
  · exact hsame.trans hnode
  · rw [hnone] at hnode
    cases hnode

/-- No file comes. -/
theorem node?_eq (h : files.Grows grown) (hnode : grown.node? location = some node)
    (hfile : node ≠ .directory) : files.node? location = some node := by
  rcases h location with hsame | ⟨-, hmade⟩
  · exact hsame ▸ hnode
  · rw [hmade] at hnode
    exact absurd (Option.some.inj hnode).symm hfile

end Grows

/-! ## Where a file is found -/

/-- A path leads to the node at its location. -/
theorem find_eq_ok_iff : files.find path = .ok node ↔
    ∃ location, files.locate path = .ok location ∧ files.node? location = some node := by
  unfold find
  rcases files.locate path with e | location
  · exact iff_of_false nofun fun ⟨_, h, _⟩ => nomatch h
  · rw [ok_bind]
    rcases hnode : files.node? location with _ | found
    · refine iff_of_false nofun ?_
      rintro ⟨_, h, h'⟩
      cases h
      rw [hnode] at h'
      cases h'
    · constructor
      · rintro ⟨⟩
        exact ⟨location, rfl, hnode⟩
      · rintro ⟨_, h, h'⟩
        cases h
        rw [hnode] at h'
        exact congrArg Except.ok (Option.some.inj h')

/-- A text is read from a plain file alone. -/
theorem find_of_readText {text : String} (h : files.readText path = .ok text) :
    files.find path = .ok (.file (Bytes.ofText text)) := by
  unfold readText read at h
  rcases hfind : files.find path with e | _ | content | _ | _ <;> rw [hfind] at h
  · cases h
  · cases h
  · rcases htext : Bytes.toText? content with _ | found
    · simp only [ok_bind, pure_bind, htext] at h
      cases h
    · simp only [ok_bind, pure_bind, htext] at h
      cases h
      rw [Bytes.ofText_toText? htext]
  · cases h
  · cases h

/-- The directory above a location that is reached is there. -/
theorem Reached.directory (h : files.Reached here) :
    files.node? here.dropLast = some .directory := by
  rcases List.eq_nil_or_concat here with rfl | ⟨above, last, rfl⟩
  · rfl
  have hwalk := h _ List.prefix_rfl
  rw [List.concat_eq_append] at h hwalk ⊢
  rw [List.dropLast_concat]
  rw [walk_append, h above (List.prefix_append ..), ok_bind, walk] at hwalk
  split at hwalk
  · cases hwalk
  · next hnode => exact hnode
  · cases hwalk

/-- Names that are followed from a location that is reached lead to one that is reached. -/
theorem Reached.walk {names : List String} (h : files.Reached here)
    (hwalk : files.walk here names = .ok there) : files.Reached there := by
  induction names generalizing here with
  | nil =>
    cases hwalk
    exact h
  | cons name names ih =>
    rw [Files.walk] at hwalk
    split at hwalk
    · cases hwalk
    · next hnode =>
      split at hwalk
      · exact ih h hwalk
      · next hdot =>
        split at hwalk
        · exact ih h.dropLast hwalk
        · next hdots =>
          split at hwalk
          · cases hwalk
          · next hsize => exact ih (h.concat hnode hdot hdots (Nat.not_lt.mp hsize)) hwalk
    · cases hwalk

/-- Names that do not lead to a directory lead by the last of them from the directory to which the
others lead. -/
theorem walk_concat {before : List String} (h : files.walk [] (before ++ [name]) = .ok location)
    (hfile : files.node? location ≠ some .directory) :
    name ≠ "." ∧ name ≠ ".." ∧ name.utf8ByteSize ≤ maxName ∧ ∃ there,
      files.walk [] before = .ok there ∧ files.node? there = some .directory ∧
        location = there ++ [name] := by
  rw [walk_append] at h
  rcases hbefore : files.walk [] before with e | there <;> rw [hbefore] at h
  · cases h
  rw [ok_bind, walk] at h
  split at h
  · cases h
  · next hnode =>
    split at h
    · -- A dot stays in the directory.
      cases h
      exact absurd hnode hfile
    · next hdot =>
      split at h
      · -- Two dots lead to the directory above.
        cases h
        exact absurd (((Reached.root files).walk hbefore).directory) hfile
      · next hdots =>
        split at h
        · cases h
        · next hsize =>
          exact ⟨hdot, hdots, Nat.not_lt.mp hsize, there, rfl, hnode, (Except.ok.inj h).symm⟩
  · cases h

/-- A path that does not lead to a directory leads to its place, which has the name of its file. -/
theorem placeOf_of_locate (h : files.locate path = .ok location)
    (hfile : files.node? location ≠ some .directory) :
    ∃ place, files.placeOf path = .ok place ∧ place.isFixed = false ∧ place.endsInSlash = false ∧
      place.name = fileName path ∧ place.name.utf8ByteSize ≤ maxName ∧
      place.location = location := by
  unfold locate at h
  split at h
  · cases h
  next hrefusal =>
  rcases hslash : endsInSlash path with _ | _ <;> rw [hslash] at h
  · rw [if_neg (by decide), List.append_nil] at h
    rcases List.eq_nil_or_concat (names path) with hnames | ⟨before, last, hnames⟩
    · rw [hnames] at h
      cases h
      exact absurd rfl hfile
    rw [List.concat_eq_append] at hnames
    rw [hnames] at h
    obtain ⟨hdot, hdots, hsize, there, hbefore, hnode, rfl⟩ := walk_concat h hfile
    have hdirectory : files.walk [] (before ++ ["."]) = .ok there := by
      rw [walk_append, hbefore, ok_bind, walk, hnode]
      dsimp only
      rw [if_pos rfl, walk]
    refine ⟨⟨there, last, false⟩, placeOf_ok.mpr ⟨hrefusal, ?_, ?_, hslash.symm⟩, ?_, rfl, ?_,
      hsize, rfl⟩
    · rw [hnames, List.dropLast_concat, hdirectory]
    · rw [hnames, List.getLast?_concat, Option.getD_some]
    · simp [Place.isFixed, hdot, hdots]
    · unfold fileName components
      rw [hnames, List.filter_append, List.filter_cons_of_pos (by simpa using hdot), List.filter_nil,
        List.getLast?_concat]
      exact (if_neg hdots).symm
  · -- What comes before a slash is a directory.
    rw [if_pos rfl] at h
    exact absurd rfl (walk_concat h hfile).1

/-- A path that does not lead to a directory leads to a location of its own name. -/
theorem getLast?_of_locate (h : files.locate path = .ok location)
    (hfile : files.node? location ≠ some .directory) :
    location.getLast? = some (fileName path) := by
  obtain ⟨place, -, -, -, hname, -, rfl⟩ := placeOf_of_locate h hfile
  rw [Place.location, List.getLast?_concat, hname]

/-- A file stays when one of another name is put anywhere. -/
theorem Holds.setNode_of_name (h : files.Holds path content)
    (hname : location.getLast? ≠ some (fileName path))
    (hdirectory : files.node? location ≠ some .directory) :
    (files.setNode location node).Holds path content := by
  have hroot : location ≠ [] := by
    rintro rfl
    exact hdirectory rfl
  obtain ⟨there, hlocate, hnode⟩ := h
  have hthere : there ≠ location := by
    rintro rfl
    exact hname (getLast?_of_locate hlocate (by rw [hnode]; exact nofun))
  refine ⟨there, locate_of_keeps (keepsDirectories_setNode node hdirectory) hlocate, ?_⟩
  rw [node?_setNode files hroot, if_neg hthere, hnode]

/-! ## Hidden files -/

/-- Every node is in a directory. -/
def Rooted (files : Files) : Prop :=
  ∀ entry ∈ files.nodes, files.node? entry.1.dropLast = some .directory

instance (files : Files) : Decidable files.Rooted :=
  inferInstanceAs (Decidable (∀ entry ∈ files.nodes, _))

/-- What is found is in a directory. -/
theorem Rooted.above (h : files.Rooted) (hnode : files.node? location = some node) :
    files.node? location.dropLast = some .directory := by
  unfold node? at hnode
  split at hnode
  · next hroot =>
    rw [hroot]
    rfl
  · obtain ⟨before, after, hnodes, -⟩ := List.lookup_eq_some_iff.mp hnode
    exact h (location, node) (by rw [hnodes]; simp)

/-- All directories above a directory are there. -/
theorem Rooted.directory (h : files.Rooted) (hnode : files.node? there = some .directory)
    (hbelow : here <+: there) : files.node? here = some .directory := by
  induction there using List.reverseRecOn with
  | nil =>
    rw [List.prefix_nil.mp hbelow]
    rfl
  | append_singleton above last ih =>
    rcases List.prefix_concat_iff.mp hbelow with rfl | habove
    · exact hnode
    · have hup := h.above hnode
      rw [List.dropLast_concat] at hup
      exact ih hup habove

/-- Names lead downwards if none of them is `..`. -/
theorem prefix_of_walk {names : List String} (hdots : ".." ∉ names)
    (h : files.walk here names = .ok there) : here <+: there := by
  induction names generalizing here with
  | nil =>
    cases h
    exact List.prefix_rfl
  | cons name names ih =>
    have hrest : ".." ∉ names := fun hmem => hdots (List.mem_cons_of_mem _ hmem)
    rw [walk] at h
    split at h
    · cases h
    · split at h
      · exact ih hrest h
      · split at h
        · next hname => exact absurd (hname ▸ List.mem_cons_self) hdots
        · split at h
          · cases h
          · exact (List.prefix_append here [name]).trans (ih hrest h)
    · cases h

/-- Names without `..` that lead to a directory of the tree, after it grew, lead there already. -/
theorem Rooted.walk {names : List String} (h : files.Rooted) (hdots : ".." ∉ names)
    (hwalk : grown.walk here names = .ok there) (hthere : files.node? there = some .directory) :
    files.walk here names = .ok there := by
  -- Each step is taken above the directory to which the names lead, and so from a directory.
  have hhere : files.node? here = some .directory :=
    h.directory hthere (prefix_of_walk hdots hwalk)
  induction names generalizing here with
  | nil => exact hwalk
  | cons name names ih =>
    have hrest : ".." ∉ names := fun hmem => hdots (List.mem_cons_of_mem _ hmem)
    rw [Files.walk] at hwalk ⊢
    rw [hhere]
    dsimp only
    split at hwalk
    · cases hwalk
    · split at hwalk
      · next hdot =>
        rw [if_pos hdot]
        exact ih hrest hwalk hhere
      · next hdot =>
        rw [if_neg hdot]
        split at hwalk
        · next hname => exact absurd (hname ▸ List.mem_cons_self) hdots
        · next hname =>
          rw [if_neg hname]
          split at hwalk
          · cases hwalk
          · next hsize =>
            rw [if_neg hsize]
            exact ih hrest hwalk (h.directory hthere (prefix_of_walk hrest hwalk))
    · cases hwalk

/-- Where every node is in a directory, only a path with `..` in it hides a file. -/
theorem not_hides_of_rooted (h : files.Rooted) (hdots : ".." ∉ names path) : ¬files.Hides path := by
  rintro ⟨grown, node, hgrows, hfind, hfile, hnot⟩
  obtain ⟨location, hlocate, hnode⟩ := find_eq_ok_iff.mp hfind
  obtain ⟨place, hplace, hfixed, hslash, -, hsize, rfl⟩ :=
    placeOf_of_locate hlocate (by rw [hnode]; simpa using hfile)
  have hold : files.node? place.location = some node := hgrows.node?_eq hnode hfile
  have hdirectory : files.node? place.directory = some .directory := by
    have habove := h.above hold
    rwa [Place.location, List.dropLast_concat] at habove
  obtain ⟨hrefusal, hwalk, hname, hends⟩ := placeOf_ok.mp hplace
  -- The file was there before the tree grew, in its directory, to which the path led already.
  have hmem : ".." ∉ (names path).dropLast ++ ["."] := by
    rw [List.mem_append, not_or]
    exact ⟨fun hmem => hdots (List.dropLast_subset _ hmem), by decide⟩
  have hplace' : files.placeOf path = .ok place :=
    placeOf_ok.mpr ⟨hrefusal, h.walk hmem hwalk hdirectory, hname, hends⟩
  exact hnot (find_eq_ok_iff.mpr ⟨_, locate_of_placeOf hplace' hfixed hslash hsize, hold⟩)

/-! ## What a path leads to -/

/-- The node at a location can be any or none. -/
theorem exists_withNode (files : Files) (hroot : location ≠ []) (node? : Option Node) :
    ∃ files' : Files, ∀ other, files'.node? other =
      if other = location then node? else files.node? other := by
  rcases node? with _ | node
  · refine ⟨files.dropNode location, fun other => ?_⟩
    split
    · next hother => rw [hother, node?_dropNode_self files hroot]
    · next hother => exact node?_dropNode files hother
  · exact ⟨files.setNode location node, node?_setNode files hroot node⟩

namespace LeadsOnlyTo

/-- To be told what a path leads to now is enough when it hides no file. -/
theorem of_not_hides (h : ¬files.Hides path)
    (hP : ∀ node, files.find path = .ok node → node ≠ .directory → P node) :
    files.LeadsOnlyTo path P := by
  intro grown node hgrows hfind hfile
  have hnow : files.find path = .ok node := by
    refine Classical.byContradiction fun hnot => ?_
    exact h ⟨grown, node, hgrows, hfind, hfile, hnot⟩
  exact hP node hnow hfile

/-- A path that leads to a file leads to no other after directories were made. -/
theorem of_holds (h : files.Holds path content) : files.LeadsOnlyTo path (· = .file content) := by
  intro grown node hgrows hfind _
  obtain ⟨location, hlocate, hnode⟩ := h
  have hfound : grown.find path = .ok (.file content) :=
    find_eq_ok_iff.mpr ⟨location, locate_of_keeps hgrows.toExtends.keepsDirectories hlocate,
      hgrows.toExtends _ _ hnode⟩
  exact Except.ok.inj (hfind.symm.trans hfound)

/-- What holds of the files to which a path leads. -/
theorem find (h : files.LeadsOnlyTo path P) (hfind : files.find path = .ok node)
    (hfile : node ≠ .directory) : P node :=
  h files node (Sequential.refl files) hfind hfile

/-- Directories may be made. -/
theorem of_grows (h : files.LeadsOnlyTo path P) (hgrows : files.Grows files') :
    files'.LeadsOnlyTo path P :=
  fun grown node hmore => h grown node (Sequential.trans hgrows hmore)

/-- A file of another name may be written. -/
theorem setNode (h : files.LeadsOnlyTo path P) (hname : location.getLast? ≠ some (fileName path))
    (hdirectory : files.node? location ≠ some .directory) (hfile : node ≠ .directory) :
    (files.setNode location node).LeadsOnlyTo path P := by
  have hroot : location ≠ [] := by
    rintro rfl
    exact hdirectory rfl
  intro grown found hgrows hfind hfound
  -- The tree that grew from the one with the file, without that file, grew from the one without it.
  obtain ⟨before, hbefore⟩ := exists_withNode grown hroot (files.node? location)
  have hsame : ∀ other, other ≠ location → before.node? other = grown.node? other :=
    fun other hother => (hbefore other).trans (if_neg hother)
  have hgrows' : files.Grows before := by
    intro other
    by_cases hother : other = location
    · exact .inl (by rw [hbefore, if_pos hother, hother])
    · have hmore := hgrows other
      rw [node?_setNode files hroot, if_neg hother] at hmore
      rwa [hsame other hother]
  have hkeeps : grown.KeepsDirectories before := by
    intro other hother
    have hne : other ≠ location := by
      rintro rfl
      have hset := hgrows.toExtends other node (by rw [node?_setNode files hroot, if_pos rfl])
      exact hfile (Option.some.inj (hset.symm.trans hother))
    rw [hsame other hne, hother]
  -- The path leads to the same file in both, since the other file is of another name.
  obtain ⟨there, hlocate, hnode⟩ := find_eq_ok_iff.mp hfind
  have hthere : there ≠ location := by
    rintro rfl
    exact hname (getLast?_of_locate hlocate (by rw [hnode]; simpa using hfound))
  exact h before found hgrows' (find_eq_ok_iff.mpr ⟨there, locate_of_keeps hkeeps hlocate,
    (hsame there hthere).trans hnode⟩) hfound

end LeadsOnlyTo

end Files

/-! ## Changes of the tree -/

namespace FilesM

/-- To make a file readable leaves the nodes of other names. -/
theorem leavesNode_grantOwner {location : Files.Location} {path : String}
    (hother : location.getLast? ≠ some (Files.fileName path)) :
    Within (Files.LeavesNode location) (grantOwner path) := by
  intro files
  rcases hrun : grantOwner path files with ⟨r, files'⟩
  rcases grantOwner_run hrun with ⟨-, hnodes⟩ | ⟨-, place, node, hlocate, hnode, hnodes⟩
  · exact .of_nodes hnodes
  by_cases hplace : location = place
  · -- Only a directory can be there, which is as readable as it was.
    subst hplace
    have hdirectory : node = .directory := by
      by_contra hfile
      exact hother (Files.getLast?_of_locate hlocate (by rw [hnode]; simpa using hfile))
    subst hdirectory
    right
    rw [Files.node?_congr hnodes]
    by_cases hroot : location = []
    · exact if_pos hroot
    · rw [Files.node?_setNode files hroot, if_pos rfl]
      rfl
  · left
    rw [Files.node?_congr hnodes, Files.node?_setNode_ne files hplace]

/-- To make a directory lets the tree grow. -/
theorem grows_createDirectory (path : String) : Within Files.Grows (createDirectory path) := by
  intro files
  rcases hrun : createDirectory path files with ⟨r, files'⟩
  rcases createDirectory_run hrun with ⟨-, hnodes⟩ | ⟨-, place, -, hfree, -, hnodes⟩
  · exact .of_nodes hnodes
  · intro location
    rw [Files.node?_congr hnodes, Files.node?_setNode _ (by simp [Files.Place.location])]
    split
    · next hplace => exact .inr ⟨hplace ▸ hfree, rfl⟩
    · exact .inl rfl

/-- To make a directory and those above it lets the tree grow. -/
theorem grows_createDirectories (path : String) : Within Files.Grows (createDirectories path) :=
  within_createDirectories grows_createDirectory path

end FilesM

end CredentialVault
