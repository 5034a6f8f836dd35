import CredentialVault.Proofs.Files.Others

/-!
# Files that can be written

A file can be written when its directory is there and no directory has its name (`Files.CanWrite`).
Then it is written, if no change is to be refused, and other files are moved there
(`write_of_canWrite`, `rename_of_canWrite`); and it can still be written after any change of files.
The same goes for the database files of a directory: where the directory is, they have their
location (`databaseLocation?_of_touches`).
-/

namespace CredentialVault

open Operation

namespace Files

/-- A file can be written at a path: its directory is there, and its name is not too long, is its
own, and is not that of a directory. -/
def CanWrite (files : Files) (path : String) : Prop :=
  ∃ place, files.placeOf path = .ok place ∧ place.isFixed = false ∧ place.endsInSlash = false ∧
    place.name.utf8ByteSize ≤ maxName ∧ files.node? place.location ≠ some .directory

/-- Whether a file can be written is decided by looking at its place. -/
instance (files : Files) (path : String) : Decidable (files.CanWrite path) :=
  decidable_of_iff ((files.placeOf path).toOption.any (fun place =>
    !place.isFixed && !place.endsInSlash && place.name.utf8ByteSize ≤ maxName &&
      files.node? place.location ≠ some .directory) = true) (by
    unfold CanWrite
    rcases files.placeOf path with e | place
    · exact iff_of_false Bool.false_ne_true fun ⟨_, h, _⟩ => nomatch h
    · simp [Except.toOption, and_assoc])

variable {files files' : Files} {path directory name : String} {location : Location}
  {touched : List String}

/-- A file can be written after other files changed. -/
theorem CanWrite.of_touches (h : files.CanWrite path) (htouches : files.Touches touched files') :
    files'.CanWrite path := by
  obtain ⟨place, hplace, hfixed, hslash, hsize, hnode⟩ := h
  refine ⟨place, placeOf_of_keeps htouches.keepsDirectories hplace, hfixed, hslash, hsize, ?_⟩
  exact fun hdirectory => hnode (htouches.keepsDirectories_back _ hdirectory)

/-! ## Where paths lead -/

/-- What a path leads to is the node at its location. -/
theorem find_of_locate (h : files.locate path = .ok location) :
    (files.find path).toOption = files.node? location := by
  unfold find
  rw [h, ok_bind]
  cases files.node? location <;> rfl

/-- A path that leads nowhere leads to nothing. -/
theorem find_of_error {e : FileError} (h : files.locate path = .error e) :
    (files.find path).toOption = none := by
  unfold find
  rw [h]
  rfl

/-- A path leads to what it led to when the directories are the same, and the node at its
location. -/
theorem find_of_touches (htouches : files.Touches touched files')
    (hsame : ∀ location, files.locate path = .ok location →
      files'.node? location = files.node? location) :
    (files'.find path).toOption = (files.find path).toOption := by
  rcases hlocate : files.locate path with e | location
  · rcases hlocate' : files'.locate path with e' | location
    · rw [find_of_error hlocate, find_of_error hlocate']
    · rw [locate_of_keeps htouches.keepsDirectories_back hlocate'] at hlocate
      cases hlocate
  · rw [find_of_locate hlocate, find_of_locate (locate_of_keeps htouches.keepsDirectories hlocate),
      hsame location hlocate]

/-- Whether a path leads to anything is told by what it leads to. -/
theorem exists?_eq (files : Files) (path : String) :
    files.exists? path = (files.find path).toOption.isSome := by
  unfold exists?
  cases files.find path <;> rfl

/-- A path leads to a directory if one is at its location. -/
theorem isDirectory_iff : files.isDirectory path = true ↔
    ∃ location, files.locate path = .ok location ∧ files.node? location = some .directory := by
  unfold isDirectory find
  rcases files.locate path with e | location
  · exact iff_of_false nofun fun ⟨_, h, _⟩ => nomatch h
  · rw [ok_bind]
    rcases hnode : files.node? location with _ | _ | _ | _ | _
    · exact iff_of_false nofun fun ⟨_, h, h'⟩ => by cases h; rw [hnode] at h'; cases h'
    · exact iff_of_true rfl ⟨location, rfl, hnode⟩
    · exact iff_of_false nofun fun ⟨_, h, h'⟩ => by cases h; rw [hnode] at h'; cases h'
    · exact iff_of_false nofun fun ⟨_, h, h'⟩ => by cases h; rw [hnode] at h'; cases h'
    · exact iff_of_false nofun fun ⟨_, h, h'⟩ => by cases h; rw [hnode] at h'; cases h'

/-- A directory is something. -/
theorem exists?_of_isDirectory (h : files.isDirectory path = true) : files.exists? path = true := by
  obtain ⟨location, hlocate, hnode⟩ := isDirectory_iff.mp h
  rw [exists?_eq, find_of_locate hlocate, hnode]
  rfl

/-- A directory is there after files changed. -/
theorem isDirectory_of_touches (h : files.isDirectory path = true)
    (htouches : files.Touches touched files') : files'.isDirectory path = true := by
  obtain ⟨location, hlocate, hnode⟩ := isDirectory_iff.mp h
  exact isDirectory_iff.mpr ⟨location, locate_of_keeps htouches.keepsDirectories hlocate,
    htouches.keepsDirectories _ hnode⟩

/-- The path of a file in a directory does not end in a slash. -/
theorem IsFileName.endsInSlash_join (hname : IsFileName name) (base : String) :
    endsInSlash (join base name) = false := by
  obtain ⟨before, hbefore⟩ : ∃ before, (join base name).toList = before ++ name.toList := by
    unfold join
    rw [if_neg (by rw [hname.startsInSlash]; decide)]
    split
    · exact ⟨base.toList, String.toList_append⟩
    · exact ⟨(base ++ "/").toList, String.toList_append⟩
  have hempty : name.toList ≠ [] := by simpa using hname.nonempty
  unfold endsInSlash
  rw [hbefore, List.getLast?_append, List.getLast?_eq_some_getLast hempty, Option.some_or,
    decide_eq_false_iff_not]
  intro hslash
  exact hname.slashless (Option.some.inj hslash ▸ List.getLast_mem hempty)

/-- The way to a file in a directory is the way to the directory and then the name. -/
theorem locate_join (hname : IsFileName name) (h : files.locate (join directory name) = .ok location) :
    ∃ there, files.walk [] (names directory) = .ok there ∧ location = there ++ [name] := by
  unfold locate at h
  split at h
  · cases h
  rw [hname.endsInSlash_join, if_neg (by decide), List.append_nil, hname.names_join, walk_append] at h
  rcases hwalk : files.walk [] (names directory) with e | there <;> rw [hwalk] at h
  · cases h
  refine ⟨there, rfl, ?_⟩
  rw [ok_bind, walk] at h
  split at h
  · cases h
  · rw [if_neg hname.own.1, if_neg hname.own.2, if_neg (Nat.not_lt.mpr hname.size), walk] at h
    exact (Except.ok.inj h).symm
  · cases h

/-- A file in a directory is found as before when files of other names changed. -/
theorem find_join_of_touches (hname : IsFileName name) (hother : name ∉ touched)
    (htouches : files.Touches touched files') :
    (files'.find (join directory name)).toOption = (files.find (join directory name)).toOption := by
  refine find_of_touches htouches fun location hlocate => htouches.node?_eq fun other hmem hlast => ?_
  obtain ⟨there, -, rfl⟩ := locate_join hname hlocate
  rw [List.getLast?_concat] at hlast
  exact hother (Option.some.inj hlast ▸ hmem)

/-- A path leads to a file with a content if that is what is found. -/
theorem holds_iff {content : Bytes} :
    files.Holds path content ↔ (files.find path).toOption = some (.file content) := by
  constructor
  · rintro ⟨location, hlocate, hnode⟩
    rw [find_of_locate hlocate, hnode]
  · intro hfind
    rcases hlocate : files.locate path with e | location
    · rw [find_of_error hlocate] at hfind
      cases hfind
    · rw [find_of_locate hlocate] at hfind
      exact ⟨location, hlocate, hfind⟩

/-- A file in a directory has the content that it had when files of other names changed. -/
theorem holds_iff_of_touches {content : Bytes} (hname : IsFileName name) (hother : name ∉ touched)
    (htouches : files.Touches touched files') :
    files'.Holds (join directory name) content ↔ files.Holds (join directory name) content := by
  rw [holds_iff, holds_iff, find_join_of_touches hname hother htouches]

/-! ## Database files -/

/-- The directories on the way to a location are there, so that each is reached by its location. -/
def Reached (files : Files) (here : Location) : Prop :=
  ∀ there, there <+: here → files.walk [] there = .ok there

namespace Reached

variable {here : Location}

/-- The root is reached. -/
theorem root (files : Files) : files.Reached [] := by
  intro there hthere
  obtain rfl := List.prefix_nil.mp hthere
  rfl

/-- The directory above is reached. -/
theorem dropLast (h : files.Reached here) : files.Reached here.dropLast :=
  fun there hthere => h there (hthere.trans (List.dropLast_prefix here))

/-- A name in a directory is reached. -/
theorem concat (h : files.Reached here) (hnode : files.node? here = some .directory)
    (hdot : name ≠ ".") (hdots : name ≠ "..") (hsize : name.utf8ByteSize ≤ maxName) :
    files.Reached (here ++ [name]) := by
  intro there hthere
  rcases List.prefix_concat_iff.mp hthere with rfl | hbefore
  · rw [walk_append, h here List.prefix_rfl, ok_bind, walk, hnode]
    dsimp only
    rw [if_neg hdot, if_neg hdots, if_neg (Nat.not_lt.mpr hsize), walk]
  · exact h there hbefore

end Reached

/-- The way of a path is also that of a database file, if it leads through directories. -/
theorem databaseWalk?_of_walk {here there : Location} {names : List String}
    (hreached : files.Reached here) (h : files.walk here names = .ok there) :
    files.databaseWalk? here (names.filter (· ≠ ".")) = some there := by
  induction names generalizing here with
  | nil =>
    cases h
    rfl
  | cons first names ih =>
    rw [walk] at h
    split at h
    · cases h
    · next hnode =>
      split at h
      · next hdot =>
        rw [List.filter_cons_of_neg (by simpa using hdot)]
        exact ih hreached h
      next hdot =>
      rw [List.filter_cons_of_pos (by simpa using hdot), databaseWalk?]
      split at h
      · next hdots =>
        rw [if_pos hdots]
        exact ih hreached.dropLast h
      next hdots =>
      rw [if_neg hdots]
      split at h
      · cases h
      · next hsize =>
        have hnext := hreached.concat hnode hdot hdots (Nat.not_lt.mp hsize)
        dsimp only
        rw [hnext _ List.prefix_rfl]
        exact ih hnext h
    · cases h

/-- Where a directory is, the names of a database file in it lead to the file there. -/
theorem databaseWalk?_join (hname : IsFileName name) (h : files.isDirectory directory = true) :
    ∃ there, files.node? there = some .directory ∧
      files.databaseWalk? [] (components (join directory name)) = some (there ++ [name]) := by
  obtain ⟨there, hlocate, hnode⟩ := isDirectory_iff.mp h
  refine ⟨there, hnode, ?_⟩
  unfold locate at hlocate
  split at hlocate
  · cases hlocate
  -- A slash at the end of the path of the directory is a dot more on the way, which is passed over.
  have hwalk : files.walk [] ((names directory ++ if endsInSlash directory then ["."] else []) ++
      [name]) = .ok (there ++ [name]) := by
    rw [walk_append, hlocate, ok_bind, walk, hnode]
    dsimp only
    rw [if_neg hname.own.1, if_neg hname.own.2, if_neg (Nat.not_lt.mpr hname.size), walk]
  have hfilter : ((names directory ++ if endsInSlash directory then ["."] else []) ++
      [name]).filter (· ≠ ".") = components (join directory name) := by
    rw [hname.components_join, List.filter_append, List.filter_append, components,
      List.filter_cons_of_pos (by simpa using hname.own.1)]
    split <;> simp
  rw [← hfilter]
  exact databaseWalk?_of_walk (Reached.root files) hwalk

/-- The location of a path as that of a database file: where the names lead, with a path that is not
too long, in a directory, and no directory itself. -/
theorem databaseLocation?_eq_some : files.databaseLocation? path = some location ↔
    path.toList.contains '\x00' = false ∧ files.databaseWalk? [] (components path) = some location ∧
      (pathOf location).utf8ByteSize ≤ maxDatabasePath ∧
      files.node? location.dropLast = some .directory ∧ files.node? location ≠ some .directory := by
  unfold databaseLocation?
  rcases hzero : path.toList.contains '\x00' with _ | _
  · rcases hwalk : files.databaseWalk? [] (components path) with _ | there
    · simp
    · rw [if_neg (by decide), Option.bind_eq_bind, Option.bind_some]
      split
      · next hplace =>
        constructor
        · rintro ⟨⟩
          exact ⟨rfl, rfl, hplace⟩
        · rintro ⟨-, hthere, -⟩
          exact hthere
      · next hplace =>
        refine iff_of_false nofun ?_
        rintro ⟨-, hthere, hrest⟩
        cases hthere
        exact hplace hrest
  · simp

/-- A database file in a directory that is there has the location that it had. -/
theorem databaseLocation?_of_touches (hname : IsFileName name)
    (hdirectory : files.isDirectory directory = true) (htouches : files.Touches touched files')
    (h : files.databaseLocation? (join directory name) = some location) :
    files'.databaseLocation? (join directory name) = some location := by
  obtain ⟨hzero, hwalk, hsize, habove, hnode⟩ := databaseLocation?_eq_some.mp h
  obtain ⟨there, -, hwalk'⟩ :=
    databaseWalk?_join hname (isDirectory_of_touches hdirectory htouches)
  obtain rfl := databaseWalk?_unique hwalk hwalk'
  refine databaseLocation?_eq_some.mpr ⟨hzero, hwalk', hsize, ?_, ?_⟩
  · exact htouches.keepsDirectories _ habove
  · exact fun h => hnode (htouches.keepsDirectories_back _ h)

/-- A database file that was saved holds the content. -/
theorem node?_saveDatabase {content : Database}
    (hlocation : files.databaseLocation? path = some location) :
    (files.saveDatabase path content).node? location = some (.database content) := by
  have hroot : location ≠ [] := by
    rintro rfl
    exact (databaseLocation?_some hlocation).2 rfl
  unfold saveDatabase
  rw [hlocation]
  dsimp only
  rw [node?_setNode files hroot, if_pos rfl]

/-- To save what a database file holds changes no file. -/
theorem touches_saveDatabase_self {content : Database}
    (hlocation : files.databaseLocation? path = some location)
    (hnode : files.node? location = some (.database content)) :
    files.Touches [] (files.saveDatabase path content) := by
  refine ⟨fun hrefusals => ?_, fun other => .inl ?_⟩
  · unfold saveDatabase
    rwa [hlocation]
  · by_cases hsame : other = location
    · rw [hsame, node?_saveDatabase hlocation, hnode]
    · have hroot : location ≠ [] := by
        rintro rfl
        exact (databaseLocation?_some hlocation).2 rfl
      unfold saveDatabase
      rw [hlocation]
      dsimp only
      rw [node?_setNode files hroot, if_neg hsame]

end Files

/-! ## Changes that succeed -/

namespace FilesM

open Files

variable {files : Files} {path source target : String}

/-- If no change is to be refused, the next one is not. -/
theorem nextRefusal_of_unrefused (hrefusals : files.refusals = []) :
    nextRefusal files = (.ok none, files) := by
  obtain ⟨nodes, refusals⟩ := files
  obtain rfl : refusals = [] := hrefusals
  rfl

/-- If no change is to be refused, a change is permitted. -/
theorem permit_of_unrefused (hrefusals : files.refusals = []) : permit files = (.ok (), files) := by
  unfold permit
  rw [run_bind_of_ok (nextRefusal_of_unrefused hrefusals)]
  rfl

/-- The place of a path is looked for. -/
theorem placeOf_of_ok {place : Place} (h : files.placeOf path = .ok place) :
    placeOf path files = (.ok place, files) := by
  unfold placeOf
  rw [run_bind, run_get]
  dsimp only
  rw [h]
  rfl

/-- The node at a place is looked at. -/
theorem nodeAt?_of_size {place : Place} (h : place.name.utf8ByteSize ≤ maxName) :
    nodeAt? place files = (.ok (files.node? place.location), files) := by
  unfold nodeAt?
  rw [if_neg (Nat.not_lt.mpr h)]
  rfl

/-- A file that can be written is opened. -/
theorem opens_of_canWrite (hrefusals : files.refusals = []) (h : files.CanWrite path) :
    files.Opens path := by
  obtain ⟨place, hplace, hfixed, hslash, hsize, hnode⟩ := h
  unfold Opens openEmptied
  rw [run_bind_of_ok (placeOf_of_ok hplace), hfixed, hslash, if_neg (by decide)]
  dsimp only
  rw [run_bind_of_ok (nodeAt?_of_size hsize), if_neg hnode,
    run_bind_of_ok (permit_of_unrefused hrefusals)]
  rfl

/-- A file that can be opened is written, if no change is to be refused. -/
theorem write_of_opens (hrefusals : files.refusals = []) (h : files.Opens path) (content : Bytes) :
    ∃ files', write path content files = (.ok (), files') := by
  rcases hopen : openEmptied path files with ⟨e | place, opened⟩
  · rw [Opens, hopen] at h
    cases h
  have hopened : opened.refusals = [] := (maintains_unrefused_openEmptied path).of_run hopen hrefusals
  refine ⟨opened.refill place.location content, ?_⟩
  unfold write fill
  rw [run_bind_of_ok hopen, run_bind_of_ok (nextRefusal_of_unrefused hopened)]
  rfl

/-- A file that can be written is written. -/
theorem write_of_canWrite (hrefusals : files.refusals = []) (h : files.CanWrite path)
    (content : Bytes) : ∃ files', write path content files = (.ok (), files') :=
  write_of_opens hrefusals (opens_of_canWrite hrefusals h) content

/-- A file that was written is at the place of its path. -/
theorem write_ok {content : Bytes} {files' : Files} (h : write path content files = (.ok (), files')) :
    ∃ place, files.HasPlace path place ∧ files'.HasPlace path place ∧
      files'.node? place.location = some (Node.refilled content (files.node? place.location)) := by
  rcases write_run h with ⟨-, hfailed, -⟩ | ⟨-, place, part, hplace, -, hall, hnodes⟩
  · exact absurd rfl hfailed
  obtain rfl := hall.mp rfl
  exact ⟨place, hplace, hplace.of_setNode (Node.refilled_ne _ _) hnodes⟩

/-- A file at a place is made readable, if no change is to be refused. -/
theorem grantOwner_of_place {place : Place} {node : Node} (hrefusals : files.refusals = [])
    (hplace : files.HasPlace path place) (hnode : files.node? place.location = some node) :
    grantOwner path files = (.ok (), files.setNode place.location node.readable) := by
  unfold grantOwner
  rw [run_bind_of_ok (run_get files), hplace.locate]
  dsimp only
  rw [hnode]
  dsimp only
  rw [run_bind_of_ok (permit_of_unrefused hrefusals)]
  rfl

/-- The file at a place that was made readable can be read. -/
theorem grantOwner_ok {place : Place} {node : Node} {files' : Files}
    (hplace : files.HasPlace path place) (hnode : files.node? place.location = some node)
    (h : grantOwner path files = (.ok (), files')) :
    files'.HasPlace path place ∧ files'.node? place.location = some node.readable := by
  have hfile : node ≠ .directory := by
    rintro rfl
    exact hplace.node hnode
  rcases grantOwner_run h with ⟨hfailed, -⟩ | ⟨-, location, found, hlocate, hfound, hnodes⟩
  · exact absurd rfl hfailed
  obtain rfl := Except.ok.inj (hplace.locate.symm.trans hlocate)
  obtain rfl := Option.some.inj (hnode.symm.trans hfound)
  exact hplace.of_setNode (Node.readable_ne hfile) hnodes

/-- What is left in a file at a path after something was written to it. -/
theorem write_contains {content : Bytes} {files' : Files} {r : Except FileError Unit}
    (h : write path content files = (r, files')) :
    (¬files.Opens path ∧ r ≠ .ok () ∧ files'.nodes = files.nodes) ∨
      files.Opens path ∧ ∃ part, part <+: content ∧ (r = .ok () ↔ part = content) ∧
        files'.Contains path part ∧ (¬files.IsUnreadable path → files'.Holds path part) := by
  rcases write_run h with hclosed | ⟨hopens, place, part, hplace, hpart, hall, hnodes⟩
  · exact .inl hclosed
  obtain ⟨hthere, hnode⟩ := hplace.of_setNode (Node.refilled_ne _ _) hnodes
  refine .inr ⟨hopens, part, hpart, hall, ?_, fun hreadable => ?_⟩
  · refine ⟨place.location, hthere.locate, ?_⟩
    rw [hnode]
    unfold Node.refilled
    split
    · exact .inr rfl
    · exact .inl rfl
  · refine ⟨place.location, hthere.locate, ?_⟩
    rw [hnode]
    unfold Node.refilled
    split
    · next hold => exact absurd ⟨place.location, _, hplace.locate, hold⟩ hreadable
    · rfl

/-- A file is moved between two places where files can be written. -/
theorem rename_of_canWrite {content : Bytes} (hrefusals : files.refusals = [])
    (hsource : files.CanWrite source)
    (hfile : ∀ place, files.placeOf source = .ok place →
      files.node? place.location = some (.file content))
    (htarget : files.CanWrite target) : ∃ files', rename source target files = (.ok (), files') := by
  obtain ⟨origin, horigin, hfixed, hslash, hsize, -⟩ := hsource
  have hnode := hfile origin horigin
  obtain ⟨goal, hgoal, hfixed', hslash', hsize', hnode'⟩ := htarget
  refine ⟨(files.dropNode origin.location).setNode goal.location (.file content), ?_⟩
  unfold rename
  rw [run_bind_of_ok (placeOf_of_ok horigin), run_bind_of_ok (placeOf_of_ok hgoal), hfixed, hfixed',
    if_neg (by decide)]
  dsimp only
  rw [run_bind_of_ok (nodeAt?_of_size hsize), run_bind_of_ok (nodeAt?_of_size hsize'), hnode]
  dsimp only
  rw [hslash, hslash', if_neg (by simp), if_neg hnode',
    run_bind_of_ok (permit_of_unrefused hrefusals)]
  rfl

end FilesM

end CredentialVault
