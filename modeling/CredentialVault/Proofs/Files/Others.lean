import CredentialVault.Proofs.Files.Path

/-!
# Other files

A change of one file leaves the others. A file has its own name, so that a change under given names
leaves every node under another name, and it neither makes nor removes a directory (`Touches`). The
making of directories leaves a node unless it is where one of them is to be (`LeavesNode`).
-/

namespace CredentialVault

open Operation

namespace Files

/-- Nothing but files of the given names is changed, and if no change is to be refused, none is to
be refused afterwards. -/
structure Touches (touched : List String) (files files' : Files) : Prop where
  /-- No refusals come. -/
  refusals : files.refusals = [] → files'.refusals = []
  /-- A node is the same, or it is that of a file of one of the names. -/
  nodes : ∀ location, files'.node? location = files.node? location ∨
    (∃ name ∈ touched, location.getLast? = some name) ∧
      files.node? location ≠ some .directory ∧ files'.node? location ≠ some .directory

/-- The node at a location is left as it is, unless a directory is made there. -/
def LeavesNode (location : Location) (files files' : Files) : Prop :=
  files'.node? location = files.node? location ∨ files'.node? location = some .directory

variable {location : Location} {name : String} {touched : List String}

instance : Sequential (Touches touched) where
  refl _ := ⟨id, fun _ => .inl rfl⟩
  trans h h' := by
    refine ⟨h'.refusals ∘ h.refusals, fun location => ?_⟩
    rcases h.nodes location with hsame | ⟨hname, hfirst, hsecond⟩
    · rcases h'.nodes location with hsame' | ⟨hname', hfirst', hsecond'⟩
      · exact .inl (hsame'.trans hsame)
      · exact .inr ⟨hname', hsame ▸ hfirst', hsecond'⟩
    · rcases h'.nodes location with hsame' | ⟨-, -, hthird⟩
      · exact .inr ⟨hname, hfirst, hsame' ▸ hsecond⟩
      · exact .inr ⟨hname, hfirst, hthird⟩

instance : Sequential (LeavesNode location) where
  refl _ := .inl rfl
  trans h h' := by
    rcases h' with hsame | hdirectory
    · rcases h with hfirst | hmade
      · exact .inl (hsame.trans hfirst)
      · exact .inr (hsame.trans hmade)
    · exact .inr hdirectory

namespace Touches

variable {files files' : Files}

/-- The nodes are all there is at locations. -/
theorem of_nodes (hrefusals : files.refusals = [] → files'.refusals = [])
    (h : files'.nodes = files.nodes) : files.Touches touched files' :=
  ⟨hrefusals, fun location => .inl (node?_congr h location)⟩

/-- A file that was put under one of the names is such a change. -/
theorem setNode {node : Node} (hname : name ∈ touched) (hlast : location.getLast? = some name)
    (hbefore : files.node? location ≠ some .directory) (hnode : node ≠ .directory) :
    files.Touches touched (files.setNode location node) := by
  have hroot : location ≠ [] := by
    rintro rfl
    cases hlast
  refine ⟨id, fun other => ?_⟩
  rw [node?_setNode files hroot]
  split
  · next heq =>
    subst heq
    exact .inr ⟨⟨name, hname, hlast⟩, hbefore, fun h => hnode (Option.some.inj h)⟩
  · exact .inl rfl

/-- A file that was taken away from one of the names is such a change. -/
theorem dropNode (hname : name ∈ touched) (hlast : location.getLast? = some name)
    (hbefore : files.node? location ≠ some .directory) :
    files.Touches touched (files.dropNode location) := by
  refine ⟨id, fun other => ?_⟩
  by_cases heq : other = location
  · subst heq
    refine .inr ⟨⟨name, hname, hlast⟩, hbefore, ?_⟩
    have hroot : other ≠ [] := by
      rintro rfl
      cases hlast
    rw [node?_dropNode_self files hroot]
    exact nofun
  · exact .inl (node?_dropNode files heq)

/-- A node under another name is the same. -/
theorem node?_eq (h : files.Touches touched files')
    (hother : ∀ name ∈ touched, location.getLast? ≠ some name) :
    files'.node? location = files.node? location := by
  refine (h.nodes location).resolve_right ?_
  rintro ⟨⟨name, hname, hlast⟩, -⟩
  exact hother name hname hlast

/-- The same directories are there. -/
theorem directory_iff (h : files.Touches touched files') (location : Location) :
    files'.node? location = some .directory ↔ files.node? location = some .directory := by
  rcases h.nodes location with hsame | ⟨-, hbefore, hafter⟩
  · rw [hsame]
  · exact iff_of_false hafter hbefore

/-- The directories are kept. -/
theorem keepsDirectories (h : files.Touches touched files') : files.KeepsDirectories files' :=
  fun location => (h.directory_iff location).mpr

/-- No directories come. -/
theorem keepsDirectories_back (h : files.Touches touched files') : files'.KeepsDirectories files :=
  fun location => (h.directory_iff location).mp

/-- A change under some names is one under more. -/
theorem mono {more : List String} (h : files.Touches touched files') (hmore : touched ⊆ more) :
    files.Touches more files' := by
  refine ⟨h.refusals, fun location => (h.nodes location).imp_right ?_⟩
  rintro ⟨⟨name, hname, hlast⟩, hnodes⟩
  exact ⟨⟨name, hmore hname, hlast⟩, hnodes⟩

/-- A change under other names leaves a node. -/
theorem leavesNode (h : files.Touches touched files')
    (hother : ∀ name ∈ touched, location.getLast? ≠ some name) :
    files.LeavesNode location files' := .inl (h.node?_eq hother)

end Touches

namespace LeavesNode

variable {files files' : Files}

/-- The nodes are all there is at locations. -/
theorem of_nodes (h : files'.nodes = files.nodes) : files.LeavesNode location files' :=
  .inl (node?_congr h location)

/-- Where no directory came, the node is the same. -/
theorem node?_eq (h : files.LeavesNode location files')
    (hdirectory : files'.node? location ≠ some .directory) :
    files'.node? location = files.node? location :=
  h.resolve_right hdirectory

end LeavesNode

/-- A place has the last name of its path. -/
theorem getLast?_location {files : Files} {path : String} {place : Place}
    (hplace : files.placeOf path = .ok place) (hname : lastName path = some name) :
    place.location.getLast? = some name := by
  obtain ⟨-, -, hlast, -⟩ := placeOf_ok.mp hplace
  rw [show (names path).getLast? = some name from hname, Option.getD_some] at hlast
  rw [Place.location, List.getLast?_concat, hlast]

/-- To save a database touches its file alone. -/
theorem touches_saveDatabase (hname : IsFileName name) (htouched : name ∈ touched) (base : String)
    (content : Database) (files : Files) :
    files.Touches touched (files.saveDatabase (join base name) content) := by
  unfold saveDatabase
  split
  · next there hthere =>
    exact .setNode htouched (databaseLocation?_lastName hname hthere)
      (databaseLocation?_some hthere).2 nofun
  · exact Sequential.refl _

/-- To save a database under another name leaves a node. -/
theorem leavesNode_saveDatabase (hname : IsFileName name) (hother : location.getLast? ≠ some name)
    (base : String) (content : Database) (files : Files) :
    files.LeavesNode location (files.saveDatabase (join base name) content) := by
  have htouches := touches_saveDatabase hname (List.mem_singleton_self name) base content files
  exact htouches.leavesNode (by simpa using hother)

end Files

namespace FilesM

open Files

variable {location : Location} {name : String} {touched : List String}

/-- If no change is to be refused, none is to be refused after the next one. -/
theorem maintains_unrefused_nextRefusal :
    Maintains (fun files : Files => files.refusals = []) nextRefusal := by
  refine .modifyGet fun files hrefusals => ?_
  rw [hrefusals]
  rfl

/-- If no change is to be refused, none is to be refused after a change that is permitted. -/
theorem maintains_unrefused_permit : Maintains (fun files : Files => files.refusals = []) permit := by
  refine maintains_unrefused_nextRefusal.bind fun refusal? => ?_
  rcases refusal? with _ | refusal
  · exact .pure _
  · exact .throw _

/-- To look for the place of a path stays within every relation. -/
theorem within_placeOf {R : Files → Files → Prop} [Sequential R] (path : String) :
    Within R (placeOf path) := by
  intro files
  rcases hrun : placeOf path files with ⟨r, files'⟩
  obtain ⟨rfl, -⟩ := placeOf_run hrun
  exact Sequential.refl _

/-- To look at a place stays within every relation. -/
theorem within_nodeAt? {R : Files → Files → Prop} [Sequential R] (place : Files.Place) :
    Within R (nodeAt? place) := by
  intro files
  rcases hrun : nodeAt? place files with ⟨r, files'⟩
  obtain ⟨rfl, -⟩ := nodeAt?_run hrun
  exact Sequential.refl _

/-- If no change is to be refused, none is to be refused after a file was opened. -/
theorem maintains_unrefused_openEmptied (path : String) :
    Maintains (fun files : Files => files.refusals = []) (openEmptied path) := by
  refine (within_placeOf path).bind fun place => ?_
  dsimp only
  split
  · exact .throw _
  refine (within_nodeAt? place).bind fun _ => ?_
  split
  · exact .throw _
  · exact maintains_unrefused_permit.bind fun _ => (Within.modify fun _ => id).bind fun _ => .pure _

/-- If no change is to be refused, none is to be refused after a file was written. -/
theorem maintains_unrefused_write (path : String) (content : Bytes) :
    Maintains (fun files : Files => files.refusals = []) (write path content) := by
  refine (maintains_unrefused_openEmptied path).bind fun place => ?_
  refine maintains_unrefused_nextRefusal.bind fun refusal? => ?_
  rcases refusal? with _ | refusal
  · exact .modify fun _ => id
  · refine (Within.modify fun _ => id).bind fun _ => ?_
    split
    · exact .throw _
    · exact .pure _

/-- If no change is to be refused, none is to be refused after a file was made readable. -/
theorem maintains_unrefused_grantOwner (path : String) :
    Maintains (fun files : Files => files.refusals = []) (grantOwner path) := by
  refine Within.get.bind fun files => ?_
  split
  · exact .throw _
  split
  · exact .throw _
  · exact maintains_unrefused_permit.bind fun _ => .modify fun _ => id

/-- If no change is to be refused, none is to be refused after a file was moved. -/
theorem maintains_unrefused_rename (source target : String) :
    Maintains (fun files : Files => files.refusals = []) (rename source target) := by
  refine (within_placeOf source).bind fun origin => (within_placeOf target).bind fun goal => ?_
  dsimp only
  split
  · exact .throw _
  refine (within_nodeAt? origin).bind fun _ => (within_nodeAt? goal).bind fun _ => ?_
  split
  · exact .throw _
  split
  · exact .throw _
  split
  · exact .throw _
  · exact maintains_unrefused_permit.bind fun _ => .modify fun _ => id

/-- To write a file touches that file alone. -/
theorem touches_write {path : String} (hname : lastName path = some name) (htouched : name ∈ touched)
    (content : Bytes) : Within (Touches touched) (write path content) := by
  intro files
  rcases hrun : write path content files with ⟨r, files'⟩
  have hrefusals : files.refusals = [] → files'.refusals = [] :=
    (maintains_unrefused_write path content).of_run hrun
  rcases write_run hrun with ⟨-, -, hnodes⟩ | ⟨-, place, part, hplace, -, -, hnodes⟩
  · exact .of_nodes hrefusals hnodes
  · have hset : files.Touches touched (files.refill place.location part) :=
      .setNode htouched (getLast?_location hplace.placeOf hname) hplace.node (Node.refilled_ne _ _)
    exact ⟨hrefusals, fun location => node?_congr hnodes location ▸ hset.nodes location⟩

/-- To make a file readable touches that file alone. -/
theorem touches_grantOwner {path : String} {place : Place} {files files' : Files}
    {r : Except FileError Unit} (hname : lastName path = some name) (htouched : name ∈ touched)
    (hplace : files.HasPlace path place) (h : grantOwner path files = (r, files')) :
    files.Touches touched files' := by
  have hrefusals : files.refusals = [] → files'.refusals = [] :=
    (maintains_unrefused_grantOwner path).of_run h
  rcases grantOwner_run h with ⟨-, hnodes⟩ | ⟨-, location, node, hlocate, hnode, hnodes⟩
  · exact .of_nodes hrefusals hnodes
  · obtain rfl := Except.ok.inj (hplace.locate.symm.trans hlocate)
    have hfile : node ≠ .directory := by
      rintro rfl
      exact hplace.node hnode
    have hset : files.Touches touched (files.setNode place.location node.readable) :=
      .setNode htouched (getLast?_location hplace.placeOf hname) hplace.node (Node.readable_ne hfile)
    exact ⟨hrefusals, fun location => node?_congr hnodes location ▸ hset.nodes location⟩

/-- To move a file touches the file where it was and the one where it comes. -/
theorem touches_rename {source target beside : String} {files files' : Files}
    {r : Except FileError Unit} (hsource : lastName source = some beside)
    (htarget : lastName target = some name) (hbeside : beside ∈ touched) (htouched : name ∈ touched)
    (hfile : ∀ place, files.placeOf source = .ok place →
      files.node? place.location ≠ some .directory)
    (h : rename source target files = (r, files')) : files.Touches touched files' := by
  have hrefusals : files.refusals = [] → files'.refusals = [] :=
    (maintains_unrefused_rename source target).of_run h
  rcases rename_run h with ⟨-, hnodes⟩ | ⟨-, origin, goal, node, horigin, hgoal, -, -, hnode, -,
    htaken, hnodes⟩
  · exact .of_nodes hrefusals hnodes
  have hbefore := hfile origin horigin
  have hmoved : node ≠ .directory := by
    rintro rfl
    exact hbefore hnode
  have hdrop : files.Touches touched (files.dropNode origin.location) :=
    .dropNode hbeside (getLast?_location horigin hsource) hbefore
  have hset : (files.dropNode origin.location).Touches touched
      ((files.dropNode origin.location).setNode goal.location node) :=
    .setNode htouched (getLast?_location hgoal htarget)
      (fun hdirectory => htaken (hdrop.keepsDirectories_back _ hdirectory)) hmoved
  have hmove := Sequential.trans hdrop hset
  exact ⟨hrefusals, fun location => node?_congr hnodes location ▸ hmove.nodes location⟩

/-- To move a file from and to other names leaves a node. -/
theorem leavesNode_rename {source target beside : String} (hsource : lastName source = some beside)
    (htarget : lastName target = some name) (hbeside : location.getLast? ≠ some beside)
    (hother : location.getLast? ≠ some name) :
    Within (LeavesNode location) (rename source target) := by
  intro files
  rcases hrun : rename source target files with ⟨r, files'⟩
  rcases rename_run hrun with ⟨-, hnodes⟩ | ⟨-, origin, goal, node, horigin, hgoal, -, -, -, -, -,
    hnodes⟩
  · exact .of_nodes hnodes
  have horiginal : location ≠ origin.location :=
    fun heq => hbeside (heq ▸ getLast?_location horigin hsource)
  have hgoalNe : location ≠ goal.location :=
    fun heq => hother (heq ▸ getLast?_location hgoal htarget)
  left
  rw [node?_congr hnodes, node?_setNode _ (by simp [Place.location]), if_neg hgoalNe,
    node?_dropNode files horiginal]

/-- To write a file under another name leaves a node. -/
theorem leavesNode_write {path : String} (hname : lastName path = some name)
    (hother : location.getLast? ≠ some name) (content : Bytes) :
    Within (LeavesNode location) (write path content) := by
  intro files
  have htouches := touches_write hname (List.mem_singleton_self name) content files
  exact htouches.leavesNode (by simpa using hother)

/-- To make a directory leaves every node that is there. -/
theorem leavesNode_createDirectory (path : String) :
    Within (LeavesNode location) (createDirectory path) := by
  intro files
  rcases hrun : createDirectory path files with ⟨r, files'⟩
  rcases createDirectory_run hrun with ⟨-, hnodes⟩ | ⟨-, place, -, -, -, hnodes⟩
  · exact .of_nodes hnodes
  have hroot : place.location ≠ [] := by simp [Place.location]
  have hnode : files.LeavesNode location (files.setNode place.location .directory) := by
    unfold LeavesNode
    rw [node?_setNode files hroot]
    split
    · exact .inr rfl
    · exact .inl rfl
  exact Sequential.trans hnode (.of_nodes hnodes)

end FilesM

end CredentialVault
