import CredentialVault.Proofs.Files.Directory
import CredentialVault.Proofs.Store.Open

/-!
# A store that was opened can be opened again

Where a store was opened its directory is there, so that its file has a place that stays the same
(`Store.SavedIn`). The store can be saved there at any time, and be opened again with what it had.
-/

namespace CredentialVault

open Operation

variable {directory name : String} {files files' : Files} {store : Store}

/-- The directory of a database file is there if something is: what is no directory has no place for
the file. -/
theorem Files.isDirectory_of_databaseLocation? {location : Location} (hname : IsFileName name)
    (hexists : files.exists? directory = true)
    (h : files.databaseLocation? (join directory name) = some location) :
    files.isDirectory directory = true := by
  obtain ⟨-, hwalk, -, habove, -⟩ := databaseLocation?_eq_some.mp h
  rw [hname.components_join] at hwalk
  obtain ⟨there, hdirectory, rfl⟩ := databaseWalk?_concat hname.own.2 hwalk
  rcases hlocate : files.locate directory with e | location
  · rw [exists?_eq, find_of_error hlocate] at hexists
    cases hexists
  refine isDirectory_iff.mpr ⟨location, hlocate, ?_⟩
  -- The path leads where the way of a database file leads.
  unfold locate at hlocate
  split at hlocate
  · cases hlocate
  have hway := databaseWalk?_of_walk (Reached.root files) hlocate
  have hfilter : (names directory ++ if endsInSlash directory then ["."] else []).filter (· ≠ ".") =
      components directory := by
    rw [List.filter_append, components]
    split <;> simp
  rw [hfilter, hdirectory] at hway
  rw [← Option.some.inj hway]
  rwa [List.dropLast_concat] at habove

namespace Store

/-- The file of a store has a name of its own. -/
theorem isFileName : Files.IsFileName fileName := ⟨by decide, by decide, by decide, by decide⟩

/-- To save a store changes its file only. -/
theorem touches_save (h : store.path? = some (Files.join directory fileName)) (files : Files) :
    files.Touches [fileName] (store.save files) := by
  rw [save_eq h]
  exact Files.touches_saveDatabase isFileName (List.mem_singleton_self _) _ _ _

/-- A store was saved to its file in a directory that is there. -/
structure SavedIn (store : Store) (directory : String) (files : Files) : Prop where
  /-- The store lives in the directory. -/
  path : store.path? = some (Files.join directory fileName)
  /-- The directory is there. -/
  isDirectory : files.isDirectory directory = true
  /-- The file of the store has its content. -/
  file : ∃ location, files.databaseLocation? (Files.join directory fileName) = some location ∧
    files.node? location = some (.database store.content)

/-- The directory of a store that was opened is there. -/
theorem isDirectory_of_openAt (h : openAt directory files = (.ok store, files')) :
    ∃ made, made.isDirectory directory = true ∧ openIn directory made = (.ok store, files') := by
  obtain ⟨_, _, hget, h₁⟩ := bind_ok h
  cases hget
  dsimp only at h₁
  split at h₁
  · obtain ⟨_, made, hmake, h₂⟩ := bind_ok h₁
    exact ⟨made, FilesM.isDirectory_of_createDirectories (adapt_ok hmake), h₂⟩
  · next hexists =>
    refine ⟨files, ?_, h₁⟩
    obtain ⟨content, hopen, -, -⟩ := openIn_ok h₁
    obtain ⟨location, hlocation, -⟩ := Files.openDatabase_content hopen
    exact Files.isDirectory_of_databaseLocation? isFileName (by simpa using hexists) hlocation

namespace SavedIn

/-- A store whose directory is there and whose file has a place is saved there. -/
theorem of_save (hpath : store.path? = some (Files.join directory fileName))
    (hdirectory : files.isDirectory directory = true)
    (hplace : (files.databaseLocation? (Files.join directory fileName)).isSome = true) :
    store.SavedIn directory (store.save files) := by
  obtain ⟨location, hlocation⟩ := Option.isSome_iff_exists.mp hplace
  have htouches := touches_save hpath files
  refine ⟨hpath, Files.isDirectory_of_touches hdirectory htouches, location,
    Files.databaseLocation?_of_touches isFileName hdirectory htouches hlocation, ?_⟩
  rw [save_eq hpath, Files.node?_saveDatabase hlocation]

/-- A store that was opened was saved. -/
theorem of_openAt (h : openAt directory files = (.ok store, files')) :
    store.SavedIn directory files' := by
  obtain ⟨made, hdirectory, hin⟩ := isDirectory_of_openAt h
  obtain ⟨content, hopen, rfl, rfl⟩ := openIn_ok hin
  obtain ⟨location, hlocation, -⟩ := Files.openDatabase_content hopen
  exact of_save rfl hdirectory (by rw [hlocation]; rfl)

/-- A store with other content is saved to the same file. -/
theorem save (h : store.SavedIn directory files) {changed : Store}
    (hpath : changed.path? = store.path?) : changed.SavedIn directory (changed.save files) := by
  obtain ⟨location, hlocation, -⟩ := h.file
  exact of_save (hpath.trans h.path) h.isDirectory (by rw [hlocation]; rfl)

/-- A store that was saved can be opened again, with the content that it had. -/
theorem openAt (h : store.SavedIn directory files) : ∃ files',
    Store.openAt directory files =
      (.ok (fresh (.database (some (Files.join directory fileName))) store.content), files') := by
  obtain ⟨location, hlocation, hnode⟩ := h.file
  exact ⟨_, openAt_of_content (Files.exists?_of_isDirectory h.isDirectory)
    (Files.openDatabase_of_node hlocation hnode)⟩

end SavedIn

end Store

end CredentialVault
