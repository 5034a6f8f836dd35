import CredentialVault.Proofs.Files.Writable

/-!
# Directories that are made

When a directory and those above it were made, the path leads to a directory
(`isDirectory_of_createDirectories`), whatever was there before.
-/

namespace CredentialVault.FilesM

open Operation

variable {path : String} {files files' : Files}

/-- A directory that was made is there. -/
theorem isDirectory_of_createDirectory (h : createDirectory path files = (.ok (), files')) :
    files'.isDirectory path = true := by
  have hextends := (extends_createDirectory path).of_run h
  rcases createDirectory_run h with ⟨hfails, -⟩ | ⟨-, place, hplace, -, ⟨hfixed, hsize⟩, hnodes⟩
  · exact absurd rfl hfails
  have hnode : files'.node? place.location = some .directory := by
    rw [Files.node?_congr hnodes, Files.node?_setNode _ (by simp [Files.Place.location]), if_pos rfl]
  exact Files.isDirectory_iff.mpr ⟨place.location, Files.locate_of_placeOf_directory
    (Files.placeOf_of_keeps hextends.keepsDirectories hplace) hfixed hsize hnode, hnode⟩

/-- A directory is there when it was made sure that it is. -/
theorem isDirectory_of_ensureDirectory (h : ensureDirectory path files = (.ok (), files')) :
    files'.isDirectory path = true := by
  rcases tryCatch_cases h with ⟨_, -, hmade⟩ | ⟨e, failed, -, hhandled⟩
  · exact isDirectory_of_createDirectory hmade
  · obtain ⟨_, _, hget, h₁⟩ := bind_ok hhandled
    cases hget
    split at h₁
    · cases h₁
    · next hthere =>
      cases h₁
      simp only [Bool.or_eq_true, not_or, Bool.not_eq_true, Bool.not_eq_false'] at hthere
      exact hthere.2

/-- When the first directory of a list could not be made, it is the last of those that are missing;
otherwise it is there. -/
theorem createFirst_cons_ok {paths missing : List String}
    (h : createFirst (path :: paths) files = (.ok missing, files')) :
    (missing = [] ∧ files'.isDirectory path = true) ∨ ∃ others, missing = others ++ [path] := by
  unfold createFirst at h
  obtain ⟨isMissing, tried, htry, h₁⟩ := bind_ok h
  split at h₁
  · obtain ⟨others, _, -, h₂⟩ := bind_ok h₁
    cases h₂
    exact .inr ⟨others, rfl⟩
  · next hmissing =>
    cases h₁
    refine .inl ⟨rfl, ?_⟩
    rcases tryCatch_cases htry with ⟨_, -, hdone⟩ | ⟨e, failed, -, hhandled⟩
    · obtain ⟨_, made, hmade, hpure⟩ := bind_ok hdone
      cases hpure
      exact isDirectory_of_ensureDirectory hmade
    · -- A failure that is handled says that the directory is missing.
      split at hhandled
      · cases hhandled
        exact absurd rfl hmissing
      · cases hhandled

/-- When a directory and those above it were made, the path leads to a directory. -/
theorem isDirectory_of_createDirectories (h : createDirectories path files = (.ok (), files')) :
    files'.isDirectory path = true := by
  obtain ⟨missing, first, hfirst, h₁⟩ := bind_ok h
  obtain ⟨_, made, hloop, h₂⟩ := bind_ok h₁
  cases h₂
  rcases createFirst_cons_ok hfirst with ⟨rfl, hthere⟩ | ⟨others, rfl⟩
  · cases hloop
    exact hthere
  · obtain ⟨before, hlast⟩ := forIn_concat_ok hloop
    exact isDirectory_of_ensureDirectory hlast

end CredentialVault.FilesM
