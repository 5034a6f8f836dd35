import CredentialVault.Proofs.Files.Tree
import CredentialVault.Store.Basic

/-!
# Opening a store again

A store that is saved and opened again has the rows that it had, and the files beside it stay
(`reopen`).
-/

namespace CredentialVault

open Operation

namespace Store

/-- A store that lives in a file is saved there. -/
theorem save_eq {store : Store} {path : String} (h : store.path? = some path) (files : Files) :
    store.save files = files.saveDatabase path store.content := by
  unfold save
  rw [h]

/-- The opening of a store whose directory is there. -/
def openIn (directory : String) : ExceptT VaultError (StateM Files) Store := do
  let path := Files.join directory fileName
  match (← get).openDatabase path with
  | .unavailable =>
    throw (.storageUnavailable s!"cannot open {path}: {Database.unavailable path}")
  | .foreign => throw (.storageUnavailable ("schema setup: " ++ Database.foreign))
  | .content content =>
    let store := fresh (.database (some path)) content
    modify (·.saveDatabase path store.content)
    return store

/-- A store that is opened has the content of its file, and the tables that it needs. -/
theorem openIn_ok {directory : String} {files files' : Files} {store : Store}
    (h : openIn directory files = (.ok store, files')) :
    ∃ content, files.openDatabase (Files.join directory fileName) = .content content ∧
      store = fresh (.database (some (Files.join directory fileName))) content ∧
      files' = files.saveDatabase (Files.join directory fileName) store.content := by
  obtain ⟨_, _, hget, h₁⟩ := bind_ok h
  cases hget
  rcases hopen : files.openDatabase (Files.join directory fileName) with _ | _ | content <;>
    rw [hopen] at h₁ <;> cases h₁
  exact ⟨content, rfl, rfl, rfl⟩

/-- The directory of a store is made if it is missing, and then the store is opened. -/
theorem openAt_ok {directory : String} {files files' : Files} {store : Store}
    (h : openAt directory files = (.ok store, files')) :
    ∃ made, files.Extends made ∧ openIn directory made = (.ok store, files') := by
  obtain ⟨_, _, hget, h₁⟩ := bind_ok h
  cases hget
  dsimp only at h₁
  split at h₁
  · obtain ⟨_, made, hmake, h₂⟩ := bind_ok h₁
    exact ⟨made, ((FilesM.extends_createDirectories directory).adapt _).of_run hmake, h₂⟩
  · exact ⟨files, Sequential.refl files, h₁⟩

/-- A store whose directory is there is opened if its database is. -/
theorem openAt_of_content {directory : String} {files : Files} {content : Database}
    (hexists : files.exists? directory = true)
    (hopen : files.openDatabase (Files.join directory fileName) = .content content) :
    openAt directory files = (.ok (fresh (.database (some (Files.join directory fileName))) content),
      files.saveDatabase (Files.join directory fileName) content.withVaultTables) := by
  have hin : openIn directory files =
      (.ok (fresh (.database (some (Files.join directory fileName))) content),
        files.saveDatabase (Files.join directory fileName) content.withVaultTables) := by
    unfold openIn
    rw [run_bind, run_get]
    dsimp only
    rw [hopen]
    rfl
  unfold openAt
  rw [run_bind, run_get]
  dsimp only
  rw [hexists, Bool.not_true, if_neg Bool.false_ne_true]
  exact hin

/-- A database that has the tables of a store needs no others. -/
theorem withVaultTables_of_isSome {content : Database} (hrecords : content.records.isSome)
    (hflags : content.flags.isSome) : content.withVaultTables = content := by
  rcases content with ⟨_ | records, _ | flags, audit, triggers⟩
  · cases hrecords
  · cases hrecords
  · cases hflags
  · rfl

/-- A fresh store has the rows of its content. -/
theorem recordText?_fresh (backend : Backend) (content : Database) (id : String) :
    (fresh backend content).recordText? id = content.records.bind (·.get? id) := by
  unfold recordText? fresh Database.withVaultTables
  rcases content.records with _ | table <;> rfl

/-- A store that is saved and opened again has the rows that it had. Files with more than one byte
stay; for a file with less could be taken for an empty database. -/
theorem reopen {store reopened : Store} {directory : String} {files files' : Files}
    {before : Database} (hpath : store.path? = some (Files.join directory fileName))
    (hfile : files.openDatabase (Files.join directory fileName) = .content before)
    (hopen : openAt directory (store.save files) = (.ok reopened, files')) :
    (∀ id, reopened.recordText? id = store.recordText? id) ∧
      ∀ path content, 2 ≤ content.length → files.Holds path content → files'.Holds path content := by
  obtain ⟨made, hextends, hin⟩ := openAt_ok hopen
  obtain ⟨content, hcontent, rfl, rfl⟩ := openIn_ok hin
  have hsave := save_eq hpath files
  -- The file could be opened before, and so the content is saved at its place.
  obtain ⟨location, hlocation, -⟩ := Files.openDatabase_content hfile
  have hsaved : store.save files = files.setNode location (.database store.content) := by
    unfold Files.saveDatabase at hsave
    rwa [hlocation] at hsave
  constructor
  · intro id
    rw [hsaved] at hextends
    rw [recordText?_fresh, Files.openDatabase_of_saved hlocation hextends hcontent]
    rfl
  · intro path bytes hlong hheld
    have hkept : (store.save files).Holds path bytes := by
      rw [hsave]
      exact hheld.saveDatabase hlong hfile _
    exact (hkept.of_extends hextends).saveDatabase hlong hcontent _

end Store

end CredentialVault
