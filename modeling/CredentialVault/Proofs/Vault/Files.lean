import CredentialVault.CommandLine.Lifecycle
import CredentialVault.Proofs.Store.Sound
import CredentialVault.Proofs.Vault.Device

/-!
# What operations of a vault do to the files

An operation of a vault changes the files only when its authenticator replaces its file; the store
is written to its file by the command, after the operation. So an operation stays within every
relation of files that holds when the file of the authenticator is replaced (`World.FilesWithin`),
and never changes where the store lives.
-/

namespace CredentialVault

open Operation VaultM

/-- To refuse writes leaves the setting. -/
theorem Store.setting_setReadOnly (store : Store) (b : Bool) :
    (store.setReadOnly b).setting = store.setting := by
  obtain ⟨backend, content, faults, journal⟩ := store
  cases backend <;> rfl

/-- The setting of the store is seen by no write to the store. -/
theorem frame_setting : Frame (fun _ => False) (·.store.setting) where
  faults _ _ := rfl
  readOnly w b := w.store.setting_setReadOnly b
  resets _ _ := rfl
  put record _ := preserves_onStore (StoreM.preserves_setting_putRecord record)
  delete id _ := preserves_onStore (StoreM.preserves_setting_deleteRecord id)
  setFlag key value _ := preserves_onStore (StoreM.preserves_setting_setFlag key value)
  removeFlag key _ := preserves_onStore (StoreM.preserves_setting_removeFlag key)

/-- Two worlds have stores of the same setting, and authenticators with the same file; the files are
related if that is at the given path. -/
structure World.FilesWithin (path : String) (Q : Files → Files → Prop) (w w' : World) : Prop where
  /-- The setting of the store is the same. -/
  setting : w'.store.setting = w.store.setting
  /-- The files are related. -/
  device : w.device.Lifts (VirtualAuthenticator.FilesWithin path Q) w'.device

section Within

variable {path : String} {Q : Files → Files → Prop} [Sequential Q]

instance : Sequential (World.FilesWithin path Q) where
  refl w := ⟨rfl, Sequential.refl w.device⟩
  trans h h' := ⟨h'.setting.trans h.setting, Sequential.trans h.device h'.device⟩

namespace Vault

variable (hreplace : ∀ credentials, Within Q (VirtualAuthenticator.replaceFile path credentials))

include hreplace

/-- To make a vault stays within such a relation. -/
theorem within_create (vault : Vault) (migrates : Bool) :
    Within (World.FilesWithin path Q) (vault.create migrates) := by
  intro w
  constructor
  · exact frame_setting.create (fun _ _ => rfl) (fun _ _ => rfl) (fun _ _ => not_false)
      (fun _ _ _ => not_false) w
  · exact VaultOperation.lifts_after
      (VirtualAuthenticator.ceremonySteps_filesWithin hreplace) (.create migrates) vault w

/-- To open a vault stays within such a relation. -/
theorem within_open (vault : Vault) : Within (World.FilesWithin path Q) vault.unlock := by
  intro w
  constructor
  · rcases hrun : vault.unlock w with ⟨r, w'⟩
    have hfiles : ∀ {u v : World}, Unwritten u v → v.store.setting = u.store.setting := fun hsame =>
      frame_setting.of_unwritten (fun _ _ => rfl) hsame
    cases Vault.unlock_run hrun with
    | cached => rfl
    | failed hsame => exact hfiles hsame
    | @opened _ _ _ _ _ _ _ ready _ _ _ _ _ _ hready =>
      show ready.store.setting = w.store.setting
      exact hfiles hready
  · exact VaultOperation.lifts_after
      (VirtualAuthenticator.ceremonySteps_filesWithin hreplace) .unlock vault w

/-- To open a vault and to sign with its key stays within such a relation. -/
theorem within_proved (vault : Vault) :
    Within (World.FilesWithin path Q) (UnlockCommand.proved vault) := by
  refine (within_open hreplace vault).bind fun session => ?_
  split
  · exact .pure _
  · exact .throw _

/-- To delete a vault stays within such a relation. -/
theorem within_delete (vault : Vault) : Within (World.FilesWithin path Q) vault.delete := by
  intro w
  constructor
  · exact frame_setting.delete_run (fun _ _ => rfl) (fun _ _ => not_false) rfl
  · exact VaultOperation.lifts_after
      (VirtualAuthenticator.ceremonySteps_filesWithin hreplace) .delete vault w

end Vault

end Within

/-- No operation changes where the store lives and what its triggers are. -/
theorem VaultOperation.setting_after (operation : VaultOperation) (vault : Vault) (w : World) :
    (operation.after vault w).store.setting = w.store.setting := by
  cases operation with
  | create migrates =>
    exact (frame_setting.create (fun _ _ => rfl) (fun _ _ => rfl) (fun _ _ => id)
      fun _ _ _ => id).of_run rfl
  | unlock =>
    have hunwritten : ∀ {u v : World}, Unwritten u v → v.store.setting = u.store.setting :=
      fun hsame => frame_setting.of_unwritten (fun _ _ => rfl) hsame
    have hkept : ∀ {r : Except VaultError Session} {w' : World}, Vault.UnlockRun vault w r w' →
        w'.store.setting = w.store.setting := by
      intro r w' hrun
      cases hrun with
      | cached => rfl
      | failed hsame => exact hunwritten hsame
      | @opened _ _ _ _ _ _ _ ready _ _ _ _ _ _ hready =>
        show ready.store.setting = w.store.setting
        exact hunwritten hready
    exact hkept (Vault.unlock_run rfl)
  | lock => rfl
  | delete => exact frame_setting.delete_run (fun _ _ => rfl) (fun _ _ => id) rfl

end CredentialVault
