import CredentialVault.Proofs.Credential.Provider
import CredentialVault.Proofs.Vault.Device

/-!
# Credentials of other vaults

The operations of a vault keep every credential on the device, but one with the name that the making
of the vault draws (`create_holds`): to make a vault adds a credential and may store a seed with it,
and the other operations change no credential at all.
-/

namespace CredentialVault

open Operation VaultM

namespace Vault

variable {key : String} {stored : StoredCredential}

/-- A draft keeps all credentials but one with the name that it draws. -/
theorem draft_holds {vault : Vault} {privateKey : Option Keys.PrivateKey} {w w' : World}
    {r : Except VaultError Draft} (hother : w.device.nextCredential.text ≠ key)
    (hheld : w.device.Holds key stored) (h : vault.draft privateKey w = (r, w')) :
    w'.device.Holds key stored := by
  refine draft_within (R := Keeps (Device.Holds · key stored)) (fun _ random hheld =>
    hheld.withRandom random) (fun r d henroll => (RelyingParty.enroll_run henroll).2 key stored hother)
    (fun credential d henroll salt => ?_) h hheld
  -- The credential that was made is the one whose name is drawn.
  obtain ⟨authenticator, hplatform, -⟩ := hheld
  obtain ⟨rfl, -⟩ := (RelyingParty.enroll_run henroll).1 _ authenticator rfl hplatform
  exact RelyingParty.maintains_deriveSecret vault.rp _ salt _ (.inl hother)

/-- To make a vault keeps all credentials but one with the name that it draws. A vault that is there
is not made again, and draws nothing. -/
theorem create_holds {vault : Vault} {migrates : Bool} {w w' : World}
    {r : Except VaultError CreatedVault}
    (hother : w.store.recordText? vault.id = none → w.device.nextCredential.text ≠ key)
    (hheld : w.device.Holds key stored) (h : vault.create migrates w = (r, w')) :
    w'.device.Holds key stored := by
  rcases create_device h with hsame | ⟨legacy, ready, r', drafted, habsent, -, hready, hdraft, hdevice⟩
  · rwa [hsame]
  · rw [hdevice]
    rw [← hready] at hheld hother
    exact draft_holds (hother habsent) hheld hdraft

/-- Unlocking keeps all credentials. -/
theorem maintains_unlock (vault : Vault) :
    Maintains (fun w : World => w.device.Holds key stored) vault.unlock :=
  within_unlock (R := Keeps (Device.Holds · key stored)) fun _ _ =>
    RelyingParty.maintains_deriveSecret _ _ _ _ (.inr rfl)

/-- Every operation but one that makes a vault keeps all credentials; that one keeps all but one
with the name that it draws. -/
theorem after_holds {vault : Vault} {operation : VaultOperation} {w : World}
    (hother : ∀ migrates, operation = .create migrates →
      w.store.recordText? vault.id = none → w.device.nextCredential.text ≠ key)
    (hheld : w.device.Holds key stored) : (operation.after vault w).device.Holds key stored := by
  cases operation with
  | create migrates => exact create_holds (hother migrates rfl) hheld rfl
  | unlock => exact (maintains_unlock vault).of_run rfl hheld
  | lock => exact hheld
  | delete =>
    show (vault.delete w).2.device.Holds key stored
    rwa [delete_device]

end Vault

end CredentialVault
