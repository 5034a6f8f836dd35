import CredentialVault.Proofs.Credential.Ceremony
import CredentialVault.Proofs.Vault.Lifecycle

/-!
# What operations do to the device

An operation of a vault uses the device in two places: a draft makes a credential and derives its
secret, and unlocking derives the secret of a record. So the making of a vault stays within a
relation of devices when its draft does (`create_device`, `draft_within`), and unlocking when the
derivation does (`within_unlock`); all else leaves the device. So every operation stays within a
relation that holds for the steps of ceremonies (`VaultOperation.lifts_after`).
-/

namespace CredentialVault

open Operation VaultM

/-- A relation of devices, as one of the worlds that they are part of. -/
def OnDevice (R : Device → Device → Prop) (w w' : World) : Prop := R w.device w'.device

section Within

variable {R : Device → Device → Prop} [Sequential R]

instance : Sequential (OnDevice R) where
  refl _ := Sequential.refl (R := R) _
  trans h h' := Sequential.trans (R := R) h h'

/-- What leaves the device stays within every relation of devices. -/
theorem within_of_device {α : Type} {x : VaultM α} (h : Preserves World.device x) :
    Within (OnDevice R) x := by
  intro w
  have hsame : (x w).2.device = w.device := h w
  unfold OnDevice
  rw [hsame]
  exact Sequential.refl _

namespace Vault

/-- A draft stays within a relation of devices if the making of its credential and the derivation of
its secret do, and the relation does not see what is drawn. -/
theorem draft_within {vault : Vault} {privateKey : Option Keys.PrivateKey} {w w' : World}
    {r : Except VaultError Draft} (hrandom : ∀ d random, R d (d.withRandom random))
    (henroll : ∀ r d, vault.rp.enroll w.device = (r, d) → R w.device d)
    (hderive : ∀ credential d, vault.rp.enroll w.device = (.ok credential, d) → ∀ salt,
      Within R (vault.rp.deriveSecret credential salt (vault.deriveOptions .enrollment)))
    (h : vault.draft privateKey w = (r, w')) : R w.device w'.device := by
  rcases bind_cases h with ⟨_, -, hget⟩ | ⟨_, _, hget, h₁⟩ <;> cases hget
  obtain ⟨device, hdevice, rfl⟩ := onDevice_run h₁
  rcases bind_cases hdevice with ⟨e, -, hmade⟩ | ⟨credential, enrolled, hmade, h₂⟩
  · exact henroll _ _ hmade
  refine Sequential.trans (henroll _ _ hmade) (Within.of_run (R := R) ?_ h₂)
  -- After the secret is derived, all that is left is drawn or computed.
  have hkey : Within R DeviceM.drawPrivateKey := DeviceM.within_drawPrivateKey hrandom
  have hseal : ∀ (bundle : SecretBundle) (sealing : Bytes),
      Within R (bundle.sealOn sealing vault.id) := fun _ _ d => hrandom d _
  refine (DeviceM.within_drawBytes hrandom _).bind fun salt => ?_
  refine (hderive _ _ hmade salt).bind fun secret => ?_
  dsimp only
  split <;> refine Within.bind ?_ fun primaryKey => hkey.bind fun _ =>
    (DeviceM.within_ofExcept _).bind fun _ => (hseal _ _).bind fun _ => .pure _
  · exact .pure _
  · exact hkey

/-- Unlocking stays within a relation of devices if the derivation of a secret does. -/
theorem within_unlock {vault : Vault} (hderive : ∀ credential salt,
      Within R (vault.rp.deriveSecret credential salt (vault.deriveOptions .unlock))) :
    Within (OnDevice R) vault.unlock := by
  -- What is only computed, the sealing key and the bundle, does not touch the device.
  have hexcept : ∀ {α : Type} (outcome : Except VaultError α),
      Within (OnDevice R) (VaultM.ofExcept outcome) := fun outcome =>
    within_of_device (preserves_ofExcept outcome)
  have hread : Within (OnDevice R) (onStore (StoreM.getRecord vault.id)) :=
    within_of_device fun _ => rfl
  have hcache : ∀ change, Within (OnDevice R) (VaultM.onCache change) := fun _ =>
    within_of_device fun _ => rfl
  refine Within.bind (Within.get.bind fun _ => .pure _) fun session => ?_
  dsimp only
  split
  · exact .pure _
  refine hread.bind fun found => ?_
  split
  · refine Within.bind (fun w => hderive _ _ w.device) fun secret => ?_
    refine (hexcept _).bind fun sealing => (hexcept _).bind fun bundle => ?_
    split
    · exact .throw_bind _ _
    · exact Within.get.bind fun _ => (hcache _).bind fun _ => .pure _
  · exact .throw _

/-- To store a new vault leaves the device. -/
theorem persist_device {vault : Vault} {record : VaultRecord} {legacy : Option LegacyKey}
    {w w' : World} {r : Except VaultError Unit} (hid : record.id = vault.id)
    (h : vault.persist record legacy w = (r, w')) : w'.device = w.device :=
  (frame_device.persist (fun _ _ => not_false) (fun _ _ _ => not_false) hid).of_run h

/-- To make a vault with a given legacy key changes the device as its draft does. -/
theorem createWith_device {vault : Vault} {legacy : Option LegacyKey} {w w' : World}
    {r : Except VaultError CreatedVault} (h : vault.createWith legacy w = (r, w')) :
    ∃ r' drafted, vault.draft (legacy.map (·.privateKey)) w = (r', drafted) ∧
      w'.device = drafted.device := by
  rcases bind_cases h with ⟨e, -, hdraft⟩ | ⟨draft, ready, hdraft, h₁⟩
  · exact ⟨_, w', hdraft, rfl⟩
  obtain ⟨hrun⟩ := draft_run hdraft
  refine ⟨_, ready, hdraft, ?_⟩
  rcases bind_cases h₁ with ⟨e, -, hpersist⟩ | ⟨_, stored, hpersist, h₂⟩
  · exact persist_device hrun.id_eq hpersist
  · cases h₂
    show stored.device = ready.device
    exact persist_device hrun.id_eq hpersist

/-- To make a vault changes the device as its draft does, if it comes to a draft: then there was no
such vault, and the legacy key that it takes over was found. -/
theorem create_device {vault : Vault} {migrates : Bool} {w w' : World}
    {r : Except VaultError CreatedVault} (h : vault.create migrates w = (r, w')) :
    w'.device = w.device ∨ ∃ legacy ready r' drafted, w.store.recordText? vault.id = none ∧
      (if migrates then LegacyKey.FoundIn w.store legacy else legacy = none) ∧
      ready.device = w.device ∧ vault.draft (legacy.map (·.privateKey)) ready = (r', drafted) ∧
      w'.device = drafted.device := by
  rcases bind_cases h with ⟨e, -, hcontains⟩ | ⟨found, w₁, hcontains, h₁⟩ <;>
    obtain ⟨store, hfound, rfl⟩ := onStore_run hcontains
  · exact .inl rfl
  have hsame := Unwritten.of_contains hcontains
  have hfound := StoreM.contains_ok hfound
  dsimp only at h₁
  by_cases hthere : found = true
  · rw [if_pos hthere] at h₁
    cases h₁
    exact .inl rfl
  rw [if_neg hthere] at h₁
  have habsent : w.store.recordText? vault.id = none := by simpa [hfound] using hthere
  have hfinds : Preserves World.device LegacyKey.find := LegacyKey.preserves_find fun _ _ => rfl
  split at h₁
  · next hmigrates =>
    rcases bind_cases h₁ with ⟨e, -, hfind⟩ | ⟨legacy, ready, hfind, h₂⟩
    · have hdevice := hfinds.of_run hfind
      exact .inl hdevice
    · have hlegacy := (LegacyKey.find_ok hfind).congr hsame.content.symm
      have hready := hfinds.of_run hfind
      obtain ⟨r', drafted, hdraft, hdevice⟩ := createWith_device h₂
      exact .inr ⟨legacy, ready, r', drafted, habsent, by rwa [if_pos hmigrates], hready, hdraft,
        hdevice⟩
  · next hmigrates =>
    rcases bind_cases h₁ with ⟨e, -, hpure⟩ | ⟨legacy, ready, hpure, h₂⟩ <;> cases hpure
    obtain ⟨r', drafted, hdraft, hdevice⟩ := createWith_device h₂
    exact .inr ⟨none, { w with store }, r', drafted, habsent, by rw [if_neg hmigrates], rfl, hdraft,
      hdevice⟩

/-- To delete a vault leaves the device. -/
theorem delete_device (vault : Vault) (w : World) : (vault.delete w).2.device = w.device :=
  frame_device.delete_run (fun _ _ => rfl) (fun _ _ => not_false) rfl

end Vault

end Within

/-- An operation of a vault stays within a relation that holds for the steps of ceremonies. -/
theorem VaultOperation.lifts_after {R : VirtualDevice → VirtualDevice → Prop} [Sequential R]
    (h : VirtualAuthenticator.CeremonySteps R) (operation : VaultOperation) (vault : Vault) (w : World) :
    w.device.Lifts R (operation.after vault w).device := by
  cases operation with
  | create migrates =>
    rcases hrun : vault.create migrates w with ⟨r, w'⟩
    simp only [VaultOperation.after, hrun]
    rcases Vault.create_device hrun with hsame | ⟨_, ready, _, drafted, -, -, hready, hdraft, hdevice⟩
    · rw [hsame]
      exact Sequential.refl _
    · rw [hdevice, ← hready]
      exact Vault.draft_within h.withRandom
        (fun r d henroll => (RelyingParty.within_enroll h vault.rp).of_run henroll)
        (fun credential d _ salt => RelyingParty.within_deriveSecret_of_steps h vault.rp credential salt _)
        hdraft
  | unlock =>
    have hunlock : Within (OnDevice (Device.Lifts R)) vault.unlock :=
      Vault.within_unlock fun credential salt =>
        RelyingParty.within_deriveSecret_of_steps h vault.rp credential salt _
    exact hunlock w
  | lock => exact Sequential.refl _
  | delete =>
    simp only [VaultOperation.after, Vault.delete_device]
    exact Sequential.refl _

end CredentialVault
