import CredentialVault.Credential.Provider
import CredentialVault.Proofs.Operation

/-!
# What is drawn on a device

To draw bytes or a key on a device changes its source of random bytes and nothing else; so it stays
within every relation of devices that does not see this source.
-/

namespace CredentialVault

open Operation

/-- The device with another source of random bytes. -/
def Device.withRandom (device : Device) (random : RandomStream) : Device :=
  { device with host := { device.host with random } }

/-- The platform does not depend on the source of random bytes. -/
@[simp]
theorem Device.platform_withRandom (device : Device) (random : RandomStream) :
    (device.withRandom random).platform = device.platform := rfl

/-- The source of random bytes is the given one. -/
@[simp]
theorem Device.random_withRandom (device : Device) (random : RandomStream) :
    (device.withRandom random).host.random = random := rfl

namespace DeviceM

/-- Bytes are drawn from the source of random bytes. -/
theorem drawBytes_eq (count : Nat) (d : Device) :
    drawBytes count d = (.ok (d.host.random.draw count).1,
      d.withRandom (d.host.random.draw count).2) := by
  rw [drawBytes, run_modifyGet]
  rfl

/-- To draw bytes changes the source of random bytes alone. -/
theorem drawBytes_run {count : Nat} {d d' : Device} {r : Except VaultError Bytes}
    (h : drawBytes count d = (r, d')) :
    ∃ bytes random, r = .ok bytes ∧ d' = d.withRandom random := by
  rw [drawBytes_eq] at h
  obtain ⟨rfl, rfl⟩ := Prod.mk.inj h
  exact ⟨_, _, rfl, rfl⟩

/-- A key is drawn from the source of random bytes. -/
theorem drawPrivateKey_eq (d : Device) :
    drawPrivateKey d = (.ok (Keys.PrivateKey.draw d.host.random).1,
      d.withRandom (Keys.PrivateKey.draw d.host.random).2) := by
  rw [drawPrivateKey, run_modifyGet]
  rfl

/-- To draw a key changes the source of random bytes alone. -/
theorem drawPrivateKey_run {d d' : Device} {r : Except VaultError Keys.PrivateKey}
    (h : drawPrivateKey d = (r, d')) :
    ∃ key random, r = .ok key ∧ d' = d.withRandom random := by
  rw [drawPrivateKey_eq] at h
  obtain ⟨rfl, rfl⟩ := Prod.mk.inj h
  exact ⟨_, _, rfl, rfl⟩

/-- A given outcome changes nothing. -/
theorem ofExcept_run {α : Type} {outcome r : Except VaultError α} {d d' : Device}
    (h : ofExcept outcome d = (r, d')) : r = outcome ∧ d' = d := by
  cases outcome <;> cases h <;> exact ⟨rfl, rfl⟩

/-! ## Relations that do not see what is drawn -/

section Within

variable {R : Device → Device → Prop}

/-- To draw bytes stays within a relation that does not see the source of random bytes. -/
theorem within_drawBytes (hrandom : ∀ d random, R d (d.withRandom random)) (count : Nat) :
    Within R (drawBytes count) := by
  intro d
  rcases hdraw : drawBytes count d with ⟨r, d'⟩
  obtain ⟨_, random, -, rfl⟩ := drawBytes_run hdraw
  exact hrandom d random

/-- To draw a key stays within a relation that does not see the source of random bytes. -/
theorem within_drawPrivateKey (hrandom : ∀ d random, R d (d.withRandom random)) :
    Within R drawPrivateKey := by
  intro d
  rcases hdraw : drawPrivateKey d with ⟨r, d'⟩
  obtain ⟨_, random, -, rfl⟩ := drawPrivateKey_run hdraw
  exact hrandom d random

/-- A given outcome stays within every relation. -/
theorem within_ofExcept {α : Type} [Sequential R] (outcome : Except VaultError α) :
    Within R (ofExcept outcome) := by
  cases outcome
  · exact .throw _
  · exact .pure _

end Within

end DeviceM

end CredentialVault
