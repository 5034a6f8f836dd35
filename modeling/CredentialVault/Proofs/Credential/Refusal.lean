import CredentialVault.Proofs.Credential.Provider
import CredentialVault.Proofs.Crypto.Aead

/-!
# How the deriving of a secret ends

The deriving of a secret fails only because the platform or its user refuses
(`RelyingParty.deriveSecret_refusal`), and the secret that a virtual authenticator yields is never
empty (`RelyingParty.deriveSecret_ne_nil`).
-/

namespace CredentialVault

open Operation

/-- The failure is that of the platform or its user: there is no authenticator, it or the user
declined, or no mechanism yields a secret. -/
def VaultError.IsRefusal : VaultError → Prop
  | platformUnsupported _ | credentialRejected _ | secretUnavailable => True
  | _ => False

/-- The failure of a ceremony is raised as a refusal. -/
theorem CeremonyError.isRefusal (e : CeremonyError) : e.toVaultError.IsRefusal := by
  cases e <;> trivial

/-- The outcome of a ceremony is no failure. -/
theorem DeviceM.outcome_failsWith {α : Type} {P : VaultError → Prop} (ceremony : CeremonyM α) :
    FailsWith P (outcome ceremony) := by
  intro d e d' h
  obtain ⟨result, hr, -⟩ := outcome_run h
  cases hr

/-- What a virtual authenticator yields for a credential is said by the credential that it holds. -/
theorem Platform.look_yields {α : Type} {method : SecretMethod} {ceremony : Ceremony} {rpId : String}
    {credential : CredentialId} {yields : StoredCredential → Except CeremonyError α}
    {call : PlatformCall} {outcome : Nat → ScriptedPlatform → Except CeremonyError α × ScriptedPlatform}
    {authenticator : VirtualAuthenticator} {value : α} {d d' : Device}
    (hplatform : d.platform = .virtual authenticator)
    (h : perform (VirtualAuthenticator.look method ceremony rpId credential yields) call
      outcome d = (.ok value, d')) : ∃ stored, yields stored = .ok value := by
  obtain ⟨after, hran, -⟩ := perform_run hplatform h
  obtain ⟨stored, _, -, h₁⟩ := bind_ok hran
  exact ⟨stored, congrArg Prod.fst h₁⟩

namespace RelyingParty

variable {rp : RelyingParty} {credential : CredentialId} {salt : Bytes} {options : DeriveOptions}

/-! ## Failures -/

/-- An attempt fails only with a refusal. -/
theorem attempt_refusal (method : SecretMethod) (ceremony : CeremonyM Bytes) :
    FailsWith VaultError.IsRefusal (attempt method ceremony) := by
  refine (DeviceM.outcome_failsWith ceremony).bind fun result => ?_
  split
  · exact .pure _
  · exact .pure _
  · exact .throw (CeremonyError.isRefusal _)

/-- To read a seed fails only with a refusal. -/
theorem readSeed_refusal : FailsWith VaultError.IsRefusal (readSeed rp credential) := by
  refine (DeviceM.outcome_failsWith _).bind fun result => ?_
  split
  · split
    · exact .throw trivial
    · exact .pure _
  · exact .throw trivial
  · exact .throw (CeremonyError.isRefusal _)

/-- To write a seed fails only with a refusal. -/
theorem writeSeed_refusal : FailsWith VaultError.IsRefusal (writeSeed rp credential) := by
  refine (FailsWith.modifyGet _).bind fun seed => ?_
  refine (DeviceM.outcome_failsWith _).bind fun result => ?_
  split
  · refine readSeed_refusal.bind fun found => ?_
    split
    · exact .pure _
    · exact .throw trivial
  · exact .throw (CeremonyError.isRefusal _)

/-- To derive a secret fails only with a refusal. -/
theorem deriveSecret_refusal :
    FailsWith VaultError.IsRefusal (rp.deriveSecret credential salt options) := by
  refine (attempt_refusal .prf _).bind fun found => ?_
  split
  · exact .pure _
  · refine (attempt_refusal .hmacSecret _).bind fun found => ?_
    split
    · exact .pure _
    · dsimp only
      split
      · exact .throw_bind trivial _
      · split
        · exact writeSeed_refusal.bind fun _ => .pure _
        · exact readSeed_refusal.bind fun _ => .pure _

/-! ## Secrets -/

/-- A seed that was read is not empty. -/
theorem readSeed_ne_nil {seed : Bytes} {d d' : Device}
    (h : readSeed rp credential d = (.ok seed, d')) : seed ≠ [] := by
  obtain ⟨result, d₁, -, h₁⟩ := bind_ok h
  rcases result with e | _ | found
  · cases h₁
  · cases h₁
  · dsimp only at h₁
    split at h₁
    · cases h₁
    · next hfound =>
      cases h₁
      exact hfound

/-- A seed that was written is not empty, since it was read back. -/
theorem writeSeed_ne_nil {seed : Bytes} {d d' : Device}
    (h : writeSeed rp credential d = (.ok seed, d')) : seed ≠ [] := by
  obtain ⟨drawn, d₁, -, h₁⟩ := bind_ok h
  obtain ⟨result, d₂, -, h₂⟩ := bind_ok h₁
  rcases result with e | _
  · cases h₂
  · obtain ⟨found, d₃, hread, h₃⟩ := bind_ok h₂
    split at h₃ <;> cases h₃
    next hfound => exact hfound ▸ readSeed_ne_nil hread

/-- The secret that a virtual authenticator yields is not empty. -/
theorem deriveSecret_ne_nil {authenticator : VirtualAuthenticator} {secret : DerivedSecret}
    {d d' : Device} (hplatform : d.platform = .virtual authenticator)
    (h : rp.deriveSecret credential salt options d = (.ok secret, d')) : secret.bytes ≠ [] := by
  cases deriveSecret_run h with
  | prf hprf =>
    rw [Platform.evaluatePrf_eq] at hprf
    obtain ⟨stored, hyields⟩ := Platform.look_yields hplatform hprf
    cases hyields
    exact Hmac.mac_ne_nil _ _
  | hmac hprf hhmac =>
    rw [Platform.evaluatePrf_eq] at hprf
    obtain ⟨after, -, rfl⟩ := Platform.perform_run hplatform hprf
    rw [Platform.evaluateHmac_eq] at hhmac
    obtain ⟨stored, hyields⟩ := Platform.look_yields rfl hhmac
    cases hyields
    exact Hmac.mac_ne_nil _ _
  | seed _ _ hseed =>
    obtain ⟨purpose, allows⟩ := options
    cases purpose with
    | enrollment => exact writeSeed_ne_nil hseed
    | unlock => exact readSeed_ne_nil hseed

end RelyingParty

end CredentialVault
