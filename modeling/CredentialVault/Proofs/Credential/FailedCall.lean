import CredentialVault.Proofs.Credential.StateFile

/-!
# What a failed call leaves

A call of an authenticator that fails, and not for want of saving, leaves the credentials, the file
and the source of random bytes as they were. A call that could not save the credentials has put its
own in place before, and does not take it back: the authenticator goes on with a credential that its
file does not have (`failedCall_leaves`).
-/

namespace CredentialVault

open VirtualAuthenticator

namespace PlatformCall

variable {call : PlatformCall} {device after : VirtualDevice} {e : CeremonyError}

/-- A call that fails has changed nothing that is kept, or it could not save what it put in
place. -/
theorem effect_of_error (h : call.ceremony device = (.error e, after)) :
    (¬call.CannotSave (.error e) ∧ kept after = kept device) ∨
      call.CannotSave (.error e) ∧ ∃ credential stored,
        call.puts? device = some (credential, stored) ∧
          after.authenticator.credentials =
            device.authenticator.credentials.insert credential.text stored := by
  cases effect_of_run h with
  | kept hkept hcan _ => exact .inl ⟨hcan, hkept⟩
  | put hputs hcredentials _ hanswer =>
    rcases hanswer with ⟨-, hok⟩ | ⟨_, reason, -, hfailed⟩
    · cases hok
    · exact .inr ⟨⟨saves_of_puts? hputs, reason, hfailed⟩, _, _, hputs, hcredentials⟩

/-- Where nothing that is kept was changed, all later calls are answered as if the call had not been
made. -/
theorem answers_of_kept (hkept : kept after = kept device) (later : List PlatformCall) :
    answers later after = answers later { device with
      authenticator := device.authenticator.withPresence after.authenticator.presence } := by
  refine answers_eq ?_ later
  unfold grounds
  rw [hkept]
  rfl

end PlatformCall

/-- To put a value in place of a key changes what a table holds, unless the key has that value. -/
theorem Table.get?_insert_eq_iff {α : Type} (table : Table α) (key : String) (value : α) :
    (∀ other, (table.insert key value).get? other = table.get? other) ↔
      table.get? key = some value := by
  simp only [Table.get?_insert]
  constructor
  · intro h
    exact (h key).symm.trans (if_pos rfl)
  · intro h other
    split
    · next hother => rw [hother, h]
    · rfl

/-- A call of an authenticator fails. If it could not save the credentials, the one that it put in
place stays among them in memory. If it failed for any other reason, all that the authenticator
keeps is as it was, and it answers all further calls as if the call had not been made, when its user
answers alike. The credentials are thus those from before exactly if the call did not fail to save
them, or had put one in place that was already there as it is. -/
theorem failedCall_leaves {call : PlatformCall} {device after : VirtualDevice} {e : CeremonyError}
    (h : call.ceremony device = (.error e, after)) :
    (call.CannotSave (.error e) → ∃ credential stored,
      call.puts? device = some (credential, stored) ∧
        after.authenticator.credentials =
          device.authenticator.credentials.insert credential.text stored) ∧
    (¬call.CannotSave (.error e) → kept after = kept device ∧ ∀ later,
      PlatformCall.answers later after = PlatformCall.answers later { device with
        authenticator := device.authenticator.withPresence after.authenticator.presence }) ∧
    ((∀ key, after.authenticator.credentials.get? key = device.authenticator.credentials.get? key) ↔
      (call.CannotSave (.error e) → ∃ credential stored,
        call.puts? device = some (credential, stored) ∧
          device.authenticator.credentials.get? credential.text = some stored)) := by
  rcases PlatformCall.effect_of_error h with ⟨hcan, hkept⟩ | ⟨hcannot, name, put, hputs, hafter⟩
  · have hcredentials : after.authenticator.credentials = device.authenticator.credentials :=
      congrArg (·.2.1) hkept
    refine ⟨fun hcannot => absurd hcannot hcan,
      fun _ => ⟨hkept, PlatformCall.answers_of_kept hkept⟩, ?_⟩
    exact iff_of_true (fun key => by rw [hcredentials]) fun hcannot => absurd hcannot hcan
  · refine ⟨fun _ => ⟨name, put, hputs, hafter⟩, fun hcan => absurd hcannot hcan, ?_⟩
    rw [hafter, Table.get?_insert_eq_iff]
    constructor
    · exact fun hthere _ => ⟨name, put, hputs, hthere⟩
    · intro hthere
      obtain ⟨credential, stored, hputs', hget⟩ := hthere hcannot
      obtain ⟨rfl, rfl⟩ := Prod.mk.inj (Option.some.inj (hputs.symm.trans hputs'))
      exact hget

/-- An authenticator with one credential, whose file cannot be replaced: what should be the
directory of the file is a file itself. -/
def blockedDevice : VirtualDevice where
  authenticator := { fresh .full with
    credentials := Table.empty.insert (CredentialId.text ⟨[1]⟩) ⟨"vault.local", "user", [2], none⟩
    path := some "/f/state.json" }
  host := ⟨⟨[(["f"], .file [])], []⟩, .counting 4⟩

/-- The storing of data with the credential. -/
def blockedCall : PlatformCall := .writeBlob "vault.local" ⟨[1]⟩ [7]

/-- Data that could not be saved is held in memory, where there was none. -/
theorem failedCall_leaves_blob : ∃ reason after,
    blockedCall.ceremony blockedDevice = (.error (.failed reason), after) ∧
      ¬∀ key, after.authenticator.credentials.get? key =
        blockedDevice.authenticator.credentials.get? key := by
  have hrun : blockedCall.ceremony blockedDevice =
      (.error (.failed "failed to save authenticator state: IO error: Not a directory (os error 20)"),
        (blockedCall.ceremony blockedDevice).2) := by
    refine Prod.ext ?_ rfl
    decide +kernel
  refine ⟨_, _, hrun, fun hsame => ?_⟩
  obtain ⟨credential, stored, hputs, hget⟩ :=
    (failedCall_leaves hrun).2.2.mp hsame ⟨rfl, _, rfl⟩
  have hput : blockedCall.puts? blockedDevice =
      some (⟨[1]⟩, ⟨"vault.local", "user", [2], some (Base64Url.encode [7])⟩) := by decide +kernel
  obtain ⟨rfl, rfl⟩ := Prod.mk.inj (Option.some.inj (hput.symm.trans hputs))
  revert hget
  decide +kernel

end CredentialVault
