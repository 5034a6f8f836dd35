import CredentialVault.Store.Basic

/-!
# Any pattern of failures

The calls of a run fail or pass as the faults of the store say. Faults are general: whatever calls a
run makes, and whichever of them are to fail, there are faults that fail just these
(`exists_checkAll`). What is proved for all faults is proved for all patterns of failures.
-/

namespace CredentialVault.Fault

/-- The messages with which the calls of a run fail, if they do, in order. -/
def checkAll (faults : List Fault) : List (StoreCall × String) → List (Option String)
  | [] => []
  | (call, key) :: calls =>
    (check call key faults).1 :: checkAll (check call key faults).2 calls

/-- The faults that let one more call on a key pass. -/
def postpone (call : StoreCall) (key : String) (faults : List Fault) : List Fault :=
  faults.map fun fault =>
    if fault.concerns call key then { fault with skip := fault.skip + 1 } else fault

/-- A fault concerns the same calls whatever number of them it lets pass. -/
@[simp]
theorem concerns_skip (fault : Fault) (skip : Nat) (call : StoreCall) (key : String) :
    { fault with skip }.concerns call key = fault.concerns call key := rfl

/-- Postponed faults let the call pass and are as before after it. -/
theorem check_postpone (call : StoreCall) (key : String) (faults : List Fault) :
    check call key (postpone call key faults) = (none, faults) := by
  induction faults with
  | nil => rfl
  | cons fault faults ih =>
    rw [postpone, List.map_cons, ← postpone]
    by_cases hconcerns : fault.concerns call key = true
    · rw [if_pos hconcerns, check]
      simp only [concerns_skip, hconcerns, Bool.not_true, Bool.false_eq_true, if_false, ih]
    · rw [if_neg hconcerns, check]
      simp only [hconcerns, Bool.not_false, if_true, ih]

/-- A fault that fails no more calls. -/
def IsSpent (fault : Fault) : Prop :=
  fault.skip = 0 ∧ fault.times = some 0

/-- A spent fault lets every call pass. -/
theorem check_spent {fault : Fault} (h : fault.IsSpent) (call : StoreCall) (key : String)
    (faults : List Fault) :
    check call key (fault :: faults) =
      ((check call key faults).1, fault :: (check call key faults).2) := by
  obtain ⟨hskip, htimes⟩ := h
  rw [check]
  split
  · rfl
  · simp only [hskip, htimes]

/-- A spent fault changes no run. -/
theorem checkAll_spent {fault : Fault} (h : fault.IsSpent) (faults : List Fault)
    (calls : List (StoreCall × String)) :
    checkAll (fault :: faults) calls = checkAll faults calls := by
  induction calls generalizing faults with
  | nil => rfl
  | cons call calls ih => simp only [checkAll, check_spent h, ih]

/-- Whatever the calls of a run are to come to, there are faults with which they come to that. -/
theorem exists_checkAll (outcomes : List ((StoreCall × String) × Option String)) :
    ∃ faults, checkAll faults (outcomes.map (·.1)) = outcomes.map (·.2) := by
  induction outcomes with
  | nil => exact ⟨[], rfl⟩
  | cons outcome outcomes ih =>
    obtain ⟨faults, hfaults⟩ := ih
    obtain ⟨⟨call, key⟩, message⟩ := outcome
    cases message with
    | none =>
      refine ⟨postpone call key faults, ?_⟩
      simp only [List.map_cons, checkAll, check_postpone, hfaults]
    | some message =>
      -- One fault fails this call and is spent by it; the others see only the later calls.
      have hfail : check call key (⟨call, some key, message, 0, some 1⟩ :: faults) =
          (some message, ⟨call, some key, message, 0, some 0⟩ :: faults) := by
        simp [check, concerns]
      refine ⟨⟨call, some key, message, 0, some 1⟩ :: faults, ?_⟩
      simp only [List.map_cons, checkAll, hfail]
      rw [checkAll_spent ⟨rfl, rfl⟩, hfaults]

end CredentialVault.Fault
