/-!
# Tables

A table maps keys to values. It is seen through `get?`: `get?_insert` and `get?_erase` say what a
change does to it.
-/

namespace CredentialVault

/-- A table of values, with at most one row for each key. -/
structure Table (α : Type) where
  /-- The rows, each a key with its value. -/
  rows : List (String × α)
deriving DecidableEq, Repr

namespace Table

variable {α : Type}

/-- The table without rows. -/
def empty : Table α := ⟨[]⟩

/-- The value of a key. -/
def get? (table : Table α) (key : String) : Option α :=
  table.rows.lookup key

/-- Whether a key has a row. -/
def contains (table : Table α) (key : String) : Bool :=
  (table.get? key).isSome

/-- The number of rows. -/
def size (table : Table α) : Nat :=
  table.rows.length

/-- The table without the row of a key. -/
def erase (table : Table α) (key : String) : Table α :=
  ⟨table.rows.filter (·.1 ≠ key)⟩

/-- The table with the value as the row of the key. -/
def insert (table : Table α) (key : String) (value : α) : Table α :=
  ⟨(key, value) :: (table.erase key).rows⟩

/-- Erasing a key removes its value and no other. -/
@[simp]
theorem get?_erase (table : Table α) (key other : String) :
    (table.erase key).get? other = if other = key then none else table.get? other := by
  obtain ⟨rows⟩ := table
  simp only [erase, get?]
  induction rows with
  | nil => simp
  | cons row rows ih =>
    obtain ⟨k, value⟩ := row
    by_cases hk : k = key
    · subst hk
      have hdrop : ((k, value) :: rows).filter (·.1 ≠ k) = rows.filter (·.1 ≠ k) := by simp
      rw [hdrop, ih, List.lookup_cons]
      by_cases ho : other = k <;> simp [ho, beq_eq_false_iff_ne.mpr]
    · have hkeep : ((k, value) :: rows).filter (·.1 ≠ key) =
          (k, value) :: rows.filter (·.1 ≠ key) := by simp [hk]
      rw [hkeep, List.lookup_cons, List.lookup_cons, ih]
      by_cases ho : other = k
      · subst ho
        simp [hk]
      · simp [beq_eq_false_iff_ne.mpr ho]

/-- Inserting a key sets its value and no other. -/
@[simp]
theorem get?_insert (table : Table α) (key other : String) (value : α) :
    (table.insert key value).get? other =
      if other = key then some value else table.get? other := by
  have h := get?_erase table key other
  simp only [get?, insert, List.lookup_cons] at h ⊢
  by_cases ho : other = key
  · simp [ho]
  · simp only [beq_eq_false_iff_ne.mpr ho, if_neg ho] at h ⊢
    exact h

end Table

end CredentialVault
