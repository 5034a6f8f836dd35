import CredentialVault.Proofs.Json.Object

/-!
# What readers yield

A reader `Yields` values of a kind when it finds no others, whatever the bytes. A table that is read
has one entry for each key (`yields_dictionary`), since of two equal keys the later one counts; and
what every field keeps of a draft holds of the whole value (`Fields.yields_read`). A table with one
row for each key is read back row by row (`gather_of_distinctKeys`).
-/

namespace CredentialVault.Json

variable {α β σ : Type}

/-- A reader finds only values of a kind, whatever the bytes. -/
def Yields (P : α → Prop) (reader : Reader α) : Prop :=
  ∀ bytes value rest, reader bytes = .ok (value, rest) → P value

/-- No two entries have the same key. -/
def DistinctKeys (entries : List (String × α)) : Prop :=
  (entries.map (·.1)).Nodup

namespace Yields

variable {P : α → Prop} {Q : β → Prop}

/-- A value of the kind. -/
theorem pure {value : α} (h : P value) : Yields P (pure value) := by
  intro bytes found rest hread
  cases hread
  exact h

/-- A failure is no value. -/
theorem throw (e : Error) : Yields P (throw e : Reader α) :=
  fun _ _ _ => nofun

/-- A sequence of readers finds what its second part finds after a value of the first. -/
theorem bind {first : Reader β} {second : β → Reader α} (hfirst : Yields Q first)
    (hsecond : ∀ value, Q value → Yields P (second value)) : Yields P (first >>= second) := by
  intro bytes found rest hread
  rcases hrun : first bytes with e | ⟨value, later⟩
  · simp only [Bind.bind, StateT.bind, hrun, Except.bind] at hread
    cases hread
  · rw [Reader.bind_of_ok hrun] at hread
    exact hsecond value (hfirst bytes value later hrun) later found rest hread

/-- A sequence of readers finds what its second part finds. -/
theorem bind_any {first : Reader β} {second : β → Reader α}
    (h : ∀ value, Yields P (second value)) : Yields P (first >>= second) :=
  bind (fun _ _ _ _ => trivial : Yields (fun _ => True) first) fun value _ => h value

/-- The values of a text are of the kind. -/
theorem run {reader : Reader α} (h : Yields P reader) {bytes : Bytes} {value : α}
    (hrun : reader.run bytes = .ok value) : P value := by
  unfold Reader.run at hrun
  rcases hread : reader bytes with e | ⟨found, rest⟩ <;> rw [hread] at hrun
  · cases hrun
  · simp only [Bind.bind, Except.bind] at hrun
    split at hrun <;> cases hrun
    exact h bytes _ rest hread

/-- What every member keeps of a state holds of the state that an object ends with. -/
theorem members {member : String → α → Reader α}
    (h : ∀ key state, P state → Yields P (member key state)) (steps : Nat) (isFirst : Bool)
    {state : α} (hstate : P state) : Yields P (Reader.members member steps isFirst state) := by
  induction steps generalizing isFirst state with
  | zero => exact .throw _
  | succ steps ih =>
    refine bind_any fun more => ?_
    split
    · refine bind_any fun _ => bind_any fun key => ?_
      exact (h key state hstate).bind fun next hnext => ih false hnext
    · exact bind_any fun _ => .pure hstate

/-- What every member keeps of a state holds of the state that an object ends with. -/
theorem objectBody {member : String → α → Reader α}
    (h : ∀ key state, P state → Yields P (member key state)) {state : α} (hstate : P state) :
    Yields P (Reader.objectBody member state) :=
  bind_any fun bytes => members h (bytes.length + 1) true hstate

/-- A value of another kind is never found. -/
theorem wrongKind (byte : UInt8) (expected : String) :
    Yields P (Reader.wrongKind byte expected : Reader α) :=
  fun _ _ _ hread => absurd hread Reader.wrongKind_ne_ok

end Yields

/-! ## Values with named fields -/

namespace Fields

variable {shape : Fields σ} {P : σ → Prop}

/-- What every field keeps of a draft, a list of fields keeps. -/
theorem yields_elements (fields : List (Field σ))
    (hfields : ∀ field ∈ fields, ∀ draft, P draft → Yields P (field.read draft)) (count : Nat)
    {draft : σ} (hdraft : P draft) : Yields P (shape.elements count draft fields) := by
  induction fields generalizing count draft with
  | nil => exact .bind_any fun _ => .pure hdraft
  | cons field fields ih =>
    have hrest : ∀ other ∈ fields, ∀ draft, P draft → Yields P (other.read draft) :=
      fun other hother => hfields other (List.mem_cons_of_mem _ hother)
    refine .bind_any fun more => ?_
    split
    · refine (hfields field List.mem_cons_self draft hdraft).bind fun next hnext => ?_
      exact ih hrest (count + 1) hnext
    · split
      · exact ih hrest (count + 1) hdraft
      · exact .throw _

/-- What every field keeps of a draft, and the empty draft has, holds of every value with these
fields. -/
theorem yields_read (hempty : P shape.empty)
    (hfields : ∀ field ∈ shape.fields, ∀ draft, P draft → Yields P (field.read draft)) :
    Yields P shape.read := by
  have hmember : ∀ key draft, P draft → Yields P (shape.member key draft) := by
    intro key draft hdraft
    unfold member
    split
    · exact .bind_any fun _ => .bind_any fun _ => .pure hdraft
    · next field hfind =>
      have hread := hfields field (List.mem_of_find?_eq_some hfind) draft hdraft
      dsimp only
      split
      · exact .throw _
      · exact .bind_any fun _ => hread
  refine .bind_any fun next => ?_
  split
  · exact .throw _
  · split
    · -- An object that lacks a field is no value.
      refine .bind_any fun _ => (Yields.objectBody hmember hempty).bind fun draft hdraft => ?_
      split
      · exact .throw _
      · exact .pure hdraft
    · split
      · exact .bind_any fun _ => yields_elements shape.fields hfields 0 hempty
      · exact .wrongKind _ _

end Fields

/-! ## Tables -/

/-- An entry may be put in place of those with its key. -/
theorem DistinctKeys.replace {entries : List (String × α)} (h : DistinctKeys entries) (key : String)
    (value : α) : DistinctKeys (entries.filter (·.1 ≠ key) ++ [(key, value)]) := by
  unfold DistinctKeys at h ⊢
  rw [List.map_append, List.nodup_append]
  refine ⟨h.sublist (List.filter_sublist.map _), by simp, ?_⟩
  intro first hfirst second hsecond
  obtain ⟨entry, hentry, rfl⟩ := List.mem_map.mp hfirst
  obtain rfl : second = key := by simpa using hsecond
  simpa using (List.mem_filter.mp hentry).2

/-- A table that is read has one entry for each key. -/
theorem yields_dictionary (value : Reader α) : Yields DistinctKeys (Reader.dictionary value) := by
  refine .bind_any fun next => ?_
  split
  · exact .throw _
  · split
    · refine .bind_any fun _ => Yields.objectBody (fun key entries h => ?_) List.nodup_nil
      exact .bind_any fun _ => .bind_any fun item => .pure (h.replace key item)
    · exact .wrongKind _ _

/-- Rows of different keys are gathered as they stand. -/
theorem gather_of_distinctKeys {entries rows : List (String × α)}
    (h : DistinctKeys (entries ++ rows)) : gather entries rows = entries ++ rows := by
  induction rows generalizing entries with
  | nil => rw [List.append_nil]; rfl
  | cons row rows ih =>
    -- No entry before the row has its key.
    have hkept : entries.filter (·.1 ≠ row.1) = entries := by
      refine List.filter_eq_self.mpr fun entry hentry => ?_
      unfold DistinctKeys at h
      rw [List.map_append, List.nodup_append] at h
      exact decide_eq_true (h.2.2 entry.1 (List.mem_map_of_mem hentry) row.1 (by simp))
    rw [gather, List.foldl_cons, ← gather, hkept, ih (by simpa using h), List.append_assoc,
      List.singleton_append]

end CredentialVault.Json
