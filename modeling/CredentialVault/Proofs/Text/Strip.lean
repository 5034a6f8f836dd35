import CredentialVault.Text.Blank

/-!
# What is left of a list without its ends

To strip a list is to take away the elements at its two ends that satisfy a condition. What is left
is bare: no such element stands at its ends any more (`bare_strip`). And what is bare is what is
left of any list that has it between such elements (`strip_eq_iff_bare`).
-/

namespace CredentialVault.Text

variable {α : Type} {p : α → Bool} {xs core before after : List α}

/-- Neither end of a list satisfies a condition. -/
structure Bare (p : α → Bool) (xs : List α) : Prop where
  /-- Its first element does not. -/
  first : ∀ x ∈ xs.head?, p x = false
  /-- Its last element does not. -/
  last : ∀ x ∈ xs.getLast?, p x = false

/-- A list of elements of which none satisfies a condition is bare. -/
theorem Bare.of_forall (h : ∀ x ∈ xs, p x = false) : Bare p xs :=
  ⟨fun x hx => h x (List.mem_of_head? hx), fun x hx => h x (List.mem_of_getLast? hx)⟩

/-- Nothing is dropped from a list whose first element does not satisfy the condition. -/
theorem dropWhile_of_first (h : ∀ x ∈ xs.head?, p x = false) : xs.dropWhile p = xs := by
  rcases xs with _ | ⟨x, xs⟩
  · rfl
  · rw [List.dropWhile_cons_of_neg (by simp [h x rfl])]

/-- What is left after dropping elements from the front does not start with one of them. -/
theorem first_dropWhile (p : α → Bool) (xs : List α) : ∀ x ∈ (xs.dropWhile p).head?, p x = false := by
  intro x hx
  have hhead := List.head?_dropWhile_not p xs
  rw [Option.mem_def.mp hx] at hhead
  simpa using hhead

/-- What is bare is left of a list that has it between elements to be stripped off. -/
theorem Bare.strip_eq (h : Bare p core) (hbefore : ∀ x ∈ before, p x = true)
    (hafter : ∀ x ∈ after, p x = true) : strip p (before ++ core ++ after) = core := by
  have hback : ∀ x ∈ after.reverse, p x = true := fun x hx => hafter x (List.mem_reverse.mp hx)
  rw [strip, List.append_assoc, List.dropWhile_append_of_pos hbefore]
  rcases core with _ | ⟨first, core⟩
  · -- Nothing but elements to be stripped off.
    rw [List.nil_append, ← List.append_nil after, List.dropWhile_append_of_pos hafter]
    rfl
  · have hfront : (first :: core ++ after).dropWhile p = first :: core ++ after :=
      dropWhile_of_first h.first
    have hlast : (first :: core).reverse.dropWhile p = (first :: core).reverse :=
      dropWhile_of_first (by rw [List.head?_reverse]; exact h.last)
    rw [hfront, List.reverse_append, List.dropWhile_append_of_pos hback, hlast, List.reverse_reverse]

/-- A list is what is left of it, between elements that were stripped off. -/
theorem exists_strip (p : α → Bool) (xs : List α) : ∃ before after, (∀ x ∈ before, p x = true) ∧
    (∀ x ∈ after, p x = true) ∧ xs = before ++ strip p xs ++ after := by
  have hfirst : xs.takeWhile p ++ xs.dropWhile p = xs := List.takeWhile_append_dropWhile
  have hlast : (xs.dropWhile p).reverse.takeWhile p ++ (xs.dropWhile p).reverse.dropWhile p =
      (xs.dropWhile p).reverse := List.takeWhile_append_dropWhile
  refine ⟨xs.takeWhile p, ((xs.dropWhile p).reverse.takeWhile p).reverse,
    List.all_eq_true.mp List.all_takeWhile, fun x hx => ?_, ?_⟩
  · exact List.all_eq_true.mp List.all_takeWhile x (List.mem_reverse.mp hx)
  · rw [strip, List.append_assoc, ← List.reverse_append, hlast, List.reverse_reverse, hfirst]

/-- What is left of a list is bare. -/
theorem bare_strip (p : α → Bool) (xs : List α) : Bare p (strip p xs) := by
  constructor
  · intro x hx
    -- Elements are dropped from the back last, which leaves the first one if any is left.
    have hprefix : strip p xs <+: xs.dropWhile p := by
      rw [strip, ← List.reverse_suffix, List.reverse_reverse]
      exact List.dropWhile_suffix p
    obtain ⟨rest, hrest⟩ := hprefix
    refine first_dropWhile p xs x ?_
    rw [← hrest, List.head?_append, Option.mem_def.mp hx]
    rfl
  · intro x hx
    rw [strip, List.getLast?_reverse] at hx
    exact first_dropWhile p _ x hx

/-- What is left of a list is the one bare part of it that has nothing but elements to be stripped
off before and after it. -/
theorem strip_eq_iff_bare : strip p xs = core ↔ Bare p core ∧ ∃ before after,
    (∀ x ∈ before, p x = true) ∧ (∀ x ∈ after, p x = true) ∧ xs = before ++ core ++ after := by
  constructor
  · rintro rfl
    exact ⟨bare_strip p xs, exists_strip p xs⟩
  · rintro ⟨hbare, before, after, hbefore, hafter, rfl⟩
    exact hbare.strip_eq hbefore hafter

/-- Elements to be stripped off make no difference at the end of a list. -/
theorem strip_append (xs : List α) (h : ∀ x ∈ after, p x = true) :
    strip p (xs ++ after) = strip p xs := by
  obtain ⟨before, others, hbefore, hothers, hxs⟩ := exists_strip p xs
  refine strip_eq_iff_bare.mpr ⟨bare_strip p xs, before, others ++ after, hbefore, fun x hx => ?_, ?_⟩
  · exact (List.mem_append.mp hx).elim (hothers x) (h x)
  · rw [← List.append_assoc, ← hxs]

/-- What is left of a list was in it. -/
theorem mem_of_mem_strip {x : α} (h : x ∈ strip p xs) : x ∈ xs := by
  obtain ⟨before, after, -, -, hxs⟩ := exists_strip p xs
  rw [hxs]
  exact List.mem_append_left _ (List.mem_append_right _ h)

end CredentialVault.Text
