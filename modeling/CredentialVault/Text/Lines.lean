/-!
# Lines

A text is cut into lines at its line feeds. The part after the last line feed is a line of its own
unless it is empty.
-/

namespace CredentialVault.Text

/-- The lines of a text, without their line feeds. -/
def splitLines : List Char → List (List Char)
  | [] => []
  | c :: rest =>
    if c = '\n' then [] :: splitLines rest
    else
      match splitLines rest with
      | [] => [[c]]
      | line :: more => (c :: line) :: more

/-- Whether a text is empty or ends with a line feed, so that more text starts a new line. -/
def endsLine (text : List Char) : Bool :=
  text.getLast?.all (· = '\n')

/-- What follows a finished line does not change the lines before it. -/
theorem splitLines_append {text : List Char} (h : endsLine text = true) (more : List Char) :
    splitLines (text ++ more) = splitLines text ++ splitLines more := by
  induction text with
  | nil => simp [splitLines]
  | cons c rest ih =>
    by_cases hc : c = '\n'
    · have : endsLine rest = true := by
        cases rest <;> simp_all [endsLine, List.getLast?_cons]
      simp [splitLines, hc, ih this]
    · cases rest with
      | nil => simp [endsLine, hc] at h
      | cons d tail =>
        have hrest : endsLine (d :: tail) = true := by
          simpa [endsLine, List.getLast?_cons] using h
        have hne : splitLines (d :: tail) ≠ [] := by
          simp only [splitLines]
          split
          · simp
          · split <;> simp
        simp only [List.cons_append] at ih ⊢
        rw [splitLines, if_neg hc, ih hrest]
        rw [splitLines.eq_def (c :: d :: tail)]
        simp only [if_neg hc]
        cases hs : splitLines (d :: tail) with
        | nil => exact absurd hs hne
        | cons line lines => simp

end CredentialVault.Text
