import CredentialVault.Proofs.Text.Strip
import CredentialVault.Text.Lines

/-!
# Lines of a text

A text whose last line has no line feed has the same lines with one after it (`splitLines_finish`),
so that a line can be written after any text without a change of the lines before it
(`splitLines_append_line`). A carriage return before a line feed may be counted as a part of the
line end (`splitReturnLines`); without the white space around them, the lines are the same then
(`map_strip_splitReturnLines`).
-/

namespace CredentialVault.Text

variable {text line : List Char}

/-- A text with a line feed after its last line ends with a line feed, unless it is empty. -/
theorem endsLine_finish (text : List Char) :
    endsLine (text ++ if endsLine text then [] else ['\n']) = true := by
  split
  · next h => rwa [List.append_nil]
  · simp [endsLine, List.getLast?_append]

/-- What comes first does not matter for the end of a text that goes on. -/
theorem endsLine_cons (c : Char) (h : text ≠ []) : endsLine (c :: text) = endsLine text := by
  unfold endsLine
  rw [List.getLast?_cons, List.getLast?_eq_some_getLast h, Option.getD_some]

/-- A line feed after the last line does not change the lines. -/
theorem splitLines_finish (text : List Char) :
    splitLines (text ++ if endsLine text then [] else ['\n']) = splitLines text := by
  split
  · rw [List.append_nil]
  next hends =>
  induction text with
  | nil => exact absurd rfl hends
  | cons c rest ih =>
    rcases hrest : rest with _ | ⟨d, tail⟩
    · -- The last character, which is no line feed.
      subst hrest
      have hc : c ≠ '\n' := by simpa [endsLine] using hends
      simp [splitLines, hc]
    · rw [← hrest]
      have hne : rest ≠ [] := by simp [hrest]
      rw [endsLine_cons c hne] at hends
      rw [List.cons_append, splitLines.eq_def (c :: (rest ++ ['\n'])), splitLines.eq_def (c :: rest)]
      dsimp only
      rw [ih hends]

/-- A text without a line feed is one line when a line feed comes after it. -/
theorem splitLines_line (h : '\n' ∉ line) : splitLines (line ++ ['\n']) = [line] := by
  induction line with
  | nil => rfl
  | cons c rest ih =>
    rw [List.mem_cons, not_or] at h
    obtain ⟨hc, hrest⟩ := h
    rw [List.cons_append, splitLines, if_neg (Ne.symm hc), ih hrest]

/-- A line that is written after a text comes after its lines, which stay as they are. -/
theorem splitLines_append_line (text : List Char) (h : '\n' ∉ line) :
    splitLines (text ++ (if endsLine text then [] else ['\n']) ++ (line ++ ['\n'])) =
      splitLines text ++ [line] := by
  rw [splitLines_append (endsLine_finish text), splitLines_finish, splitLines_line h]

/-! ## Carriage returns -/

/-- A line without the carriage return at its end. -/
def dropReturn (line : List Char) : List Char :=
  if line.getLast? = some '\r' then line.dropLast else line

/-- The lines of a text that end with a line feed or with a carriage return and a line feed. A
carriage return at the end of the text is a part of the last line. -/
def splitReturnLines (text : List Char) : List (List Char) :=
  if endsLine text then (splitLines text).map dropReturn
  else (splitLines text).dropLast.map dropReturn ++ (splitLines text).getLast?.toList

/-- A carriage return at the end of a line is white space there. -/
theorem strip_dropReturn (line : List Char) :
    strip isBlank (dropReturn line) = strip isBlank line := by
  unfold dropReturn
  split
  · next h =>
    obtain ⟨before, rfl⟩ := List.getLast?_eq_some_iff.mp h
    rw [List.dropLast_concat, strip_append before (List.all_eq_true.mp (by decide))]
  · rfl

/-- Without the white space around them, lines are the same with carriage returns in their ends. -/
theorem map_strip_splitReturnLines (text : List Char) :
    (splitReturnLines text).map (strip isBlank) = (splitLines text).map (strip isBlank) := by
  have hmap : ∀ lines : List (List Char),
      (lines.map dropReturn).map (strip isBlank) = lines.map (strip isBlank) := fun lines => by
    rw [List.map_map]
    exact List.map_congr_left fun line _ => strip_dropReturn line
  unfold splitReturnLines
  split
  · exact hmap _
  · rw [List.map_append, hmap, ← List.map_append]
    rcases List.eq_nil_or_concat (splitLines text) with h | ⟨before, last, h⟩
    · rw [h]
      rfl
    · rw [h, List.concat_eq_append, List.dropLast_concat, List.getLast?_concat]
      rfl

end CredentialVault.Text
