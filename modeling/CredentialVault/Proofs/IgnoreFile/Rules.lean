import CredentialVault.IgnoreFile
import CredentialVault.Proofs.Text.Lines

/-!
# Rules of an ignore file

The line that is written for a rule is its normal form and a slash. It is recognized as the rule
again (`normalize_line`), unless the normal form begins with white space, which is no part of a line
that is read. Rules that a text covers stay covered when lines are written after it
(`covers_appendRule`), and the rule of a line that was written is covered from then on
(`covers_appendRule_self`).
-/

namespace CredentialVault.IgnoreFile

open Text

variable {rule text wanted : List Char}

/-- A normal form has no slash at its ends. -/
theorem bare_normalize (rule : List Char) : Bare (· = '/') (normalize rule) :=
  bare_strip _ _

/-- A normal form has only characters of its rule. -/
theorem mem_of_mem_normalize {c : Char} (h : c ∈ normalize rule) : c ∈ rule :=
  mem_of_mem_strip (mem_of_mem_strip h)

/-- A rule without slashes at its ends and without white space at its start is read again from its
line. -/
theorem normalize_line (hslash : Bare (· = '/') wanted)
    (hstart : ∀ c ∈ wanted.head?, isBlank c = false) : normalize (wanted ++ ['/']) = wanted := by
  have hblank : Bare isBlank (wanted ++ ['/']) := by
    constructor
    · intro c hc
      rcases wanted with _ | ⟨d, wanted⟩
      · cases hc
        rfl
      · exact hstart c hc
    · intro c hc
      rw [List.getLast?_concat] at hc
      cases hc
      rfl
  have htrim : strip isBlank (wanted ++ ['/']) = wanted ++ ['/'] :=
    strip_eq_iff_bare.mpr ⟨hblank, [], [], nofun, nofun, by simp⟩
  unfold normalize
  rw [htrim]
  exact strip_eq_iff_bare.mpr ⟨hslash, [], ['/'], nofun, by simp, by simp⟩

/-- A text covers a rule if one of its lines has the normal form. -/
theorem covers_iff : covers text wanted = true ↔
    ∃ line ∈ splitLines text, normalize line = wanted := by
  simp [covers]

/-- Whether a text covers a rule does not depend on whether carriage returns belong to its line
ends. -/
theorem covers_iff_splitReturnLines : covers text wanted = true ↔
    ∃ line ∈ splitReturnLines text, normalize line = wanted := by
  have hany : ∀ lines : List (List Char), lines.any (normalize · = wanted) =
      (lines.map (strip isBlank)).any (strip (· = '/') · = wanted) := fun lines => by
    rw [List.any_map]
    rfl
  unfold covers
  rw [hany, ← map_strip_splitReturnLines, ← hany]
  simp

/-- The lines of a text stay when a rule is written after them, and its line comes last. -/
theorem splitLines_appendRule (text : List Char) (h : '\n' ∉ wanted) :
    splitLines (appendRule text wanted) = splitLines text ++ [wanted ++ ['/']] := by
  rw [← splitLines_append_line text (by simp [h] : '\n' ∉ wanted ++ ['/'])]
  simp [appendRule]

/-- What a text covers stays covered when a rule is written after it. -/
theorem covers_appendRule (h : covers text wanted = true) (other : List Char) :
    covers (appendRule text other) wanted = true := by
  obtain ⟨line, hline, hnormal⟩ := covers_iff.mp h
  refine covers_iff.mpr ⟨line, ?_, hnormal⟩
  rw [appendRule, List.append_assoc, splitLines_append (endsLine_finish text), splitLines_finish]
  exact List.mem_append_left _ hline

/-- A rule that was written is covered, if it has no line feed and its normal form does not begin
with white space. -/
theorem covers_appendRule_self (text : List Char) (hline : '\n' ∉ rule)
    (hstart : ∀ c ∈ (normalize rule).head?, isBlank c = false) :
    covers (appendRule text (normalize rule)) (normalize rule) = true := by
  refine covers_iff.mpr ⟨normalize rule ++ ['/'], ?_, normalize_line (bare_normalize rule) hstart⟩
  rw [splitLines_appendRule text fun h => hline (mem_of_mem_normalize h)]
  exact List.mem_append_right _ (List.mem_singleton_self _)

end CredentialVault.IgnoreFile
