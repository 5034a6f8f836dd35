import CredentialVault.Proofs.Files.Writable
import CredentialVault.Proofs.IgnoreFile.Rules
import CredentialVault.Proofs.Text.Utf8

/-!
# What becomes of an ignore file

A call that sees to a rule finds the rule, writes it after the text of the file, or fails: without a
change if the file cannot be opened, and with the first bytes of what was to be written if it can
(`ensure_ends`). A file that is no text, or cannot be read, is taken as if it were empty, so that
its bytes are lost when the rule is written (`ensure_keepsBytes_iff`). A rule that was seen to stays
covered whatever other rules are seen to later (`covers_ensureAll`), so that all later calls find it
(`ensure_idempotent`).
-/

namespace CredentialVault.IgnoreFile

open Operation

/-- The ignore file has a name of its own. -/
theorem isFileName : Files.IsFileName fileName :=
  ⟨by decide, by decide, by decide, by decide⟩

/-- The text that is read from the ignore file of a project. It is empty if no text can be read. -/
def textIn (project : String) (files : Files) : List Char :=
  ((files.readText (pathIn project)).toOption.getD "").toList

/-- The bytes of the line that is written for a rule. -/
def lineBytes (rule : String) : Bytes :=
  Bytes.ofChars (normalize rule.toList ++ ['/', '\n'])

/-- The bytes that are written for a rule: the text that was read, and the line. -/
def newBytes (project rule : String) (files : Files) : Bytes :=
  Bytes.ofText (String.ofList (appendRule (textIn project files) (normalize rule.toList)))

/-- A file of the project that could be opened has some bytes; they can be read if the file could
be, or was not there. -/
def IsLeft (project : String) (files files' : Files) (content : Bytes) : Prop :=
  files'.Contains (pathIn project) content ∧
    (¬files.IsUnreadable (pathIn project) → files'.Holds (pathIn project) content)

/-- The ways in which a call that sees to a rule can end. -/
inductive Ends (project rule : String) (files : Files) : Outcome → Files → Prop where
  /-- The rule is covered, and nothing is done. -/
  | present (hcovers : covers (textIn project files) (normalize rule.toList) = true) :
    Ends project rule files .present files
  /-- The rule is not covered, and is written after the text that was read. -/
  | added {files' : Files} (hcovers : covers (textIn project files) (normalize rule.toList) = false)
    (hleft : IsLeft project files files' (newBytes project rule files)) :
    Ends project rule files .added files'
  /-- The rule is not covered, and the file cannot be opened. -/
  | unopened {files' : Files}
    (hcovers : covers (textIn project files) (normalize rule.toList) = false)
    (hclosed : ¬files.Opens (pathIn project)) (hnodes : files'.nodes = files.nodes) :
    Ends project rule files .failed files'
  /-- The rule is not covered, and the writing stops before the last byte. -/
  | cutShort {files' : Files} {part : Bytes}
    (hcovers : covers (textIn project files) (normalize rule.toList) = false)
    (hopens : files.Opens (pathIn project)) (hpart : part <+: newBytes project rule files)
    (hshort : part ≠ newBytes project rule files) (hleft : IsLeft project files files' part) :
    Ends project rule files .failed files'

variable {files files' : Files} {project rule : String} {content : Bytes} {outcome : Outcome}
  {wanted : List Char}

/-- A call ends in one of these ways. -/
theorem ensure_ends (h : ensure project rule files = (outcome, files')) :
    Ends project rule files outcome files' := by
  unfold ensure at h
  dsimp only at h
  split at h
  · next hcovers =>
    cases h
    exact .present hcovers
  next hcovers =>
  rw [Bool.not_eq_true] at hcovers
  split at h
  · next hwrite =>
    cases h
    rcases FilesM.write_contains hwrite with ⟨-, hfailed, -⟩ | ⟨-, part, -, hall, hleft⟩
    · exact absurd rfl hfailed
    · obtain rfl := hall.mp rfl
      exact .added hcovers hleft
  · next hwrite =>
    cases h
    rcases FilesM.write_contains hwrite with
      ⟨hclosed, -, hnodes⟩ | ⟨hopens, part, hpart, hall, hleft⟩
    · exact .unopened hcovers hclosed hnodes
    · exact .cutShort hcovers hopens hpart (fun heq => nomatch hall.mpr heq) hleft

/-- A call writes the ignore file at most. -/
theorem within_ensure {Q : Files → Files → Prop} [Sequential Q]
    (hwithin : ∀ content, Within Q (FilesM.write (pathIn project) content))
    (h : ensure project rule files = (outcome, files')) : Q files files' := by
  unfold ensure at h
  dsimp only at h
  split at h
  · cases h
    exact Sequential.refl _
  · split at h <;> next hwrite =>
      cases h
      exact (hwithin _).of_run hwrite

/-! ## What is read -/

/-- What is read depends on the nodes alone. -/
theorem textIn_of_nodes (h : files'.nodes = files.nodes) :
    textIn project files' = textIn project files := by
  have hwalk : ∀ here names, files'.walk here names = files.walk here names := fun here names => by
    induction names generalizing here with
    | nil => rfl
    | cons name names ih => simp only [Files.walk, Files.node?_congr h, ih]
  unfold textIn Files.readText Files.read Files.find Files.locate
  simp only [hwalk, Files.node?_congr h]

/-- A file is read as its text; one that is no text is read as if it were empty. -/
theorem textIn_of_holds (h : files.Holds (pathIn project) content) :
    textIn project files = ((Bytes.toText? content).getD "").toList := by
  obtain ⟨location, hlocate, hnode⟩ := h
  have hread : files.read (pathIn project) = .ok content := by
    unfold Files.read Files.find
    rw [hlocate, ok_bind, hnode]
    rfl
  unfold textIn Files.readText
  rw [hread, ok_bind]
  rcases Bytes.toText? content with _ | text <;> rfl

/-- A file that cannot be read is taken as if it were empty. -/
theorem textIn_of_unreadable (h : files.IsUnreadable (pathIn project)) : textIn project files = [] := by
  obtain ⟨location, content, hlocate, hnode⟩ := h
  unfold textIn Files.readText Files.read Files.find
  rw [hlocate, ok_bind, hnode]
  rfl

/-- A file that is missing is read as if it were empty. -/
theorem textIn_of_missing (h : files.exists? (pathIn project) = false) : textIn project files = [] := by
  unfold Files.exists? at h
  unfold textIn Files.readText Files.read
  rcases hfind : files.find (pathIn project) with e | node <;> rw [hfind] at h
  · rfl
  · cases h

/-! ## What is kept -/

/-- The bytes of a text come first after a rule was written. -/
theorem ofText_prefix_appendRule (text : String) (wanted : List Char) :
    Bytes.ofText text <+: Bytes.ofText (String.ofList (appendRule text.toList wanted)) := by
  rw [Bytes.ofText_ofList, Bytes.ofText_eq_ofChars, appendRule, List.append_assoc, List.append_assoc,
    Bytes.ofChars_append]
  exact List.prefix_append _ _

/-- A project whose ignore file holds a comment in Latin-1. -/
def latinProject : Files :=
  ⟨[(["p"], .directory), (["p", fileName], .file [0x23, 0xfc, 0x0a])], []⟩

/-- The bytes of the ignore file can be read, and are a text. -/
def IsLegible (files : Files) (project : String) (content : Bytes) : Prop :=
  files.Holds (pathIn project) content ∧ (Bytes.toText? content).isSome = true

/-- Bytes that cannot be read as a text are taken for nothing, so that the line is all that is
written. -/
theorem newBytes_of_not_legible (hheld : files.Contains (pathIn project) content)
    (h : ¬IsLegible files project content) : newBytes project rule files = lineBytes rule := by
  have hnothing : textIn project files = [] := by
    obtain ⟨location, hlocate, hnode | hnode⟩ := hheld
    · have hholds : files.Holds (pathIn project) content := ⟨location, hlocate, hnode⟩
      have hnone : Bytes.toText? content = none :=
        Option.not_isSome_iff_eq_none.mp fun hsome => h ⟨hholds, hsome⟩
      rw [textIn_of_holds hholds, hnone]
      rfl
    · exact textIn_of_unreadable ⟨location, content, hlocate, hnode⟩
  rw [newBytes, hnothing]
  exact Bytes.ofText_ofList _

/-- What is written begins with the bytes of the file exactly if they can be read as a text, or
happen to be the start of the line. -/
theorem prefix_newBytes_iff (hheld : files.Contains (pathIn project) content) :
    content <+: newBytes project rule files ↔
      IsLegible files project content ∨ content <+: lineBytes rule := by
  by_cases hlegible : IsLegible files project content
  · obtain ⟨text, htext⟩ := Option.isSome_iff_exists.mp hlegible.2
    have hprefix := ofText_prefix_appendRule text (normalize rule.toList)
    rw [Bytes.ofText_toText? htext] at hprefix
    refine iff_of_true ?_ (.inl hlegible)
    rw [newBytes, textIn_of_holds hlegible.1, htext]
    exact hprefix
  · rw [newBytes_of_not_legible hheld hlegible, or_iff_right hlegible]

/-- A call that finds a rule leaves every file. A call that writes one keeps the bytes of the ignore
file in front of it exactly if they can be read as a text, or happen to be the start of the line
that is written; else the line is all that is left. A call that fails leaves every file if the
ignore file could not be opened. If it could, as many bytes are left as were written until then, and
these are the bytes of the file exactly if they are as many and would have been kept in front of the
rule. -/
theorem ensure_keepsBytes_iff (hheld : files.Contains (pathIn project) content)
    (h : ensure project rule files = (outcome, files')) :
    (outcome = .present → files' = files) ∧
    (outcome = .added → ∃ changed, IsLeft project files files' changed ∧
      (content <+: changed ↔ IsLegible files project content ∨ content <+: lineBytes rule) ∧
      (¬IsLegible files project content → changed = lineBytes rule)) ∧
    (outcome = .failed → (¬files.Opens (pathIn project) → files'.nodes = files.nodes) ∧
      (files.Opens (pathIn project) → ∃ left, IsLeft project files files' left ∧
        left <+: newBytes project rule files ∧ left ≠ newBytes project rule files ∧
        (left = content ↔ left.length = content.length ∧
          (IsLegible files project content ∨ content <+: lineBytes rule)))) := by
  rcases ensure_ends h with _ | ⟨-, hleft⟩ | ⟨-, hclosed, hnodes⟩ | ⟨-, hopens, hpart, hshort, hleft⟩
  · exact ⟨fun _ => rfl, nofun, nofun⟩
  · exact ⟨nofun, fun _ => ⟨_, hleft, prefix_newBytes_iff hheld, newBytes_of_not_legible hheld⟩,
      nofun⟩
  · exact ⟨nofun, nofun, fun _ => ⟨fun _ => hnodes, fun hopens => absurd hopens hclosed⟩⟩
  · refine ⟨nofun, nofun, fun _ => ⟨fun hclosed => absurd hopens hclosed, fun _ =>
      ⟨_, hleft, hpart, hshort, ?_⟩⟩⟩
    rw [← prefix_newBytes_iff hheld]
    -- Two starts of the new bytes are the same exactly if they are equally long.
    constructor
    · rintro rfl
      exact ⟨rfl, hpart⟩
    · rintro ⟨hlength, hcontent⟩
      exact (List.prefix_of_prefix_length_le hpart hcontent (Nat.le_of_eq hlength)).eq_of_length
        hlength

/-- A comment in Latin-1 is lost when a rule is written after it: it is no text in UTF-8. -/
theorem ensure_keepsBytes_latin :
    latinProject.Holds (pathIn "/p") [0x23, 0xfc, 0x0a] ∧
    ∃ files', ensure "/p" "secrets" latinProject = (.added, files') ∧
      files'.Holds (pathIn "/p") (Bytes.ofText "secrets/\n") ∧
      ¬[0x23, 0xfc, 0x0a] <+: Bytes.ofText "secrets/\n" := by
  have hheld : latinProject.Holds (pathIn "/p") [0x23, 0xfc, 0x0a] :=
    Files.holds_iff.mpr (by decide +kernel)
  have hrun : ensure "/p" "secrets" latinProject =
      (.added, (ensure "/p" "secrets" latinProject).2) := Prod.ext (by decide +kernel) rfl
  have hillegible : ¬IsLegible latinProject "/p" [0x23, 0xfc, 0x0a] :=
    fun h => absurd h.2 (by decide +kernel)
  obtain ⟨changed, ⟨-, hchanged⟩, -, hlost⟩ :=
    (ensure_keepsBytes_iff hheld.contains hrun).2.1 rfl
  have hline : changed = Bytes.ofText "secrets/\n" :=
    (hlost hillegible).trans (by decide +kernel)
  exact ⟨hheld, _, hrun, hline ▸ hchanged hheld.not_isUnreadable, by decide +kernel⟩

/-! ## Later calls -/

/-- The files after calls that see to rules, one after another. -/
def ensureAll (project : String) (rules : List String) (files : Files) : Files :=
  rules.foldl (fun files rule => (ensure project rule files).2) files

/-- A rule that is not covered is written to a file that can be opened, when no change is to be
refused. -/
theorem ensure_of_opens (hrefusals : files.refusals = []) (hopens : files.Opens (pathIn project))
    (h : covers (textIn project files) (normalize rule.toList) = false) :
    ∃ files', ensure project rule files = (.added, files') := by
  unfold textIn at h
  obtain ⟨files', hrun⟩ := FilesM.write_of_opens hrefusals hopens (Bytes.ofText (String.ofList
    (appendRule ((files.readText (pathIn project)).toOption.getD "").toList
      (normalize rule.toList))))
  refine ⟨files', ?_⟩
  unfold ensure
  dsimp only
  rw [h, if_neg Bool.false_ne_true, hrun]

/-- No change is to be refused after a call if none was before. -/
theorem refusals_ensure (hrefusals : files.refusals = []) (rule : String) :
    (ensure project rule files).2.refusals = [] :=
  within_ensure (Q := Keeps fun files : Files => files.refusals = [])
    (fun content => FilesM.maintains_unrefused_write (pathIn project) content) rfl hrefusals

/-- What is covered stays covered after a call when no change is to be refused, however it ends. -/
theorem covers_ensure (hrefusals : files.refusals = [])
    (h : covers (textIn project files) wanted = true) (rule : String) :
    covers (textIn project (ensure project rule files).2) wanted = true := by
  rcases hrun : ensure project rule files with ⟨outcome, files'⟩
  rcases ensure_ends hrun with _ | ⟨-, -, hholds⟩ | ⟨-, -, hnodes⟩ | ⟨hcovers, hopens, -, -, -⟩
  · exact h
  · -- What covers a rule was read, and so can be read again.
    have hreadable : ¬files.IsUnreadable (pathIn project) := by
      intro hunreadable
      rw [textIn_of_unreadable hunreadable] at h
      cases h
    rw [textIn_of_holds (hholds hreadable), newBytes, Bytes.toText?_ofText, Option.getD_some,
      String.toList_ofList]
    exact covers_appendRule h _
  · rw [textIn_of_nodes hnodes]
    exact h
  · -- A file that could be opened is written to its end.
    obtain ⟨_, hadded⟩ := ensure_of_opens hrefusals hopens hcovers
    rw [hrun] at hadded
    cases hadded

/-- What is covered stays covered after any calls when no change is to be refused. -/
theorem covers_ensureAll (hrefusals : files.refusals = [])
    (h : covers (textIn project files) wanted = true) (rules : List String) :
    covers (textIn project (ensureAll project rules files)) wanted = true := by
  induction rules generalizing files with
  | nil => exact h
  | cons rule rules ih =>
    exact ih (refusals_ensure hrefusals rule) (covers_ensure hrefusals h rule)

/-- A call finds a rule that is covered, and does nothing. -/
theorem ensure_of_covers (h : covers (textIn project files) (normalize rule.toList) = true) :
    ensure project rule files = (.present, files) :=
  if_pos h

/-- The ignore file of a project holds a text, which is empty if there is no file. -/
def HasText (files : Files) (project text : String) : Prop :=
  files.Holds (pathIn project) (Bytes.ofText text) ∨
    files.exists? (pathIn project) = false ∧ text = ""

/-- A file that holds a text, or is missing, is none that cannot be read. -/
theorem HasText.not_isUnreadable {text : String} (h : HasText files project text) :
    ¬files.IsUnreadable (pathIn project) := by
  rcases h with hholds | ⟨hmissing, -⟩
  · exact hholds.not_isUnreadable
  · rintro ⟨location, content, hlocate, hnode⟩
    rw [Files.exists?_eq, Files.find_of_locate hlocate, hnode] at hmissing
    cases hmissing

/-- The text that the file holds is read. -/
theorem HasText.textIn_eq {text : String} (h : HasText files project text) :
    textIn project files = text.toList := by
  rcases h with hholds | ⟨hmissing, rfl⟩
  · rw [textIn_of_holds hholds, Bytes.toText?_ofText, Option.getD_some]
  · rw [textIn_of_missing hmissing]
    rfl

/-- Where the ignore file is a text, or missing, and can be written, a rule is seen to once and for
all. The call finds the rule if a line of the file has its normal form; lines may end with a
carriage return and a line feed. Otherwise the call writes the normal form and a slash on a line of
its own after the lines that were there. Whatever other rules are seen to from then on, a call with
a rule of the same normal form finds it and changes nothing. The rule may have no line feed, and its
normal form may not begin with white space. -/
theorem ensure_idempotent {text : String} (hrefusals : files.refusals = [])
    (hwrite : files.CanWrite (pathIn project)) (htext : HasText files project text)
    (hline : '\n' ∉ rule.toList)
    (hstart : ∀ c ∈ (normalize rule.toList).head?, Text.isBlank c = false) :
    ∃ outcome files', ensure project rule files = (outcome, files') ∧
      (outcome = .present ↔
        ∃ line ∈ Text.splitReturnLines text.toList, normalize line = normalize rule.toList) ∧
      (outcome = .present → files' = files) ∧
      (outcome ≠ .present → outcome = .added ∧ ∃ extended : String,
        files'.Holds (pathIn project) (Bytes.ofText extended) ∧
        extended.toList = text.toList ++ (if Text.endsLine text.toList then [] else ['\n']) ++
          normalize rule.toList ++ ['/', '\n'] ∧
        Text.splitLines extended.toList =
          Text.splitLines text.toList ++ [normalize rule.toList ++ ['/']]) ∧
      ∀ (others : List String) (again : String), normalize again.toList = normalize rule.toList →
        ensure project again (ensureAll project others files') =
          (.present, ensureAll project others files') := by
  have hread := htext.textIn_eq
  -- A rule that is covered is found by all later calls.
  have hlater : ∀ files' : Files, files'.refusals = [] →
      covers (textIn project files') (normalize rule.toList) = true →
      ∀ (others : List String) (again : String), normalize again.toList = normalize rule.toList →
        ensure project again (ensureAll project others files') =
          (.present, ensureAll project others files') :=
    fun files' hunrefused hcovers others again hsame =>
      ensure_of_covers (hsame ▸ covers_ensureAll hunrefused hcovers others)
  rcases hcovers : covers (textIn project files) (normalize rule.toList) with _ | _
  · -- The rule is written, and what is read from then on is the text that was written.
    obtain ⟨files', hrun⟩ :=
      ensure_of_opens hrefusals (FilesM.opens_of_canWrite hrefusals hwrite) hcovers
    have hunrefused : files'.refusals = [] := by
      rw [← show (ensure project rule files).2 = files' from congrArg Prod.snd hrun]
      exact refusals_ensure hrefusals rule
    refine ⟨.added, files', hrun, ?_, nofun, fun _ => ⟨rfl, ?_⟩, hlater files' hunrefused ?_⟩
    · rw [hread] at hcovers
      refine iff_of_false nofun fun hcovered => ?_
      rw [covers_iff_splitReturnLines.mpr hcovered] at hcovers
      cases hcovers
    · rcases ensure_ends hrun with _ | ⟨-, -, hholds⟩
      have hholds := hholds htext.not_isUnreadable
      rw [newBytes, hread] at hholds
      refine ⟨_, hholds, String.toList_ofList, ?_⟩
      rw [String.toList_ofList]
      exact splitLines_appendRule _ fun h => hline (mem_of_mem_normalize h)
    · rcases ensure_ends hrun with _ | ⟨-, -, hholds⟩
      rw [textIn_of_holds (hholds htext.not_isUnreadable), newBytes, Bytes.toText?_ofText,
        Option.getD_some, String.toList_ofList]
      exact covers_appendRule_self _ hline hstart
  · refine ⟨.present, files, ensure_of_covers hcovers, ?_, fun _ => rfl,
      fun hne => absurd rfl hne, hlater files hrefusals hcovers⟩
    rw [hread] at hcovers
    exact iff_of_true rfl (covers_iff_splitReturnLines.mp hcovers)

/-- A project whose ignore file has a line that ends with a carriage return and a line feed, and one
without an end. -/
def returnProject : Files :=
  ⟨[(["p"], .directory), (["p", fileName], .file (Bytes.ofText "/a/\r\ntarget"))], []⟩

/-- A rule is written after a line without an end, and is found again in another form; a rule whose
line ends with a carriage return is found at once. -/
theorem ensure_idempotent_returns :
    (∃ files', ensure "/p" " /secrets/ " returnProject = (.added, files') ∧
      ∀ others, ensure "/p" "secrets" (ensureAll "/p" others files') =
        (.present, ensureAll "/p" others files')) ∧
    ensure "/p" "a" returnProject = (.present, returnProject) := by
  have hwrite : returnProject.CanWrite (pathIn "/p") := by decide +kernel
  have htext : HasText returnProject "/p" "/a/\r\ntarget" :=
    .inl (Files.holds_iff.mpr (by decide +kernel))
  have hstart : ∀ c ∈ (normalize " /secrets/ ".toList).head?, Text.isBlank c = false := by
    rintro _ ⟨⟩
    decide
  have hstart' : ∀ c ∈ (normalize "a".toList).head?, Text.isBlank c = false := by
    rintro _ ⟨⟩
    decide
  obtain ⟨outcome, files', hrun, hfound, -, hadded, hlater⟩ := @ensure_idempotent returnProject "/p"
    " /secrets/ " _ rfl hwrite htext (by decide +kernel) hstart
  obtain ⟨outcome', same, hrun', hfound', hsame, -, -⟩ := @ensure_idempotent returnProject "/p" "a" _
    rfl hwrite htext (by decide +kernel) hstart'
  have hne : outcome ≠ .present := mt hfound.mp (by decide +kernel)
  have heq : outcome' = .present := hfound'.mpr (by decide +kernel)
  refine ⟨⟨files', ?_, fun others => hlater others _ (by decide +kernel)⟩, ?_⟩
  · rw [hrun, (hadded hne).1]
  · rw [hrun', hsame heq, heq]

end CredentialVault.IgnoreFile
