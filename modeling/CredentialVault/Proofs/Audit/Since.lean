import Mathlib.Data.Nat.Digits.Defs
import CredentialVault.Audit.Since
import CredentialVault.Proofs.Text.Utf8

/-!
# Which spans can be written

A span is written as a number and the letter of its unit, with white space around it or none
(`Spells`). The number is read by its value, so that zeros before it do not matter
(`amount?_eq_some`), and it is refused where it, the span or the instant that it leads to is out of
range (`since_eq_ok_iff`). Arithmetic on numbers of 64 bits that ends at any step whose result does
not fit comes to the same (`since_eq_sinceFitting`), so that no step goes beyond its range
unnoticed. The number is cut off before the last character, of however many bytes that is
(`toText?_take_of_getLast?`). The whole is `since_exact`.
-/

namespace CredentialVault.Audit

/-! ## Written numbers -/

/-- A text is one or more ASCII digits. -/
def IsNumeral (digits : List Char) : Prop :=
  digits ≠ [] ∧ ∀ c ∈ digits, c.isDigit = true

/-- The number of decimal digits, the first of which counts most. -/
def decimal (digits : List Char) : Nat :=
  Nat.ofDigits 10 (digits.reverse.map fun c => c.toNat - '0'.toNat)

/-- A text is digits after a sign or none, and a number is what they stand for. -/
inductive Denotes : List Char → Int → Prop where
  /-- There is no sign. -/
  | bare {digits : List Char} (h : IsNumeral digits) : Denotes digits (decimal digits)
  /-- There is a plus sign. -/
  | plus {digits : List Char} (h : IsNumeral digits) : Denotes ('+' :: digits) (decimal digits)
  /-- There is a minus sign. -/
  | minus {digits : List Char} (h : IsNumeral digits) : Denotes ('-' :: digits) (-decimal digits)

/-- A letter is that of a unit, which has so many milliseconds. -/
inductive IsUnit : Char → Nat → Prop where
  /-- A day. -/
  | day : IsUnit 'd' 86400000
  /-- An hour. -/
  | hour : IsUnit 'h' 3600000
  /-- A minute. -/
  | minute : IsUnit 'm' 60000

/-- A text is a number and the letter of a unit. -/
def Spells (core : List Char) (number : Int) (unit : Nat) : Prop :=
  ∃ numeral letter, core = numeral ++ [letter] ∧ Denotes numeral number ∧ IsUnit letter unit

variable {digits numeral core : List Char} {letter : Char} {n unit : Nat} {number : Int}

/-- The digits are added up from the first one on. -/
theorem decimal_eq_foldl (digits : List Char) :
    decimal digits = digits.foldl (fun n c => n * 10 + (c.toNat - '0'.toNat)) 0 := by
  rw [decimal, Nat.ofDigits_eq_foldr, List.foldr_map, List.foldr_reverse]
  congr 1
  funext n c
  simp only [Nat.cast_id]
  omega

/-- Digits have their number. -/
theorem digitsValue?_eq_some :
    digitsValue? digits = some n ↔ IsNumeral digits ∧ decimal digits = n := by
  unfold digitsValue?
  split
  · next h =>
    refine iff_of_false nofun fun ⟨⟨hne, hall⟩, _⟩ => ?_
    simp only [Bool.or_eq_true, List.isEmpty_iff, hne, false_or, Bool.not_eq_true',
      List.all_eq_false] at h
    obtain ⟨c, hc, hdigit⟩ := h
    exact hdigit (hall c hc)
  · next h =>
    simp only [Bool.or_eq_true, List.isEmpty_iff, Bool.not_eq_true', not_or,
      Bool.not_eq_false, List.all_eq_true] at h
    rw [Option.some.injEq, decimal_eq_foldl, and_iff_right (show IsNumeral digits from h)]

/-- No digits start with a sign. -/
theorem IsNumeral.head_ne {c : Char} (h : IsNumeral (c :: digits)) : c ≠ '+' ∧ c ≠ '-' := by
  have hdigit := h.2 c (List.mem_cons_self ..)
  constructor <;> rintro rfl <;> exact absurd hdigit (by decide)

/-- After a minus sign, digits denote their number below zero. -/
theorem denotes_minus :
    Denotes ('-' :: digits) number ↔ IsNumeral digits ∧ number = -decimal digits := by
  refine ⟨fun h => ?_, fun ⟨h, hnumber⟩ => hnumber ▸ .minus h⟩
  cases h with
  | bare h => exact absurd rfl h.head_ne.2
  | minus h => exact ⟨h, rfl⟩

/-- After a plus sign, digits denote their number. -/
theorem denotes_plus :
    Denotes ('+' :: digits) number ↔ IsNumeral digits ∧ number = decimal digits := by
  refine ⟨fun h => ?_, fun ⟨h, hnumber⟩ => hnumber ▸ .plus h⟩
  cases h with
  | bare h => exact absurd rfl h.head_ne.1
  | plus h => exact ⟨h, rfl⟩

/-- Without a sign, digits denote their number. -/
theorem denotes_bare (hminus : ∀ rest, digits ≠ '-' :: rest) (hplus : ∀ rest, digits ≠ '+' :: rest) :
    Denotes digits number ↔ IsNumeral digits ∧ number = decimal digits := by
  refine ⟨fun h => ?_, fun ⟨h, hnumber⟩ => hnumber ▸ .bare h⟩
  cases h with
  | bare h => exact ⟨h, rfl⟩
  | plus h => exact absurd rfl (hplus _)
  | minus h => exact absurd rfl (hminus _)

/-- The amount of a text is the number that it denotes, if that is neither negative nor too
great. -/
theorem amount?_eq_some : amount? numeral = some n ↔ Denotes numeral n ∧ n ≤ maxSpan := by
  unfold amount?
  split
  · next digits =>
    rw [Option.filter_eq_some_iff, digitsValue?_eq_some, decide_eq_true_eq, denotes_minus]
    -- Only zero is both the number and its opposite.
    have hzero : decimal digits = n ∧ n = 0 ↔ (n : Int) = -decimal digits ∧ n ≤ maxSpan := by
      unfold maxSpan
      omega
    rw [and_assoc, and_assoc, hzero]
  · next digits =>
    rw [Option.filter_eq_some_iff, digitsValue?_eq_some, decide_eq_true_eq, denotes_plus,
      Int.natCast_inj, @eq_comm _ n]
  · next hminus hplus =>
    rw [Option.filter_eq_some_iff, digitsValue?_eq_some, decide_eq_true_eq,
      denotes_bare hminus hplus, Int.natCast_inj, @eq_comm _ n]

/-- The milliseconds of a unit are those of its letter. -/
theorem unitMs?_eq_some : unitMs? letter = some unit ↔ IsUnit letter unit := by
  constructor
  · intro h
    unfold unitMs? at h
    split at h <;> cases h
    · exact .day
    · exact .hour
    · exact .minute
  · rintro (_ | _ | _) <;> rfl

/-! ## Written spans -/

/-- A written span is one number and one unit in range, and its milliseconds are their product. -/
def InRange (number : Int) (unit : Nat) : Prop :=
  0 ≤ number ∧ number ≤ 9223372036854775807 ∧ number * unit ≤ 9223372036854775807

/-- A text has the milliseconds that it spells, if they are in range. -/
theorem spanMs?_eq_some {ms : Nat} : spanMs? core = some ms ↔
    ∃ number unit, Spells core number unit ∧ InRange number unit ∧ number * unit = ms := by
  have hmax : maxSpan = 9223372036854775807 := rfl
  constructor
  · intro h
    obtain ⟨letter, hletter, h₁⟩ := Option.bind_eq_some_iff.mp h
    obtain ⟨amount, hamount, h₂⟩ := Option.bind_eq_some_iff.mp h₁
    obtain ⟨unit, hunit, h₃⟩ := Option.bind_eq_some_iff.mp h₂
    obtain ⟨numeral, rfl⟩ := List.getLast?_eq_some_iff.mp hletter
    rw [List.dropLast_concat] at hamount
    obtain ⟨hdenotes, hfits⟩ := amount?_eq_some.mp hamount
    split at h₃
    · next hspan =>
      cases h₃
      refine ⟨amount, unit, ⟨numeral, letter, rfl, hdenotes, unitMs?_eq_some.mp hunit⟩, ?_, ?_⟩
      · rw [hmax] at hfits hspan
        exact ⟨by omega, by omega, by exact_mod_cast hspan⟩
      · exact (Int.natCast_mul ..).symm
    · cases h₃
  · -- A number in range is not negative, and is what is read as the amount.
    rintro ⟨number, unit, ⟨numeral, letter, rfl, hdenotes, hunit⟩, ⟨hnonneg, hfits, hspan⟩, hms⟩
    obtain ⟨amount, rfl⟩ := Int.eq_ofNat_of_zero_le hnonneg
    have hamount : amount? numeral = some amount :=
      amount?_eq_some.mpr ⟨hdenotes, by rw [hmax]; omega⟩
    have hproduct : amount * unit = ms := by exact_mod_cast hms
    have hrange : amount * unit ≤ maxSpan := by
      rw [hmax]
      exact_mod_cast hspan
    unfold spanMs?
    rw [List.getLast?_concat, List.dropLast_concat, hamount]
    simp only [Option.bind_eq_bind, Option.bind_some, unitMs?_eq_some.mpr hunit]
    rw [if_pos hrange, hproduct]

/-- So many days are a span, and one day more is none. -/
example : (spanMs? "106751991167d".toList).isSome = true ∧ spanMs? "106751991168d".toList = none := by
  decide +kernel

/-- A written span has no white space in it. -/
theorem Spells.isBlank_of_mem (h : Spells core number unit) :
    ∀ c ∈ core, Text.isBlank c = false := by
  have hdigit : ∀ c : Char, c.isDigit = true → Text.isBlank c = false := fun c hc => by
    simp only [Char.isDigit, Bool.and_eq_true, decide_eq_true_eq] at hc
    have hlow : 48 ≤ c.toNat := hc.1
    have hhigh : c.toNat ≤ 57 := hc.2
    simp only [Text.isBlank, Bool.or_eq_false_iff, Bool.and_eq_false_iff, decide_eq_false_iff_not,
      beq_eq_false_iff_ne]
    omega
  obtain ⟨numeral, letter, rfl, hdenotes, hunit⟩ := h
  intro c hc
  rcases List.mem_append.mp hc with hc | hc
  · cases hdenotes with
    | bare h => exact hdigit c (h.2 c hc)
    | plus h | minus h =>
      rcases List.mem_cons.mp hc with rfl | hc
      · decide
      · exact hdigit c (h.2 c hc)
  · rw [List.mem_singleton.mp hc]
    cases hunit <;> decide

/-- A span is refused with the text that was given. -/
theorem since_of_none {text : String} {now : Instant}
    (h : ∀ t, since text now ≠ .ok t) : since text now = .error (.commandFailed
      s!"invalid duration '{Text.trim text}', use a format like 7d, 24h, or 30m") := by
  unfold since at h ⊢
  dsimp only at h ⊢
  rcases hspan : spanMs? (Text.strip Text.isBlank text.toList) with _ | ms
  · rfl
  · rw [hspan] at h
    dsimp only at h ⊢
    split
    · next hcalendar => exact absurd (if_pos hcalendar) (h _)
    · rfl

/-- A span before an instant is the time to which it leads back, if that is in the calendar. -/
theorem since_eq_ok {text : String} {now t : Instant} : since text now = .ok t ↔
    ∃ ms : Nat, spanMs? (Text.strip Text.isBlank text.toList) = some ms ∧
      Instant.minMs ≤ (now.before ms).ms ∧ t = now.before ms := by
  unfold since
  dsimp only
  rcases spanMs? (Text.strip Text.isBlank text.toList) with _ | ms
  · exact iff_of_false nofun fun ⟨_, h, _⟩ => nomatch h
  · dsimp only
    constructor
    · intro h
      split at h
      · next hcalendar =>
        cases h
        exact ⟨ms, rfl, hcalendar, rfl⟩
      · cases h
    · rintro ⟨_, ⟨⟩, hcalendar, rfl⟩
      exact if_pos hcalendar

/-- A text is a span exactly if it is a written one in range, with white space around it or none,
that does not lead out of the calendar. -/
theorem since_eq_ok_iff {text : String} {now t : Instant} : since text now = .ok t ↔
    ∃ core number unit, Text.Surrounded core text ∧ Spells core.toList number unit ∧
      InRange number unit ∧ (Instant.ofMs Instant.minMs).ns ≤ now.ns - number * unit * 1000000 ∧
      t = ⟨now.ns - number * unit * 1000000⟩ := by
  have htrim : Text.strip Text.isBlank text.toList = (Text.trim text).toList :=
    String.toList_ofList.symm
  simp only [since_eq_ok, htrim, Instant.le_ms_iff]
  unfold Instant.before
  constructor
  · rintro ⟨ms, hspan, hcalendar, rfl⟩
    obtain ⟨number, unit, hspells, hrange, hms⟩ := spanMs?_eq_some.mp hspan
    rw [← hms] at hcalendar ⊢
    exact ⟨_, number, unit, (Text.trim_eq_iff hspells.isBlank_of_mem).mp rfl, hspells, hrange,
      hcalendar, rfl⟩
  · rintro ⟨core, number, unit, hsurrounded, hspells, hrange, hcalendar, rfl⟩
    obtain ⟨ms, hms⟩ := Int.eq_ofNat_of_zero_le
      (Int.mul_nonneg hrange.1 (Int.natCast_nonneg unit))
    rw [(Text.trim_eq_iff hspells.isBlank_of_mem).mpr hsurrounded]
    exact ⟨ms, spanMs?_eq_some.mpr ⟨number, unit, hspells, hrange, hms⟩, hms ▸ hcalendar, by
      rw [hms]
      rfl⟩

/-! ## Numbers of 64 bits -/

/-- A number of 64 bits, one of which is the sign. -/
def Fits (n : Int) : Prop := -9223372036854775808 ≤ n ∧ n ≤ 9223372036854775807

/-- Whether a number fits is decided by its bounds. -/
instance : DecidablePred Fits := fun _ => inferInstanceAs (Decidable (_ ∧ _))

/-- The result of a step, if it fits. -/
def fit? (n : Int) : Option Int := if Fits n then some n else none

/-- A number with one more digit, which counts away from zero. -/
def appendDigit? (isNegative : Bool) (n : Int) (c : Char) : Option Int :=
  if c.isDigit then do
    let tenfold ← fit? (n * 10)
    let digit : Int := (c.toNat - '0'.toNat : Nat)
    fit? (if isNegative then tenfold - digit else tenfold + digit)
  else none

/-- A number of digits, of which there is at least one. -/
def fittingDigits? (isNegative : Bool) (digits : List Char) : Option Int :=
  if digits = [] then none else digits.foldlM (appendDigit? isNegative) 0

/-- A number of digits after a sign or none. -/
def fittingNumber? (text : List Char) : Option Int :=
  match text with
  | '-' :: digits => fittingDigits? true digits
  | '+' :: digits => fittingDigits? false digits
  | digits => fittingDigits? false digits

/-- The milliseconds of a number that is not negative and a unit. -/
def fittingSpan? (text : List Char) : Option Int := do
  let letter ← text.getLast?
  let number ← fittingNumber? text.dropLast
  if number < 0 then none
  else
    let unit ← unitMs? letter
    fit? (number * unit)

/-- The instant that lies a written span before another one, by steps of which each must fit. They
are made with whole milliseconds; what there is beyond these stays. -/
def sinceFitting (text : String) (now : Instant) : Except VaultError Instant :=
  let span := Text.strip Text.isBlank text.toList
  let instant? : Option Instant := do
    let ms ← fittingSpan? span
    let time ← fit? (now.ms - ms)
    if Instant.minMs ≤ time then some ⟨time * Instant.nsPerMs + now.ns % Instant.nsPerMs⟩ else none
  match instant? with
  | some t => .ok t
  | none => .error (invalidSpan span)

/-- A step has its result if that fits. -/
theorem fit?_eq_some {m : Int} : fit? m = some number ↔ Fits m ∧ m = number := by
  unfold fit?
  split
  · next h => rw [Option.some.injEq, and_iff_right h]
  · next h => exact iff_of_false nofun fun hfits => h hfits.1

/-- The number of an absolute value on one side of zero. -/
def signed (isNegative : Bool) (n : Nat) : Int := if isNegative then -n else n

/-- What fits does so when a smaller absolute value is taken. -/
theorem Fits.of_le {isNegative : Bool} {m : Nat} (h : Fits (signed isNegative n)) (hle : m ≤ n) :
    Fits (signed isNegative m) := by
  unfold Fits signed at h ⊢
  cases isNegative <;> simp only [Bool.false_eq_true, if_false, if_true] at h ⊢ <;> omega

/-- A digit is appended if the number still fits. -/
theorem appendDigit?_signed {isNegative : Bool} {c : Char} (hc : c.isDigit = true) :
    appendDigit? isNegative (signed isNegative n) c =
      fit? (signed isNegative (n * 10 + (c.toNat - '0'.toNat))) := by
  have htenfold : signed isNegative n * 10 = signed isNegative (n * 10) := by
    unfold signed
    split <;> omega
  have hdigit : (if isNegative then signed isNegative (n * 10) - ((c.toNat - '0'.toNat : Nat) : Int)
      else signed isNegative (n * 10) + ((c.toNat - '0'.toNat : Nat) : Int)) =
        signed isNegative (n * 10 + (c.toNat - '0'.toNat)) := by
    unfold signed
    split <;> omega
  unfold appendDigit?
  rw [if_pos hc, htenfold]
  by_cases hfits : Fits (signed isNegative (n * 10))
  · -- The second step fits exactly if the result of both does.
    rw [fit?_eq_some.mpr ⟨hfits, rfl⟩]
    dsimp only [Option.bind_eq_bind, Option.bind_some]
    rw [hdigit]
  · -- What does not fit without the digit does not fit with it.
    have hmore : ¬Fits (signed isNegative (n * 10 + (c.toNat - '0'.toNat))) :=
      fun h => hfits (h.of_le (Nat.le_add_right ..))
    rw [fit?, if_neg hfits, fit?, if_neg hmore]
    rfl

/-- Digits are appended one after another if they are digits and the number that comes of them
fits. -/
theorem foldlM_appendDigit? {isNegative : Bool} (hn : Fits (signed isNegative n)) :
    digits.foldlM (appendDigit? isNegative) (signed isNegative n) = some number ↔
      (∀ c ∈ digits, c.isDigit = true) ∧
        fit? (signed isNegative (digits.foldl (fun n c => n * 10 + (c.toNat - '0'.toNat)) n)) =
          some number := by
  have hgrows : ∀ (digits : List Char) (m : Nat),
      m ≤ digits.foldl (fun n c => n * 10 + (c.toNat - '0'.toNat)) m := fun digits => by
    induction digits with
    | nil => exact Nat.le_refl
    | cons c digits ih =>
      exact fun m => Nat.le_trans (show m ≤ m * 10 + (c.toNat - '0'.toNat) by omega) (ih _)
  induction digits generalizing n with
  | nil =>
    rw [List.foldlM_nil, List.foldl_nil, fit?_eq_some, and_iff_right hn]
    simp
  | cons c digits ih =>
    rw [List.foldlM_cons, List.foldl_cons, List.forall_mem_cons]
    by_cases hc : c.isDigit = true
    · rw [appendDigit?_signed hc, and_iff_right hc]
      by_cases hnext : Fits (signed isNegative (n * 10 + (c.toNat - '0'.toNat)))
      · rw [fit?_eq_some.mpr ⟨hnext, rfl⟩]
        exact ih hnext
      · -- The number only grows with the digits that follow.
        have hall := fun h : Fits _ => hnext (h.of_le (hgrows digits _))
        rw [fit?, if_neg hnext, fit?, if_neg hall]
        exact iff_of_false nofun nofun
    · rw [appendDigit?, if_neg hc]
      exact iff_of_false nofun fun h => hc h.1.1

/-- Digits have the number that they denote, if it fits. -/
theorem fittingDigits?_eq_some {isNegative : Bool} : fittingDigits? isNegative digits = some number ↔
    (IsNumeral digits ∧ number = signed isNegative (decimal digits)) ∧ Fits number := by
  unfold fittingDigits?
  split
  · next h => exact iff_of_false nofun fun hnumeral => hnumeral.1.1.1 h
  · next h =>
    have hzero : signed isNegative 0 = 0 := by cases isNegative <;> rfl
    have hfits : Fits (signed isNegative 0) := by cases isNegative <;> decide
    rw [← hzero, foldlM_appendDigit? hfits, ← decimal_eq_foldl, fit?_eq_some]
    constructor
    · rintro ⟨hall, hnumber, rfl⟩
      exact ⟨⟨⟨h, hall⟩, rfl⟩, hnumber⟩
    · rintro ⟨⟨⟨-, hall⟩, rfl⟩, hnumber⟩
      exact ⟨hall, hnumber, rfl⟩

/-- A number that is read by steps that fit is the one that the text denotes, if that fits. -/
theorem fittingNumber?_eq_some :
    fittingNumber? numeral = some number ↔ Denotes numeral number ∧ Fits number := by
  unfold fittingNumber?
  split
  · rw [fittingDigits?_eq_some, denotes_minus]
    rfl
  · rw [fittingDigits?_eq_some, denotes_plus]
    rfl
  · next hminus hplus =>
    rw [fittingDigits?_eq_some, denotes_bare hminus hplus]
    rfl

/-- A span that is read by steps that fit is the one of its text. -/
theorem fittingSpan?_eq (core : List Char) :
    fittingSpan? core = (spanMs? core).map fun ms : Nat => (ms : Int) := by
  refine Option.ext fun z => ?_
  rw [Option.map_eq_some_iff]
  constructor
  · intro h
    obtain ⟨letter, hletter, h₁⟩ := Option.bind_eq_some_iff.mp h
    obtain ⟨number, hnumber, h₂⟩ := Option.bind_eq_some_iff.mp h₁
    obtain ⟨numeral, rfl⟩ := List.getLast?_eq_some_iff.mp hletter
    rw [List.dropLast_concat] at hnumber
    obtain ⟨hdenotes, hfits⟩ := fittingNumber?_eq_some.mp hnumber
    split at h₂
    · cases h₂
    next hnonneg =>
    obtain ⟨unit, hunit, h₃⟩ := Option.bind_eq_some_iff.mp h₂
    obtain ⟨hproduct, rfl⟩ := fit?_eq_some.mp h₃
    have hrange : InRange number unit := ⟨by omega, hfits.2, hproduct.2⟩
    obtain ⟨ms, hms⟩ := Int.eq_ofNat_of_zero_le
      (Int.mul_nonneg hrange.1 (Int.natCast_nonneg unit))
    exact ⟨ms, spanMs?_eq_some.mpr ⟨number, unit, ⟨numeral, letter, rfl, hdenotes,
      unitMs?_eq_some.mp hunit⟩, hrange, hms⟩, hms.symm⟩
  · rintro ⟨ms, hspan, rfl⟩
    obtain ⟨number, unit, ⟨numeral, letter, rfl, hdenotes, hunit⟩, hrange, hms⟩ :=
      spanMs?_eq_some.mp hspan
    obtain ⟨hnonneg, hgreatest, hproduct⟩ := hrange
    have hnumber : fittingNumber? numeral = some number :=
      fittingNumber?_eq_some.mpr ⟨hdenotes, by omega, hgreatest⟩
    unfold fittingSpan?
    rw [List.getLast?_concat, List.dropLast_concat, hnumber]
    simp only [Option.bind_eq_bind, Option.bind_some, unitMs?_eq_some.mpr hunit]
    rw [if_neg (by omega)]
    exact fit?_eq_some.mpr ⟨⟨by omega, hproduct⟩, hms⟩

/-- An instant before another one has its whole milliseconds and the same nanoseconds beyond
these. -/
theorem before_eq (now : Instant) (ms : Nat) :
    now.before ms = ⟨(now.ms - ms) * Instant.nsPerMs + now.ns % Instant.nsPerMs⟩ := by
  have hparts := Int.mul_ediv_add_emod now.ns Instant.nsPerMs
  unfold Instant.before Instant.ms Instant.nsPerMs at *
  congr 1
  omega

/-- Steps that fit come to the same instant, and to an error where there is none. -/
theorem since_eq_sinceFitting {now : Instant} (hnow : now.isRepresentable = true) (text : String) :
    since text now = sinceFitting text now := by
  have hlatest : now.ms ≤ Instant.maxMs := (Instant.isRepresentable_iff.mp hnow).2
  unfold since sinceFitting
  dsimp only
  rw [fittingSpan?_eq]
  rcases spanMs? (Text.strip Text.isBlank text.toList) with _ | ms
  · rfl
  simp only [Option.map_some, Option.bind_eq_bind, Option.bind_some, Instant.ms_before]
  by_cases hfits : Fits (now.ms - ms)
  · rw [fit?_eq_some.mpr ⟨hfits, rfl⟩, Option.bind_some]
    by_cases hcalendar : Instant.minMs ≤ now.ms - ms
    · rw [if_pos hcalendar, if_pos hcalendar, before_eq]
    · rw [if_neg hcalendar, if_neg hcalendar]
  · -- What is below all numbers of 64 bits is before the calendar.
    have hcalendar : ¬Instant.minMs ≤ now.ms - ms := by
      unfold Fits at hfits
      unfold Instant.maxMs at hlatest
      unfold Instant.minMs
      omega
    rw [if_neg hcalendar, fit?, if_neg hfits]
    rfl

/-! ## Every text -/

/-- The bytes of a text before those of its last character are those of the characters before it. -/
theorem toText?_take_of_getLast? {text : String} {letter : Char}
    (h : text.toList.getLast? = some letter) :
    letter.utf8Size ≤ (Bytes.ofText text).length ∧
      Bytes.toText? ((Bytes.ofText text).take ((Bytes.ofText text).length - letter.utf8Size)) =
        some (String.ofList text.toList.dropLast) := by
  obtain ⟨front, hfront⟩ := List.getLast?_eq_some_iff.mp h
  have hbytes : Bytes.ofText text = Bytes.ofText (String.ofList front) ++ Bytes.ofChars [letter] := by
    rw [Bytes.ofText_eq_ofChars, hfront, Bytes.ofChars_append, Bytes.ofText_ofList]
  have hlength : (Bytes.ofChars [letter]).length = letter.utf8Size := by
    rw [Bytes.ofChars_cons, Bytes.ofChars_nil, List.append_nil, String.length_utf8EncodeChar]
  rw [hbytes, List.length_append, hlength, Nat.add_sub_cancel, List.take_left, hfront,
    List.dropLast_concat]
  exact ⟨Nat.le_add_left .., Bytes.toText?_ofText _⟩

/-- A text has an instant exactly if, without the white space around it, it is a sign or none,
digits and the letter of a unit, the number is in range, the span of that many units is so too and
does not lead out of the calendar. The instant is the one that lies that span before, to the
nanosecond, which is not after the present one. Every other text is refused. Steps that must all fit
into 64 bits come to the same, and what is read as the number is a text, whatever the last character
is. -/
theorem since_exact {now : Instant} (hnow : now.isRepresentable = true) (text : String) :
    (∀ t, since text now = .ok t ↔
      ∃ core number unit, Text.Surrounded core text ∧ Spells core.toList number unit ∧
        (0 ≤ number ∧ number ≤ 9223372036854775807) ∧ number * unit ≤ 9223372036854775807 ∧
        (Instant.ofMs Instant.minMs).ns ≤ now.ns - number * unit * 1000000 ∧
        t = ⟨now.ns - number * unit * 1000000⟩) ∧
      (∀ t, since text now = .ok t → t.ns ≤ now.ns ∧ t.isRepresentable = true) ∧
      ((∀ t, since text now ≠ .ok t) → since text now = .error (.commandFailed
        s!"invalid duration '{Text.trim text}', use a format like 7d, 24h, or 30m")) ∧
      since text now = sinceFitting text now ∧
      ∀ letter, (Text.trim text).toList.getLast? = some letter →
        letter.utf8Size ≤ (Bytes.ofText (Text.trim text)).length ∧
          Bytes.toText? ((Bytes.ofText (Text.trim text)).take
            ((Bytes.ofText (Text.trim text)).length - letter.utf8Size)) =
              some (String.ofList (Text.trim text).toList.dropLast) := by
  refine ⟨fun t => ?_, fun t ht => ?_, since_of_none, since_eq_sinceFitting hnow text,
    fun letter => toText?_take_of_getLast?⟩
  · rw [since_eq_ok_iff]
    simp only [InRange, and_assoc]
  · obtain ⟨ms, -, hcalendar, rfl⟩ := since_eq_ok.mp ht
    have hnonneg : (0 : Int) ≤ ms := Int.natCast_nonneg ms
    have hpast : (now.before ms).ns ≤ now.ns :=
      Int.sub_le_self _ (Int.mul_nonneg hnonneg (by decide))
    have hlatest : (now.before ms).ms ≤ Instant.maxMs := by
      rw [Instant.ms_before]
      exact Int.le_trans (Int.sub_le_self _ hnonneg) (Instant.isRepresentable_iff.mp hnow).2
    exact ⟨hpast, Instant.isRepresentable_iff.mpr ⟨hcalendar, hlatest⟩⟩

/-- Half an hour may be written with a sign, a zero and white space around it, and what is left of a
millisecond stays. A text that ends in a letter of two bytes is refused. -/
theorem since_exact_minutes :
    (⟨1773144000000123456⟩ : Instant).isRepresentable = true ∧
      since " +030m\t" ⟨1773144000000123456⟩ = .ok ⟨1773142200000123456⟩ ∧
      since "7é" ⟨1773144000000123456⟩ = .error (.commandFailed
        "invalid duration '7é', use a format like 7d, 24h, or 30m") := by
  have hnow : (⟨1773144000000123456⟩ : Instant).isRepresentable = true := by decide
  have hspace : ∀ c ∈ " ".toList, Text.isBlank c = true := List.all_eq_true.mp (by decide)
  have htab : ∀ c ∈ "\t".toList, Text.isBlank c = true := List.all_eq_true.mp (by decide)
  have hdigits : IsNumeral ['0', '3', '0'] := ⟨by decide, List.all_eq_true.mp (by decide)⟩
  obtain ⟨haccepts, -⟩ := since_exact hnow " +030m\t"
  obtain ⟨-, -, hrefused, -⟩ := since_exact hnow "7é"
  refine ⟨hnow, (haccepts _).mpr ⟨"+030m", 30, 60000, ⟨" ", "\t", hspace, htab, by decide⟩,
    ⟨['+', '0', '3', '0'], 'm', by decide, .plus hdigits, .minute⟩, ?_⟩,
    hrefused fun t ht => nomatch ht⟩
  decide

end CredentialVault.Audit
