/-!
# Instants

An instant is a number of nanoseconds of Unix time. What is stored of it are its whole milliseconds,
rounded down. The instants of the calendar reach from year `-262143` to year `262142`. An instant is
shown by its civil time in UTC, in the proleptic Gregorian calendar.
-/

namespace CredentialVault

/-- A point in time. -/
structure Instant where
  /-- Nanoseconds of Unix time. -/
  ns : Int
deriving DecidableEq, Repr

namespace Instant

/-- The number of nanoseconds in a millisecond. -/
def nsPerMs : Int := 1000000

/-- The instant of a number of milliseconds of Unix time. -/
def ofMs (ms : Int) : Instant := ⟨ms * nsPerMs⟩

/-- The whole milliseconds of Unix time. -/
def ms (t : Instant) : Int := t.ns / nsPerMs

/-- The instant that lies a number of milliseconds before another one. -/
def before (t : Instant) (ms : Nat) : Instant := ⟨t.ns - ms * nsPerMs⟩

/-- The milliseconds of an instant are those of which it was made. -/
@[simp]
theorem ms_ofMs (ms : Int) : (ofMs ms).ms = ms :=
  Int.mul_ediv_cancel ms (by decide)

/-- An instant has at least some whole milliseconds if it is not before their instant. -/
theorem le_ms_iff {ms : Int} {t : Instant} : ms ≤ t.ms ↔ (ofMs ms).ns ≤ t.ns :=
  Int.le_ediv_iff_mul_le (by decide)

/-- An instant has as many milliseconds less as it lies before another one. -/
theorem ms_before (t : Instant) (ms : Nat) : (t.before ms).ms = t.ms - ms := by
  have hsame : t.ns - ms * nsPerMs = t.ns + -(ms : Int) * nsPerMs := by
    rw [Int.neg_mul, Int.sub_eq_add_neg]
  show (t.ns - ms * nsPerMs) / nsPerMs = t.ns / nsPerMs - ms
  rw [hsame, Int.add_mul_ediv_right _ _ (by decide), Int.sub_eq_add_neg]

/-- The earliest instant of the calendar, in milliseconds. -/
def minMs : Int := -8334601228800000

/-- The last millisecond of the calendar. -/
def maxMs : Int := 8210266876799999

/-- Whether the instant lies in the calendar. -/
def isRepresentable (t : Instant) : Bool :=
  minMs ≤ t.ms && t.ms ≤ maxMs

/-- An instant in the calendar is not before its start and not after its end. -/
theorem isRepresentable_iff {t : Instant} : t.isRepresentable = true ↔ minMs ≤ t.ms ∧ t.ms ≤ maxMs := by
  rw [isRepresentable, Bool.and_eq_true, decide_eq_true_eq, decide_eq_true_eq]

/-- The instant of a stored number of milliseconds; the start of Unix time for one outside of the
calendar. -/
def ofStored (ms : Int) : Instant :=
  if minMs ≤ ms ∧ ms ≤ maxMs then ofMs ms else ofMs 0

/-- A civil time. -/
structure Civil where
  /-- The year; the year before 1 is 0. -/
  year : Int
  /-- The month, from 1. -/
  month : Nat
  /-- The day of the month, from 1. -/
  day : Nat
  /-- The hour. -/
  hour : Nat
  /-- The minute. -/
  minute : Nat
  /-- The second. -/
  second : Nat
  /-- The nanosecond. -/
  nano : Nat

/-- The civil time of an instant. Days are counted in eras of 400 years that start on the first of
March, so that a leap day is the last of its year. -/
def civil (t : Instant) : Civil :=
  let seconds := t.ns.fdiv 1000000000
  let secondOfDay := (seconds.fmod 86400).toNat
  let days := seconds.fdiv 86400 + 719468
  let era := days.fdiv 146097
  let dayOfEra := (days.fmod 146097).toNat
  let yearOfEra := (dayOfEra - dayOfEra / 1460 + dayOfEra / 36524 - dayOfEra / 146096) / 365
  let dayOfYear := dayOfEra - (365 * yearOfEra + yearOfEra / 4 - yearOfEra / 100)
  let shifted := (5 * dayOfYear + 2) / 153
  let month := if shifted < 10 then shifted + 3 else shifted - 9
  { year := yearOfEra + era * 400 + (if month ≤ 2 then 1 else 0)
    month
    day := dayOfYear - (153 * shifted + 2) / 5 + 1
    hour := secondOfDay / 3600
    minute := secondOfDay / 60 % 60
    second := secondOfDay % 60
    nano := (t.ns.fmod 1000000000).toNat }

/-- A number in at least `width` digits. -/
def padded (width n : Nat) : String :=
  let digits := Nat.toDigits 10 n
  String.ofList (List.replicate (width - digits.length) '0' ++ digits)

/-- A year in at least four digits, with a sign before year 0 and after year 9999. -/
def yearText (year : Int) : String :=
  let digits := padded 4 year.natAbs
  if year < 0 then "-" ++ digits else if year > 9999 then "+" ++ digits else digits

namespace Civil

/-- The date. -/
def date (c : Civil) : String :=
  s!"{yearText c.year}-{padded 2 c.month}-{padded 2 c.day}"

/-- The time of day to the second. -/
def time (c : Civil) : String :=
  s!"{padded 2 c.hour}:{padded 2 c.minute}:{padded 2 c.second}"

end Civil

/-- The instant to the second, as a table shows it. -/
def display (t : Instant) : String :=
  t.civil.date ++ " " ++ t.civil.time

/-- The digits of a fraction of a second, of which there are none, three, six or nine. -/
def fractionText (nano : Nat) : String :=
  if nano = 0 then ""
  else if nano % 1000000 = 0 then "." ++ padded 3 (nano / 1000000)
  else if nano % 1000 = 0 then "." ++ padded 6 (nano / 1000)
  else "." ++ padded 9 nano

/-- The instant as diagnostics show it. -/
def debugText (t : Instant) : String :=
  let c := t.civil
  c.date ++ "T" ++ c.time ++ fractionText c.nano ++ "Z"

end Instant

end CredentialVault
