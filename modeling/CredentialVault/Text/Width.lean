import CredentialVault.Text.Emoji
import CredentialVault.Text.Wide
import CredentialVault.Text.ZeroWidth

/-!
# Width of a text on a terminal

A terminal gives a wide character two columns, a character that combines with the one before it
none, and every other character one. Some characters share their columns with those right of them:
pictures that are joined into one, flags of two letters, letters of a ligature. So a line is
measured from its end: `measure` gives the columns of a character, and what it means for the one
before it, from what stands right of it. `columns` adds them up.
-/

namespace CredentialVault.Text

/-- Letters and signs that may join with the character before them. A letter that only joins across
a joiner says whether there is one before it. -/
inductive Shaping where
  /-- An alef, which joins with a lam. -/
  | alef
  /-- A Hebrew lamed. -/
  | lamed (joined : Bool)
  /-- A Khmer letter that can be written below another one. -/
  | khmerLetter
  /-- A Buginese ya. -/
  | ya (joined : Bool)
  /-- A Buginese vowel i after which a ya follows. -/
  | vowelYa
  /-- A Tifinagh consonant. -/
  | consonant (joined : Bool)
  /-- A Tifinagh consonant after its own kind of joiner. -/
  | joinerConsonant
  /-- The second of two Lisu signs of tone. -/
  | tone
  /-- The old Turkic letter i of the Orkhon script. -/
  | orkhonI (joined : Bool)
deriving DecidableEq, Repr

/-- What stands right of a character, as far as the width of the character depends on it. -/
inductive Follower where
  /-- Nothing that matters. -/
  | plain
  /-- A letter or sign that may join with the character before it. -/
  | shaping (shape : Shaping)
  /-- A picture. -/
  | picture
  /-- A modifier of the colour of skin. -/
  | modifier
  /-- One letter of a flag. -/
  | flagLetter
  /-- Several letters of flags. -/
  | flagLetters
  /-- A picture that is joined to the character before it. -/
  | joined
  /-- A keycap mark that is joined so. -/
  | joinedKeycap
  /-- One letter of a flag before such a picture. -/
  | joinedFlagLetter
  /-- An even number of letters of flags before such a picture. -/
  | joinedEven
  /-- An odd number of letters of flags, more than one, before such a picture. -/
  | joinedOdd
  /-- The end of a flag of a region, and the number of letters before it. -/
  | regionLetters (count : Nat)
  /-- The number of digits before the letters of the flag of a region. -/
  | regionDigits (count : Nat)
  /-- The Kirat Rai vowel e. -/
  | vowelE
  /-- The Kirat Rai vowel ai. -/
  | vowelAi
deriving DecidableEq, Repr

/-- A selector of the shape of the character before it. -/
inductive Selector where
  /-- As text. -/
  | text
  /-- As a picture. -/
  | picture
  /-- In full width. -/
  | full
deriving DecidableEq, Repr

/-- What stands right of a character, and the selector between them. -/
structure RightSide where
  /-- What follows. -/
  follower : Follower
  /-- The selector, if there is one. -/
  selector : Option Selector
deriving DecidableEq, Repr

namespace RightSide

/-- The right side of the last character. -/
def start : RightSide := ⟨.plain, none⟩

/-- A right side without a selector. -/
def ofFollower (follower : Follower) : RightSide := ⟨follower, none⟩

end RightSide

/-- Whether the code point is in an inclusive range. -/
def isBetween (first last : Nat) (c : Char) : Bool := first ≤ c.toNat && c.toNat ≤ last

/-- Whether the character is an Arabic alef, alone or with marks. -/
def isAlef (c : Char) : Bool :=
  [0x622, 0x623, 0x625, 0x627, 0x675, 0x773, 0x774].contains c.toNat ||
    isBetween 0x671 0x673 c || isBetween 0x870 0x882 c

/-- Whether the character is an Arabic lam, alone or with marks. -/
def isLam (c : Char) : Bool :=
  [0x644, 0x76a, 0x8a6, 0x8c7].contains c.toNat || isBetween 0x6b5 0x6b8 c

/-- Whether the character is a Khmer letter that can be written below another one. -/
def isKhmerLetter (c : Char) : Bool :=
  isBetween 0x1780 0x17af c &&
    !([0x1783, 0x1788, 0x178d, 0x1794, 0x1799, 0x179e, 0x179f, 0x17a1, 0x17a3, 0x17a4, 0x17a5,
      0x17a6, 0x17a8, 0x17a9, 0x17aa, 0x17ad, 0x17ae].contains c.toNat)

/-- Whether the character is a Tifinagh consonant. -/
def isTifinaghConsonant (c : Char) : Bool :=
  isBetween 0x2d31 0x2d65 c || c.toNat = 0x2d6f

/-- Whether the character stands between joining letters and does not keep them apart. -/
def isTransparent (c : Char) : Bool :=
  [0x34f, 0x17b4, 0x17b5, 0x180b, 0x180c, 0x180d, 0x180f].contains c.toNat ||
    isBetween 0xfe00 0xfe0f c || isBetween 0xe0100 0xe01ef c

/-- A letter or sign that may join with the character before it. -/
def shapingOf? (c : Char) : Option Shaping :=
  if isAlef c then some .alef
  else if isKhmerLetter c then some .khmerLetter
  else if isTifinaghConsonant c then some (.consonant false)
  else if isBetween 0xa4fc 0xa4fd c then some .tone
  else
    match c.toNat with
    | 0x5dc => some (.lamed false)
    | 0x1a10 => some (.ya false)
    | 0x10c03 => some (.orkhonI false)
    | _ => none

/-- The columns of a character that stands alone. -/
def charColumns (c : Char) : Nat :=
  if c.toNat ≤ 0xa0 then 1
  else if c.toNat = 0x17a4 then 2
  else if c.toNat = 0x17d8 then 3
  else if zeroWidth.contains c then 0
  else if wide.contains c then 2
  else 1

/-- What a character is for the one before it if nothing right of it matters. -/
def followerOf (c : Char) : Follower :=
  if isFlagLetter c then .flagLetter
  else if isSkinModifier c then .modifier
  else if c.toNat = 0x16d67 then .vowelE
  else if c.toNat = 0x16d68 then .vowelAi
  else if pictures.contains c then .picture
  else ((shapingOf? c).map Follower.shaping).getD .plain

/-- The columns of a character, and what it is for the one before it, if nothing right of it
matters. -/
def measureAlone (c : Char) : Int × RightSide :=
  match c.toNat with
  | 0xfe01 => (0, ⟨.plain, some .full⟩)
  | 0xfe0e => (0, ⟨.plain, some .text⟩)
  | 0xfe0f => (0, ⟨.plain, some .picture⟩)
  | _ => (charColumns c, .ofFollower (followerOf c))

/-- The shape after a joiner. -/
def Shaping.join : Shaping → Shaping
  | .lamed _ => .lamed true
  | .ya _ => .ya true
  | .consonant _ => .consonant true
  | .orkhonI _ => .orkhonI true
  | shape => shape

/-- The columns of a character before a letter or sign with which it joins. -/
def joinShape? (c : Char) (shape : Shaping) : Option (Int × Follower) :=
  match shape, c.toNat with
  | .alef, _ =>
    if isLam c then some (0, .plain)
    else if c.toNat = 0x1e94b || (zeroWidth.contains c && !unjoining.contains c) then
      some (0, .shaping .alef)
    else none
  | .lamed true, 0x5d0 => some (0, .plain)
  | .khmerLetter, 0x17d2 => some (-1, .plain)
  | .ya true, 0x1a17 => some (0, .shaping .vowelYa)
  | .vowelYa, 0x1a15 => some (0, .plain)
  | .consonant _, 0x2d7f => some (1, .shaping .joinerConsonant)
  | .consonant true, _ => if isTifinaghConsonant c then some (0, .plain) else none
  | .joinerConsonant, _ => if isTifinaghConsonant c then some (-1, .plain) else none
  | .tone, _ => if isBetween 0xa4f8 0xa4fb c then some (0, .plain) else none
  | .orkhonI true, 0x10c32 => some (0, .plain)
  | _, _ => none

/-- The columns of a character before a part of a joined picture or flag with which it goes
together. -/
def joinPicture? (c : Char) (next : Follower) : Option (Int × Follower) :=
  let joins : Option (Int × Follower) := if c.toNat = 0x200d then some (0, .joined) else none
  let isLetter := isBetween 0xe0061 0xe007a c
  let isDigit := isBetween 0xe0030 0xe0039 c
  let isFlag := c.toNat = 0x1f3f4
  match next with
  | .picture => joins
  | .modifier => if modifiable.contains c then some (0, .picture) else joins
  | .flagLetter => if isFlagLetter c then some (1, .flagLetters) else none
  | .flagLetters => if isFlagLetter c then some (1, .flagLetters) else joins
  | .joined =>
    if c.toNat = 0x20e3 then some (0, .joinedKeycap)
    else if isFlagLetter c then some (1, .joinedFlagLetter)
    else if isSkinModifier c then some (0, .modifier)
    else if c.toNat = 0xe007f then some (0, .regionLetters 0)
    else if pictures.contains c then some (0, .picture)
    else none
  | .joinedFlagLetter => if isFlagLetter c then some (-1, .joinedEven) else none
  | .joinedOdd => if isFlagLetter c then some (-1, .joinedEven) else joins
  | .joinedEven => if isFlagLetter c then some (3, .joinedOdd) else joins
  | .regionLetters count =>
    if isLetter && count < 6 then some (0, .regionLetters (count + 1))
    else if isDigit && count ≤ 4 then some (0, .regionDigits 1)
    else if isFlag && 3 ≤ count then some (0, .picture)
    else none
  | .regionDigits count =>
    if isDigit && count < 3 then some (0, .regionDigits (count + 1))
    else if isFlag && count = 3 then some (0, .picture)
    else none
  | _ => none

/-- The columns of a character before a follower with which it goes together. -/
def joinFollower? (c : Char) (next : Follower) : Option (Int × Follower) :=
  match next with
  | .shaping shape =>
    if shape = .alef then joinShape? c shape
    else if c.toNat = 0x200d then some (0, .shaping shape.join)
    else if isTransparent c then some (0, next)
    else joinShape? c shape
  | .vowelE =>
    match c.toNat with
    | 0x16d63 | 0x16d69 => some (0, .plain)
    | 0x16d67 => some (0, .vowelAi)
    | 0x16d68 => some (1, .vowelE)
    | _ => none
  | .vowelAi => if c.toNat = 0x16d63 then some (0, .plain) else none
  | _ => joinPicture? c next

/-- The right side of a selector that stands before a follower. A selector does not keep letters
apart, nor a mark of a picture from what it is joined to. -/
def selectBefore (next : Follower) (selector : Selector) : RightSide :=
  let isKept : Bool :=
    match next with
    | .shaping _ => selector ≠ .full
    | .joined | .joinedKeycap => selector = .picture
    | _ => false
  ⟨if isKept then next else .plain, some selector⟩

/-- The follower of a character that the selector between them does not apply to. -/
def unselected (next : Follower) : Follower :=
  match next with
  | .shaping _ => next
  | _ => .plain

/-- The columns of a character, and what it is for the one before it, from its follower. -/
def measureBefore (c : Char) (next : Follower) : Int × RightSide :=
  if c.toNat ≤ 0xa0 then (1, .start)
  else if next = .plain then measureAlone c
  else
    match c.toNat with
    | 0xfe01 => (0, selectBefore next .full)
    | 0xfe0e => (0, selectBefore next .text)
    | 0xfe0f => (0, selectBefore next .picture)
    | _ =>
      match joinFollower? c next with
      | some (count, follower) => (count, .ofFollower follower)
      | none => measureAlone c

/-- The columns of a character, and what it is for the one before it, from its right side. -/
def measure (c : Char) (right : RightSide) : Int × RightSide :=
  let rest := measureBefore c (unselected right.follower)
  match right.selector with
  | none => measureBefore c right.follower
  | some .picture =>
    let isJoined := right.follower = .joined || right.follower = .joinedKeycap
    if selectable.contains c then (if isJoined then 0 else 2, .ofFollower .picture) else rest
  | some .text =>
    if selectable.contains c && pictures.contains c && c.toNat ≠ 0x1f21a && c.toNat ≠ 0x1f22f then
      (1, .start)
    else rest
  | some .full =>
    if [0x2018, 0x2019, 0x201c, 0x201d].contains c.toNat then (2, .start) else rest

/-- The columns of the characters, and what they are for a character before them. -/
def measureAll (chars : List Char) : Int × RightSide :=
  chars.foldr (fun c (count, right) =>
    let (more, left) := measure c right
    (count + more, left)) (0, .start)

/-- The columns that a line of text takes. -/
def columns (line : String) : Nat :=
  (measureAll line.toList).1.toNat

end CredentialVault.Text
