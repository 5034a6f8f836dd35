/-!
# White space

The characters that count as white space are those with the Unicode property of that name.
`trim` removes them from both ends of a text.
-/

namespace CredentialVault.Text

/-- Whether the character is white space. -/
def isBlank (c : Char) : Bool :=
  let n := c.toNat
  (0x9 ≤ n && n ≤ 0xd) || n == 0x20 || n == 0x85 || n == 0xa0 || n == 0x1680 ||
    (0x2000 ≤ n && n ≤ 0x200a) || n == 0x2028 || n == 0x2029 || n == 0x202f || n == 0x205f ||
    n == 0x3000

/-- The list without the elements at its two ends that satisfy `p`. -/
def strip {α : Type} (p : α → Bool) (xs : List α) : List α :=
  ((xs.dropWhile p).reverse.dropWhile p).reverse

/-- The text without the white space at its ends. -/
def trim (text : String) : String :=
  String.ofList (strip isBlank text.toList)

end CredentialVault.Text
