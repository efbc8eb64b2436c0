/-!
# Blank characters

- **The class** (`isBlank`): every character that separates words, in any script, the four
  information separators of ASCII included.
- **Trimming** (`trim`): removal of blanks at both ends.
-/

namespace Leasehold.Text

/-- White space of Unicode, with the separators U+001C to U+001F. -/
def isBlank (c : Char) : Bool :=
  let n := c.toNat
  (decide (0x9 ≤ n) && decide (n ≤ 0xd)) || (decide (0x1c ≤ n) && decide (n ≤ 0x20)) ||
    n == 0x85 || n == 0xa0 || n == 0x1680 || (decide (0x2000 ≤ n) && decide (n ≤ 0x200a)) ||
    n == 0x2028 || n == 0x2029 || n == 0x202f || n == 0x205f || n == 0x3000

/-- The blanks that may stand around an ASCII number: space, tab, line feed, vertical tab, form
feed and carriage return. -/
def isAsciiBlank (c : Char) : Bool :=
  c == ' ' || (decide (0x9 ≤ c.toNat) && decide (c.toNat ≤ 0xd))

/-- What is left when the characters of a class are removed from both ends. -/
def trimBy (p : Char → Bool) (cs : List Char) : List Char :=
  ((cs.dropWhile p).reverse.dropWhile p).reverse

/-- The text without the blanks at its two ends. -/
def trim (s : String) : String := String.ofList (trimBy isBlank s.toList)

end Leasehold.Text
