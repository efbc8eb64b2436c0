import Leasehold.Number.Binary64
import Leasehold.Text.Digit

/-!
# Numbers in writing

- **Whole numbers** (`integer?`): a sign and digits; single underscores may stand between digits.
- **Decimal numbers** (`decimal?`): a sign, digits with a point, and an exponent; or the words for
  infinity and NaN in letters of any size.
- **Any script** (`readInteger?`, `readDecimal?`): the same after blanks at both ends are dropped
  and digits of other scripts are read as ASCII ones.
- **The limit** (`integerDigitLimit`): no longer whole number is read or written (`isWritable`).
-/

namespace Leasehold.Numeral

/-- An ASCII digit. -/
def isDigit (c : Char) : Bool := decide ('0' ≤ c) && decide (c ≤ '9')

/-- The value of an ASCII digit. -/
def digitOf (c : Char) : Nat := c.toNat - 0x30

/-- The number that ASCII digits write. -/
def ofDigits (cs : List Char) : Nat := cs.foldl (fun n c => n * 10 + digitOf c) 0

/-- A sign in front of a numeral, and what follows it. -/
def splitSign : List Char → Bool × List Char
  | '-' :: rest => (true, rest)
  | '+' :: rest => (false, rest)
  | cs => (false, cs)

/-- The digits of a text in which single underscores stand between digits, if that is all it
holds. An underscore may come next only after a digit. -/
def groupedDigits? (afterDigit : Bool) : List Char → Option (List Char)
  | [] => if afterDigit then some [] else none
  | '_' :: rest => if afterDigit then groupedDigits? false rest else none
  | c :: rest => if isDigit c then (groupedDigits? true rest).map (c :: ·) else none

/-- The longest whole number that is read or written, in digits. -/
def integerDigitLimit : Nat := 4300

/-- Whether a whole number is short enough to be written. -/
def isWritable (n : Int) : Bool := decide ((Nat.toDigits 10 n.natAbs).length ≤ integerDigitLimit)

/-- The sign and the digits of a whole number. -/
def integerParts? (cs : List Char) : Option (Bool × List Char) :=
  let (negative, rest) := splitSign cs
  (groupedDigits? false rest).map (negative, ·)

/-- A number with a sign. -/
def signed (negative : Bool) (n : Nat) : Int := if negative then -(n : Int) else n

/-- The whole number that a text of ASCII characters writes. -/
def integer? (cs : List Char) : Option Int :=
  (integerParts? cs).bind fun (negative, digits) =>
    if digits.length ≤ integerDigitLimit then some (signed negative (ofDigits digits)) else none

/-- The characters up to the first of a class, and the rest. -/
def splitAtFirst (p : Char → Bool) (cs : List Char) : List Char × List Char :=
  (cs.takeWhile (!p ·), cs.dropWhile (!p ·))

/-- Digits that may be absent. -/
def optionalDigits? (cs : List Char) : Option (List Char) :=
  if cs.isEmpty then some [] else groupedDigits? false cs

/-- The exponent behind its mark, if there is one. -/
def exponent? : List Char → Option Int
  | [] => some 0
  | _ :: rest =>
    (integerParts? rest).map fun (negative, digits) => signed negative (ofDigits digits)

/-- The decimal number that unsigned digits, a point and an exponent write. -/
def unsignedDecimal? (negative : Bool) (cs : List Char) : Option Binary64 := do
  let (number, power) := splitAtFirst (fun c => c == 'e' || c == 'E') cs
  let e ← exponent? power
  let (whole, point) := splitAtFirst (· == '.') number
  let whole' ← optionalDigits? whole
  let fraction ← optionalDigits? (point.drop 1)
  if whole'.isEmpty && fraction.isEmpty then none
  else some (.ofDecimal negative (ofDigits (whole' ++ fraction)) (e - fraction.length))

/-- The decimal number that a text of ASCII characters writes. -/
def decimal? (cs : List Char) : Option Binary64 :=
  let (negative, rest) := splitSign cs
  let word := String.ofList (rest.map Char.toLower)
  if word == "inf" || word == "infinity" then some (.infinite negative)
  else if word == "nan" then some .nan
  else unsignedDecimal? negative rest

/-- A text without the blanks around it, in ASCII digits. -/
def plain (s : String) : List Char := Text.trimBy Text.isAsciiBlank (Text.asciiDigits s.toList)

/-- The whole number that a text writes in the digits of any script. -/
def readInteger? (s : String) : Option Int := integer? (plain s)

/-- The decimal number that a text writes in the digits of any script. -/
def readDecimal? (s : String) : Option Binary64 := decimal? (plain s)

end Leasehold.Numeral
