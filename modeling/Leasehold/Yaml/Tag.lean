import Leasehold.Number.Numeral
import Leasehold.Yaml.Cursor

/-!
# Tags

What a node is. A plain scalar without a tag is what its text looks like.

- **Tags** (`Tag`), by their full names (`Tag.ofName`).
- **Forms** (`isInt`, `isFloat`, `trueWords`, `falseWords`, `nullWords`, `Timestamp`): the texts that
  look like a number, a truth value, nothing, or a date.
- **Resolution** (`Tag.ofPlain`).
-/

namespace Leasehold.Yaml

/-- What a node is. -/
inductive Tag where
  | null
  | bool
  | int
  | float
  | binary
  | timestamp
  | str
  | seq
  | map
  | set
  | pairs
  | omap
  /-- The key of a mapping that is merged into another. -/
  | merge
  /-- The key of the value that a mapping stands for. -/
  | default
  | unknown
deriving DecidableEq, Repr

/-- What all full names of known tags begin with. -/
def tagSpace : String := "tag:yaml.org,2002:"

/-- The known tags by their full names. -/
def knownTags : List (String × Tag) := [
  ("null", .null), ("bool", .bool), ("int", .int), ("float", .float), ("binary", .binary),
  ("timestamp", .timestamp), ("str", .str), ("seq", .seq), ("map", .map), ("set", .set),
  ("pairs", .pairs), ("omap", .omap), ("merge", .merge), ("value", .default)]

/-- The tag with a full name. -/
def Tag.ofName (name : String) : Tag :=
  match knownTags.find? fun e => tagSpace ++ e.1 == name with
  | some e => e.2
  | none => .unknown

/-! ## Forms -/

/-- The characters behind a sign, if there is one. -/
def unsigned : List Char → List Char
  | '+' :: cs => cs
  | '-' :: cs => cs
  | cs => cs

/-- A digit or an underscore. -/
def isGrouped (c : Char) : Bool := Numeral.isDigit c || c == '_'

/-- A character of a number in base 2, 8 or 16, in which underscores may stand. -/
def isBinary (c : Char) : Bool := c == '0' || c == '1' || c == '_'

/-- A character of a number in base 8. -/
def isOctal (c : Char) : Bool := (decide ('0' ≤ c) && decide (c ≤ '7')) || c == '_'

/-- A character of a number in base 16. -/
def isHexadecimal (c : Char) : Bool :=
  isGrouped c || (decide ('a' ≤ c) && decide (c ≤ 'f')) || (decide ('A' ≤ c) && decide (c ≤ 'F'))

/-- At least one character, all of a class. -/
def isRun (p : Char → Bool) (cs : List Char) : Bool := !cs.isEmpty && cs.all p

/-- A decimal digit, and further ones that may be grouped. -/
def isGroupedRun : List Char → Bool
  | c :: cs => Numeral.isDigit c && cs.all isGrouped
  | [] => false

/-- The texts between colons. -/
def colonParts (cs : List Char) : List (List Char) := cs.splitOn ':'

/-- A number below sixty in one or two digits. -/
def isSixtieth : List Char → Bool
  | [a] => Numeral.isDigit a
  | [a, b] => decide ('0' ≤ a) && decide (a ≤ '5') && Numeral.isDigit b
  | _ => false

/-- Whether parts write a number in base 60 of more than one digit. -/
def isSexagesimal (first : List Char → Bool) : List (List Char) → Bool
  | a :: b :: rest => first a && (b :: rest).all isSixtieth
  | _ => false

/-- A run of grouped digits that does not begin with zero. -/
def isPositiveRun (cs : List Char) : Bool := isGroupedRun cs && cs.head? != some '0'

/-- A whole number in base 2, 8, 10, 16 or 60. -/
def isInt (cs : List Char) : Bool :=
  match unsigned cs with
  | ['0'] => true
  | '0' :: 'b' :: ds => isRun isBinary ds
  | '0' :: 'x' :: ds => isRun isHexadecimal ds
  | '0' :: ds => isRun isOctal ds
  | ds => isPositiveRun ds || isSexagesimal isPositiveRun (colonParts ds)

/-- An exponent with its mark and its sign, or nothing. -/
def isExponent : List Char → Bool
  | [] => true
  | e :: sign :: ds =>
    (e == 'e' || e == 'E') && (sign == '+' || sign == '-') && isRun Numeral.isDigit ds
  | _ => false

/-- Grouped digits and an exponent. -/
def isFraction (cs : List Char) : Bool := isExponent (cs.dropWhile isGrouped)

/-- A number with a point, in base 10 or 60, or one of the words for infinity and NaN. -/
def isFloat (cs : List Char) : Bool :=
  let ds := unsigned cs
  let (whole, point) := Numeral.splitAtFirst (· == '.') ds
  let words := fun (ws : List String) => ws.any fun w => w.toList == point
  !point.isEmpty &&
    if whole.isEmpty then
      (isGroupedRun ((cs.drop 1).takeWhile isGrouped) && cs.head? == some '.' &&
          isFraction (cs.drop 1)) ||
        words [".inf", ".Inf", ".INF"] || (cs == point && words [".nan", ".NaN", ".NAN"])
    else
      (isGroupedRun whole && isFraction (point.drop 1)) ||
        (isSexagesimal isGroupedRun (colonParts whole) && (point.drop 1).all isGrouped)

/-- The words for truth values. -/
def trueWords : List String := ["yes", "Yes", "YES", "true", "True", "TRUE", "on", "On", "ON"]

/-- The words for falsity. -/
def falseWords : List String := ["no", "No", "NO", "false", "False", "FALSE", "off", "Off", "OFF"]

/-- The words for nothing; the empty text is one. -/
def nullWords : List String := ["", "~", "null", "Null", "NULL"]

/-! ## Dates -/

/-- A date, and the point in time of it that is written, with the offset of its zone in minutes. -/
structure Timestamp where
  year : Nat
  month : Nat
  day : Nat
  hour : Nat := 0
  minute : Nat := 0
  second : Nat := 0
  offset : Int := 0

/-- A number of at least `least` and at most `most` digits in front, and what follows it. -/
def digitsIn (least most : Nat) (cs : List Char) : Option (Nat × List Char) :=
  let ds := (cs.take most).takeWhile Numeral.isDigit
  if ds.length < least then none else some (Numeral.ofDigits ds, cs.drop ds.length)

/-- The text behind a given character. -/
def behind (c : Char) : List Char → Option (List Char)
  | d :: cs => if d == c then some cs else none
  | [] => none

/-- The offset of a zone in minutes: nothing, a letter, or hours and minutes with a sign. -/
def zone? (cs : List Char) : Option Int :=
  match cs.dropWhile isBlank with
  | [] => if cs.isEmpty then some 0 else none
  | ['Z'] => some 0
  | sign :: ds =>
    if sign == '+' || sign == '-' then
      match digitsIn 1 2 ds with
      | some (hours, []) => some (Numeral.signed (sign == '-') (hours * 60))
      | some (hours, ':' :: rest) =>
        match digitsIn 2 2 rest with
        | some (minutes, []) => some (Numeral.signed (sign == '-') (hours * 60 + minutes))
        | _ => none
      | _ => none
    else none

/-- A date of four digits, and at least `least` and at most two for the month and the day, and nothing
else. -/
def dateOnly? (least : Nat) (cs : List Char) : Option Timestamp := do
  let (year, cs) ← digitsIn 4 4 cs
  let (month, cs) ← digitsIn least 2 (← behind '-' cs)
  let (day, cs) ← digitsIn least 2 (← behind '-' cs)
  if cs.isEmpty then some { year, month, day } else none

/-- The time behind a date: what separates them, hours, minutes, seconds, a fraction and a zone. -/
def timeOf? (cs : List Char) : Option (Nat × Nat × Nat × Int) := do
  let cs ← match cs with
    | 'T' :: cs => some cs
    | 't' :: cs => some cs
    | c :: _ => if isBlank c then some (cs.dropWhile isBlank) else none
    | [] => none
  let (hour, cs) ← digitsIn 1 2 cs
  let (minute, cs) ← digitsIn 2 2 (← behind ':' cs)
  let (second, cs) ← digitsIn 2 2 (← behind ':' cs)
  let cs := match cs with
    | '.' :: cs => cs.dropWhile Numeral.isDigit
    | cs => cs
  let offset ← zone? cs
  some (hour, minute, second, offset)

/-- A date with a time. -/
def dateTime? (cs : List Char) : Option Timestamp := do
  let (year, cs) ← digitsIn 4 4 cs
  let (month, cs) ← digitsIn 1 2 (← behind '-' cs)
  let (day, cs) ← digitsIn 1 2 (← behind '-' cs)
  let (hour, minute, second, offset) ← timeOf? cs
  some ⟨year, month, day, hour, minute, second, offset⟩

/-- The point in time that a text looks like without a tag. -/
def timestamp? (cs : List Char) : Option Timestamp := dateOnly? 2 cs <|> dateTime? cs

/-- The point in time that a text with a tag writes. The end of a line may follow. -/
def taggedTimestamp? (cs : List Char) : Option Timestamp :=
  let cs := if cs.getLast? == some '\n' then cs.dropLast else cs
  dateOnly? 1 cs <|> dateTime? cs

/-! ## Resolution -/

/-- What a plain scalar is. -/
def Tag.ofPlain (text : String) : Tag :=
  let cs := text.toList
  if trueWords.contains text || falseWords.contains text then .bool
  else if isFloat cs then .float
  else if isInt cs then .int
  else if text == "<<" then .merge
  else if nullWords.contains text then .null
  else if (timestamp? cs).isSome then .timestamp
  else if text == "=" then .default
  else .str

end Leasehold.Yaml
