import Leasehold.Number.Numeral
import Leasehold.Settings.Issue
import Leasehold.Store.Command
import Leasehold.Value

/-!
# Reading single values

How a value of any kind becomes a text, a whole number, a number or a truth value. Numbers in
writing, truth values and whole floating-point numbers are accepted as numbers; byte strings count
as the text that they carry.

- **Readers** (`asText`, `asInt`, `asFloat`, `asBool`): the value, or the rule that it breaks.
- **Bounds** (`requiring`, `intBetween`, `positiveFloat`): rules for a number that was read.
-/

namespace Leasehold.Coercion

/-- The outcome of reading one value. -/
abbrev Read (α : Type) := Except Issue.Rule α

/-- White space of Unicode, without the separators U+001C to U+001F. -/
def isSpace (c : Char) : Bool :=
  Text.isBlank c && !(decide (0x1c ≤ c.toNat) && decide (c.toNat ≤ 0x1f))

/-- The characters of a text without white space at its ends. -/
def stripped (s : String) : List Char := Text.trimBy isSpace s.toList

/-- A text without its fraction, if that consists of zeros. -/
def withoutZeroFraction (cs : List Char) : List Char :=
  let (whole, fraction) := Numeral.splitAtFirst (· == '.') cs
  let zeros := fraction.drop 1
  if !zeros.isEmpty && zeros.all (· == '0') then whole else cs

/-- The whole number that a text writes; a fraction of zeros may follow it. -/
def intOfText (s : String) : Read Int :=
  match Numeral.integerParts? (withoutZeroFraction (stripped s)) with
  | none => .error .intParsing
  | some (negative, digits) =>
    if digits.length ≤ Numeral.integerDigitLimit then
      .ok (Numeral.signed negative (Numeral.ofDigits digits))
    else .error .intTooLong

/-- A text without its underscores, unless one stands at an end or beside another. -/
def withoutUnderscores (cs : List Char) : List Char :=
  let parts := cs.splitOn '_'
  if parts.any (·.isEmpty) then cs else parts.flatten

/-- The number that a text writes; single underscores inside it do not count. -/
def floatOfText (s : String) : Read Binary64 :=
  match Numeral.decimal? (withoutUnderscores (stripped s)) with
  | some x => .ok x
  | none => .error .floatParsing

/-- The truth value that a text names, in letters of any size. -/
def boolOfText (s : String) : Read Bool :=
  let word := String.ofList (s.toList.map Char.toLower)
  if ["1", "true", "t", "yes", "y", "on"].contains word then .ok true
  else if ["0", "false", "f", "no", "n", "off"].contains word then .ok false
  else .error .boolParsing

/-- Reads the text that a byte string carries, or breaks a rule if it carries none. -/
def ofBytes {α : Type} (b : Bytes) (rule : Issue.Rule) (read : String → Read α) : Read α :=
  match Utf8.decode b with
  | .ok s => read s
  | .error _ => .error rule

/-- Whether a floating-point number lies within the whole numbers of 64 bits. -/
def isMachineInt (n : Int) : Bool := decide (-9223372036854775808 < n) && decide (n < 9223372036854775808)

/-- The whole number that a floating-point number is. -/
def intOfFloat (x : Binary64) : Read Int :=
  if !x.isFinite then .error .finiteNumber
  else
    match x.toInt? with
    | none => .error .intFraction
    | some n => if isMachineInt n then .ok n else .error .intTooLong

/-- The truth value of zero or one. -/
def boolOfInt (n : Int) : Read Bool :=
  if n = 0 then .ok false else if n = 1 then .ok true else .error .boolParsing

/-- Reads a text. -/
def asText : Value → Read String
  | .text s => .ok s
  | .bytes b => ofBytes b .textEncoding .ok
  | _ => .error .textType

/-- Reads a whole number. -/
def asInt : Value → Read Int
  | .int n => .ok n
  | .bool b => .ok (if b then 1 else 0)
  | .float x => intOfFloat x
  | .text s => intOfText s
  | .bytes b => ofBytes b .intParsing intOfText
  | _ => .error .intType

/-- The floating-point number next to a whole number that is not out of reach. -/
def floatOfInt (n : Int) : Read Binary64 :=
  if (Binary64.ofInt n).isFinite then .ok (.ofInt n) else .error .floatType

/-- Reads a number. -/
def asFloat : Value → Read Binary64
  | .float x => .ok x
  | .int n => floatOfInt n
  | .bool b => .ok (.ofInt (if b then 1 else 0))
  | .text s => floatOfText s
  | .bytes b => ofBytes b .floatParsing floatOfText
  | _ => .error .floatType

/-- Reads a truth value. A number that is no whole number of 64 bits is none. -/
def asBool : Value → Read Bool
  | .bool b => .ok b
  | .int n => if Command.fits n then boolOfInt n else .error .boolType
  | .float x =>
    match intOfFloat x with
    | .ok n => boolOfInt n
    | .error _ => .error .boolType
  | .text s => boolOfText s
  | .bytes b => ofBytes b .boolParsing boolOfText
  | _ => .error .boolType

/-- Reads a value that may be absent. -/
def optional {α : Type} (read : Value → Read α) : Value → Read (Option α)
  | .null => .ok none
  | v => (read v).map some

/-- Checks a number that was read. -/
def requiring {α : Type} (holds : α → Bool) (rule : Issue.Rule) (read : Value → Read α) (v : Value) :
    Read α :=
  match read v with
  | .ok a => if holds a then .ok a else .error rule
  | .error e => .error e

/-- A whole number of at least a bound. -/
def intAtLeast (bound : Int) : Value → Read Int :=
  requiring (fun n => decide (bound ≤ n)) (.atLeast bound) asInt

/-- A whole number above a bound. -/
def intAbove (bound : Int) : Value → Read Int :=
  requiring (fun n => decide (bound < n)) (.greaterThan bound) asInt

/-- A whole number between two bounds, which it does not reach. -/
def intBetween (low high : Int) : Value → Read Int :=
  requiring (fun n => decide (n < high)) (.lessThan high) (intAbove low)

/-- A number above zero. -/
def positiveFloat : Value → Read Binary64 :=
  requiring Binary64.isPositive (.greaterThan 0) asFloat

/-- A number of at least zero. -/
def nonNegativeFloat : Value → Read Binary64 :=
  requiring Binary64.isNonNegative (.atLeast 0) asFloat

end Leasehold.Coercion
