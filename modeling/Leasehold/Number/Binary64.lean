/-!
# Floating-point numbers of 64 bits

A number is kept as what it is, a sign and `mantissa * 2 ^ exponent`, so that every operation here
is exact arithmetic on integers.

- **The numbers** (`Binary64`): finite ones have the exponent -1074, or a mantissa of 53 bits.
- **Rounding** (`ofRatio`, `ofDecimal`): the nearest number, a tie going to the even mantissa.
- **Order** (`isPositive`, `isNonNegative`): NaN is neither.
- **Whole numbers** (`toInt?`, `ofInt`) and **fractions** (`fraction?`, `ofFraction`).
-/

namespace Leasehold

/-- A binary floating-point number with 53 bits of precision. -/
inductive Binary64 where
  | nan
  | infinite (negative : Bool)
  | finite (negative : Bool) (mantissa : Nat) (exponent : Int)
deriving DecidableEq, Repr

namespace Binary64

/-- Zero, with its sign. -/
def zero (negative : Bool) : Binary64 := .finite negative 0 (-1074)

/-- `num / den` as a whole number, a half going to the even neighbour. -/
def roundHalfEven (num den : Nat) : Nat :=
  let q := num / den
  let r := num % den
  if 2 * r < den then q
  else if den < 2 * r then q + 1
  else if q % 2 == 0 then q else q + 1

/-- `n * base ^ e` as a fraction of natural numbers. -/
def scaled (base n : Nat) (e : Int) : Nat × Nat :=
  if 0 ≤ e then (n * base.pow e.toNat, 1) else (n, base.pow (-e).toNat)

/-- The number next to `num / den`, from the exponent that its mantissa is to have. -/
def roundAt (negative : Bool) (num den : Nat) (e : Int) : Binary64 :=
  let e := max e (-1074)
  let mantissa :=
    if 0 ≤ e then roundHalfEven num (den * Nat.pow 2 e.toNat)
    else roundHalfEven (num * Nat.pow 2 (-e).toNat) den
  let (mantissa, e) := if mantissa == Nat.pow 2 53 then (Nat.pow 2 52, e + 1) else (mantissa, e)
  if 971 < e then .infinite negative else .finite negative mantissa e

/-- The number next to the fraction `num / den`. -/
def ofRatio (negative : Bool) (num den : Nat) : Binary64 :=
  if num == 0 then zero negative
  else
    let e := (num.log2 : Int) - den.log2 - 52
    -- The quotient has 53 bits or 52; in the second case the exponent is one less.
    let (n, d) := scaled 2 num (-e)
    if n < Nat.pow 2 52 * (den * d) then roundAt negative num den (e - 1) else roundAt negative num den e

/-- The number of decimal digits of a positive number. -/
def decimalLength (n : Nat) : Nat := (Nat.toDigits 10 n).length

/-- The number next to `digits * 10 ^ exponent`. Far outside the range of the format nothing is
computed. -/
def ofDecimal (negative : Bool) (digits : Nat) (exponent : Int) : Binary64 :=
  if digits == 0 then zero negative
  else
    let size := exponent + decimalLength digits
    if 310 < size then .infinite negative
    else if size < -330 then zero negative
    else
      let (num, den) := scaled 10 digits exponent
      ofRatio negative num den

/-- The number next to a whole number. -/
def ofInt (n : Int) : Binary64 := ofRatio (decide (n < 0)) n.natAbs 1

/-- Greater than zero. -/
def isPositive : Binary64 → Bool
  | .nan => false
  | .infinite negative => !negative
  | .finite negative mantissa _ => !negative && mantissa != 0

/-- Zero of either sign. -/
def isZero : Binary64 → Bool
  | .finite _ mantissa _ => mantissa == 0
  | _ => false

/-- At least zero; negative zero is. -/
def isNonNegative (x : Binary64) : Bool := x.isPositive || x.isZero

/-- NaN and the infinities. -/
def isFinite : Binary64 → Bool
  | .finite .. => true
  | _ => false

/-- The whole number that it is, if it is one. -/
def toInt? : Binary64 → Option Int
  | .finite negative mantissa exponent =>
    let (num, den) := scaled 2 mantissa exponent
    if num % den == 0 then
      let n : Int := num / den
      some (if negative then -n else n)
    else none
  | _ => none

/-- A number as a fraction, if it is one. -/
def fraction? : Binary64 → Option (Int × Nat)
  | .finite negative mantissa exponent =>
    let (num, den) := scaled 2 mantissa exponent
    some (if negative then -(num : Int) else num, den)
  | _ => none

/-- The number next to a fraction. -/
def ofFraction (num : Int) (den : Nat) : Binary64 := ofRatio (decide (num < 0)) num.natAbs den

/-- The number with the other sign. -/
def negated : Binary64 → Binary64
  | .nan => .nan
  | .infinite negative => .infinite (!negative)
  | .finite negative mantissa exponent => .finite (!negative) mantissa exponent

end Binary64
end Leasehold
