import Leasehold.Number.Binary64

/-!
# The shortest decimal form of a number

- **The interval** (`roundsTo`): the decimals that read back as the number; its ends belong to it
  when the mantissa is even.
- **The digits** (`digits`): the fewest digits of a decimal in that interval, and of those the
  nearest to the number.
- **The layout** (`Layout`): a record of what a format decides, from digits to text.
-/

namespace Leasehold.Binary64

/-- Compares `a * 10 ^ s` with `b * 2 ^ e`. -/
def compareScaled (a : Nat) (s : Int) (b : Nat) (e : Int) : Ordering :=
  let (an, ad) := scaled 10 a s
  let (bn, bd) := scaled 2 b e
  compare (an * bd) (bn * ad)

/-- Whether `d * 10 ^ s` reads back as `mantissa * 2 ^ exponent`. In quarters of the last place the
interval reaches from `4 * mantissa - 2` to `4 * mantissa + 2`, or from one quarter below where the
next smaller numbers are twice as dense. -/
def roundsTo (mantissa : Nat) (exponent : Int) (d : Nat) (s : Int) : Bool :=
  let low :=
    if mantissa == Nat.pow 2 52 && exponent != -1074 then 4 * mantissa - 1 else 4 * mantissa - 2
  let high := 4 * mantissa + 2
  let above := compareScaled d s low (exponent - 2)
  let below := compareScaled d s high (exponent - 2)
  if mantissa % 2 == 0 then above != .lt && below != .gt else above == .gt && below == .lt

/-- The greatest `k` with `10 ^ k ≤ mantissa * 2 ^ exponent`, found from an estimate that is at
most a few too small. -/
def decimalExponent (mantissa : Nat) (exponent : Int) : Int :=
  let bits : Int := mantissa.log2 + exponent
  let start := (bits * 30103).fdiv 100000 - 1
  let step := fun (k : Int) =>
    if compareScaled 1 (k + 1) mantissa exponent == .gt then k else k + 1
  step (step (step (step start)))

/-- The nearer of two neighbours on a decimal grid; a tie goes to the even one. -/
def nearer (mantissa : Nat) (exponent : Int) (d : Nat) (s : Int) : Nat :=
  match compareScaled (2 * d + 1) s (2 * mantissa) exponent with
  | .lt => d + 1
  | .gt => d
  | .eq => if d % 2 == 0 then d else d + 1

/-- The decimal of `count` digits that reads back, if there is one, as digits and exponent. -/
def digitsAt (m : Nat) (exponent k : Int) (count : Nat) : Option (Nat × Int) :=
  let s := k - (count : Int) + 1
  let (vn, vd) := scaled 2 m exponent
  let (gn, gd) := scaled 10 1 s
  let d := vn * gd / (vd * gn)
  let lower := roundsTo m exponent d s
  let upper := roundsTo m exponent (d + 1) s
  if lower && upper then some (nearer m exponent d s, s)
  else if lower then some (d, s)
  else if upper then some (d + 1, s)
  else none

/-- The shortest decimal that reads back as a positive number. Seventeen digits always do. -/
def digits (mantissa : Nat) (exponent : Int) : Nat × Int :=
  let k := decimalExponent mantissa exponent
  ((List.range 17).findSome? fun i => digitsAt mantissa exponent k (i + 1)).getD (mantissa, 0)

/-- What a format decides about the text of a number. -/
structure Layout where
  /-- The least position of the point, counted from the first digit, that is written out. -/
  leastPoint : Int
  /-- The greatest position of the point that is written out. -/
  greatestPoint : Int
  /-- The least number of digits of an exponent. -/
  exponentWidth : Nat
  /-- The texts of NaN and of infinity. -/
  nan : String
  infinity : String

/-- Points from the fourth place before the first digit to the sixteenth after it are written out;
an exponent has a sign and at least two digits. -/
def Layout.plain : Layout := ⟨-3, 16, 2, "nan", "inf"⟩

/-- As many zeros as asked for. -/
def zeros (n : Nat) : String := String.ofList (List.replicate n '0')

/-- The digits `ds` with the point after the first `point` of them. -/
def positional (ds : String) (point : Int) : String :=
  let size : Int := ds.length
  if point ≤ 0 then "0." ++ zeros (-point).toNat ++ ds
  else if size ≤ point then ds ++ zeros (point - size).toNat ++ ".0"
  else
    let cs := ds.toList
    String.ofList (cs.take point.toNat) ++ "." ++ String.ofList (cs.drop point.toNat)

/-- The digits `ds` with the point after the first of them, and an exponent. -/
def scientific (layout : Layout) (ds : String) (exponent : Int) : String :=
  let cs := ds.toList
  let fraction := if cs.length ≤ 1 then "" else "." ++ String.ofList (cs.drop 1)
  let power := toString exponent.natAbs
  String.ofList (cs.take 1) ++ fraction ++ (if exponent < 0 then "e-" else "e+") ++
    zeros (layout.exponentWidth - power.length) ++ power

/-- Digits without the zeros at their end. -/
def significant (n : Nat) : String :=
  String.ofList (((Nat.toDigits 10 n).reverse.dropWhile (· == '0')).reverse)

/-- The text of a number in a layout. -/
def render (layout : Layout) : Binary64 → String
  | .nan => layout.nan
  | .infinite negative => (if negative then "-" else "") ++ layout.infinity
  | .finite negative mantissa exponent =>
    let sign := if negative then "-" else ""
    if mantissa == 0 then sign ++ "0.0"
    else
      let (d, s) := digits mantissa exponent
      let point := s + decimalLength d
      let ds := significant d
      sign ++ (if layout.leastPoint ≤ point ∧ point ≤ layout.greatestPoint then positional ds point
        else scientific layout ds (point - 1))

/-- The text of a number: its shortest decimal form. -/
def text (x : Binary64) : String := x.render .plain

end Leasehold.Binary64
