import Leasehold.Text.Base64
import Leasehold.Text.Letter
import Leasehold.Value
import Leasehold.Yaml.Node

/-!
# Documents

From a text to the value that it describes.

- **Scalars** (`Document.scalar`): a whole number may be written in base 2, 8, 10, 16 or 60, and
  another one in base 10 or 60; a date has to exist. A tag may promise what the text is not.
- **Mappings** (`Document.put`): of two entries with one key the last counts. What is merged into a
  mapping comes before its own entries. Sequences and mappings are no keys.
- **Reading** (`Document.parse`): an empty document is null.
-/

namespace Leasehold.Yaml.Document

/-! ## Scalars -/

/-- The value of a digit in a base of at most sixteen. -/
def digitIn? (base : Nat) (c : Char) : Option Nat := (Json.hexValue? c).filter (· < base)

/-- The number that digits of a base write. -/
def digits? (base : Nat) (ds : List Char) : Option Nat :=
  if ds.isEmpty then none
  else ds.foldl (fun n c => n.bind fun n => (digitIn? base c).map (n * base + ·)) (some 0)

/-- The letter behind a zero that marks a base. -/
def baseMark? : Nat → Option Char
  | 2 => some 'b'
  | 8 => some 'o'
  | 16 => some 'x'
  | _ => none

/-- Digits without the mark of their base, if one stands before them. -/
def unmarked (base : Nat) : List Char → List Char
  | '0' :: m :: ds => if baseMark? base == some m.toLower then ds else '0' :: m :: ds
  | ds => ds

/-- The number that a text writes in a base, or the fault of one that writes none. Blanks around it
and a sign may stand there. -/
def numberIn (base : Nat) (cs : List Char) : Read Int :=
  let (negative, ds) := Numeral.splitSign (Numeral.plain (String.ofList cs))
  match digits? base (unmarked base ds) with
  | none =>
    .error (.value ("invalid literal for int() with base " ++ toString base ++ ": " ++
      Text.quoted (String.ofList cs)))
  | some n =>
    if base == 10 && decide (Numeral.integerDigitLimit < ds.length) then
      .error (.value (Json.Fault.numberTooLong ds.length).text)
    else .ok (Numeral.signed negative n)

/-- A text without underscores. -/
def ungrouped (text : String) : List Char := text.toList.filter (· != '_')

/-- The number of which parts are the digits in base 60. -/
def inBaseSixty (parts : List Int) : Int := parts.foldl (fun n d => n * 60 + d) 0

/-- The fault of a text that ends where a digit is expected. -/
def cutShort : Fault := .mistagged .index "string index out of range"

/-- A whole number behind its sign. -/
def magnitude : List Char → Read Int
  | [] => .error cutShort
  | ['0'] => .ok 0
  | '0' :: 'b' :: ds => numberIn 2 ds
  | '0' :: 'x' :: ds => numberIn 16 ds
  | '0' :: ds => numberIn 8 ('0' :: ds)
  | ds =>
    if ds.contains ':' then do
      let parts ← (colonParts ds).mapM (numberIn 10)
      .ok (inBaseSixty parts)
    else numberIn 10 ds

/-- A whole number. -/
def int (text : String) : Read Int := do
  let cs := ungrouped text
  let n ← magnitude (unsigned cs)
  .ok (if cs.head? == some '-' then -n else n)

/-- The sum of two numbers, rounded. -/
def sum : Binary64 → Binary64 → Binary64
  | .infinite a, .infinite b => if a = b then .infinite a else .nan
  | .infinite a, .finite .. => .infinite a
  | .finite .., .infinite b => .infinite b
  | x, y =>
    match x.fraction?, y.fraction? with
    | some (a, b), some (c, d) => .ofFraction (a * d + c * b) (b * d)
    | _, _ => .nan

/-- The product of a number and a positive finite one, rounded. -/
def product : Binary64 → Binary64 → Binary64
  | .infinite a, _ => .infinite a
  | x, y =>
    match x.fraction?, y.fraction? with
    | some (a, b), some (c, d) => .ofFraction (a * c) (b * d)
    | _, _ => .nan

/-- The number of which parts, the last first, are the digits in base 60, where the last stands for
units of `base`; added up in that order. It is a fault if there are so many that a unit is too large. -/
def sexagesimal (total : Binary64) (base : Nat) : List Binary64 → Read Binary64
  | [] => .ok total
  | d :: ds =>
    let unit := Binary64.ofInt base
    if unit.isFinite then sexagesimal (sum total (product d unit)) (base * 60) ds
    else .error (.mistagged .overflow "int too large to convert to float")

/-- A decimal number, or the fault of a text that writes none. -/
def decimal (ds : List Char) : Read Binary64 :=
  match Numeral.readDecimal? (String.ofList ds) with
  | some x => .ok x
  | none =>
    .error (.value ("could not convert string to float: " ++ Text.quoted (String.ofList ds)))

/-- A number without its sign. -/
def unsignedFloat (ds : List Char) : Read Binary64 :=
  let word := String.ofList ds
  if word == ".inf" then .ok (.infinite false)
  else if word == ".nan" then .ok .nan
  else if ds.contains ':' then do
    let parts ← (colonParts ds).mapM decimal
    sexagesimal (.zero false) 1 parts.reverse
  else decimal ds

/-- A number. -/
def float (text : String) : Read Binary64 := do
  let cs := (Text.toSmall (String.ofList (ungrouped text))).toList
  if cs.isEmpty then .error cutShort
  let x ← unsignedFloat (unsigned cs)
  .ok (if cs.head? == some '-' then x.negated else x)

/-- Whether a year has 366 days. -/
def isLeap (year : Nat) : Bool := year % 4 == 0 && (year % 100 != 0 || year % 400 == 0)

/-- The number of days of a month. -/
def daysIn (year month : Nat) : Nat :=
  if month == 2 then (if isLeap year then 29 else 28)
  else if [4, 6, 9, 11].contains month then 30 else 31

/-- A stretch of minutes in days and seconds, as a message shows it. -/
def stretch (minutes : Int) : String :=
  let days := minutes / 1440
  let seconds := minutes % 1440 * 60
  "datetime.timedelta(days=" ++ toString days ++
    (if seconds = 0 then "" else ", seconds=" ++ toString seconds) ++ ")"

/-- What is wrong with a point in time, if it does not exist. The offset of its zone is less than a
day. -/
def impossible? (t : Timestamp) : Option String :=
  if t.offset ≤ -1440 ∨ 1440 ≤ t.offset then
    some ("offset must be a timedelta strictly between -timedelta(hours=24) and " ++
      "timedelta(hours=24), not " ++ stretch t.offset ++ ".")
  else if t.year = 0 then some "year 0 is out of range"
  else if t.month = 0 ∨ 12 < t.month then some "month must be in 1..12"
  else if t.day = 0 ∨ daysIn t.year t.month < t.day then some "day is out of range for month"
  else if 23 < t.hour then some "hour must be in 0..23"
  else if 59 < t.minute then some "minute must be in 0..59"
  else if 59 < t.second then some "second must be in 0..59"
  else none

/-- A date that exists. -/
def date (text : String) : Read Value :=
  match taggedTimestamp? text.toList with
  | none => .error (.mistagged .member "'NoneType' object has no attribute 'groupdict'")
  | some t =>
    match impossible? t with
    | some message => .error (.value message)
    | none => .ok (.date text)

/-- A truth value. -/
def bool (text : String) : Read Value :=
  let word := Text.toSmall text
  if trueWords.contains word then .ok (.bool true)
  else if falseWords.contains word then .ok (.bool false)
  else .error (.mistagged .key word)

/-- The value of a scalar. -/
def scalar (tag : Tag) (text : String) : Read Value :=
  match tag with
  | .null => .ok .null
  | .bool => bool text
  | .int => (int text).map .int
  | .float => (float text).map .float
  | .timestamp => date text
  | .str => .ok (.text text)
  | .binary =>
    match Base64.decode? text with
    | some b => .ok (.bytes b)
    | none => .error .malformed
  | _ => .error .malformed

/-! ## Collections -/

/-- The entries of a mapping. -/
abbrev Entries := List (Value × Value)

/-- Puts an entry into a mapping; a text that is a key already keeps its place. -/
def put (k v : Value) : Entries → Entries
  | [] => [(k, v)]
  | (l, w) :: rest =>
    match k, l with
    | .text s, .text t => if s = t then (l, v) :: rest else (l, w) :: put k v rest
    | _, _ => (l, w) :: put k v rest

/-- A mapping from entries in order. -/
def mappingOf (entries : Entries) : Entries := entries.foldl (fun m e => put e.1 e.2 m) []

/-- Whether a node is a mapping with one entry. -/
def isPair : Node → Bool
  | .mapping _ [_] => true
  | _ => false

/-- Whether a node is the key under which other mappings are merged into one. -/
def isMergeKey : Node → Bool
  | .scalar .merge _ => true
  | _ => false

/-- A sequence with a tag. -/
def sequenceOf (tag : Tag) (items : List Node) (values : List Value) : Read Value :=
  match tag with
  | .seq => .ok (.list values)
  | .pairs => if items.all isPair then .ok (.list values) else .error .malformed
  | .omap => if items.all isPair then .ok (.list values) else .error .malformed
  | _ => .error .malformed

/-- A mapping with a tag. -/
def taggedMapping (tag : Tag) (entries : Entries) : Read Value :=
  match tag with
  | .map => .ok (.mapping (mappingOf entries))
  | .set => .ok (.list ((mappingOf entries).map (·.1)))
  | _ => .error .malformed

mutual

/-- The value of a node. -/
def value : Node → Read Value
  | .scalar tag text => scalar tag text
  | .sequence tag items => do
    let vs ← values items
    sequenceOf tag items vs
  | .mapping tag entries => do
    let (merged, own) ← split entries
    taggedMapping tag (merged ++ own)
  | .loop isMapping => .ok (if isMapping then .mapping [] else .list [])

/-- The values of nodes. -/
def values : List Node → Read (List Value)
  | [] => .ok []
  | n :: rest => do
    let v ← value n
    let vs ← values rest
    .ok (v :: vs)

/-- The value of a node that is a key. The mark of a default value is a text there. -/
def key : Node → Read Value
  | .scalar .default text => .ok (.text text)
  | .scalar tag text => scalar tag text
  | _ => .error .malformed

/-- The entries of a mapping: those that are merged into it, and its own. -/
def split : List (Node × Node) → Read (Entries × Entries)
  | [] => .ok ([], [])
  | (k, v) :: rest =>
    if isMergeKey k then do
      let entries ← mergedFrom v
      let (merged, own) ← split rest
      .ok (entries ++ merged, own)
    else do
      let k ← key k
      let v ← value v
      let (merged, own) ← split rest
      .ok (merged, (k, v) :: own)

/-- The entries that a node gives to a mapping into which it is merged. In a sequence the entries of
a mapping count before those of the next. -/
def mergedFrom : Node → Read Entries
  | .mapping _ entries => do
    let (merged, own) ← split entries
    .ok (merged ++ own)
  | .sequence _ items => do
    let groups ← mappings items
    .ok groups.reverse.flatten
  | .loop true => .ok []
  | _ => .error .malformed

/-- The entries of nodes that are all mappings. -/
def mappings : List Node → Read (List Entries)
  | [] => .ok []
  | .mapping _ entries :: rest => do
    let (merged, own) ← split entries
    let groups ← mappings rest
    .ok ((merged ++ own) :: groups)
  | _ :: _ => .error .malformed

end

/-- The value that a document describes, for a reader that can go some levels deep. -/
def parse (reach : Nat) (s : String) : Read Value := do
  let tokens ← Token.scan s
  match ← Node.ofTokens reach tokens with
  | some n => value n
  | none => .ok .null

end Leasehold.Yaml.Document
