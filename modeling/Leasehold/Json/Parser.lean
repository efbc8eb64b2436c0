import Leasehold.Json.Basic
import Leasehold.Number.Numeral

/-!
# Reading JSON

A reader that says what it expected and where. Blanks may stand around every value; the words for
NaN and infinity are accepted; the last of several members of one name counts.

- **Faults** (`Json.Fault`, `Json.ReadError`): what is wrong and at which character.
- **Numbers** (`Json.readNumber`), **strings** (`Json.readString`), **values** (`Json.readValue`).
- **Documents** (`Json.parse`): one value and nothing after it but blanks.
-/

namespace Leasehold.Json

/-- What a reader of JSON objects to. -/
inductive Fault where
  | expectingValue
  | expectingComma
  | expectingColon
  | expectingName
  | extraData
  | byteOrderMark
  | unterminatedString
  | controlCharacter
  | invalidEscape
  | invalidUnicodeEscape
  /-- A whole number of too many digits. -/
  | numberTooLong (digits : Nat)
deriving DecidableEq, Repr

/-- The words for a fault. -/
def Fault.text : Fault → String
  | .expectingValue => "Expecting value"
  | .expectingComma => "Expecting ',' delimiter"
  | .expectingColon => "Expecting ':' delimiter"
  | .expectingName => "Expecting property name enclosed in double quotes"
  | .extraData => "Extra data"
  | .byteOrderMark => "Unexpected UTF-8 BOM (decode using utf-8-sig)"
  | .unterminatedString => "Unterminated string starting at"
  | .controlCharacter => "Invalid control character at"
  | .invalidEscape => "Invalid \\escape"
  | .invalidUnicodeEscape => "Invalid \\uXXXX escape"
  | .numberTooLong digits =>
    "Exceeds the limit (4300 digits) for integer string conversion: value has " ++
      toString digits ++ " digits; use sys.set_int_max_str_digits() to increase the limit"

/-- A fault and the number of characters before it. -/
structure ReadError where
  fault : Fault
  position : Nat
deriving DecidableEq, Repr

/-- A place in a text: how many characters were read, and those to come. -/
structure Cursor where
  position : Nat
  rest : List Char

namespace Cursor

/-- The place behind `n` further characters. -/
def skip (n : Nat) (k : Cursor) : Cursor := ⟨k.position + n, k.rest.drop n⟩

/-- White space of JSON. -/
def isSpace (c : Char) : Bool := c == ' ' || c == '\t' || c == '\n' || c == '\r'

/-- The next place that holds no white space. -/
def skipSpaces (k : Cursor) : Cursor := k.skip (k.rest.takeWhile isSpace).length

/-- A fault here. -/
def fail {α : Type} (k : Cursor) (fault : Fault) : Except ReadError α := .error ⟨fault, k.position⟩

end Cursor

/-- The value of a hexadecimal digit. -/
def hexValue? (c : Char) : Option Nat :=
  if '0' ≤ c ∧ c ≤ '9' then some (c.toNat - 0x30)
  else if 'a' ≤ c ∧ c ≤ 'f' then some (c.toNat - 0x57)
  else if 'A' ≤ c ∧ c ≤ 'F' then some (c.toNat - 0x37)
  else none

/-- The number that four hexadecimal digits in front write. -/
def unit? : List Char → Option Nat
  | a :: b :: c :: d :: _ => do
    let a ← hexValue? a
    let b ← hexValue? b
    let c ← hexValue? c
    let d ← hexValue? d
    some (((a * 16 + b) * 16 + c) * 16 + d)
  | _ => none

/-- The code point of an escape of one letter. -/
def letterEscape? : Char → Option Char
  | '"' => some '"'
  | '\\' => some '\\'
  | '/' => some '/'
  | 'b' => some '\x08'
  | 'f' => some '\x0c'
  | 'n' => some '\n'
  | 'r' => some '\r'
  | 't' => some '\t'
  | _ => none

/-- Reads what follows a backslash and the letter `u`: the code point and the number of characters
after the letter. A high surrogate takes a low one that follows it; a text must not end right
behind the digits. -/
def unicodeEscape (k : Cursor) : Except ReadError (CodePoint × Nat) :=
  if (k.rest.drop 4).isEmpty then .error ⟨.invalidUnicodeEscape, k.position - 1⟩
  else
    match unit? k.rest with
    | none => .error ⟨.invalidUnicodeEscape, k.position - 1⟩
    | some n =>
      match k.rest.drop 4 with
      | '\\' :: 'u' :: tail =>
        if 0xd800 ≤ n ∧ n < 0xdc00 ∧ !(tail.drop 4).isEmpty then
          match unit? tail with
          | none => .error ⟨.invalidUnicodeEscape, k.position + 5⟩
          | some m =>
            if 0xdc00 ≤ m ∧ m < 0xe000 then
              .ok (.ofNat (0x10000 + (n - 0xd800) * 0x400 + (m - 0xdc00)), 10)
            else .ok (.ofNat n, 4)
        else .ok (.ofNat n, 4)
      | _ => .ok (.ofNat n, 4)

/-- Reads a string whose opening quote stands at `start`, up to the place behind its closing quote.
The first `skip` characters belong to an escape that was read. -/
def readString (start skip position : Nat) : List Char → Except ReadError (List CodePoint × Cursor)
  | [] => .error ⟨.unterminatedString, start⟩
  | c :: rest =>
    match skip with
    | skip + 1 => readString start skip (position + 1) rest
    | 0 =>
      if c == '"' then .ok ([], ⟨position + 1, rest⟩)
      else if c == '\\' then
        match rest with
        | [] => .error ⟨.unterminatedString, start⟩
        | 'u' :: tail => do
          let (p, size) ← unicodeEscape ⟨position + 2, tail⟩
          let (ps, k) ← readString start (size + 1) (position + 1) rest
          .ok (p :: ps, k)
        | e :: _ =>
          match letterEscape? e with
          | none => .error ⟨.invalidEscape, position⟩
          | some c => do
            let (ps, k) ← readString start 1 (position + 1) rest
            .ok (.scalar c :: ps, k)
      else if c.toNat < 0x20 then .error ⟨.controlCharacter, position⟩
      else do
        let (ps, k) ← readString start 0 (position + 1) rest
        .ok (.scalar c :: ps, k)

/-- A minus sign in front, and what follows it. -/
def splitMinus : List Char → List Char × List Char
  | '-' :: rest => (['-'], rest)
  | cs => ([], cs)

/-- The whole part of an unsigned numeral in front: a zero, or digits that do not start with one. -/
def wholePart? (cs : List Char) : Option (List Char) :=
  match cs with
  | '0' :: _ => some ['0']
  | c :: _ => if Numeral.isDigit c then some (cs.takeWhile Numeral.isDigit) else none
  | [] => none

/-- The point in front with the digits behind it, if there are any. -/
def fractionPart : List Char → List Char
  | '.' :: c :: tail => if Numeral.isDigit c then '.' :: c :: tail.takeWhile Numeral.isDigit else []
  | _ => []

/-- The sign of an exponent in front. -/
def exponentSign : List Char → List Char
  | '-' :: _ => ['-']
  | '+' :: _ => ['+']
  | _ => []

/-- The mark of an exponent in front with its sign and the digits behind it, if there are any. -/
def exponentPart : List Char → List Char
  | e :: tail =>
    if e == 'e' || e == 'E' then
      let sign := exponentSign tail
      let digits := (tail.drop sign.length).takeWhile Numeral.isDigit
      if digits.isEmpty then [] else e :: (sign ++ digits)
    else []
  | [] => []

/-- The characters of a numeral in front: its whole part, its fraction and its exponent, the last
two with their marks and only if digits follow the mark. -/
def splitNumber (cs : List Char) : Option (List Char × List Char × List Char) := do
  let (sign, unsigned) := splitMinus cs
  let whole ← wholePart? unsigned
  let rest := unsigned.drop whole.length
  let fraction := fractionPart rest
  let exponent := exponentPart (rest.drop fraction.length)
  some (sign ++ whole, fraction, exponent)

/-- Reads a number. -/
def readNumber (k : Cursor) : Except ReadError (Json × Cursor) :=
  match splitNumber k.rest with
  | none => k.fail .expectingValue
  | some (whole, fraction, exponent) =>
    let next := k.skip (whole.length + fraction.length + exponent.length)
    if fraction.isEmpty && exponent.isEmpty then
      match Numeral.integer? whole with
      | some n => .ok (.int n, next)
      | none => k.fail (.numberTooLong (whole.filter Numeral.isDigit).length)
    else
      match Numeral.decimal? (whole ++ fraction ++ exponent) with
      | some x => .ok (.float x, next)
      | none => k.fail .expectingValue

/-- Reads one of the words of JSON, or else a number. -/
def readWord (k : Cursor) : Except ReadError (Json × Cursor) :=
  if "null".toList.isPrefixOf k.rest then .ok (.null, k.skip 4)
  else if "true".toList.isPrefixOf k.rest then .ok (.bool true, k.skip 4)
  else if "false".toList.isPrefixOf k.rest then .ok (.bool false, k.skip 5)
  else if "NaN".toList.isPrefixOf k.rest then .ok (.float .nan, k.skip 3)
  else if "Infinity".toList.isPrefixOf k.rest then .ok (.float (.infinite false), k.skip 8)
  else if "-Infinity".toList.isPrefixOf k.rest then .ok (.float (.infinite true), k.skip 9)
  else readNumber k

mutual

/-- Reads a value. Every call looks at a later character than the one before, or at the same after
an opening bracket, so twice the length of the text is fuel enough. -/
def readValue : Nat → Cursor → Except ReadError (Json × Cursor)
  | 0, k => k.fail .expectingValue
  | fuel + 1, k =>
    match k.rest with
    | '"' :: rest => do
      let (s, k) ← readString k.position 0 (k.position + 1) rest
      .ok (.string s, k)
    | '[' :: _ =>
      let k := (k.skip 1).skipSpaces
      match k.rest with
      | ']' :: _ => .ok (.array [], k.skip 1)
      | _ => do
        let (items, k) ← readItems fuel k
        .ok (.array items, k)
    | '\x7b' :: _ =>
      let k := (k.skip 1).skipSpaces
      match k.rest with
      | '\x7d' :: _ => .ok (.object [], k.skip 1)
      | _ => do
        let (members, k) ← readMembers fuel [] k
        .ok (.object members, k)
    | _ => readWord k

/-- Reads the items of an array, of which there is at least one, and its closing bracket. -/
def readItems : Nat → Cursor → Except ReadError (List Json × Cursor)
  | 0, k => k.fail .expectingValue
  | fuel + 1, k => do
    let (v, k) ← readValue fuel k
    let k := k.skipSpaces
    match k.rest with
    | ']' :: _ => .ok ([v], k.skip 1)
    | ',' :: _ => do
      let (items, k) ← readItems fuel (k.skip 1).skipSpaces
      .ok (v :: items, k)
    | _ => k.fail .expectingComma

/-- Reads the members of an object behind those in `members`, at least one, and its closing
brace. -/
def readMembers : Nat → List (List CodePoint × Json) → Cursor →
    Except ReadError (List (List CodePoint × Json) × Cursor)
  | 0, _, k => k.fail .expectingName
  | fuel + 1, members, k =>
    match k.rest with
    | '"' :: rest => do
      let (name, k) ← readString k.position 0 (k.position + 1) rest
      let k := k.skipSpaces
      match k.rest with
      | ':' :: _ => do
        let (v, k) ← readValue fuel (k.skip 1).skipSpaces
        let members := setMember name v members
        let k := k.skipSpaces
        match k.rest with
        | '\x7d' :: _ => .ok (members, k.skip 1)
        | ',' :: _ => readMembers fuel members (k.skip 1).skipSpaces
        | _ => k.fail .expectingComma
      | _ => k.fail .expectingColon
    | _ => k.fail .expectingName

end

/-- Reads a document: one value with blanks around it. -/
def parse (s : String) : Except ReadError Json :=
  let cs := s.toList
  if cs.head? == some (Char.ofNat 0xfeff) then .error ⟨.byteOrderMark, 0⟩
  else do
    let (v, k) ← readValue (2 * cs.length + 2) (Cursor.skipSpaces ⟨0, cs⟩)
    let k := k.skipSpaces
    if k.rest.isEmpty then .ok v else k.fail .extraData

/-- The line and the column of a character, both counted from one. -/
def lineColumn (s : String) (position : Nat) : Nat × Nat :=
  let before := s.toList.take position
  (before.count '\n' + 1, (before.reverse.takeWhile (· != '\n')).length + 1)

/-- The message for a text that is no JSON document. -/
def ReadError.text (e : ReadError) (s : String) : String :=
  let (line, column) := lineColumn s e.position
  e.fault.text ++ s!": line {line} column {column} (char {e.position})"

end Leasehold.Json
