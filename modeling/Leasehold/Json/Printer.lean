import Leasehold.Json.Basic
import Leasehold.Number.Numeral
import Leasehold.Number.Shortest
import Leasehold.Text.Quoted

/-!
# Writing JSON

The written form is ASCII: a comma and a space between items, a colon and a space after a name,
and every character outside the printable ASCII ones escaped, those above U+FFFF as a surrogate
pair.

- **Strings** (`Json.escapeUnit`, `Json.quotedString`).
- **Numbers** (`Json.renderFloat`): the shortest decimal form, with words for NaN and infinity.
- **Values** (`Json.render`), as long as their whole numbers are not too long (`Json.isWritable`).
-/

namespace Leasehold.Json

/-- A sixteen-bit unit as an escape. -/
def escapeUnit (n : Nat) : List Char := '\\' :: 'u' :: Text.hexDigits 4 n

/-- A code point between quotes. -/
def escapePoint (p : CodePoint) : List Char :=
  match p with
  | .scalar '"' => ['\\', '"']
  | .scalar '\\' => ['\\', '\\']
  | .scalar '\n' => ['\\', 'n']
  | .scalar '\r' => ['\\', 'r']
  | .scalar '\t' => ['\\', 't']
  | .scalar '\x0c' => ['\\', 'f']
  | .scalar '\x08' => ['\\', 'b']
  | p =>
    let n := p.toNat
    if 0x20 ≤ n ∧ n < 0x7f then [Char.ofNat n]
    else if n < 0x10000 then escapeUnit n
    else escapeUnit (0xd800 + (n - 0x10000) / 0x400) ++ escapeUnit (0xdc00 + (n - 0x10000) % 0x400)

/-- A string with its quotes. -/
def quotedString (s : List CodePoint) : List Char := '"' :: (s.flatMap escapePoint ++ ['"'])

/-- The text of a floating-point number: as elsewhere, with the words of JSON's extension for what
is no number. -/
def renderFloat (x : Binary64) : List Char :=
  (x.render { Binary64.Layout.plain with nan := "NaN", infinity := "Infinity" }).toList

mutual

/-- The characters of a value. -/
def write : Json → List Char
  | null => "null".toList
  | bool b => if b then "true".toList else "false".toList
  | int n => (toString n).toList
  | float x => renderFloat x
  | string s => quotedString s
  | array items => '[' :: (writeItems items ++ [']'])
  | object members => '\x7b' :: (writeMembers members ++ ['\x7d'])

/-- The characters of the items of an array. -/
def writeItems : List Json → List Char
  | [] => []
  | [v] => write v
  | v :: rest => write v ++ (',' :: ' ' :: writeItems rest)

/-- The characters of the members of an object. -/
def writeMembers : List (List CodePoint × Json) → List Char
  | [] => []
  | [(n, v)] => quotedString n ++ (':' :: ' ' :: write v)
  | (n, v) :: rest => quotedString n ++ (':' :: ' ' :: (write v ++ (',' :: ' ' :: writeMembers rest)))

end

/-- The written form of a value. -/
def render (j : Json) : String := String.ofList j.write

mutual

/-- Whether no whole number in a value has too many digits. -/
def isWritable : Json → Bool
  | int n => Numeral.isWritable n
  | array items => areWritable items
  | object members => areMembersWritable members
  | _ => true

/-- Whether no whole number in the items of an array has too many digits. -/
def areWritable : List Json → Bool
  | [] => true
  | v :: rest => isWritable v && areWritable rest

/-- Whether no whole number in the members of an object has too many digits. -/
def areMembersWritable : List (List CodePoint × Json) → Bool
  | [] => true
  | (_, v) :: rest => isWritable v && areMembersWritable rest

end

end Leasehold.Json
