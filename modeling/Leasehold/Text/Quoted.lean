import Leasehold.Text.Unprintable

/-!
# Quoted text

How messages show a piece of text so that its ends and its invisible characters can be seen.

- **The quote** (`quoteOf`): single, unless the text holds a single quote and no double one.
- **Escapes** (`escape`): a backslash before a backslash or the quote in use, the letters `t`, `n`
  and `r` for tab, line feed and carriage return, and a number of two, four or eight hexadecimal
  digits for every other unprintable character.
- **Lists** (`quotedList`): quoted texts between brackets, separated by a comma and a space.
-/

namespace Leasehold.Text

/-- One hexadecimal digit, in small letters. -/
def hexDigit (n : Nat) : Char :=
  if n < 10 then Char.ofNat (0x30 + n) else Char.ofNat (0x57 + n)

/-- The last `width` hexadecimal digits of a number. -/
def hexDigits : Nat → Nat → List Char
  | 0, _ => []
  | width + 1, n => hexDigits width (n / 16) ++ [hexDigit (n % 16)]

/-- Double quotes are used only for a text that holds a single quote and no double one. -/
def quoteOf (cs : List Char) : Char :=
  if cs.contains '\'' && !cs.contains '"' then '"' else '\''

/-- One character inside quotes. -/
def escape (quote c : Char) : List Char :=
  if c == '\\' || c == quote then ['\\', c]
  else if c == '\t' then ['\\', 't']
  else if c == '\n' then ['\\', 'n']
  else if c == '\r' then ['\\', 'r']
  else if isPrintable c then [c]
  else if c.toNat < 0x100 then '\\' :: 'x' :: hexDigits 2 c.toNat
  else if c.toNat < 0x10000 then '\\' :: 'u' :: hexDigits 4 c.toNat
  else '\\' :: 'U' :: hexDigits 8 c.toNat

/-- A text between quotes. -/
def quoted (s : String) : String :=
  let quote := quoteOf s.toList
  String.ofList (quote :: (s.toList.flatMap (escape quote) ++ [quote]))

/-- A list of texts, each between quotes. -/
def quotedList (ss : List String) : String :=
  "[" ++ String.intercalate ", " (ss.map quoted) ++ "]"

end Leasehold.Text
