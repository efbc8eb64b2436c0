import Leasehold.Text.Utf8

/-!
# Escapes by percent signs

- **Bytes** (`Percent.bytes`): a percent sign with two hexadecimal digits is a byte; any other
  percent sign stands for itself.
- **Text** (`Percent.decode`): each run of ASCII characters is read as bytes, which carry UTF-8; what
  carries none is replaced.
-/

namespace Leasehold.Percent

/-- The value of a hexadecimal digit. -/
def digit? (c : Char) : Option Nat :=
  let n := c.toNat
  if c.isDigit then some (n - 0x30)
  else if 'a' ≤ c ∧ c ≤ 'f' then some (n - 0x57)
  else if 'A' ≤ c ∧ c ≤ 'F' then some (n - 0x37)
  else none

/-- The bytes of a run of ASCII characters. -/
def bytes : List Char → Bytes
  | '%' :: a :: b :: rest =>
    match digit? a, digit? b with
    | some m, some n => UInt8.ofNat (m * 16 + n) :: bytes rest
    | _, _ => 0x25 :: bytes (a :: b :: rest)
  | c :: rest => UInt8.ofNat c.toNat :: bytes rest
  | [] => []

/-- The characters of a text behind a run of ASCII characters, the last of them first. -/
def decodeFrom (run : List Char) : List Char → List Char
  | [] => Utf8.decodeLossyFrom 0 (bytes run.reverse)
  | c :: rest =>
    if c.toNat < 0x80 then decodeFrom (c :: run) rest
    else Utf8.decodeLossyFrom 0 (bytes run.reverse) ++ c :: decodeFrom [] rest

/-- The text that a text with escapes stands for. -/
def decode (s : String) : String := String.ofList (decodeFrom [] s.toList)

end Leasehold.Percent
