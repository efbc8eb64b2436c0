import Leasehold.Text.Utf8

/-!
# Base 64

- **Digits** (`Base64.digit?`): letters, decimal digits, plus and slash, from 0 to 63.
- **Reading** (`Base64.decode?`): every four digits write three bytes; padding ends the text, and
  characters that are no digits do not count.
-/

namespace Leasehold.Base64

/-- The value of a digit. -/
def digit? (c : Char) : Option Nat :=
  let n := c.toNat
  if c.isUpper then some (n - 0x41)
  else if c.isLower then some (n - 0x61 + 26)
  else if c.isDigit then some (n - 0x30 + 52)
  else if c == '+' then some 62
  else if c == '/' then some 63
  else none

/-- Reads on in a group of four of which `filled` digits were read. The bits of `left` are left over
from them, and `pads` marks of padding came last. A group must not stay open at the end. -/
def decodeFrom (filled left pads : Nat) : List Char → Option Bytes
  | [] => if filled = 0 then some [] else none
  | c :: rest =>
    if c == '=' then
      if 2 ≤ filled && 4 ≤ filled + pads + 1 then some []
      else decodeFrom filled left (if 2 ≤ filled then pads + 1 else pads) rest
    else
      match digit? c with
      | none => decodeFrom filled left pads rest
      | some v =>
        match filled with
        | 0 => decodeFrom 1 v 0 rest
        | 1 => (decodeFrom 2 (v % 16) 0 rest).map (UInt8.ofNat (left * 4 + v / 16) :: ·)
        | 2 => (decodeFrom 3 (v % 4) 0 rest).map (UInt8.ofNat (left * 16 + v / 4) :: ·)
        | _ => (decodeFrom 0 0 0 rest).map (UInt8.ofNat (left * 64 + v) :: ·)

/-- The bytes that a text writes. -/
def decode? (s : String) : Option Bytes := decodeFrom 0 0 0 s.toList

end Leasehold.Base64
