import Leasehold.Text.Quoted

/-!
# UTF-8

Byte strings and the text that they carry.

- **Writing** (`Utf8.encode`): one to four bytes for each character.
- **Reading** (`Utf8.decode`): the text, or the first byte at fault, where it stands and why. A
  sequence is at fault as soon as one of its bytes cannot continue it, so overlong forms,
  surrogates and numbers above U+10FFFF are refused at their second byte.
- **Lenient reading** (`Utf8.decodeLossy`): a replacement character for each refused part.
-/

namespace Leasehold

/-- A string of bytes. -/
abbrev Bytes := List UInt8

namespace Utf8

/-- Why a byte string is no UTF-8 text. -/
inductive Fault where
  /-- A byte that starts no sequence. -/
  | invalidStart
  /-- A byte that cannot continue its sequence. -/
  | invalidContinuation
  /-- The bytes end inside a sequence. -/
  | unexpectedEnd
deriving DecidableEq, Repr

/-- The first fault of a byte string: the bytes from `first` to `last` (both counted from zero)
form no character. -/
structure DecodeError where
  byte : UInt8
  first : Nat
  last : Nat
  fault : Fault
deriving DecidableEq, Repr

/-- The words for a fault. -/
def Fault.text : Fault → String
  | .invalidStart => "invalid start byte"
  | .invalidContinuation => "invalid continuation byte"
  | .unexpectedEnd => "unexpected end of data"

/-- The message for a byte string that is no text. A part of several bytes is shown by its
range. -/
def DecodeError.text (e : DecodeError) : String :=
  if e.first == e.last then
    "'utf-8' codec can't decode byte 0x" ++ String.ofList (Text.hexDigits 2 e.byte.toNat) ++
      s!" in position {e.first}: " ++ e.fault.text
  else
    s!"'utf-8' codec can't decode bytes in position {e.first}-{e.last}: " ++ e.fault.text

/-- The bytes of one character. -/
def encodeChar (c : Char) : Bytes :=
  let n := c.toNat
  if n < 0x80 then [UInt8.ofNat n]
  else if n < 0x800 then [UInt8.ofNat (0xc0 + n / 0x40), UInt8.ofNat (0x80 + n % 0x40)]
  else if n < 0x10000 then
    [UInt8.ofNat (0xe0 + n / 0x1000), UInt8.ofNat (0x80 + n / 0x40 % 0x40),
      UInt8.ofNat (0x80 + n % 0x40)]
  else
    [UInt8.ofNat (0xf0 + n / 0x40000), UInt8.ofNat (0x80 + n / 0x1000 % 0x40),
      UInt8.ofNat (0x80 + n / 0x40 % 0x40), UInt8.ofNat (0x80 + n % 0x40)]

/-- The bytes of a text. -/
def encode (s : String) : Bytes := s.toList.flatMap encodeChar

/-- What the first byte announces: the number of bytes that follow, the number that it carries
itself, and the range of the second byte. -/
def lead? (b : UInt8) : Option (Nat × Nat × Nat × Nat) :=
  let n := b.toNat
  if n < 0x80 then some (0, n, 0, 0)
  else if n < 0xc2 then none
  else if n < 0xe0 then some (1, n - 0xc0, 0x80, 0xbf)
  else if n == 0xe0 then some (2, 0, 0xa0, 0xbf)
  else if n == 0xed then some (2, 0xd, 0x80, 0x9f)
  else if n < 0xf0 then some (2, n - 0xe0, 0x80, 0xbf)
  else if n == 0xf0 then some (3, 0, 0x90, 0xbf)
  else if n < 0xf4 then some (3, n - 0xf0, 0x80, 0xbf)
  else if n == 0xf4 then some (3, 4, 0x80, 0x8f)
  else none

/-- Reads the `count` bytes that continue a sequence whose next byte lies between `lo` and `hi`:
the number that the sequence carries, or the number of bytes read when the sequence broke off and
why. -/
def continuation : Nat → Nat → Nat → Nat → Bytes → Except (Nat × Fault) Nat
  | 0, _, _, acc, _ => .ok acc
  | _ + 1, _, _, _, [] => .error (0, .unexpectedEnd)
  | count + 1, lo, hi, acc, b :: rest =>
    if lo ≤ b.toNat ∧ b.toNat ≤ hi then
      match continuation count 0x80 0xbf (acc * 0x40 + (b.toNat - 0x80)) rest with
      | .ok n => .ok n
      | .error (read, fault) => .error (read + 1, fault)
    else .error (0, .invalidContinuation)

/-- One character from the front of a byte string and the number of its bytes, or the number of
bytes at fault and why. -/
def decodeChar (b : UInt8) (rest : Bytes) : Except (Nat × Fault) (Char × Nat) :=
  match lead? b with
  | none => .error (1, .invalidStart)
  | some (count, acc, lo, hi) =>
    match continuation count lo hi acc rest with
    | .ok n => .ok (Char.ofNat n, count + 1)
    | .error (read, fault) => .error (read + 1, fault)

/-- Reads the bytes from position `at`; the first `skip` of them belong to the character before. -/
def decodeFrom (skip position : Nat) : Bytes → Except DecodeError (List Char)
  | [] => .ok []
  | b :: rest =>
    match skip with
    | skip + 1 => decodeFrom skip (position + 1) rest
    | 0 =>
      match decodeChar b rest with
      | .error (count, fault) =>
        .error ⟨b, position, position + (count - 1), fault⟩
      | .ok (c, size) =>
        match decodeFrom (size - 1) (position + 1) rest with
        | .ok cs => .ok (c :: cs)
        | .error e => .error e

/-- The text that a byte string carries, or its first fault. -/
def decode (bytes : Bytes) : Except DecodeError String :=
  (decodeFrom 0 0 bytes).map String.ofList

/-- The characters of a byte string, with U+FFFD for every part that carries none; the first `skip`
bytes belong to what was read before. -/
def decodeLossyFrom (skip : Nat) : Bytes → List Char
  | [] => []
  | b :: rest =>
    match skip with
    | skip + 1 => decodeLossyFrom skip rest
    | 0 =>
      match decodeChar b rest with
      | .error (count, _) => Char.ofNat 0xfffd :: decodeLossyFrom (count - 1) rest
      | .ok (c, size) => c :: decodeLossyFrom (size - 1) rest

/-- The text of a byte string in which every faulty part is replaced. -/
def decodeLossy (bytes : Bytes) : String := String.ofList (decodeLossyFrom 0 bytes)

end Utf8
end Leasehold
