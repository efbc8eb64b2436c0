import Leasehold.Json.Parser

/-!
# Addresses

- **Four octets** (`Address.isOctets`): decimal, without leading zeros.
- **Eight groups** (`Address.isGroups`): hexadecimal; two colons stand for at least one group of
  zero, and the last two groups may be written as octets; a zone may follow.
-/

namespace Leasehold.Address

/-- One octet. -/
def isOctet (cs : List Char) : Bool :=
  !cs.isEmpty && cs.all Numeral.isDigit && decide (cs.length ≤ 3) &&
    (cs == ['0'] || cs.head? != some '0') && decide (Numeral.ofDigits cs ≤ 255)

/-- Four octets between points. -/
def isOctets (cs : List Char) : Bool :=
  let parts := cs.splitOn '.'
  parts.length == 4 && parts.all isOctet

/-- One group of at most four hexadecimal digits. -/
def isGroup (cs : List Char) : Bool :=
  !cs.isEmpty && decide (cs.length ≤ 4) && cs.all fun c => (Json.hexValue? c).isSome

/-- The groups of an address in which octets at the end count as two groups. -/
def groups? (cs : List Char) : Option (List (List Char)) :=
  let parts := cs.splitOn ':'
  let last := parts.getLastD []
  if parts.length < 3 then none
  else if last.contains '.' then
    if isOctets last then some (parts.dropLast ++ [['0'], ['0']]) else none
  else some parts

/-- The groups in front of two colons, and those behind them. An empty group is allowed only where
the two colons begin or end the address. -/
def isShortened (before after : List (List Char)) : Bool :=
  let front := if before == [[]] then [] else before
  let back := if after == [[]] then [] else after
  (front ++ back).all isGroup && decide (front.length + back.length ≤ 7)

/-- Eight groups, or fewer with two colons for the others. -/
def areGroups (parts : List (List Char)) : Bool :=
  let inner := (parts.drop 1).dropLast
  let gap := (inner.takeWhile (!·.isEmpty)).length + 1
  if decide (9 < parts.length) then false
  else
    match inner.countP (·.isEmpty) with
    | 0 => parts.length == 8 && parts.all isGroup
    | 1 => isShortened (parts.take gap) (parts.drop (gap + 1))
    | _ => false

/-- Eight groups with or without a zone. -/
def isGroups (cs : List Char) : Bool :=
  let (address, zone) := Numeral.splitAtFirst (· == '%') cs
  let isZone := zone.isEmpty || (decide (1 < zone.length) && !(zone.drop 1).contains '%')
  isZone && (groups? address).any areGroups

end Leasehold.Address
