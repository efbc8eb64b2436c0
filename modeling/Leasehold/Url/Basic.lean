import Leasehold.Text.Letter
import Leasehold.Text.Quoted
import Leasehold.Url.Address

/-!
# URLs

- **Parts** (`Url`, `Url.split`): the scheme, the authority with its name, password, host and port,
  the path and the query. A fragment is dropped.
- **Faults** (`Url.Fault`): of brackets in the authority, of the port, and of characters that another
  spelling of the authority would make into delimiters.
-/

namespace Leasehold

/-- The parts of a URL as they are written. -/
structure Url where
  scheme : String
  authority : List Char
  path : String
  query : List Char

/-- What is wrong with a URL. -/
inductive Url.Fault where
  | brackets
  | futureAddress
  | bracketedOctets
  | notAnAddress (host : String)
  | hiddenDelimiter (authority : String)
  | portNotANumber (port : String)
  | portOutOfRange
deriving DecidableEq, Repr

namespace Url

/-- The words for a fault. -/
def Fault.text : Fault → String
  | .brackets => "Invalid IPv6 URL"
  | .futureAddress => "IPvFuture address is invalid"
  | .bracketedOctets => "An IPv4 address cannot be in brackets"
  | .notAnAddress host => Text.quoted host ++ " does not appear to be an IPv4 or IPv6 address"
  | .hiddenDelimiter authority =>
    "netloc '" ++ authority ++ "' contains invalid characters under NFKC normalization"
  | .portNotANumber port => "Port could not be cast to integer value as " ++ Text.quoted port
  | .portOutOfRange => "Port out of range 0-65535"

/-- What stands before the first of a character, and what stands behind it, if it is there. -/
def cut (c : Char) (cs : List Char) : List Char × Option (List Char) :=
  match Numeral.splitAtFirst (· == c) cs with
  | (before, _ :: behind) => (before, some behind)
  | (before, []) => (before, none)

/-- What stands before the last of a character, if it is there, and what stands behind it. -/
def cutLast (c : Char) (cs : List Char) : Option (List Char) × List Char :=
  match cut c cs.reverse with
  | (behind, some before) => (some before.reverse, behind.reverse)
  | (behind, none) => (none, behind.reverse)

/-- The characters of a scheme. -/
def isSchemeCharacter (c : Char) : Bool := c.isAlphanum || c == '+' || c == '-' || c == '.'

/-- The scheme in small letters, and the characters behind its colon. -/
def splitScheme (cs : List Char) : String × List Char :=
  match cut ':' cs with
  | (name, some rest) =>
    if (name.head?.any Char.isAlpha) && name.all isSchemeCharacter then
      (String.ofList (name.map Char.toLower), rest)
    else ("", cs)
  | (_, none) => ("", cs)

/-- Whether a text is an address of a future version: a `v`, hexadecimal digits, a point, and
something more. -/
def isFutureAddress (cs : List Char) : Bool :=
  let (version, rest) := Numeral.splitAtFirst (· == '.') (cs.drop 1)
  !version.isEmpty && version.all (fun c => (Json.hexValue? c).isSome) && decide (1 < rest.length)

/-- Checks a host between brackets. -/
def checkBracketed (host : List Char) : Except Fault Unit :=
  if host.head? == some 'v' then
    if isFutureAddress host then .ok () else .error .futureAddress
  else if Address.isOctets host then .error .bracketedOctets
  else if Address.isGroups host then .ok ()
  else .error (.notAnAddress (String.ofList host))

/-- Checks the brackets of an authority. -/
def checkBrackets (authority : List Char) : Except Fault Unit :=
  match authority.contains '[', authority.contains ']' with
  | true, true => checkBracketed (cut ']' ((cut '[' authority).2.getD [])).1
  | false, false => .ok ()
  | _, _ => .error .brackets

/-- Characters that are a delimiter, or hold one, when they are written in their plain form. -/
def hiddenDelimiters : List Nat := [
  0x2047, 0x2048, 0x2049, 0x2100, 0x2101, 0x2105, 0x2106, 0x2a74, 0xfe13, 0xfe16, 0xfe55, 0xfe56,
  0xfe5f, 0xfe6b, 0xff03, 0xff0f, 0xff1a, 0xff1f, 0xff20]

/-- Checks an authority for hidden delimiters. -/
def checkDelimiters (authority : List Char) : Except Fault Unit :=
  if authority.any fun c => hiddenDelimiters.contains c.toNat then
    .error (.hiddenDelimiter (String.ofList authority))
  else .ok ()

/-- The characters of a text that count: control characters and spaces in front do not, nor do tabs
and ends of lines anywhere. -/
def significant (s : String) : List Char :=
  (s.toList.dropWhile fun c => decide (c.toNat ≤ 0x20)).filter fun c =>
    !(c == '\t' || c == '\n' || c == '\r')

/-- Splits a URL into its parts. -/
def split (s : String) : Except Fault Url := do
  let (scheme, rest) := splitScheme (significant s)
  let (authority, rest) := match rest with
    | '/' :: '/' :: rest => Numeral.splitAtFirst (fun c => c == '/' || c == '?' || c == '#') rest
    | _ => ([], rest)
  checkBrackets authority
  let (rest, _) := cut '#' rest
  let (path, query) := cut '?' rest
  checkDelimiters authority
  .ok ⟨scheme, authority, String.ofList path, query.getD []⟩

/-- The name and the password in front of the host, as they are written. -/
def credentials (u : Url) : Option (List Char) × Option (List Char) :=
  match (cutLast '@' u.authority).1 with
  | none => (none, none)
  | some info =>
    let (name, password) := cut ':' info
    (some name, password)

/-- The host and the port as they are written. -/
def hostAndPort (u : Url) : List Char × List Char :=
  let host := (cutLast '@' u.authority).2
  match cut '[' host with
  | (_, some bracketed) =>
    let (name, behind) := cut ']' bracketed
    (name, ((cut ':' (behind.getD [])).2).getD [])
  | (_, none) =>
    let (name, port) := cut ':' host
    (name, port.getD [])

/-- The host in small letters, but for a zone behind a percent sign; none if it is empty. -/
def host? (u : Url) : Option String :=
  let (name, zone) := Numeral.splitAtFirst (· == '%') u.hostAndPort.1
  if u.hostAndPort.1.isEmpty then none
  else some (Text.toSmall (String.ofList name) ++ String.ofList zone)

/-- The port, if there is one. -/
def port? (u : Url) : Except Fault (Option Nat) :=
  let port := u.hostAndPort.2
  if port.isEmpty then .ok none
  else if !port.all Numeral.isDigit then .error (.portNotANumber (String.ofList port))
  else if 65535 < Numeral.ofDigits port then .error .portOutOfRange
  else .ok (some (Numeral.ofDigits port))

end Url
end Leasehold
