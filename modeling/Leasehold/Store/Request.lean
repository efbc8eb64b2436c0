import Leasehold.Store.Command
import Leasehold.Text.Letter
import Leasehold.Value

/-!
# Requests

What a client sends, a list of values of which the first names a command, and how it reads the
replies.

- **Sending** (`Request.wire?`): texts as UTF-8, numbers in their written form, unless they are too long;
  other values cannot be sent. Blanks in the name separate further arguments and vanish around it.
- **Understanding** (`Request.meaning`): a request names a command with a right number of
  arguments, or else spoils the whole transaction. An argument that turns out wrong only when the
  command runs makes that command fail.
- **Receiving** (`Request.read`, `Request.converted`): byte strings become text when the client
  decodes, and flags become truth values.
-/

namespace Leasehold

/-- A name and arguments, as a caller gives them. -/
abbrev Request := List Value

namespace Request

/-- The bytes of an argument, if it can be sent. -/
def argument? : Value → Option Bytes
  | .text s => some (Utf8.encode s)
  | .bytes b => some b
  | .int n => if Numeral.isWritable n then some (Utf8.encode (toString n)) else none
  | .float x => some (Utf8.encode x.text)
  | _ => none

/-- Blanks of ASCII between words of bytes. -/
def isGap (b : UInt8) : Bool := b == 0x20 || (decide (9 ≤ b.toNat) && decide (b.toNat ≤ 13))

/-- The words of a byte string; `word` holds the bytes of the current one, the last first. -/
def words (word : Bytes) : Bytes → List Bytes
  | [] => if word.isEmpty then [] else [word.reverse]
  | b :: rest =>
    if isGap b then
      if word.isEmpty then words [] rest else word.reverse :: words [] rest
    else words (b :: word) rest

/-- The words that a name stands for. A name given in bytes is split only at a space. -/
def nameWords? : Value → Option (List Bytes)
  | .text s => some (words [] (Utf8.encode s))
  | .bytes b => some (if b.contains 0x20 then words [] b else [b])
  | .int n => if Numeral.isWritable n then some [Utf8.encode (toString n)] else none
  | .float x => some [Utf8.encode x.text]
  | _ => none

/-- The byte strings that are sent, if all of them can be. -/
def wire? : Request → Option (List Bytes)
  | [] => some []
  | name :: args => do
    let words ← nameWords? name
    let args ← args.mapM argument?
    some (words ++ args)

/-- What the server makes of a request. -/
inductive Meaning where
  /-- An unknown name or a wrong number of arguments. -/
  | malformed
  /-- Known, but bound to fail when it runs. -/
  | failing (r : Refusal)
  | command (c : Command)
deriving DecidableEq, Repr

/-- A command with a number that the server has to read. -/
def withInt (b : Bytes) (make : Int → Command) : Meaning :=
  match Command.readInt? b with
  | some n => .command (make n)
  | none => .failing .notInteger

/-- An option word in capital letters. -/
def optionWord (b : Bytes) : String := String.ofList (b.map fun x => (Char.ofNat x.toNat).toUpper)

/-- Reads the options behind the value of a `SET`: a lifetime and a condition. -/
def setOptions (key value : Bytes) (lifetime : Option Int) (condition : Condition) :
    List Bytes → Meaning
  | [] => .command (.set key value lifetime condition)
  | word :: rest =>
    match optionWord word, condition with
    | "NX", .always => setOptions key value lifetime .ifAbsent rest
    | "XX", .always => setOptions key value lifetime .ifPresent rest
    | "PX", _ =>
      match lifetime, rest with
      | none, ms :: rest =>
        match Command.readInt? ms with
        | some ms => setOptions key value (some ms) condition rest
        | none => .failing .notInteger
      | _, _ => .failing .badOption
    | _, _ => .failing .badOption

/-- What a name and arguments ask for. The name may be in letters of any size. -/
def meaning : List Bytes → Meaning
  | [] => .malformed
  | name :: args =>
    match optionWord name, args with
    | "SET", key :: value :: options => setOptions key value none .always options
    | "GET", [key] => .command (.get key)
    | "MGET", key :: keys => .command (.getMany (key :: keys))
    | "DEL", key :: keys => .command (.delete (key :: keys))
    | "EXISTS", key :: keys => .command (.count (key :: keys))
    | "INCR", [key] => .command (.increment key 1)
    | "DECR", [key] => .command (.increment key (-1))
    | "INCRBY", [key, amount] => withInt amount (.increment key ·)
    | "DECRBY", [key, amount] => withInt amount (fun n => .increment key (-n))
    | "APPEND", [key, suffix] => .command (.append key suffix)
    | "STRLEN", [key] => .command (.length key)
    | "PEXPIRE", [key, ms] => withInt ms (.expire key ·)
    | "PEXPIRE", _ :: _ :: _ :: _ => .failing .badOption
    | "PTTL", [key] => .command (.remaining key)
    | "PERSIST", [key] => .command (.persist key)
    | "LPUSH", key :: item :: items => .command (.push key (item :: items))
    | "LRANGE", [key, first, last] =>
      match Command.readInt? first, Command.readInt? last with
      | some first, some last => .command (.range key first last)
      | _, _ => .failing .notInteger
    | "PING", [] => .command (.ping none)
    | "PING", [message] => .command (.ping (some message))
    | "PING", _ :: _ :: _ => .failing .badOption
    | _, _ => .malformed

/-- Runs what a request means; a malformed one is refused. -/
def Meaning.run (now : Int) (s : Store) : Meaning → Effect
  | .malformed => .refuse s .malformed
  | .failing r => .refuse s r
  | .command c => c.run now s

/-- A byte string as the client hands it on. -/
def handedOn (decodes : Bool) (b : Bytes) : Except Utf8.DecodeError Value :=
  if decodes then (Utf8.decode b).map .text else .ok (.bytes b)

/-- A byte string that may be absent. -/
def handedOn? (decodes : Bool) : Option Bytes → Except Utf8.DecodeError Value
  | none => .ok .null
  | some b => handedOn decodes b

/-- A reply as the client reads it from the connection. -/
def read (decodes : Bool) : Reply → Except Utf8.DecodeError Value
  | .ok => handedOn decodes (Utf8.encode "OK")
  | .integer n => .ok (.int n)
  | .bulk b => handedOn? decodes b
  | .bulks bs => (bs.mapM (handedOn? decodes)).map .list

/-- The name of the command that a caller gave, in capital letters. -/
def givenName : Request → Option String
  | .text s :: _ => some (Text.toCapital s)
  | _ => none

/-- Turns a reply into the value that the named command returns: an acknowledged `SET` and an
answered `PING` are true, and so is a `PEXPIRE` or a `PERSIST` with an effect. -/
def converted (name : Option String) (v : Value) : Value :=
  let isWord := fun (word : String) => match v with
    | .text s => s == word
    | .bytes b => b == Utf8.encode word
    | _ => false
  match name with
  | some "SET" =>
    match v with
    | .null => .null
    | _ => .bool (isWord "OK")
  | some "PING" => .bool (isWord "PONG")
  | some "PEXPIRE" => .bool v.isTruthy
  | some "PERSIST" => .bool v.isTruthy
  | _ => v

end Request
end Leasehold
