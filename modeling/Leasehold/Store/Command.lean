import Leasehold.Number.Numeral
import Leasehold.Store.Basic

/-!
# Commands of the store

- **Commands** (`Command`): with arguments that were understood.
- **Replies** (`Reply`) and **refusals** (`Refusal`): a refused command changes nothing.
- **Effects** (`Effect`, `Command.run`): the reply, the database afterwards, and the keys that the
  command touched. Writing touches a key even when its value stays the same; reading, refusing and
  running out do not. A command with a whole number that is too long is not sent (`Effect.sending`). A
  database is chosen before anything is asked of it (`Effect.choosing`).
- **Scripts** (`Script.run`, `Script.send`): a comparison of a key with a token and a change, in one step.
-/

namespace Leasehold

/-- When a value may be set. -/
inductive Condition where
  | always
  | ifAbsent
  | ifPresent
deriving DecidableEq, Repr

/-- A command with its arguments. -/
inductive Command where
  | set (key value : Bytes) (lifetime : Option Int) (condition : Condition)
  | get (key : Bytes)
  | getMany (keys : List Bytes)
  | delete (keys : List Bytes)
  | count (keys : List Bytes)
  | increment (key : Bytes) (amount : Int)
  | append (key suffix : Bytes)
  | length (key : Bytes)
  | expire (key : Bytes) (lifetime : Int)
  | remaining (key : Bytes)
  | persist (key : Bytes)
  | push (key : Bytes) (items : List Bytes)
  | range (key : Bytes) (first last : Int)
  | ping (message : Option Bytes)
deriving DecidableEq, Repr

/-- The answer to a command. -/
inductive Reply where
  | ok
  | integer (n : Int)
  | bulk (b : Option Bytes)
  | bulks (bs : List (Option Bytes))
deriving DecidableEq, Repr

/-- Why a command is refused. -/
inductive Refusal where
  /-- It has an unknown name or a wrong number of arguments. -/
  | malformed
  | wrongType
  | notInteger
  | overflow
  | badOption
  | badExpiry
  /-- A whole number in it is too long to be written, so the client does not send it. -/
  | unwritable
  /-- The server has no database of the number that the client wants. -/
  | noDatabase
deriving DecidableEq, Repr

/-- What a command does. -/
structure Effect where
  reply : Except Refusal Reply
  store : Store
  touched : List Bytes

namespace Effect

/-- A reply that leaves the database as it is. -/
def answer (s : Store) (r : Reply) : Effect := ⟨.ok r, s, []⟩

/-- A refusal. -/
def refuse (s : Store) (r : Refusal) : Effect := ⟨.error r, s, []⟩

/-- What comes of sending something with a whole number in it. -/
def sending (n : Int) (s : Store) (e : Effect) : Effect :=
  if Numeral.isWritable n then e else refuse s .unwritable

/-- What comes of choosing a database by its number, out of so many, before something else. -/
def choosing (count : Nat) (n : Int) (s : Store) (e : Effect) : Effect :=
  if 0 ≤ n ∧ n < count then e else sending n s (refuse s .noDatabase)

end Effect

namespace Command

/-- The greatest whole number of 64 bits. -/
def greatest : Int := 9223372036854775807

/-- Whether a whole number has 64 bits. -/
def fits (n : Int) : Bool := decide (-greatest - 1 ≤ n) && decide (n ≤ greatest)

/-- A whole number in decimal digits. -/
def decimal (n : Int) : Bytes := Utf8.encode (toString n)

/-- The number of 64 bits that a byte string holds in its only written form. -/
def readInt? (b : Bytes) : Option Int :=
  match Numeral.integer? (b.map fun x => Char.ofNat x.toNat) with
  | some n => if fits n && decimal n == b then some n else none
  | none => none

/-- The instant after a lifetime, if it can be written down. -/
def deadline? (now lifetime : Int) : Option Int :=
  if fits lifetime && decide (now + lifetime ≤ greatest) then some (now + lifetime) else none

/-- Gives a key a value and drops its deadline, or gives it a new one. -/
def runSet (now : Int) (s : Store) (k v : Bytes) (deadline : Option Int) (c : Condition) : Effect :=
  let present := (s.live now k).isSome
  let allowed := match c with
    | .always => true
    | .ifAbsent => !present
    | .ifPresent => present
  if allowed then ⟨.ok .ok, s.put k ⟨.string v, deadline⟩, [k]⟩ else .answer s (.bulk none)

/-- Adds to the number that a key holds; an absent key holds zero. -/
def runIncrement (now : Int) (s : Store) (k : Bytes) (amount : Int) : Effect :=
  let change := fun (b : Bytes) (deadline : Option Int) =>
    match readInt? b with
    | none => Effect.refuse s .notInteger
    | some n =>
      if fits (n + amount) then
        ⟨.ok (.integer (n + amount)), s.put k ⟨.string (decimal (n + amount)), deadline⟩, [k]⟩
      else .refuse s .overflow
  match s.live now k with
  | none => change (decimal 0) none
  | some ⟨.string b, deadline⟩ => change b deadline
  | some ⟨.list _, _⟩ => .refuse s .wrongType

/-- Deletes keys one after the other: how many were there, the database, and the keys deleted. -/
def deleteAll (now : Int) (s : Store) : List Bytes → Nat × Store × List Bytes
  | [] => (0, s, [])
  | k :: rest =>
    match s.live now k with
    | none => deleteAll now s rest
    | some _ =>
      let (n, s, touched) := deleteAll now (s.erase k) rest
      (n + 1, s, k :: touched)

/-- The items of a list between two positions; a negative one counts from the end. -/
def slice (items : List Bytes) (first last : Int) : List Bytes :=
  let size : Int := items.length
  let position := fun (i : Int) => if i < 0 then max 0 (size + i) else i
  let stop := if last < 0 then size + last else last
  (items.take (stop + 1).toNat).drop (position first).toNat

/-- The byte string of a key, when it holds one. -/
def string? : Option Entry → Option Bytes
  | some ⟨.string b, _⟩ => some b
  | _ => none

/-- What a command does at an instant. -/
def run (now : Int) (s : Store) : Command → Effect
  | set k v lifetime c =>
    match lifetime with
    | none => runSet now s k v none c
    | some ms =>
      if ms ≤ 0 then .refuse s .badExpiry
      else
        match deadline? now ms with
        | none => .refuse s .badExpiry
        | some d => runSet now s k v (some d) c
  | get k =>
    match s.live now k with
    | none => .answer s (.bulk none)
    | some ⟨.string b, _⟩ => .answer s (.bulk (some b))
    | some ⟨.list _, _⟩ => .refuse s .wrongType
  | getMany ks => .answer s (.bulks (ks.map fun k => string? (s.live now k)))
  | delete ks =>
    let (n, s, touched) := deleteAll now s ks
    ⟨.ok (.integer n), s, touched⟩
  | count ks => .answer s (.integer (ks.countP fun k => (s.live now k).isSome))
  | increment k amount => runIncrement now s k amount
  | append k suffix =>
    match s.live now k with
    | none => ⟨.ok (.integer suffix.length), s.put k ⟨.string suffix, none⟩, [k]⟩
    | some ⟨.string b, d⟩ =>
      ⟨.ok (.integer (b ++ suffix).length), s.put k ⟨.string (b ++ suffix), d⟩, [k]⟩
    | some ⟨.list _, _⟩ => .refuse s .wrongType
  | length k =>
    match s.live now k with
    | none => .answer s (.integer 0)
    | some ⟨.string b, _⟩ => .answer s (.integer b.length)
    | some ⟨.list _, _⟩ => .refuse s .wrongType
  | expire k ms =>
    match deadline? now ms with
    | none => .refuse s .badExpiry
    | some d =>
      match s.live now k with
      | none => .answer s (.integer 0)
      | some e => ⟨.ok (.integer 1), s.put k { e with deadline := some d }, [k]⟩
  | remaining k =>
    match s.live now k with
    | none => .answer s (.integer (-2))
    | some ⟨_, none⟩ => .answer s (.integer (-1))
    | some ⟨_, some d⟩ => .answer s (.integer (d - now))
  | persist k =>
    match s.live now k with
    | some ⟨v, some _⟩ => ⟨.ok (.integer 1), s.put k ⟨v, none⟩, [k]⟩
    | _ => .answer s (.integer 0)
  | push k items =>
    match s.live now k with
    | none => ⟨.ok (.integer items.length), s.put k ⟨.list items.reverse, none⟩, [k]⟩
    | some ⟨.list old, d⟩ =>
      ⟨.ok (.integer (items.reverse ++ old).length), s.put k ⟨.list (items.reverse ++ old), d⟩, [k]⟩
    | some ⟨.string _, _⟩ => .refuse s .wrongType
  | range k first last =>
    match s.live now k with
    | none => .answer s (.bulks [])
    | some ⟨.list items, _⟩ => .answer s (.bulks ((slice items first last).map some))
    | some ⟨.string _, _⟩ => .refuse s .wrongType
  | ping message => .answer s (.bulk (some (message.getD (Utf8.encode "PONG"))))

end Command

/-- What a script does when a key holds its token. -/
inductive Script where
  | delete
  | expire (lifetime : Int)
deriving DecidableEq, Repr

/-- Compares a key with a token byte by byte and, if they agree, changes it; 1 if it did. -/
def Script.run (now : Int) (s : Store) (k token : Bytes) (script : Script) : Effect :=
  match s.live now k with
  | none => .answer s (.integer 0)
  | some ⟨.list _, _⟩ => .refuse s .wrongType
  | some ⟨.string b, _⟩ =>
    if b = token then
      match script with
      | .delete => Command.run now s (.delete [k])
      | .expire ms => Command.run now s (.expire k ms)
    else .answer s (.integer 0)

/-- Sends a script with its arguments. -/
def Script.send (now : Int) (s : Store) (k token : Bytes) (script : Script) : Effect :=
  match script with
  | .delete => run now s k token .delete
  | .expire ms => .sending ms s (run now s k token (.expire ms))

end Leasehold
