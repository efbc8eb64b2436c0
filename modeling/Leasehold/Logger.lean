import Leasehold.Environment

/-!
# Loggers

Loggers under one namespace, each configured by the first request for it and by no later one.

- **Names** (`Logger.fullName`): a name outside the namespace is put under it.
- **Loggers** (`Logger`): a level, one handler at the same level, and no propagation to the parents
  of the name.
- **The registry** (`Registry.get`): a request for a name that is there changes nothing.
- **Requests in turn** (`Registry.getAll`): each finds the registry that the ones before it leave.
-/

namespace Leasehold

/-- How a handler writes a line. -/
inductive HandlerKind where
  /-- With colours and columns, for a terminal. -/
  | rich
  /-- As plain text with the time and the level. -/
  | stream
deriving DecidableEq, Repr

/-- What a logger hands its lines to. -/
structure Handler where
  kind : HandlerKind
  level : Int
deriving DecidableEq, Repr

namespace Handler

/-- The form of a line. -/
def format (h : Handler) : String :=
  match h.kind with
  | .rich => "%(name)s: %(message)s"
  | .stream => "%(asctime)s %(name)s %(levelname)s: %(message)s"

/-- The form of the time in a line, where the handler does not choose it itself. -/
def timeFormat? (h : Handler) : Option String :=
  match h.kind with
  | .rich => none
  | .stream => some "%Y-%m-%d %H:%M:%S"

end Handler

/-- A logger under its full name. -/
structure Logger where
  name : String
  level : Int
  handlers : List Handler
  propagates : Bool
deriving DecidableEq, Repr

namespace Logger

/-- The namespace of all loggers. -/
def root : String := "rediscoord"

/-- The full name of a logger. -/
def fullName (name : String) : String :=
  if root.toList.isPrefixOf name.toList then name else root ++ "." ++ name

/-- The numbers of the levels that have a name. -/
def levels : List (String × Int) := [
  ("CRITICAL", 50), ("FATAL", 50), ("ERROR", 40), ("WARN", 30), ("WARNING", 30), ("INFO", 20),
  ("DEBUG", 10), ("NOTSET", 0)]

/-- The level that the environment names, or else the one asked for. -/
def effectiveLevel (env : Environment) (level : Int) : Int :=
  match env.text? "REDISCOORD_LOG_LEVEL" with
  | none => level
  | some word => (levels.lookup (Text.toCapital word)).getD level

/-- Whether a logger is to have a rich handler. -/
def isRich (env : Environment) (rich : Option Bool) : Bool :=
  rich.getD ((env.flag? "REDISCOORD_LOG_RICH").getD true)

/-- A new logger under a full name. -/
def configure (env : Environment) (name : String) (level : Int) (rich : Option Bool) : Logger :=
  let level := effectiveLevel env level
  ⟨name, level, [⟨if isRich env rich then .rich else .stream, level⟩], false⟩

end Logger

/-- What is asked of the registry: a name, and how its logger is to be configured if it is new. -/
structure Logger.Request where
  name : String
  level : Int := 20
  rich : Option Bool := none
deriving DecidableEq, Repr

/-- The loggers that were asked for, the first of them first. -/
structure Registry where
  loggers : List Logger

namespace Registry

/-- A registry without loggers. -/
def empty : Registry := ⟨[]⟩

/-- The logger of a name, configured now if it is new. -/
def get (r : Registry) (env : Environment) (name : String) (level : Int) (rich : Option Bool) :
    Logger × Registry :=
  let name := Logger.fullName name
  match r.loggers.find? fun l => l.name == name with
  | some l => (l, r)
  | none =>
    let l := Logger.configure env name level rich
    (l, ⟨r.loggers ++ [l]⟩)

/-- The loggers of requests made one after the other, and the registry after them. -/
def getAll (r : Registry) (env : Environment) : List Logger.Request → List Logger × Registry
  | [] => ([], r)
  | q :: rest =>
    let (l, r) := r.get env q.name q.level q.rich
    let (ls, r) := r.getAll env rest
    (l :: ls, r)

end Registry
end Leasehold
