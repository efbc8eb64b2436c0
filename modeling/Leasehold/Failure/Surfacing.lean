import Leasehold.Failure.Basic

/-!
# Connection failures in the library's own words

Callers meet one failure for a store that cannot be reached (`Failure.unavailable`), whatever the
client reported.

- **Surfacing** (`Failure.surfaced`): a failure of the connection becomes that failure, with
  the client's as its cause. A watch that broke counts when its cause, or without one its context,
  is a failure of the connection. Every other failure stays as it is.
-/

namespace Leasehold.Failure

/-- The store was unavailable during an operation on a key, because of another failure. -/
def unavailable (operation : String) (key : Option String) (reason : Failure) : Failure :=
  (of (.storeUnavailable operation key (some reason.text))).because reason

/-- The failure behind a broken watch: its cause, or without one its context. -/
def behind (f : Failure) : Option Failure := f.cause <|> f.context

/-- The failure as callers of an operation on a key meet it. -/
def surfaced (operation : String) (key : Option String) (f : Failure) : Failure :=
  if f.isConnectivity then unavailable operation key f
  else if f.isA .watch then
    match f.behind with
    | some inner => if inner.isConnectivity then unavailable operation key inner else f
    | none => f
  else f

end Leasehold.Failure
