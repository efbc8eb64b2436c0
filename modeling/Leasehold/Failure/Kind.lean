/-!
# Kinds of failure

A failure belongs to a kind, and each kind to more general ones.

- **Kinds** (`Kind`): failures of the connection to the store, answers of the store, failures of
  the system and of callers, failures that this library reports, and an application's own.
- **Lineage** (`Kind.lineage`): a kind and the kinds that it belongs to, the most special first.
- **Catching** (`Kind.isA`): whether a handler for one kind applies to another. Cancellation
  belongs to no general kind, so no such handler stops it.
-/

namespace Leasehold

/-- A kind of failure. -/
inductive Kind where
  /-- Any failure but cancellation. -/
  | failure
  /-- Any failure reported by the store's client. -/
  | store
  | storeConnection
  | busyLoading
  | authentication
  | authorization
  | maxConnections
  | storeTimeout
  /-- A watched key changed, or the connection was lost while keys were watched. -/
  | watch
  | response
  | readOnly
  | data
  | invalidResponse
  | storeLock
  | system
  | connection
  | connectionRefused
  | timeout
  | fileMissing
  | fileIsDirectory
  | fileNotDirectory
  | value
  | json
  | encoding
  | validation
  | key
  | index
  | member
  /-- An argument that nobody takes. -/
  | argument
  | overflow
  | runtime
  /-- Something is nested too deeply. -/
  | recursion
  | assertion
  | document
  | coordination
  | storeUnavailable
  | transactionConflict
  | retryExhausted
  | lockParameter
  | cancelled
  /-- A kind of an application's own, with the names on the way to it from its most general
  kind. -/
  | application (path : List String)
deriving DecidableEq, Repr

namespace Kind

/-- The kinds that a kind belongs to, itself first and the most general last. -/
def lineage : Kind → List Kind
  | failure => [failure]
  | store => [store, failure]
  | storeConnection => [storeConnection, store, failure]
  | busyLoading => [busyLoading, storeConnection, store, failure]
  | authentication => [authentication, storeConnection, store, failure]
  | authorization => [authorization, storeConnection, store, failure]
  | maxConnections => [maxConnections, storeConnection, store, failure]
  | storeTimeout => [storeTimeout, store, failure]
  | watch => [watch, store, failure]
  | response => [response, store, failure]
  | readOnly => [readOnly, response, store, failure]
  | data => [data, store, failure]
  | invalidResponse => [invalidResponse, store, failure]
  | storeLock => [storeLock, store, value, failure]
  | system => [system, failure]
  | connection => [connection, system, failure]
  | connectionRefused => [connectionRefused, connection, system, failure]
  | timeout => [timeout, system, failure]
  | fileMissing => [fileMissing, system, failure]
  | fileIsDirectory => [fileIsDirectory, system, failure]
  | fileNotDirectory => [fileNotDirectory, system, failure]
  | value => [value, failure]
  | json => [json, value, failure]
  | encoding => [encoding, value, failure]
  | validation => [validation, value, failure]
  | key => [key, failure]
  | index => [index, failure]
  | member => [member, failure]
  | argument => [argument, failure]
  | overflow => [overflow, failure]
  | runtime => [runtime, failure]
  | recursion => [recursion, runtime, failure]
  | assertion => [assertion, failure]
  | document => [document, failure]
  | coordination => [coordination, failure]
  | storeUnavailable => [storeUnavailable, coordination, failure]
  | transactionConflict => [transactionConflict, coordination, failure]
  | retryExhausted => [retryExhausted, coordination, failure]
  | lockParameter => [lockParameter, coordination, value, failure]
  | cancelled => [cancelled]
  | application path =>
    (List.range path.length).reverse.map (fun n => application (path.take (n + 1))) ++ [failure]

/-- Whether a handler for `general` applies to `special`. -/
def isA (special general : Kind) : Bool := special.lineage.contains general

/-- The failures of the connection to the store. -/
def isConnectivity (k : Kind) : Bool := k.isA storeConnection || k.isA storeTimeout

end Kind
end Leasehold
