import ConnPool.Time

/-!
# Faults and errors

A `Fault` is what a connection or the backend that opens it reports. A `PoolError` is what the
pool answers. Both are causes, and `message` is the one place that words them.
-/

namespace ConnPool

/-- What can go wrong on a connection. -/
inductive Fault
  /-- The connection is closed. -/
  | closed
  /-- The transport below the connection failed. -/
  | io (text : String)
  /-- The database driver refused. -/
  | driver (text : String)
  deriving DecidableEq, Repr, Inhabited

/-- The text of a fault. -/
def Fault.message : Fault → String
  | closed => "connection is closed"
  | io text => "IO error: " ++ text
  | driver text => "driver error: " ++ text

/-- The texts of the errors that a fault stands for, outermost first. -/
def Fault.chain (f : Fault) : List String :=
  match f with
  | io text => [f.message, text]
  | _ => [f.message]

/-- Why a configuration is refused. -/
inductive Misconfiguration
  | noActiveConnections
  | blankPingQuery
  | foreignInterrupt
  | urlMissing
  | unterminatedQuote (rest : String)
  | notAnAssignment (part : String)
  | badValue (key value : String)
  | badIsolation (value : String)
  | other (text : String)
  deriving DecidableEq, Repr

/-- The text of a refused configuration. -/
def Misconfiguration.message : Misconfiguration → String
  | noActiveConnections => "max_active must be greater than 0"
  | blankPingQuery => "ping_query cannot be empty when ping is enabled"
  | foreignInterrupt => "interrupt handle belongs to another pool"
  | urlMissing => "url is required"
  | unterminatedQuote rest => "unterminated quote in: " ++ rest
  | notAnAssignment part => "invalid key-value: " ++ part
  | badValue key value => "invalid " ++ key ++ ": " ++ value
  | badIsolation value => "invalid isolation level: " ++ value
  | other text => text

/-- What the pool answers when it cannot do what it was asked. -/
inductive PoolError
  /-- Too many candidates of one acquire were bad. -/
  | exhausted (attempts : Nat)
  /-- Opening a connection failed. -/
  | factory (fault : Fault)
  /-- The handle was retired. -/
  | invalidated
  /-- The acquire was interrupted while it had to wait. -/
  | interrupted
  /-- Nothing became available in time. -/
  | timeout (after : Span)
  /-- The pool is shut down. -/
  | closed
  /-- The configuration is refused. -/
  | configuration (cause : Misconfiguration)
  /-- A call on a connection that the caller holds failed. -/
  | connection (fault : Fault)
  deriving DecidableEq, Repr

namespace PoolError

/-- The text of an error. -/
def message : PoolError → String
  | exhausted attempts =>
    "could not get a good connection after " ++ toString attempts ++ " bad connections"
  | factory fault => "failed to create connection: " ++ fault.message
  | invalidated => "connection handle is no longer valid"
  | interrupted => "connection acquisition interrupted"
  | timeout after => "connection acquisition timeout after " ++ Span.text after
  | closed => "pool is closed"
  | configuration cause => "pool configuration error: " ++ cause.message
  | connection fault => "connection error: " ++ fault.message

/-- Whether the same acquire may succeed when it is tried again. -/
def isTransient : PoolError → Bool
  | exhausted _ | timeout _ | interrupted => true
  | _ => false

/-- The fault behind an error. -/
def fault? : PoolError → Option Fault
  | factory fault | connection fault => some fault
  | _ => none

/-- The texts of the errors behind an error, outermost first. -/
def sources (e : PoolError) : List String := (e.fault?.map Fault.chain).getD []

end PoolError

end ConnPool
