import ConnPool.Error
import ConnPool.Target

/-!
# The journal

Two records are kept of a run. The *calls* are what was asked of the backend and its connections,
with the answers. The *notices* are what is written to the log. `Call.text` and `Notice.text` word
them.
-/

namespace ConnPool

/-! ## Calls -/

/-- A question to a connection. -/
inductive Question
  | isClosed
  | autoCommit
  deriving DecidableEq, Repr

/-- An order to a connection. -/
inductive Command
  | close
  | setAutoCommit (on : Bool)
  | setIsolation (level : Isolation)
  | setNetworkTimeout (timeout : Span)
  | commit
  | rollback
  | execute (statement : String)
  deriving DecidableEq, Repr

/-- The text of a question. -/
def Question.text : Question → String
  | isClosed => "is_closed"
  | autoCommit => "auto_commit"

/-- The text of an order. -/
def Command.text : Command → String
  | close => "close"
  | setAutoCommit on => "set_auto_commit(" ++ Text.truth on ++ ")"
  | setIsolation level => "set_isolation_level(" ++ level.name ++ ")"
  | setNetworkTimeout timeout => "set_network_timeout(" ++ toString timeout ++ ")"
  | commit => "commit"
  | rollback => "rollback"
  | execute statement => "execute(" ++ statement ++ ")"

/-- What was asked, and what the answer was. -/
inductive Deed
  | connect (target : Target) (outcome : Except Fault Unit)
  | ask (question : Question) (outcome : Except Fault Bool)
  | tell (command : Command) (outcome : Except Fault Unit)

/-- A call to the backend of a pool, about one of its connections. The connections of a backend are
named by the attempts to open them, counted from one. -/
structure Call where
  site : Nat
  conn : Nat
  deed : Deed

/-- The text of what was asked. -/
def Deed.text : Deed → String
  | connect target _ =>
    "connect(" ++ target.url ++ "," ++ target.username.getD "-" ++ "," ++
      target.password.getD "-" ++ ")"
  | ask question _ => question.text
  | tell command _ => command.text

/-- The text of a call. -/
def Call.text (c : Call) : String := toString c.conn ++ "." ++ c.deed.text

/-! ## Notices -/

/-- How much a notice matters. -/
inductive Level
  | trace
  | debug
  | info
  | warn

/-- The name of a level. -/
def Level.name : Level → String
  | trace => "TRACE"
  | debug => "DEBUG"
  | info => "INFO"
  | warn => "WARN"

/-- What happened, for the log. Connections are told by the numbers of their raw connections. -/
inductive Notice
  | poolCreated (url : String) (maxActive maxIdle : Nat)
  | keyIgnored (key : String)
  | idleTaken (raw : Nat)
  | opened (raw : Nat)
  | claimed (raw : Nat) (checkout : Span)
  | claimedDirty (raw : Nat) (fault : Fault)
  | waiting (wait : Span)
  | timedOut (wait : Span)
  | interrupted
  | candidateBad (raw : Nat)
  | gaveUp (attempts : Nat)
  | returned (raw : Nat)
  | closedOnReturn (raw : Nat)
  | returnedBad (raw : Nat)
  | detached (raw : Nat)
  | unhealthy (raw : Nat) (reason : String)
  | rollbackFailed (raw : Nat) (fault : Fault)
  | closeFailed (fault : Fault)
  | pinging (query : String)
  | pingFailed (query : String) (fault : Fault)
  | closeAfterPingFailed (fault : Fault)
  | drained (active idle : Nat)
  | shutDown
  /-- A connection without a database behind it was opened. -/
  | mockOpened (id : Nat) (url : String)
  /-- A connection without a database behind it was closed. -/
  | mockClosed (id : Nat)

namespace Notice

/-- How much a notice matters. -/
def level : Notice → Level
  | mockOpened .. | mockClosed .. => .trace
  | pingFailed .. => .warn
  | shutDown => .info
  | _ => .debug

/-- The sentence of a notice. -/
def sentence : Notice → String
  | poolCreated .. => "creating connection pool"
  | keyIgnored .. => "ignoring unknown data source property"
  | idleTaken .. => "checked out connection from pool"
  | opened .. => "created connection"
  | claimed .. => "claimed overdue connection"
  | claimedDirty .. => "bad connection, could not roll back"
  | waiting .. => "waiting for connection"
  | timedOut .. => "timed out waiting for connection"
  | interrupted => "acquire interrupted while waiting for a connection"
  | candidateBad .. => "a bad connection was returned from the pool, getting another connection"
  | gaveUp .. => "could not get a good connection to the database"
  | returned .. => "returned connection to pool"
  | closedOnReturn .. => "closed connection"
  | returnedBad .. => "a bad connection attempted to return to the pool, discarding connection"
  | detached .. => "detached connection from pool"
  | unhealthy .. => "connection is bad"
  | rollbackFailed .. => "rollback failed"
  | closeFailed .. => "error closing connection"
  | pinging .. => "testing connection"
  | pingFailed .. => "execution of ping query failed"
  | closeAfterPingFailed .. => "closing connection after failed ping"
  | drained .. => "forcefully closed/removed all connections"
  | shutDown => "connection pool closed"
  | mockOpened .. => "mock connection opened"
  | mockClosed .. => "mock connection closed"

/-- The fields of a notice, in order. -/
def fields : Notice → List (String × String)
  | poolCreated url maxActive maxIdle =>
    [("url", url), ("max_active", toString maxActive), ("max_idle", toString maxIdle)]
  | keyIgnored key => [("key", key)]
  | idleTaken raw | opened raw | candidateBad raw | returned raw | closedOnReturn raw
  | returnedBad raw | detached raw => [("connection_id", toString raw)]
  | claimed raw checkout =>
    [("connection_id", toString raw), ("checkout_ms", toString (Span.toMillis checkout))]
  | claimedDirty raw fault | rollbackFailed raw fault =>
    [("connection_id", toString raw), ("error", fault.message)]
  | waiting wait | timedOut wait => [("wait_ms", toString (Span.toMillis wait))]
  | interrupted | shutDown => []
  | gaveUp attempts => [("attempts", toString attempts)]
  | unhealthy raw reason => [("connection_id", toString raw), ("error", reason)]
  | closeFailed fault | closeAfterPingFailed fault => [("error", fault.message)]
  | pinging query => [("query", query)]
  | pingFailed query fault => [("query", query), ("error", fault.message)]
  | drained active idle => [("active", toString active), ("idle", toString idle)]
  | mockOpened id url => [("id", toString id), ("url", url)]
  | mockClosed id => [("id", toString id)]

/-- The line of a notice in the log. -/
def text (n : Notice) : String :=
  n.level.name ++ " " ++ n.sentence ++
    String.join (n.fields.map fun f => " " ++ f.1 ++ "=" ++ f.2)

end Notice

end ConnPool
