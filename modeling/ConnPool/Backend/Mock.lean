import ConnPool.Backend
import ConnPool.Settings

/-!
# Connections without a database

A backend for tests. Its connections run no statement; they keep a ledger of what they were asked
and fail on demand: the backend can refuse to connect, open connections that are closed from the
start, cut the link of every connection, and make chosen statements fail.

Outside auto-commit a statement is pending until the next commit or rollback, and turning
auto-commit on commits what is pending.
-/

namespace ConnPool

/-- A connection without a database behind it. -/
structure Mock.Connection where
  /-- The number of the connection among those that were opened. -/
  id : Nat
  username : Option String
  properties : DriverProperties
  closed : Bool
  autoCommit : Bool := true
  isolation : Option Isolation := none
  networkTimeout : Option Span := none
  /-- The statements that were run, in order. -/
  executed : List String := []
  /-- How many of them are neither committed nor rolled back. -/
  pending : Nat := 0
  commits : Nat := 0
  rollbacks : Nat := 0
  /-- Whether the link is cut. A connection without a link does not know, and fails. -/
  severed : Bool := false

/-- A backend whose connections have no database behind them. -/
structure Mock where
  opened : Nat := 0
  closed : Nat := 0
  refuse : Bool := false
  bornClosed : Bool := false
  connectDelay : Span := 0
  /-- The statements that fail, without blanks around them. -/
  failing : List String := []
  /-- The connections that were opened, by name. -/
  connections : List (Nat × Mock.Connection) := []

namespace Mock.Connection

/-- The fault of a connection that cannot be used. -/
def fault? (k : Mock.Connection) : Option Fault :=
  if k.closed then some .closed
  else if k.severed then some (.io "connection reset by peer")
  else none

/-- The connection after everything pending was committed. -/
def commit (k : Mock.Connection) : Mock.Connection :=
  { k with commits := k.commits + 1, pending := 0 }

/-- The connection after everything pending was rolled back. -/
def rollback (k : Mock.Connection) : Mock.Connection :=
  { k with rollbacks := k.rollbacks + 1, pending := 0 }

/-- The connection after a change of the auto-commit mode. -/
def setAutoCommit (k : Mock.Connection) (on : Bool) : Mock.Connection :=
  { (if on && !k.autoCommit && decide (0 < k.pending) then k.commit else k) with autoCommit := on }

/-- The connection after a statement. -/
def execute (k : Mock.Connection) (statement : String) : Mock.Connection :=
  { k with
    executed := k.executed ++ [statement]
    pending := if k.autoCommit then k.pending else k.pending + 1 }

/-- The connection after an order on a link that holds, or the fault of a statement that is made to
fail. -/
def carryOut (failing : List String) (k : Mock.Connection) :
    Command → Except Fault Mock.Connection
  | .close => .ok { k with closed := true }
  | .setAutoCommit on => .ok (k.setAutoCommit on)
  | .setIsolation level => .ok { k with isolation := some level }
  | .setNetworkTimeout timeout => .ok { k with networkTimeout := some timeout }
  | .commit => .ok k.commit
  | .rollback => .ok k.rollback
  | .execute statement =>
    if failing.contains (Text.trimmed statement) then
      .error (.driver ("statement failed: " ++ statement))
    else .ok (k.execute statement)

/-- The connection after an order, or the fault that the order meets. Only a close needs no link. -/
def tell (failing : List String) (k : Mock.Connection) (command : Command) :
    Except Fault Mock.Connection :=
  match (if command = .close then none else k.fault?) with
  | some fault => .error fault
  | none => k.carryOut failing command

end Mock.Connection

namespace Mock

/-- The connection of a name. -/
def get? (m : Mock) (conn : Nat) : Option Mock.Connection := m.connections.lookup conn

/-- The backend with another connection in place of the one of that name. -/
def put (m : Mock) (conn : Nat) (k : Mock.Connection) : Mock :=
  { m with connections := m.connections.map fun e => if e.1 = conn then (conn, k) else e }

/-- How many connections were opened and not closed since. -/
def openNow (m : Mock) : Nat := m.opened - m.closed

/-- The connection that the next attempt opens. -/
def fresh (m : Mock) (target : Target) : Mock.Connection where
  id := m.opened + 1
  username := target.username
  properties := target.driverProperties
  closed := m.bornClosed

/-- Attempt to open a connection. -/
def connect (conn : Nat) (target : Target) (m : Mock) : Reply Unit × Mock :=
  if m.refuse then
    (⟨.error (.driver ("connection to " ++ target.url ++ " refused")), m.connectDelay, []⟩, m)
  else
    let k := m.fresh target
    (⟨.ok (), m.connectDelay, [.mockOpened k.id target.url]⟩,
      { m with opened := m.opened + 1, connections := m.connections ++ [(conn, k)] })

/-- Ask a connection a question. -/
def ask (conn : Nat) (question : Question) (m : Mock) : Reply Bool × Mock :=
  match m.get? conn, question with
  | none, _ => (⟨.error .closed, 0, []⟩, m)
  | some k, .isClosed => (⟨.ok k.closed, 0, []⟩, m)
  | some k, .autoCommit => (⟨.ok k.autoCommit, 0, []⟩, m)

/-- Give a connection an order. The first close of a connection is counted. -/
def tell (conn : Nat) (command : Command) (m : Mock) : Reply Unit × Mock :=
  match m.get? conn with
  | none => (⟨.error .closed, 0, []⟩, m)
  | some k =>
    match k.tell m.failing command with
    | .error fault => (⟨.error fault, 0, []⟩, m)
    | .ok after =>
      if after.closed && !k.closed then
        (⟨.ok (), 0, [.mockClosed k.id]⟩, { m.put conn after with closed := m.closed + 1 })
      else (⟨.ok (), 0, []⟩, m.put conn after)

/-- What a test can do to the backend. -/
inductive Order
  | refuse (on : Bool)
  | bornClosed (on : Bool)
  | failStatement (statement : String)
  | severAll
  | sever (conn : Nat)
  | counts
  deriving DecidableEq, Repr

/-- The backend after an order. -/
def obey (m : Mock) : Order → Option (OrderReply × Mock)
  | .refuse on => some (.done, { m with refuse := on })
  | .bornClosed on => some (.done, { m with bornClosed := on })
  | .failStatement statement =>
    some (.done, { m with failing := Text.trimmed statement :: m.failing })
  | .severAll =>
    some (.done,
      { m with connections := m.connections.map fun e => (e.1, { e.2 with severed := true }) })
  | .sever conn => (m.get? conn).map fun k => (.done, m.put conn { k with severed := true })
  | .counts => some (.counts m.opened m.closed m.openNow, m)

instance : Bench Mock where
  connect := connect
  ask := ask
  tell := tell
  hasNetworkTimeout := true
  Order := Order
  obey order m := obey m order
  opened := opened
  closed := closed

/-- The target that tests connect to unless they name one. -/
def target : Target where
  url := "mock://localhost/test"
  username := some "app"
  password := some "secret"

end Mock

end ConnPool
