import ConnPool.Backend

/-!
# Connections that follow a script

A backend for tests in which every connection follows a script: which calls fail and how, and how
much time each takes. The scripts come from a plan, one for each attempt to connect, and from a rest
script for the attempts beyond it. Scripts of connections that are open can be altered.

`Plain` is the same backend with connections that have no network timeout to set.
-/

namespace ConnPool

/-- What a connection can be called for. -/
inductive Method
  | connect
  | close
  | isClosed
  | autoCommit
  | setAutoCommit
  | setIsolation
  | setNetworkTimeout
  | commit
  | rollback
  | execute
  deriving DecidableEq, Repr

/-- The method behind a question. -/
def Question.method : Question → Method
  | isClosed => .isClosed
  | autoCommit => .autoCommit

/-- The method behind an order. -/
def Command.method : Command → Method
  | close => .close
  | setAutoCommit _ => .setAutoCommit
  | setIsolation _ => .setIsolation
  | setNetworkTimeout _ => .setNetworkTimeout
  | commit => .commit
  | rollback => .rollback
  | execute _ => .execute

/-- The script of a connection. The first entry of a method counts. -/
structure Script where
  /-- The fault that refuses the attempt to connect. -/
  refuse : Option Fault := none
  closed : Bool := false
  autoCommit : Bool := true
  fails : List (Method × Fault) := []
  delays : List (Method × Span) := []

/-- Changes to the script of a connection: values to replace, and entries to add or to take away. -/
structure Amendment where
  refuse : Option Fault := none
  closed : Option Bool := none
  autoCommit : Option Bool := none
  fails : List (Method × Option Fault) := []
  delays : List (Method × Span) := []

/-- A connection that follows a script. -/
structure Scripted.Connection where
  /-- The number of the attempt that opened it. -/
  number : Nat
  target : Target
  closed : Bool
  autoCommit : Bool
  fails : List (Method × Fault)
  delays : List (Method × Span)
  isolation : Option Isolation := none
  networkTimeout : Option Span := none
  executed : List String := []
  commits : Nat := 0
  rollbacks : Nat := 0

/-- A backend whose connections follow scripts. -/
structure Scripted where
  /-- The scripts of the first attempts. -/
  plan : List Script := []
  /-- The script of all later ones. -/
  rest : Script := {}
  opened : Nat := 0
  closed : Nat := 0
  /-- The connections that were opened, by name. -/
  connections : List (Nat × Scripted.Connection) := []

namespace Script

/-- How long a call of a method takes. -/
def delay (s : Script) (m : Method) : Span := (s.delays.lookup m).getD 0

end Script

namespace Scripted.Connection

/-- A connection that begins to follow a script. -/
def ofScript (number : Nat) (target : Target) (s : Script) : Scripted.Connection where
  number
  target
  closed := s.closed
  autoCommit := s.autoCommit
  fails := s.fails
  delays := s.delays

/-- How long a call of a method takes. -/
def delay (k : Scripted.Connection) (m : Method) : Span := (k.delays.lookup m).getD 0

/-- One entry of the list of faults is set or taken away. -/
def amendFault (fails : List (Method × Fault)) (e : Method × Option Fault) :
    List (Method × Fault) :=
  match e.2 with
  | some fault => (e.1, fault) :: fails
  | none => fails.filter (·.1 != e.1)

/-- The connection with its script altered. -/
def amend (k : Scripted.Connection) (a : Amendment) : Scripted.Connection :=
  { k with
    closed := a.closed.getD k.closed
    autoCommit := a.autoCommit.getD k.autoCommit
    fails := a.fails.foldl amendFault k.fails
    delays := a.delays.reverse ++ k.delays }

/-- The answer to a question, or the fault that the script sets. -/
def ask (k : Scripted.Connection) (q : Question) : Except Fault Bool :=
  match k.fails.lookup q.method, q with
  | some fault, _ => .error fault
  | none, .isClosed => .ok k.closed
  | none, .autoCommit => .ok k.autoCommit

/-- The connection after an order that meets no fault. -/
def carryOut (k : Scripted.Connection) : Command → Scripted.Connection
  | .close => { k with closed := true }
  | .setAutoCommit on => { k with autoCommit := on }
  | .setIsolation level => { k with isolation := some level }
  | .setNetworkTimeout timeout => { k with networkTimeout := some timeout }
  | .commit => { k with commits := k.commits + 1 }
  | .rollback => { k with rollbacks := k.rollbacks + 1 }
  | .execute statement => { k with executed := k.executed ++ [statement] }

/-- The connection after an order, or the fault that the order meets: the one that the script sets,
or else that the connection is closed. A closed connection can be closed again. -/
def tell (k : Scripted.Connection) (c : Command) : Except Fault Scripted.Connection :=
  match k.fails.lookup c.method with
  | some fault => .error fault
  | none => if k.closed && c != .close then .error .closed else .ok (k.carryOut c)

end Scripted.Connection

namespace Scripted

/-- The connection of a name. -/
def get? (b : Scripted) (conn : Nat) : Option Scripted.Connection := b.connections.lookup conn

/-- The backend with another connection in place of the one of that name. -/
def put (b : Scripted) (conn : Nat) (k : Scripted.Connection) : Scripted :=
  { b with connections := b.connections.map fun e => if e.1 = conn then (conn, k) else e }

/-- The script of an attempt to connect, counted from one. -/
def scriptOf (b : Scripted) (attempt : Nat) : Script := (b.plan[attempt - 1]?).getD b.rest

/-- A backend with one open connection, which follows the given script. -/
def lone (conn : Nat) (target : Target) (s : Script) : Scripted where
  opened := 1
  connections := [(conn, .ofScript conn target s)]

/-- Attempt to open a connection. -/
def connect (conn : Nat) (target : Target) (b : Scripted) : Reply Unit × Scripted :=
  let script := b.scriptOf conn
  match script.refuse with
  | some fault => (⟨.error fault, script.delay .connect, []⟩, b)
  | none =>
    (⟨.ok (), script.delay .connect, []⟩,
      { b with
        opened := b.opened + 1
        connections := b.connections ++ [(conn, .ofScript conn target script)] })

/-- Ask a connection a question. -/
def ask (conn : Nat) (question : Question) (b : Scripted) : Reply Bool × Scripted :=
  match b.get? conn with
  | none => (⟨.error .closed, 0, []⟩, b)
  | some k => (⟨k.ask question, k.delay question.method, []⟩, b)

/-- Give a connection an order. The close of a connection that was not closed is counted. -/
def tell (conn : Nat) (command : Command) (b : Scripted) : Reply Unit × Scripted :=
  match b.get? conn with
  | none => (⟨.error .closed, 0, []⟩, b)
  | some k =>
    let took := k.delay command.method
    match k.tell command with
    | .error fault => (⟨.error fault, took, []⟩, b)
    | .ok after =>
      let closings := if after.closed && !k.closed then 1 else 0
      (⟨.ok (), took, []⟩, { b.put conn after with closed := b.closed + closings })

/-- What a test can do to the backend. -/
inductive Order
  /-- Alter the script of an open connection. -/
  | alter (conn : Nat) (changes : Amendment)
  /-- Let every later connection follow one script. -/
  | rest (script : Script)

/-- The backend after an order. -/
def obey (b : Scripted) : Order → Option (OrderReply × Scripted)
  | .alter conn changes => (b.get? conn).map fun k => (.done, b.put conn (k.amend changes))
  | .rest script => some (.done, { b with plan := [], rest := script })

instance : Bench Scripted where
  connect := connect
  ask := ask
  tell := tell
  hasNetworkTimeout := true
  Order := Order
  obey order b := obey b order
  opened := opened
  closed := closed

end Scripted

/-- A backend whose connections follow scripts and have no network timeout to set. -/
structure Plain where
  scripted : Scripted := {}

namespace Plain

/-- A call to the scripted backend. -/
def through {α : Type} (call : Scripted → α × Scripted) (b : Plain) : α × Plain :=
  let (a, scripted) := call b.scripted
  (a, ⟨scripted⟩)

instance : Bench Plain where
  connect conn target := through (Scripted.connect conn target)
  ask conn question := through (Scripted.ask conn question)
  tell conn command := through (Scripted.tell conn command)
  hasNetworkTimeout := false
  Order := Scripted.Order
  obey order b := (b.scripted.obey order).map fun r => (r.1, ⟨r.2⟩)
  opened b := b.scripted.opened
  closed b := b.scripted.closed

end Plain

end ConnPool
