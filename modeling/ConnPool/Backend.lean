import ConnPool.Journal

/-!
# Backends

A backend opens connections and answers for them. The pool knows nothing else about it: each call
yields an answer or a fault, may take time and may leave notices in the log. What holds for every
`Backend` holds for every pattern of answers and faults, since the state of a backend is arbitrary.

A `Line` is a backend together with the clock and the journal, and a `Talk` is a computation on it.
The calls that can fail are computations in `Attempt`, which stop at the first fault.
-/

namespace ConnPool

/-- The answer to a call, the time it took and what it left in the log. -/
structure Reply (α : Type) where
  outcome : Except Fault α
  took : Span := 0
  notices : List Notice := []

/-- What opens connections and answers for them. A connection is named by the number of the attempt
that opened it. -/
class Backend (S : Type) where
  /-- Attempt to open a connection under a name. -/
  connect : Nat → Target → S → Reply Unit × S
  /-- Ask a connection a question. -/
  ask : Nat → Question → S → Reply Bool × S
  /-- Give a connection an order. -/
  tell : Nat → Command → S → Reply Unit × S
  /-- Whether connections have a network timeout to set. -/
  hasNetworkTimeout : Bool

/-- Whether the connections of a backend take an order. One that they do not take is left out and
counts as carried out. -/
def Backend.takes (S : Type) [Backend S] : Command → Bool
  | .setNetworkTimeout _ => hasNetworkTimeout S
  | _ => true

/-- What is answered to an order to the backend itself. -/
inductive OrderReply
  | done
  | counts (opened closed openNow : Nat)
  deriving DecidableEq, Repr

/-- A backend that can also be handled from outside: it counts its connections and takes orders of
its own. -/
class Bench (S : Type) extends Backend S where
  /-- Orders to the backend. -/
  Order : Type
  /-- Carry out an order, if it can be carried out. -/
  obey : Order → S → Option (OrderReply × S)
  /-- How many connections were opened so far. -/
  opened : S → Nat
  /-- How many connections were closed so far. -/
  closed : S → Nat

/-! ## Lines -/

/-- The clock, the numbers that are given out next, and the journal, newest entry first. -/
structure Env where
  now : Instant := 0
  nextRaw : Nat := 1
  nextHandle : Nat := 1
  calls : List Call := []
  notices : List Notice := []

/-- Write a notice to the log. -/
def Env.note (e : Env) (n : Notice) : Env := { e with notices := n :: e.notices }

/-- A call was made: it is recorded, the time it took passes, and its notices are written. -/
def Env.hear (e : Env) (call : Call) (took : Span) (notices : List Notice) : Env :=
  { e with
    now := e.now + took
    calls := call :: e.calls
    notices := notices.reverse ++ e.notices }

/-- A backend, the number of its pool, and what surrounds it. -/
structure Line (S : Type) where
  env : Env
  site : Nat
  backend : S

/-- A computation that talks to a backend. -/
abbrev Talk (S : Type) := StateM (Line S)

/-- A computation that talks to a backend and stops at the first fault. -/
abbrev Attempt (S : Type) := ExceptT Fault (Talk S)

namespace Talk

variable {S : Type}

/-- The time. -/
def now : Talk S Instant := return (← get).env.now

/-- Write a notice to the log. -/
def note (n : Notice) : Talk S Unit := modify fun l => { l with env := l.env.note n }

/-- Make a call and record it. -/
def exchange {α : Type} (conn : Nat) (deed : Except Fault α → Deed) (call : S → Reply α × S) :
    Attempt S α :=
  ExceptT.mk do
    let l ← get
    let (reply, backend) := call l.backend
    let env := l.env.hear ⟨l.site, conn, deed reply.outcome⟩ reply.took reply.notices
    set { l with backend, env }
    return reply.outcome

variable [Backend S]

/-- Attempt to open a connection. -/
def connect (conn : Nat) (target : Target) : Attempt S Unit :=
  exchange conn (.connect target) (Backend.connect conn target)

/-- Ask a connection a question. -/
def ask (conn : Nat) (question : Question) : Attempt S Bool :=
  exchange conn (.ask question) (Backend.ask conn question)

/-- Give a connection an order. -/
def tell (conn : Nat) (command : Command) : Attempt S Unit :=
  if Backend.takes S command then exchange conn (.tell command) (Backend.tell conn command)
  else return ()

/-- Roll back what is pending on a connection that does not commit by itself. -/
def clearPending (conn : Nat) : Attempt S Unit := do
  unless ← ask conn .autoCommit do
    tell conn .rollback

/-- Close a connection; a fault goes to the log only. -/
def dispose (conn : Nat) : Talk S Unit := do
  if let .error fault ← (tell conn .close).run then
    note (.closeFailed fault)

/-- Set a new connection to the defaults of its target. -/
def prepare (conn : Nat) (target : Target) : Attempt S Unit := do
  if let some on := target.autoCommit then
    tell conn (.setAutoCommit on)
  if let some level := target.isolation then
    tell conn (.setIsolation level)
  if let some timeout := target.networkTimeout then
    tell conn (.setNetworkTimeout timeout)

end Talk

end ConnPool
