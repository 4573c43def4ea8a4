import ConnPool.Target

/-!
# Handle metadata

What is known about a handle: who it is, which raw connection it stands for, the times of its life
and its state. A raw connection goes through many handles; `Metadata.renew` starts the next one
and keeps what belongs to the raw connection.
-/

namespace ConnPool

/-- The state of a handle. -/
inductive HandleState
  /-- Wrapped, and not handed out yet. -/
  | created
  /-- In the idle list. -/
  | idle
  /-- Handed out. -/
  | active
  /-- Its raw connection was closed. -/
  | closed
  /-- Taken from a caller who held it for too long. -/
  | reclaimed
  /-- Returned, found bad, or detached. -/
  | invalid
  deriving DecidableEq, Repr, Inhabited

namespace HandleState

/-- The name of a state as it is reported. -/
def name : HandleState → String
  | created => "Created"
  | idle => "Idle"
  | active => "Active"
  | closed => "Closed"
  | reclaimed => "Reclaimed"
  | invalid => "Invalid"

/-- All states. -/
def all : List HandleState := [created, idle, active, closed, reclaimed, invalid]

theorem mem_all (s : HandleState) : s ∈ all := by cases s <;> simp [all]

/-- The state with a given reported name. -/
def ofName? (s : String) : Option HandleState := all.find? fun t => t.name == s

theorem ofName?_name (s : HandleState) : ofName? s.name = some s := by cases s <;> decide

/-- Whether the connection waits to be checked out. -/
def isAvailable : HandleState → Bool
  | idle => true
  | _ => false

/-- Whether the handle can never be used again. -/
def isTerminal : HandleState → Bool
  | closed | reclaimed | invalid => true
  | _ => false

end HandleState

/-- What is known about a handle. -/
structure Metadata where
  /-- The number of the handle. -/
  id : Nat
  /-- The number of the raw connection, the same for all its handles. -/
  rawId : Nat
  /-- When the raw connection was wrapped first. -/
  createdAt : Instant
  /-- When the raw connection was last handed out, or else wrapped. -/
  lastUsedAt : Instant
  /-- When the checkout that lasts began. -/
  checkoutAt : Option Instant
  /-- How often the raw connection was handed out. -/
  checkoutCount : Nat
  /-- The endpoint that the connection is bound to. -/
  endpoint : Endpoint
  state : HandleState
  deriving DecidableEq, Inhabited

namespace Metadata

/-- The metadata of the first handle of a raw connection. -/
def first (id rawId : Nat) (endpoint : Endpoint) (now : Instant) : Metadata where
  id
  rawId
  createdAt := now
  lastUsedAt := now
  checkoutAt := none
  checkoutCount := 0
  endpoint
  state := .created

/-- The metadata of the next handle of the same raw connection. -/
def renew (m : Metadata) (id : Nat) : Metadata :=
  { m with id, checkoutAt := none, state := .created }

/-- The handle is handed out for an endpoint. -/
def checkOut (m : Metadata) (endpoint : Endpoint) (now : Instant) : Metadata :=
  { m with
    checkoutAt := some now
    lastUsedAt := now
    checkoutCount := m.checkoutCount + 1
    endpoint
    state := .active }

/-- The handle goes into the idle list. -/
def rest (m : Metadata) : Metadata := { m with checkoutAt := none, state := .idle }

/-- How long ago the raw connection was wrapped. -/
def age (m : Metadata) (now : Instant) : Span := now - m.createdAt

/-- How long ago the raw connection was handed out. -/
def unusedFor (m : Metadata) (now : Instant) : Span := now - m.lastUsedAt

/-- How long the checkout has lasted; zero for a handle that is not checked out. -/
def checkoutTime (m : Metadata) (now : Instant) : Span :=
  match m.checkoutAt with
  | some start => now - start
  | none => 0

end Metadata

end ConnPool
