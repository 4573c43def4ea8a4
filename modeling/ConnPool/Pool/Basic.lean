import ConnPool.Metadata
import ConnPool.Probe
import ConnPool.Status

/-!
# Pools

A pool keeps a table of all handles it ever gave out, and two lists of handles that own a raw
connection: `active`, those that callers hold, oldest checkout first, and `idle`, those that wait to
be handed out, oldest return first. Between two operations a handle is valid just as long as it is
in one of the lists; when a raw connection passes on, its handle is retired and a new one made.

A `Scene` is a pool with its backend, the clock and the journal, and an `Act` is a computation on
it. All operations of a pool are acts; each runs to its end before another one starts.
-/

namespace ConnPool

/-- A raw connection: its number, its name at the backend, and the target it was opened for. -/
structure Raw where
  id : Nat
  conn : Nat
  target : Target
  deriving Inhabited

/-- A handle around a raw connection. Only a valid handle owns its connection. -/
structure Handle where
  raw : Raw
  valid : Bool
  data : Metadata
  deriving Inhabited

/-- The place of a handle in the table of its pool. -/
abbrev Ref := Nat

/-- A connection pool. -/
structure Pool where
  settings : Settings
  target : Target
  /-- The endpoint that a returned connection must be bound to if it is to be kept. -/
  expected : Endpoint
  /-- The handles that wait to be handed out, oldest return first. -/
  idle : List Ref := []
  /-- The handles that callers hold, oldest checkout first. -/
  active : List Ref := []
  closed : Bool := false
  tally : Tally := {}
  /-- All handles that were ever made. -/
  handles : List Handle := []
  /-- How often the backend was asked to connect. -/
  attempts : Nat := 0
  deriving Inhabited

namespace Pool

/-- A pool with nothing in it. -/
def empty (settings : Settings) (target : Target) : Pool where
  settings
  target
  expected := target.endpoint

/-- The handle at a place; a retired one where there is none. -/
def handle (p : Pool) (r : Ref) : Handle := p.handles.getD r default

/-- The pool with the handle at a place changed. -/
def withHandle (p : Pool) (r : Ref) (f : Handle → Handle) : Pool :=
  { p with handles := p.handles.modify r f }

/-- What the pool reports of itself. -/
def status (p : Pool) : Status := p.tally.status p.settings p.active.length p.idle.length

/-- The text of a pool for a reader who debugs. -/
def describe (p : Pool) : String :=
  Text.record "Pool" [
    ("target", p.target.describe),
    ("config", p.settings.describe),
    ("active", toString p.active.length),
    ("idle", toString p.idle.length),
    ("closed", Text.truth p.closed)]

end Pool

namespace Handle

/-- The text of a handle for a reader who debugs. -/
def describe (h : Handle) : String :=
  Text.record "PooledConnection" [
    ("id", toString h.data.id), ("raw_id", toString h.raw.id), ("valid", Text.truth h.valid)]

/-- The handle, retired for good. -/
def retire (h : Handle) (state : HandleState) : Handle :=
  { h with valid := false, data.state := state }

end Handle

/-- The text of a raw connection for a reader who debugs. -/
def Raw.describe (r : Raw) : String := Text.record "RawConnection" [("id", toString r.id)]

/-! ## Acts -/

/-- A pool, its backend, and what surrounds them. -/
structure Scene (S : Type) extends Line S where
  pool : Pool

/-- A computation on a pool. -/
abbrev Act (S : Type) := StateM (Scene S)

namespace Pool

variable {S : Type}

/-- Talk to the backend of the pool. -/
def talk {α : Type} (t : Talk S α) : Act S α := fun s =>
  let (a, line) := t s.toLine
  (a, { s with toLine := line })

/-- The time. -/
def now : Act S Instant := return (← get).env.now

/-- Write a notice to the log. -/
def note (n : Notice) : Act S Unit := talk (Talk.note n)

/-- The pool as it stands. -/
def look : Act S Pool := return (← get).pool

/-- Change the pool. -/
def update (f : Pool → Pool) : Act S Unit := modify fun s => { s with pool := f s.pool }

/-- Change the running counts. -/
def count (f : Tally → Tally) : Act S Unit := update fun p => { p with tally := f p.tally }

/-- The handle at a place. -/
def handleAt (r : Ref) : Act S Handle := return (← look).handle r

/-- Retire a handle. -/
def retire (r : Ref) (state : HandleState) : Act S Unit :=
  update (·.withHandle r (·.retire state))

/-- Put a new, valid handle around a raw connection at the end of the table. -/
def addHandle (raw : Raw) (data : Nat → Metadata) : Act S Ref := do
  let s ← get
  let r := s.pool.handles.length
  let handle : Handle := ⟨raw, true, data s.env.nextHandle⟩
  set { s with
    env.nextHandle := s.env.nextHandle + 1
    pool.handles := s.pool.handles ++ [handle] }
  return r

/-- Wrap a new connection. It gets a number of its own and its first handle. -/
def wrap (conn : Nat) (target : Target) : Act S Ref := do
  let s ← get
  let id := s.env.nextRaw
  set { s with env.nextRaw := id + 1 }
  addHandle ⟨id, conn, target⟩ fun handle => .first handle id target.endpoint s.env.now

/-- Put a new handle around the raw connection of a handle. -/
def renew (r : Ref) : Act S Ref := do
  let h ← handleAt r
  addHandle h.raw h.data.renew

end Pool

end ConnPool
