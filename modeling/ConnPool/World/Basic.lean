import ConnPool.Pool.Acquire
import ConnPool.Pool.Return
import ConnPool.Pool.Reconfigure

/-!
# Worlds

A world holds pools and the callers' side of them: what became of each acquire, the interrupt
handles, and the raw connections that callers hold without a handle. The acquires that are blocked
in a wait stand in a list, in the order in which their waits began.

Callers refer to things by number. Acquires, interrupt handles, raw connections in callers' hands
and pools are each counted from zero.
-/

namespace ConnPool

/-- A pool and its backend. -/
structure Site (S : Type) where
  pool : Pool
  backend : S
  /-- Whether its owner let go of it. The handles that callers hold keep it alive. -/
  dropped : Bool := false

/-- What became of an acquire. -/
inductive Ticket
  /-- It is not over. -/
  | waiting
  /-- It failed. -/
  | failed (error : PoolError)
  /-- It ended with a handle, and the caller holds it. -/
  | held (site : Nat) (handle : Ref)
  /-- It ended with a handle, and the caller gave the handle up. -/
  | spent (site : Nat) (handle : Ref)

/-- An acquire that is over: what it knew in the end, and how it ended. -/
structure Ended where
  ticket : Nat
  site : Nat
  acquire : Acquire
  outcome : Except PoolError Ref

/-- What an acquire that is over came to. -/
def Ended.result (e : Ended) : Ticket :=
  match e.outcome with
  | .ok r => .held e.site r
  | .error error => .failed error

/-- A blocked acquire. -/
structure Waiter where
  ticket : Nat
  site : Nat
  /-- The flag that interrupts it. -/
  flag : Option Nat
  acquire : Acquire
  /-- When the wait began. -/
  began : Instant
  /-- When the wait ends by itself. -/
  deadline : Option Instant
  /-- Whether it has been woken and is about to run. -/
  woken : Bool := false

/-- A handle that interrupts the acquires that wait with it. Its clones share the flag. -/
structure Interrupt where
  site : Nat
  flag : Nat

/-- The text of an interrupt handle for a reader who debugs, given the state of its flag. -/
def Interrupt.describe (raised : Bool) : String :=
  Text.record "WaitInterrupt" [("interrupted", Text.truth raised)]

/-- Pools and what callers have of them. -/
structure World (S : Type) where
  env : Env := {}
  sites : List (Site S) := []
  tickets : List Ticket := []
  /-- The blocked acquires, in the order in which their waits began. -/
  waiters : List Waiter := []
  /-- The acquires that are over, latest first. -/
  ended : List Ended := []
  flags : List Bool := []
  interrupts : List Interrupt := []
  /-- The raw connections that callers hold without a handle, with the numbers of their pools. -/
  loose : List (Nat × Raw) := []

namespace World

variable {S : Type}

/-- The pool of a number, unless its owner let go of it. -/
def site? (w : World S) (n : Nat) : Option (Site S) := w.sites[n]?.filter (!·.dropped)

/-- Run an act on a pool, which may have been let go of. -/
def actOn {α : Type} (w : World S) (n : Nat) (act : Act S α) : Option (α × World S) :=
  w.sites[n]?.map fun site =>
    let (a, scene) := act ⟨⟨w.env, n, site.backend⟩, site.pool⟩
    (a, { w with
      env := scene.env
      sites := w.sites.set n { site with pool := scene.pool, backend := scene.backend } })

/-- The state of a flag; an acquire without a flag is never interrupted. -/
def isRaised (w : World S) (flag : Option Nat) : Bool :=
  (flag.bind fun f => w.flags[f]?).getD false

/-- The handle that a caller holds from an acquire, with the number of its pool. -/
def held? (w : World S) (ticket : Nat) : Option (Nat × Ref × Handle) :=
  match w.tickets[ticket]? with
  | some (.held n r) => w.sites[n]?.map fun site => (n, r, site.pool.handle r)
  | _ => none

/-- Whether an acquire is not over. -/
def isWaiting (w : World S) (ticket : Nat) : Bool :=
  match w.tickets[ticket]? with
  | some .waiting => true
  | _ => false

/-- The caller gives a handle up. -/
def spend (w : World S) (ticket site : Nat) (r : Ref) : World S :=
  { w with tickets := w.tickets.set ticket (.spent site r) }

/-- Write a notice to the log. -/
def note (w : World S) (n : Notice) : World S := { w with env := w.env.note n }

end World

end ConnPool
