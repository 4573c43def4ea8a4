import ConnPool.World.Basic

/-!
# The schedule of blocked acquires

One thing runs at a time: an operation, or a turn of an acquire. Waking an acquire only marks it; it
runs when the operation that woke it is over. `settle` runs the acquires that were woken, in the
order in which their waits began, and those whose deadline has passed, earliest deadline first,
until none is left. `drive` and `advance` let time pass from deadline to deadline.
-/

namespace ConnPool.World

variable {S : Type} [Backend S]

/-- An acquire is over. -/
def finish (w : World S) (e : Ended) : World S :=
  { w with tickets := w.tickets.set e.ticket e.result, ended := e :: w.ended }

/-- Run a turn of an acquire. One that has to wait again goes to the end of the list. -/
def play (w : World S) (ticket site : Nat) (flag : Option Nat) (turn : Bool → Act S Turn) :
    World S :=
  match w.actOn site (turn (w.isRaised flag)) with
  | none => w
  | some (.done acquire outcome, w) => w.finish { ticket, site, acquire, outcome }
  | some (.sleep acquire wait, w) =>
    let began := w.env.now
    { w with
      waiters := w.waiters ++
        [{ ticket, site, flag, acquire, began, deadline := Instant.deadline began wait }] }

/-- Run the next turn of a blocked acquire. -/
def resume (w : World S) (v : Waiter) : World S :=
  { w with waiters := w.waiters.filter (·.ticket != v.ticket) }.play v.ticket v.site v.flag
    fun raised => Pool.resume raised v.began v.acquire

/-- Wake every acquire that waits for a pool. -/
def wakeAll (w : World S) (site : Nat) : World S :=
  { w with waiters := w.waiters.map fun v => if v.site = site then { v with woken := true } else v }

/-- The blocked acquire with the earliest deadline; of several, the one whose wait began first. -/
def earliest : List Waiter → Option (Instant × Waiter)
  | [] => none
  | v :: rest =>
    match v.deadline, earliest rest with
    | none, later => later
    | some d, none => some (d, v)
    | some d, some (e, u) => if e < d then some (e, u) else some (d, v)

/-! ## Settling -/

/-- The blocked acquire to run next, if there is one that was woken or whose deadline has
passed. -/
def next (w : World S) : Option Waiter :=
  match w.waiters.find? (·.woken) with
  | some v => some v
  | none => ((earliest w.waiters).filter (·.1 ≤ w.env.now)).map (·.2)

/-- Run blocked acquires one after another, at most so many turns. -/
def settleWithin : Nat → World S → World S
  | 0, w => w
  | turns + 1, w =>
    match w.next with
    | none => w
    | some v => settleWithin turns (w.resume v)

/-- How many connections the pools hold. -/
def connectionCount (w : World S) : Nat :=
  w.sites.foldr (fun s n => s.pool.idle.length + s.pool.active.length + n) 0

/-- More turns than it takes to settle. Each turn ends an acquire; or leaves its pool with fewer
connections; or takes no time and leaves one acquire fewer to run. -/
def settleBound (w : World S) : Nat :=
  (w.waiters.length + 1) * (w.connectionCount + w.waiters.length + 1) * (w.waiters.length + 1)

/-- Run blocked acquires until none is left that was woken or whose deadline has passed. -/
def settle (w : World S) : World S := settleWithin w.settleBound w

/-! ## Passing time -/

/-- Let the clock go on to an instant. It never goes back. -/
def passTo (w : World S) (t : Instant) : World S := { w with env.now := max w.env.now t }

/-- Let a blocked acquire run at its deadline. -/
def fire (w : World S) (deadline : Instant) (v : Waiter) : World S :=
  ((w.passTo deadline).resume v).settle

/-- Let deadlines pass, at most so many, until an acquire is over. -/
def driveWithin (ticket : Nat) : Nat → World S → World S
  | 0, w => w
  | firings + 1, w =>
    if w.isWaiting ticket then
      match earliest w.waiters with
      | none => w
      | some (d, v) => driveWithin ticket firings (w.fire d v)
    else w

/-- How many deadlines may pass before an acquire is left pending. -/
def driveLimit : Nat := 1000

/-- Let time pass until an acquire is over, or nothing is left that time can do for it. -/
def drive (w : World S) (ticket : Nat) : World S := driveWithin ticket driveLimit w

/-- Let the deadlines up to an instant pass, at most so many. -/
def passWithin (limit : Instant) : Nat → World S → World S
  | 0, w => w
  | firings + 1, w =>
    match earliest w.waiters with
    | none => w
    | some (d, v) => if d ≤ limit then passWithin limit firings (w.fire d v) else w

/-- Let time pass. Every deadline that passes takes at least a nanosecond of it. -/
def advance (w : World S) (d : Span) : World S :=
  let limit := w.env.now + d
  (passWithin limit (d + 1) w).passTo limit

end ConnPool.World
