import ConnPool.Pool.Care

/-!
# Returning a connection

A returned connection that is fit for use goes back to the idle list under a new handle, if the pool
is open, has room for it, and expects the endpoint it is bound to; otherwise it is closed. One that
is not fit is discarded. A retired handle owns nothing, so returning it only counts as one more bad
connection.

A caller can also keep a connection: `detach` takes it out of the pool.
-/

namespace ConnPool.Pool

variable {S : Type} [Backend S]

/-- Whether a returned connection that is fit for use has a place in the idle list. -/
def keeps (p : Pool) (r : Ref) : Bool :=
  !p.closed && decide (p.idle.length < p.settings.maxIdle) &&
    (p.handle r).data.endpoint == p.expected

/-- Put a connection into the idle list under a new handle. -/
def store (r : Ref) : Act S Unit := do
  let fresh ← renew r
  update (·.withHandle fresh fun h => { h with data := h.data.rest })
  retire r .invalid
  note (.returned (← handleAt fresh).raw.id)
  update fun p => { p with idle := p.idle ++ [fresh] }

/-- Close a connection that has no place in the idle list. -/
def closeReturned (r : Ref) : Act S Unit := do
  let h ← handleAt r
  retire r .closed
  talk (Talk.dispose h.raw.conn)
  note (.closedOnReturn h.raw.id)

/-- Return a handle. -/
def release (r : Ref) : Act S Unit := do
  update fun p => { p with active := p.active.erase r }
  if ← isSound r then
    let t ← now
    let h ← handleAt r
    count fun tally => { tally with checkoutTime := tally.checkoutTime + h.data.checkoutTime t }
    let clean ← isCleared r
    if clean && (← look).keeps r then store r else closeReturned r
  else
    let h ← handleAt r
    note (.returnedBad h.raw.id)
    count fun t => { t with bad := t.bad + 1 }
    if h.valid then scrap r

/-- Take the connection of a handle out of the pool, and tell whether the handle still owned it. -/
def detach (r : Ref) : Act S Bool := do
  let p ← look
  let owned := p.active.contains r && (p.handle r).valid
  update fun p => { p with active := p.active.erase r }
  if owned then
    retire r .invalid
    note (.detached (p.handle r).raw.id)
  return owned

end ConnPool.Pool
