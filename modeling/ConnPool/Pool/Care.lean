import ConnPool.Pool.Basic

/-!
# Care of connections

The steps that acquiring, returning and draining have in common: judging whether a connection is fit
for use, rolling back what a caller left pending, and getting rid of a connection. None of them
reports a fault to the caller; faults go to the log and decide what becomes of the connection.
-/

namespace ConnPool.Pool

variable {S : Type} [Backend S]

/-- Whether a handle is valid and its connection passes the probe. A retired handle is not probed.
-/
def isSound (r : Ref) : Act S Bool := do
  let h ← handleAt r
  if h.valid then
    let probe := Probe.ofSettings (← look).settings
    let verdict ← talk (probe.examine h.raw.conn (h.data.unusedFor (← now)))
    unless verdict.healthy do
      note (.unhealthy h.raw.id (verdict.error.getD ""))
    return verdict.healthy
  else return false

/-- Roll back what is pending on a connection, and tell whether that went well. -/
def isCleared (r : Ref) : Act S Bool := do
  let h ← handleAt r
  match ← talk (Talk.clearPending h.raw.conn).run with
  | .ok () => return true
  | .error fault =>
    note (.rollbackFailed h.raw.id fault)
    return false

/-- Retire the handle of a bad connection, and close the connection unless it says that it is
closed. -/
def scrap (r : Ref) : Act S Unit := do
  let h ← handleAt r
  retire r .invalid
  match ← talk (Talk.ask h.raw.conn .isClosed).run with
  | .ok true => return ()
  | _ => talk (Talk.dispose h.raw.conn)

/-- Retire a handle that the pool gives up, roll back what is pending, and close the connection
whether or not that went well. -/
def giveUp (r : Ref) : Act S Unit := do
  let h ← handleAt r
  retire r .closed
  let _ ← isCleared r
  talk (Talk.dispose h.raw.conn)

/-- Give up every connection, the checked out ones first and each list from its newest entry to its
oldest. What is returned later must be bound to the present target. -/
def drain : Act S Unit := do
  let p ← look
  update fun p => { p with expected := p.target.endpoint, active := [], idle := [] }
  (p.active.reverse ++ p.idle.reverse).forM giveUp
  note (.drained p.active.length p.idle.length)

end ConnPool.Pool
