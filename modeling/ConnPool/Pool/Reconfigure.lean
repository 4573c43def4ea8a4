import ConnPool.Pool.Care

/-!
# Reconfiguration and shutdown

A `Change` names the settings, or the parts of the target, that are to be set. It is carried out as
a whole or not at all: settings that are not fit for use are refused, and nothing changes. After a
change every connection of the pool is given up, so that all later ones are opened for the new
target.
-/

namespace ConnPool

/-- What a pool can be told to set. -/
inductive Change
  | settings (value : Settings)
  | target (value : Target)
  | maxActive (value : Nat)
  | maxIdle (value : Nat)
  | checkoutTimeout (value : Span)
  | waitTimeout (value : Span)
  | badTolerance (value : Nat)
  | pingEnabled (value : Bool)
  | pingQuery (value : String)
  | pingThreshold (value : Span)
  | url (value : String)
  | credentials (username password : String)
  | autoCommit (value : Bool)
  | isolation (value : Isolation)
  | networkTimeout (value : Span)
  deriving DecidableEq

namespace Change

/-- The settings after a change. -/
def onSettings (s : Settings) : Change → Settings
  | settings v => v
  | maxActive v => { s with maxActive := v }
  | maxIdle v => { s with maxIdle := v }
  | checkoutTimeout v => { s with checkoutTimeout := v }
  | waitTimeout v => { s with waitTimeout := v }
  | badTolerance v => { s with badTolerance := v }
  | pingEnabled v => { s with pingEnabled := v }
  | pingQuery v => { s with pingQuery := v }
  | pingThreshold v => { s with pingThreshold := v }
  | _ => s

/-- The target after a change. -/
def onTarget (t : Target) : Change → Target
  | target v => v
  | url v => { t with url := v }
  | credentials username password =>
    { t with username := some username, password := some password }
  | autoCommit v => { t with autoCommit := some v }
  | isolation v => { t with isolation := some v }
  | networkTimeout v => { t with networkTimeout := some v }
  | _ => t

end Change

namespace Pool

variable {S : Type} [Backend S]

/-- Carry out a change, if the settings that it leads to are fit for use. -/
def change (c : Change) : Act S (Except PoolError Unit) := do
  let p ← look
  match (c.onSettings p.settings).problem? with
  | some cause => return .error (.configuration cause)
  | none =>
    update fun p =>
      { p with settings := c.onSettings p.settings, target := c.onTarget p.target }
    drain
    return .ok ()

/-- Shut the pool down for good, and tell whether it was open. -/
def shutDown : Act S Bool := do
  if (← look).closed then return false
  else
    update fun p => { p with closed := true }
    drain
    note .shutDown
    return true

end Pool

end ConnPool
