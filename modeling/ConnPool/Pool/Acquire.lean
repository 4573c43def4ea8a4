import ConnPool.Pool.Care

/-!
# Acquiring a connection

An acquire looks for a candidate: the oldest idle connection, or else a new one if the pool is not
full, or else the oldest checkout if it has lasted too long. A candidate that is fit for use is
handed out. A bad one is discarded and the search goes on, until the acquire has met more bad
candidates than the settings allow. Where there is no candidate the acquire has to wait.

An acquire that waits is a value, `Acquire`: what it knows when it is woken. It runs in turns. A
turn goes from the start, or from being woken, to the end or the next wait, and no other operation
of the pool comes in between.
-/

namespace ConnPool

/-- What an acquire knows from one turn to the next. -/
structure Acquire where
  /-- The login to use in place of the target's own. -/
  login : Option (String × String)
  /-- When the acquire began. -/
  started : Instant
  /-- Whether it was counted among those that had to wait. -/
  waitCounted : Bool := false
  /-- When it first had to wait for a limited time. -/
  waitBegan : Option Instant := none
  /-- How many bad candidates it has met. -/
  bad : Nat := 0

/-- How a turn of an acquire ends. -/
inductive Turn
  /-- The acquire ends with a handle or an error. -/
  | done (acquire : Acquire) (outcome : Except PoolError Ref)
  /-- The acquire waits, at most for so long. -/
  | sleep (acquire : Acquire) (wait : Span)

/-- How long an acquire may wait that has waited for so long already, while the oldest checkout has
lasted for `oldest`. It is to be awake as soon as that checkout has lasted too long. There is no
answer when the time is used up. -/
def Settings.waitSpan (s : Settings) (waited : Span) (oldest : Option Span) : Option Span :=
  let budget := if s.indefiniteWait then max s.waitTimeout Span.milli else s.waitTimeout - waited
  if budget = 0 then none
  else match oldest with
    | none => some budget
    | some held => some (min budget (Span.satAdd (s.checkoutTimeout - held) Span.milli))

namespace Pool

variable {S : Type} [Backend S]

/-! ## Candidates -/

/-- Open a connection, set it to the defaults of its target, and wrap it. One that cannot be set to
them is closed. -/
def openNew (login : Option (String × String)) : Act S (Except PoolError Ref) := do
  let p ← look
  let target := p.target.withLogin login
  let conn := p.attempts + 1
  update fun p => { p with attempts := conn }
  match ← talk (Talk.connect conn target).run with
  | .error fault => return .error (.factory fault)
  | .ok () =>
    match ← talk (Talk.prepare conn target).run with
    | .error fault =>
      talk (Talk.dispose conn)
      return .error (.factory fault)
    | .ok () =>
      let r ← wrap conn target
      note (.opened (← handleAt r).raw.id)
      return .ok r

/-- How long the oldest checkout has lasted. -/
def oldestCheckout : Act S (Option Span) := do
  let p ← look
  let t ← now
  return p.active.head?.map fun r => (p.handle r).data.checkoutTime t

/-- Take the connection of the oldest checkout over, if the checkout has lasted too long. The caller
who holds it keeps a retired handle. -/
def takeOver : Act S (Option Ref) := do
  let p ← look
  match p.active with
  | [] => return none
  | r :: rest =>
    let h := p.handle r
    let held := h.data.checkoutTime (← now)
    if held ≤ p.settings.checkoutTimeout then return none
    else
      update fun p => { p with active := rest }
      count fun t => { t with
        claimed := t.claimed + 1
        overdueTime := t.overdueTime + held
        checkoutTime := t.checkoutTime + held }
      retire r .reclaimed
      if let .error fault ← talk (Talk.clearPending h.raw.conn).run then
        note (.claimedDirty h.raw.id fault)
      let fresh ← renew r
      note (.claimed h.raw.id held)
      return some fresh

/-- The next candidate, if there is one. -/
def nextCandidate (login : Option (String × String)) : Act S (Except PoolError (Option Ref)) := do
  let p ← look
  match p.idle with
  | r :: rest =>
    update fun p => { p with idle := rest }
    note (.idleTaken (p.handle r).raw.id)
    return .ok (some r)
  | [] =>
    if p.active.length < p.settings.maxActive then
      return (← openNew login).map some
    else return .ok (← takeOver)

/-! ## Turns -/

/-- Whether a candidate is fit to be handed out: it passes the probe, and nothing is left
pending. -/
def isFit (r : Ref) : Act S Bool := do
  if ← isSound r then isCleared r else return false

/-- Hand a connection out, bound to the url of the target and the login of the acquire. -/
def handOut (a : Acquire) (r : Ref) : Act S Unit := do
  let t ← now
  update fun p =>
    let p := p.withHandle r fun h =>
      { h with data := h.data.checkOut (p.target.withLogin a.login).endpoint t }
    { p with active := p.active ++ [r] }
  count fun tally => { tally with
    requests := tally.requests + 1
    requestTime := tally.requestTime + (t - a.started) }

/-- Get rid of a bad candidate. -/
def reject (r : Ref) : Act S Unit := do
  note (.candidateBad (← handleAt r).raw.id)
  count fun t => { t with bad := t.bad + 1 }
  scrap r

/-- The end of a turn that found no candidate: the acquire is counted as one that had to wait, and
waits, unless it is interrupted or its time is used up. -/
def wait (interrupted : Bool) (a : Acquire) : Act S Turn := do
  unless a.waitCounted do
    count fun t => { t with waits := t.waits + 1 }
  let a := { a with waitCounted := true }
  if interrupted then
    note .interrupted
    return .done a (.error .interrupted)
  let s := (← look).settings
  let t ← now
  let began := a.waitBegan.getD t
  match s.waitSpan (t - began) (← oldestCheckout) with
  | none =>
    note (.timedOut s.waitTimeout)
    return .done a (.error (.timeout s.waitTimeout))
  | some d =>
    note (.waiting d)
    let waitBegan := if s.indefiniteWait then a.waitBegan else some began
    return .sleep { a with waitBegan } d

/-- Look for a connection, putting up with `tolerated` more bad candidates. -/
def search (interrupted : Bool) : Nat → Acquire → Act S Turn
  | tolerated, a => do
    if (← look).closed then return .done a (.error .closed)
    match ← nextCandidate a.login with
    | .error e => return .done a (.error e)
    | .ok none => wait interrupted a
    | .ok (some r) =>
      if ← isFit r then
        handOut a r
        return .done a (.ok r)
      else
        reject r
        let a := { a with bad := a.bad + 1 }
        match tolerated with
        | 0 =>
          note (.gaveUp a.bad)
          return .done a (.error (.exhausted a.bad))
        | tolerated + 1 => search interrupted tolerated a

/-- Look for a connection, as long as the settings allow. -/
def serve (interrupted : Bool) (a : Acquire) : Act S Turn := do
  search interrupted ((← look).settings.badLimit - a.bad) a

/-- The first turn of an acquire. -/
def begin (interrupted : Bool) (login : Option (String × String)) : Act S Turn := do
  serve interrupted { login, started := ← now }

/-- The turn of an acquire that is woken after it began to wait at an instant. -/
def resume (interrupted : Bool) (waitedSince : Instant) (a : Acquire) : Act S Turn := do
  let t ← now
  count fun tally => { tally with waitTime := tally.waitTime + (t - waitedSince) }
  if interrupted then
    note .interrupted
    return .done a (.error .interrupted)
  serve interrupted a

end Pool

end ConnPool
