import ConnPool.Properties.Reader
import ConnPool.World.Schedule

/-!
# Steps

What callers can do, one step at a time. `World.run` carries a step out and lets the acquires that
it wakes run before the next one. A step that refers to something that is not there, such as a
handle that was given up, cannot be carried out: it has no answer and changes nothing.

An `Action` is a step that takes effect before any blocked acquire runs, so several of them can be
put together into a batch.
-/

namespace ConnPool

/-- A call that a handle offers itself. -/
inductive HandleCall
  | isClosed
  | autoCommit
  | setAutoCommit (on : Bool)
  | commit
  | rollback
  | execute (statement : String)
  deriving DecidableEq, Repr

/-- What a caller does with a raw connection, given the orders that the backend takes. -/
inductive Use (Order : Type)
  | ask (question : Question)
  | tell (command : Command)
  /-- Give the backend an order about the connection. -/
  | order (order : Nat → Order)
  /-- Look at the connection from outside. -/
  | look

/-- What a call of a handle does with its connection. -/
def HandleCall.use {Order : Type} : HandleCall → Use Order
  | .isClosed => .ask .isClosed
  | .autoCommit => .ask .autoCommit
  | .setAutoCommit on => .tell (.setAutoCommit on)
  | .commit => .tell .commit
  | .rollback => .tell .rollback
  | .execute statement => .tell (.execute statement)

/-- What an acquire asks for. -/
inductive Demand
  /-- A connection for the login of the target. -/
  | ordinary
  /-- A connection for another login. -/
  | loggedIn (username password : String)
  /-- A connection for the login of the target, unless an interrupt handle is raised during the
  wait. -/
  | interruptible (i : Nat)
  deriving DecidableEq, Repr

/-- A step that takes effect before any blocked acquire runs. -/
inductive Action (Order : Type)
  /-- Return a handle, or drop it. -/
  | release (ticket : Nat)
  | detach (ticket : Nat)
  | interrupt (i : Nat)
  | reset (i : Nat)
  | change (site : Nat) (change : Change)
  | forceClose (site : Nat)
  | shutDown (site : Nat)
  | order (site : Nat) (order : Order)

/-- What callers can do. -/
inductive Step (S Order : Type)
  /-- Make a pool. -/
  | create (backend : S) (source : Properties.Source)
  /-- Make a pool from a property text. -/
  | createFrom (backend : S) (text : String)
  /-- Acquire a connection, and let time pass for it or not. -/
  | acquire (site : Nat) (demand : Demand) (wait : Bool)
  | act (action : Action Order)
  /-- Several actions in a row. One that makes no sense stands as nothing. -/
  | batch (actions : List (Option (Action Order)))
  | advance (time : Span)
  /-- A call that the handle offers itself. -/
  | call (ticket : Nat) (call : HandleCall)
  /-- Use the connection of a handle, as long as the handle is valid. -/
  | withConnection (ticket : Nat) (use : Use Order)
  /-- Take the raw connection of a handle, valid or not. -/
  | rawConnection (ticket : Nat)
  /-- Use a raw connection past the pool. -/
  | useRaw (slot : Nat) (use : Use Order)
  | interruptHandle (site : Nat)
  | cloneInterrupt (i : Nat)
  /-- Let go of a pool. -/
  | dropPool (site : Nat)

/-- The answer to one thing that a caller does. -/
inductive Answer
  | done
  | truth (value : Bool)
  | fault (fault : Fault)
  | refused (error : PoolError)
  | pool (site : Nat)
  /-- A handle, with the acquire it came from and its own numbers. -/
  | lease (ticket id raw : Nat)
  /-- The acquire is not over. -/
  | pending (ticket : Nat)
  /-- A raw connection in the caller's hands. -/
  | loose (slot raw : Nat)
  | interrupt (i : Nat)
  | counts (opened closed openNow : Nat)
  /-- The connection to look at. -/
  | sight (site conn : Nat)

/-- The answer to a step: one answer, or one for each action of a batch that could be carried
out. -/
inductive Outcome
  | single (answer : Answer)
  | batch (answers : List (Option Answer))

namespace World

variable {S : Type}

/-! ## Pools -/

/-- Make a pool, if the settings are fit for use. -/
def create (w : World S) (backend : S) (source : Properties.Source) : Answer × World S :=
  match source.settings.problem? with
  | some cause => (.refused (.configuration cause), w)
  | none =>
    let s := source.settings
    let w := w.note (.poolCreated source.target.url s.maxActive s.maxIdle)
    (.pool w.sites.length,
      { w with sites := w.sites ++ [{ pool := .empty s source.target, backend }] })

/-- Make a pool from a property text. -/
def createFrom (w : World S) (backend : S) (text : String) : Answer × World S :=
  let reading := Properties.read text
  let w := reading.ignored.foldl (fun w key => w.note (.keyIgnored key)) w
  match reading.outcome with
  | .error cause => (.refused (.configuration cause), w)
  | .ok source => w.create backend source

/-- Whether an acquire waits for a pool. -/
def hasWaiter (w : World S) (site : Nat) : Bool := w.waiters.any (·.site == site)

/-- Let go of a pool. This cannot be done while an acquire waits for it. -/
def dropPool (w : World S) (n : Nat) : Option (World S) :=
  match w.site? n with
  | none => none
  | some site =>
    if w.hasWaiter n then none
    else some { w with sites := w.sites.set n { site with dropped := true } }

/-! ## Interrupt handles -/

/-- Make an interrupt handle for a pool. -/
def interruptHandle (w : World S) (n : Nat) : Option (Nat × World S) :=
  (w.site? n).map fun _ =>
    (w.interrupts.length,
      { w with
        interrupts := w.interrupts ++ [⟨n, w.flags.length⟩]
        flags := w.flags ++ [false] })

/-- Make another handle with the same flag. -/
def cloneInterrupt (w : World S) (i : Nat) : Option (Nat × World S) :=
  w.interrupts[i]?.map fun interrupt =>
    (w.interrupts.length, { w with interrupts := w.interrupts ++ [interrupt] })

/-- Whether an interrupt handle was raised. -/
def isInterrupted? (w : World S) (i : Nat) : Option Bool :=
  w.interrupts[i]?.map fun interrupt => w.isRaised (some interrupt.flag)

/-- Set the flag of an interrupt handle. -/
def setFlag (w : World S) (interrupt : Interrupt) (on : Bool) : World S :=
  { w with flags := w.flags.set interrupt.flag on }

/-! ## Acquires -/

/-- The answer that the caller of an acquire has by now. -/
def answerOf (w : World S) (ticket : Nat) : Answer :=
  match w.tickets[ticket]?, w.held? ticket with
  | some (.failed e), _ => .refused e
  | _, some (_, _, h) => .lease ticket h.data.id h.raw.id
  | _, _ => .pending ticket

variable [Bench S]

/-- Start an acquire, with another login or with a flag that interrupts it. -/
def start (w : World S) (site : Nat) (login : Option (String × String)) (flag : Option Nat) :
    World S :=
  let ticket := w.tickets.length
  { w with tickets := w.tickets ++ [Ticket.waiting] }.play ticket site flag
    fun raised => Pool.begin raised login

/-- Start an acquire that is refused before it comes to the pool. -/
def refuse (w : World S) (site : Nat) (e : PoolError) : World S :=
  { w with tickets := w.tickets ++ [Ticket.waiting] }.finish
    { ticket := w.tickets.length
      site
      acquire := { login := none, started := w.env.now }
      outcome := .error e }

/-- Start the acquire that a demand asks for. An interrupt handle of another pool is refused at
once. -/
def demand (w : World S) (site : Nat) : Demand → Option (World S)
  | .ordinary => some (w.start site none none)
  | .loggedIn username password => some (w.start site (some (username, password)) none)
  | .interruptible i =>
    w.interrupts[i]?.map fun interrupt =>
      if interrupt.site = site then w.start site none (some interrupt.flag)
      else w.refuse site (.configuration .foreignInterrupt)

/-- Acquire a connection. -/
def acquire (w : World S) (site : Nat) (d : Demand) (wait : Bool) : Option (Answer × World S) :=
  (w.demand site d).map fun started =>
    let settled := started.settle
    let after := if wait then settled.drive w.tickets.length else settled
    (after.answerOf w.tickets.length, after)

/-! ## Connections in callers' hands -/

/-- Use a raw connection. -/
def use (w : World S) (site conn : Nat) : Use (Bench.Order S) → Option (Answer × World S)
  | .ask question =>
    (w.actOn site (Pool.talk (Talk.ask conn question).run)).map fun (outcome, w) =>
      match outcome with
      | .ok value => (.truth value, w)
      | .error fault => (.fault fault, w)
  | .tell command =>
    (w.actOn site (Pool.talk (Talk.tell conn command).run)).map fun (outcome, w) =>
      match outcome with
      | .ok () => (.done, w)
      | .error fault => (.fault fault, w)
  | .order order =>
    w.sites[site]?.bind fun s =>
      (Bench.obey (order conn) s.backend).map fun (_, backend) =>
        (.done, { w with sites := w.sites.set site { s with backend } })
  | .look => some (.sight site conn, w)

/-- Use the connection of a handle. A retired handle refuses, and its connection is not called. -/
def withConnection (w : World S) (ticket : Nat) (u : Use (Bench.Order S)) :
    Option (Answer × World S) :=
  (w.held? ticket).bind fun (site, _, h) =>
    if h.valid then w.use site h.raw.conn u else some (.refused .invalidated, w)

/-- A call that a handle offers itself. A fault of the connection is an error of the handle. -/
def call (w : World S) (ticket : Nat) (c : HandleCall) : Option (Answer × World S) :=
  (w.withConnection ticket c.use).map fun (answer, w) =>
    match answer with
    | .fault fault => (.refused (.connection fault), w)
    | answer => (answer, w)

/-- Put a raw connection into the caller's hands. -/
def hold (w : World S) (site : Nat) (raw : Raw) : Answer × World S :=
  (.loose w.loose.length raw.id, { w with loose := w.loose ++ [(site, raw)] })

/-! ## Actions -/

/-- Carry out an action. -/
def act (w : World S) : Action (Bench.Order S) → Option (Answer × World S)
  | .release ticket =>
    (w.held? ticket).bind fun (site, r, _) =>
      (w.actOn site (Pool.release r)).map fun (_, w) =>
        (.done, (w.spend ticket site r).wakeAll site)
  | .detach ticket =>
    (w.held? ticket).bind fun (site, r, h) =>
      (w.actOn site (Pool.detach r)).map fun (owned, w) =>
        let w := (w.spend ticket site r).wakeAll site
        if owned then w.hold site h.raw else (.refused .invalidated, w)
  | .interrupt i =>
    w.interrupts[i]?.map fun interrupt =>
      (.done, (w.setFlag interrupt true).wakeAll interrupt.site)
  | .reset i => w.interrupts[i]?.map fun interrupt => (.done, w.setFlag interrupt false)
  | .change site change =>
    (w.site? site).bind fun _ =>
      (w.actOn site (Pool.change change)).map fun (outcome, w) =>
        match outcome with
        | .ok () => (.done, w.wakeAll site)
        | .error e => (.refused e, w)
  | .forceClose site =>
    (w.site? site).bind fun _ =>
      (w.actOn site Pool.drain).map fun (_, w) => (.done, w.wakeAll site)
  | .shutDown site =>
    (w.site? site).bind fun _ =>
      (w.actOn site Pool.shutDown).map fun (wasOpen, w) =>
        (.done, if wasOpen then w.wakeAll site else w)
  | .order n order =>
    (w.site? n).bind fun site =>
      (Bench.obey order site.backend).map fun (reply, backend) =>
        let w := { w with sites := w.sites.set n { site with backend } }
        match reply with
        | .done => (.done, w)
        | .counts opened closed openNow => (.counts opened closed openNow, w)

/-- Carry out actions one after another. One that cannot be carried out has no answer. -/
def actAll (w : World S) : List (Option (Action (Bench.Order S))) → List (Option Answer) × World S
  | [] => ([], w)
  | action :: rest =>
    match action.bind w.act with
    | some (answer, w) =>
      let (answers, w) := w.actAll rest
      (some answer :: answers, w)
    | none =>
      let (answers, w) := w.actAll rest
      (none :: answers, w)

/-! ## Steps -/

/-- Carry out a step other than a batch, all but the turns of the acquires that it wakes. -/
def takeOne (w : World S) : Step S (Bench.Order S) → Option (Answer × World S)
  | .create backend source => some (w.create backend source)
  | .createFrom backend text => some (w.createFrom backend text)
  | .acquire site d wait => (w.site? site).bind fun _ => w.acquire site d wait
  | .act action => w.act action
  | .batch _ => none
  | .advance time => some (.done, w.advance time)
  | .call ticket c => w.call ticket c
  | .withConnection ticket u => w.withConnection ticket u
  | .rawConnection ticket => (w.held? ticket).map fun (site, _, h) => w.hold site h.raw
  | .useRaw slot u => w.loose[slot]?.bind fun (site, raw) => w.use site raw.conn u
  | .interruptHandle site => (w.interruptHandle site).map fun (i, w) => (.interrupt i, w)
  | .cloneInterrupt i => (w.cloneInterrupt i).map fun (i, w) => (.interrupt i, w)
  | .dropPool site => (w.dropPool site).map fun w => (.done, w)

/-- Carry out a step, all but the turns of the acquires that it wakes. There is no batch while
several acquires are blocked. -/
def take (w : World S) : Step S (Bench.Order S) → Option (Outcome × World S)
  | .batch actions =>
    if 1 < w.waiters.length then none
    else
      let (answers, w) := w.actAll actions
      some (.batch answers, w)
  | step => (w.takeOne step).map fun (answer, w) => (.single answer, w)

/-- Carry out a step, and let the acquires run that it wakes. -/
def run (w : World S) (s : Step S (Bench.Order S)) : Option (Outcome × World S) :=
  (w.take s).map fun (outcome, w) => (outcome, w.settle)

/-- The acquires that ended since an earlier moment, in order of ending. -/
def endedSince (w earlier : World S) : List Nat :=
  ((w.ended.take (w.ended.length - earlier.ended.length)).map (·.ticket)).reverse

end World

end ConnPool
