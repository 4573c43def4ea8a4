import ConnPool.Backend
import ConnPool.Settings

/-!
# Liveness probe

A probe decides whether a connection is fit to be handed out. A connection that reports itself
closed, or cannot tell, is not. Any other is, unless pings are on and it lay unused for longer than
the threshold: then the ping query decides, followed by a rollback where one is needed. A connection
that fails the ping is closed. The probe itself never fails.
-/

namespace ConnPool

/-- What a probe found. -/
structure Verdict where
  /-- Whether the connection is fit to be handed out. -/
  healthy : Bool
  /-- Whether the ping query was run. -/
  pinged : Bool
  /-- How long the probe took. -/
  latency : Span
  /-- What is wrong with the connection, if anything. -/
  error : Option String
  deriving DecidableEq, Repr

/-- The verdict on a connection that passed. -/
@[simp] def Verdict.passed (latency : Span) (pinged : Bool) : Verdict :=
  ⟨true, pinged, latency, none⟩

/-- The verdict on a connection with which something is wrong. -/
@[simp] def Verdict.failed (latency : Span) (pinged : Bool) (error : String) : Verdict :=
  ⟨false, pinged, latency, some error⟩

/-- How connections are probed. -/
structure Probe where
  enabled : Bool
  query : String
  threshold : Span

namespace Probe

/-- The probe that a pool with these settings uses. -/
def ofSettings (s : Settings) : Probe := ⟨s.pingEnabled, s.pingQuery, s.pingThreshold⟩

/-- Whether a connection that lay unused for so long is pinged. -/
def pings (p : Probe) (unused : Span) : Bool := p.enabled && decide (p.threshold < unused)

theorem pings_iff {p : Probe} {unused : Span} :
    p.pings unused = true ↔ p.enabled = true ∧ p.threshold < unused := by
  simp [pings]

variable {S : Type} [Backend S]

/-- Run the ping query and leave nothing pending. -/
def ping (p : Probe) (conn : Nat) : Attempt S Unit := do
  Talk.tell conn (.execute p.query)
  Talk.clearPending conn

/-- Ping a connection, and close it if that fails. What is wrong, if anything. -/
def pingOrClose (p : Probe) (conn : Nat) : Talk S (Option String) := do
  Talk.note (.pinging p.query)
  match ← (p.ping conn).run with
  | .ok () => return none
  | .error fault =>
    Talk.note (.pingFailed p.query fault)
    if let .error second ← (Talk.tell conn .close).run then
      Talk.note (.closeAfterPingFailed second)
    return some fault.message

/-- Probe a connection that lay unused for so long. -/
def examine (p : Probe) (conn : Nat) (unused : Span) : Talk S Verdict := do
  let started ← Talk.now
  match ← (Talk.ask conn .isClosed).run with
  | .error fault => return .failed ((← Talk.now) - started) false fault.message
  | .ok true => return .failed ((← Talk.now) - started) false "connection is closed"
  | .ok false =>
    if p.pings unused then
      match ← p.pingOrClose conn with
      | some error => return .failed ((← Talk.now) - started) true error
      | none => return .passed ((← Talk.now) - started) true
    else return .passed ((← Talk.now) - started) false

end Probe

end ConnPool
