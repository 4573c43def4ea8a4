import ConnPool.Error
import ConnPool.Text.Blank
import ConnPool.Text.Quoted

/-!
# Settings

The settings of a pool, their defaults, and the two rules that settings in force keep
(`Settings.problem?`): a pool may hand out at least one connection, and a pool that pings has
something to ping with.
-/

namespace ConnPool

/-- The settings of a pool. -/
structure Settings where
  /-- The most connections that are checked out at a time. -/
  maxActive : Nat := 10
  /-- The most idle connections that are kept. -/
  maxIdle : Nat := 5
  /-- How long a checkout may last before another caller may take the connection over. -/
  checkoutTimeout : Span := .ofMillis 20_000
  /-- How long an acquire waits. -/
  waitTimeout : Span := .ofMillis 20_000
  /-- How many bad connections beyond `maxIdle` one acquire puts up with. -/
  badTolerance : Nat := 3
  /-- Whether connections that lay unused are tried out with a query. -/
  pingEnabled : Bool := false
  /-- The query to try them out with. -/
  pingQuery : String := "NO PING QUERY SET"
  /-- How long a connection lies unused before it is tried out. -/
  pingThreshold : Span := 0
  /-- Whether an acquire goes on waiting after `waitTimeout`. -/
  indefiniteWait : Bool := false
  deriving DecidableEq, Repr

instance : Inhabited Settings := ⟨{}⟩

namespace Settings

/-- How many bad candidates one acquire puts up with, as far as a 64-bit count goes. -/
def badLimit (s : Settings) : Nat := min (s.maxIdle + s.badTolerance) maxCount

/-- What is wrong with the settings, if anything. -/
def problem? (s : Settings) : Option Misconfiguration :=
  if s.maxActive = 0 then some .noActiveConnections
  else if s.pingEnabled && (Text.trim s.pingQuery.toList).isEmpty then some .blankPingQuery
  else none

/-- The text of the settings for a reader who debugs. -/
def describe (s : Settings) : String :=
  Text.record "PoolConfig" [
    ("max_active", toString s.maxActive),
    ("max_idle", toString s.maxIdle),
    ("checkout_timeout", Span.text s.checkoutTimeout),
    ("wait_timeout", Span.text s.waitTimeout),
    ("bad_connection_tolerance", toString s.badTolerance),
    ("ping_enabled", Text.truth s.pingEnabled),
    ("ping_query", Text.quoted s.pingQuery),
    ("ping_threshold", Span.text s.pingThreshold),
    ("indefinite_wait", Text.truth s.indefiniteWait)]

end Settings

end ConnPool
