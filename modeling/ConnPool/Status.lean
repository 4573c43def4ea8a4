import ConnPool.Settings

/-!
# Tally and status

A pool keeps a running `Tally` of what it did. Its `Status` is what it reports of itself: sizes,
limits, counts, and the mean of each kind of time over the count that belongs to it.
-/

namespace ConnPool

/-- Running counts and times of a pool. -/
structure Tally where
  /-- Acquires that ended with a connection. -/
  requests : Nat := 0
  /-- The time they took. -/
  requestTime : Span := 0
  /-- The time that connections were checked out. -/
  checkoutTime : Span := 0
  /-- Checkouts that lasted too long and were ended by another acquire. -/
  claimed : Nat := 0
  /-- The time that those lasted. -/
  overdueTime : Span := 0
  /-- Acquires that had to wait. -/
  waits : Nat := 0
  /-- The time they waited. -/
  waitTime : Span := 0
  /-- Connections that were found bad. -/
  bad : Nat := 0
  deriving DecidableEq, Repr

/-- What a pool reports of itself. -/
structure Status where
  active : Nat := 0
  idle : Nat := 0
  maxActive : Nat := 0
  maxIdle : Nat := 0
  requests : Nat := 0
  averageRequestTime : Span := 0
  averageCheckoutTime : Span := 0
  claimed : Nat := 0
  averageOverdueTime : Span := 0
  waits : Nat := 0
  averageWaitTime : Span := 0
  bad : Nat := 0
  deriving DecidableEq, Repr

/-- The status of a pool with so many active and idle connections. -/
def Tally.status (t : Tally) (s : Settings) (active idle : Nat) : Status where
  active
  idle
  maxActive := s.maxActive
  maxIdle := s.maxIdle
  requests := t.requests
  averageRequestTime := Span.average t.requestTime t.requests
  averageCheckoutTime := Span.average t.checkoutTime t.requests
  claimed := t.claimed
  averageOverdueTime := Span.average t.overdueTime t.claimed
  waits := t.waits
  averageWaitTime := Span.average t.waitTime t.waits
  bad := t.bad

namespace Status

/-- The status as a table of lines. -/
def report (s : Status) : String :=
  "\n".intercalate [
    "===CONFIGURATION==============================================",
    " max_active                     " ++ toString s.maxActive,
    " max_idle                       " ++ toString s.maxIdle,
    " ---STATUS-----------------------------------------------------",
    " active connections             " ++ toString s.active,
    " idle connections               " ++ toString s.idle,
    " request count                  " ++ toString s.requests,
    " average request time           " ++ Span.text s.averageRequestTime,
    " average checkout time          " ++ Span.text s.averageCheckoutTime,
    " claimed overdue                " ++ toString s.claimed,
    " average overdue checkout time  " ++ Span.text s.averageOverdueTime,
    " had to wait                    " ++ toString s.waits,
    " average wait time              " ++ Span.text s.averageWaitTime,
    " bad connection count           " ++ toString s.bad,
    "==============================================================="]

/-- The text of a status for a reader who debugs. -/
def describe (s : Status) : String :=
  Text.record "PoolStatus" [
    ("active", toString s.active),
    ("idle", toString s.idle),
    ("max_active", toString s.maxActive),
    ("max_idle", toString s.maxIdle),
    ("request_count", toString s.requests),
    ("average_request_time", Span.text s.averageRequestTime),
    ("average_checkout_time", Span.text s.averageCheckoutTime),
    ("claimed_overdue_count", toString s.claimed),
    ("average_overdue_checkout_time", Span.text s.averageOverdueTime),
    ("had_to_wait_count", toString s.waits),
    ("average_wait_time", Span.text s.averageWaitTime),
    ("bad_connection_count", toString s.bad)]

end Status

end ConnPool
