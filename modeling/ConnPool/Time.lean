/-!
# Time

Time is counted in whole nanoseconds. A `Span` is a length of time and an `Instant` is the span
since the start of the run. Both are natural numbers, so a span is never negative and the time from
a later instant to an earlier one is zero.

A span that is written down or stored has a limit, `Span.longest`; sums that a caller can push past
it stop there (`Span.satAdd`).
-/

namespace ConnPool

/-- A length of time, in nanoseconds. -/
abbrev Span := Nat

/-- A point in time: nanoseconds since the start of the run. -/
abbrev Instant := Nat

/-- The largest count that fits in 64 bits. -/
def maxCount : Nat := UInt64.size - 1

namespace Span

/-- The longest span: `maxCount` seconds and one nanosecond less than another second. -/
def longest : Span := maxCount * 1_000_000_000 + 999_999_999

/-- One millisecond. -/
def milli : Span := 1_000_000

/-- `n` milliseconds. -/
def ofMillis (n : Nat) : Span := n * milli

/-- The whole milliseconds in a span, as far as a 64-bit count goes. -/
def toMillis (d : Span) : Nat := min (d / milli) maxCount

/-- The sum of two spans, stopping at the longest one. -/
def satAdd (a b : Span) : Span := min (a + b) longest

/-- The mean of `count` spans of the given total, as far as a 64-bit count of nanoseconds goes;
zero when there are none. -/
def average (total : Span) (count : Nat) : Span :=
  if count = 0 then 0 else min (total / count) maxCount

/-! ## The text of a span -/

/-- The decimal digits of `f` behind the point, `places` of them, without trailing zeros. -/
def fractionDigits (places f : Nat) : List Nat :=
  let digits := (List.range places).map fun i => f / Nat.pow 10 (places - 1 - i) % 10
  (digits.reverse.dropWhile (· == 0)).reverse

/-- The fraction `f / 10 ^ places` with its point, or nothing when it is zero. -/
def fractionText (places f : Nat) : String :=
  match fractionDigits places f with
  | [] => ""
  | digits => "." ++ String.ofList (digits.map Nat.digitChar)

/-- The number of decimal places and the symbol of the largest unit that fits in the span. -/
def unit (d : Span) : Nat × String :=
  if 1_000_000_000 ≤ d then (9, "s")
  else if 1_000_000 ≤ d then (6, "ms")
  else if 1_000 ≤ d then (3, "µs")
  else (0, "ns")

/-- A span in the largest unit that fits, with the exact fraction: `1.5µs`, `20ms`, `0ns`. -/
def text (d : Span) : String :=
  let (places, symbol) := unit d
  toString (d / Nat.pow 10 places) ++ fractionText places (d % Nat.pow 10 places) ++ symbol

end Span

/-- The clock does not go as far as `2 ^ 63` seconds. -/
def Instant.limit : Instant := Nat.pow 2 63 * 1_000_000_000

/-- The instant at which a wait of `d` that begins at `start` ends by itself. A wait whose end the
clock does not reach never does. -/
def Instant.deadline (start : Instant) (d : Span) : Option Instant :=
  if start + d < limit then some (start + d) else none

end ConnPool
