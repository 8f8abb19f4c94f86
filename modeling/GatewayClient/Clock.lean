/-!
# Time

Spans of time and points in time, both in nanoseconds. A span has 64 bits of whole
seconds. The clock counts seconds in a signed word of 64 bits, so a point in time plus a
span may be out of its range.
-/

namespace GatewayClient

/-- A span of time in nanoseconds. -/
abbrev Duration : Type := Nat

namespace Duration

def ofMilliseconds (n : Nat) : Duration := n * 1000000

def ofSeconds (n : Nat) : Duration := n * 1000000000

def toMilliseconds (d : Duration) : Nat := d / 1000000

def longest : Duration := (1 <<< 64) * 1000000000 - 1

theorem toMilliseconds_ofMilliseconds (n : Nat) : (ofMilliseconds n).toMilliseconds = n :=
  Nat.mul_div_cancel n (by decide)

/-- The multiple of a span, or the longest span if that is less. -/
def saturatingMul (d : Duration) (n : Nat) : Duration := min longest (d * n)

end Duration

/-- A point in time: nanoseconds since the clock started. -/
abbrev Instant : Type := Nat

namespace Instant

def limit : Nat := (1 <<< 63) * 1000000000

/-- The time `d` after `now`, if the clock can tell it. -/
def after? (now : Instant) (d : Duration) : Option Instant :=
  if now + d < limit then some (now + d) else none

theorem after?_eq_some_iff {now at' : Instant} {d : Duration} :
    after? now d = some at' ↔ now + d < limit ∧ at' = now + d := by
  unfold after?
  split
  · case isTrue h => simp [h, eq_comm]
  · case isFalse h => simp [h]

end Instant

end GatewayClient
