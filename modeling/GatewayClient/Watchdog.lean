import GatewayClient.Clock
/-!
# Watchdog

Notices silence. Once armed for the interval of the server's heartbeats, it expires when
nothing was heard for a multiple of that interval.
-/

namespace GatewayClient

structure Watchdog where
  /-- The heartbeats that may be missed; zero turns the watchdog off. -/
  multiplier : Nat := 3
  /-- How much silence an armed watchdog bears. -/
  timeout : Option Duration := none
  /-- Until when an armed watchdog bears it. -/
  deadline : Option Instant := none
  deriving DecidableEq, Repr

namespace Watchdog

def clear (dog : Watchdog) : Watchdog := { dog with timeout := none, deadline := none }

/-- Watches for heartbeats that come at the given interval. Fails if the clock cannot tell
the deadline. -/
def arm? (dog : Watchdog) (interval : Duration) (now : Instant) : Option Watchdog :=
  if dog.multiplier = 0 ∨ interval = 0 then some dog.clear
  else do
    let timeout := interval.saturatingMul dog.multiplier
    some { dog with timeout := some timeout, deadline := some (← now.after? timeout) }

/-- Puts the deadline off because something was heard. Fails if the clock cannot tell the
new one. -/
def feed? (dog : Watchdog) (now : Instant) : Option Watchdog :=
  match dog.timeout with
  | some timeout => do some { dog with deadline := some (← now.after? timeout) }
  | none => some dog

def isExpired (dog : Watchdog) (now : Instant) : Bool := dog.deadline.any (· ≤ now)

@[simp] theorem timeout_clear (dog : Watchdog) : dog.clear.timeout = none := rfl

@[simp] theorem deadline_clear (dog : Watchdog) : dog.clear.deadline = none := rfl

end Watchdog

end GatewayClient
