import GatewayClient.Binary64.Basic
import GatewayClient.Clock
/-!
# Retry policy

How long to wait before a retry, and when to give up. The first retry after a loss is
immediate. Each further one in a row waits the initial delay times a power of the
multiplier, up to a bound.
-/

namespace GatewayClient

structure RetryPolicy where
  initialDelay : Duration := .ofMilliseconds 250
  maxDelay : Duration := .ofSeconds 30
  multiplier : Binary64 := ⟨false, 0x400 <<< 52⟩
  /-- The losses in a row that are answered by a retry; without a number, all are. -/
  maxAttempts : Option Nat := none
  deriving DecidableEq, Repr

namespace RetryPolicy

/-- The losses in a row are counted in 32 bits, and the count stops at the largest. -/
def attemptLimit : Nat := 0xffffffff

/-- The power of the multiplier before a retry, a signed number of 32 bits. -/
def exponent (attempt : Nat) : Int := Int.bmod ((attempt - 2 : Nat) : Int) 0x100000000

/-- The wait before the given retry in a row, in whole milliseconds unless the bound cuts
it. -/
def delay (policy : RetryPolicy) (attempt : Nat) : Duration :=
  if attempt ≤ 1 then 0
  else
    let start := Binary64.ofNat policy.initialDelay.toMilliseconds
    let wait := start.mul (policy.multiplier.power (exponent attempt))
    min (Duration.ofMilliseconds wait.toNat64) policy.maxDelay

/-- Whether the given loss in a row is answered by a retry. -/
def allows (policy : RetryPolicy) (attempt : Nat) : Bool :=
  match policy.maxAttempts with
  | some most => attempt ≤ most
  | none => true

/-- The number of losses in a row after one more. -/
def countLoss (losses : Nat) : Nat := min (losses + 1) attemptLimit

/-- Only the first retry in a row is immediate by rule. -/
theorem delay_of_le_one (policy : RetryPolicy) {attempt : Nat} (h : attempt ≤ 1) :
    policy.delay attempt = 0 := by
  simp [delay, h]

theorem delay_le (policy : RetryPolicy) (attempt : Nat) :
    policy.delay attempt ≤ policy.maxDelay := by
  unfold delay
  split
  · exact Nat.zero_le _
  · exact Nat.min_le_right ..

/-- The largest count stands for all that are larger, and no policy below it allows it. -/
theorem le_of_allows {policy : RetryPolicy} {losses most : Nat}
    (hallows : policy.allows (min losses attemptLimit) = true)
    (hmost : policy.maxAttempts = some most) (hlimit : most < attemptLimit) : losses ≤ most := by
  simp only [allows, hmost, decide_eq_true_eq] at hallows
  omega

end RetryPolicy

end GatewayClient
