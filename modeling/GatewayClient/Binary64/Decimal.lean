import GatewayClient.Binary64.Basic
/-!
# Decimals and binary64

Reading a decimal takes the nearest number. Writing a number takes the fewest digits
that read back as it, and of those the nearest to it; `shortest` tests each candidate by
reading it. Where seventeen digits did not do, it would give the exact value.
-/

namespace GatewayClient

/-- The value `digits * 10 ^ exponent`. -/
structure Decimal where
  digits : Nat
  exponent : Int
  deriving DecidableEq, Repr

namespace Decimal

/-- The magnitude nearest to a decimal. Exponents far out of range give zero or infinity
at once. -/
def nearest (d : Decimal) : Nat :=
  let size : Int := (Nat.toDigits 10 d.digits).length + d.exponent
  if d.digits = 0 ∨ size < -330 then 0
  else if 310 < size then Binary64.infinity
  else if 0 ≤ d.exponent then Binary64.nearest (d.digits * Nat.pow 10 d.exponent.toNat) 1
  else Binary64.nearest d.digits (Nat.pow 10 (-d.exponent).toNat)

/-- Digits around a decimal point, with at least one on either side. -/
def positional (d : Decimal) : List Char :=
  let digits := Nat.toDigits 10 d.digits
  if 0 ≤ d.exponent then
    digits ++ List.replicate (if d.digits = 0 then 0 else d.exponent.toNat) '0' ++ ['.', '0']
  else
    let places := (-d.exponent).toNat
    let padded := List.replicate (places + 1 - digits.length) '0' ++ digits
    padded.take (padded.length - places) ++ '.' :: padded.drop (padded.length - places)

end Decimal

namespace Binary64

/-- The decimal with `count` digits below a value of `units`, given that its first digit
counts powers of ten from `top`. -/
def truncated (units : Nat) (top : Int) (count : Nat) : Decimal :=
  let exponent := top - (count - 1)
  if 0 ≤ exponent then ⟨units / (one * Nat.pow 10 exponent.toNat), exponent⟩
  else ⟨units * Nat.pow 10 (-exponent).toNat / one, exponent⟩

/-- The power of ten of a value's first digit. -/
def leadingPower (units : Nat) : Int :=
  if one ≤ units then (Nat.toDigits 10 (units / one)).length - 1
  else -(Nat.toDigits 10 ((one - 1) / units)).length

/-- Whether the decimal below a value is nearer to it than the next decimal. -/
def nearerBelow (units : Nat) (below : Decimal) : Bool :=
  if 0 ≤ below.exponent then
    2 * units < (2 * below.digits + 1) * Nat.pow 10 below.exponent.toNat * one
  else
    2 * units * Nat.pow 10 (-below.exponent).toNat < (2 * below.digits + 1) * one

/-- The next decimal with `count` digits: after all nines comes a power of ten. -/
def nextDecimal (count : Nat) (d : Decimal) : Decimal :=
  if d.digits + 1 = Nat.pow 10 count then ⟨1, d.exponent + count⟩ else ⟨d.digits + 1, d.exponent⟩

/-- The nearer of the two decimals of `count` digits around a value, of those that read
back as it. -/
def readable? (magnitude : Nat) (count : Nat) : Option Decimal :=
  let below := truncated (units magnitude) (leadingPower (units magnitude)) count
  let above := nextDecimal count below
  match below.nearest == magnitude, above.nearest == magnitude with
  | true, true => some (if nearerBelow (units magnitude) below then below else above)
  | true, false => some below
  | false, true => some above
  | false, false => none

/-- The exact value of a magnitude: a multiple of `2 ^ -1074 = 5 ^ 1074 / 10 ^ 1074`. -/
def exact (magnitude : Nat) : Decimal := ⟨units magnitude * Nat.pow 5 1074, -1074⟩

/-- The shortest decimal that reads back as a finite magnitude. -/
def shortest (magnitude : Nat) : Decimal :=
  if magnitude = 0 then ⟨0, 0⟩
  else
    ((List.range 17).findSome? fun i => readable? magnitude (i + 1)).getD (exact magnitude)

end Binary64

end GatewayClient
