/-!
# Binary64 arithmetic

The IEEE 754 double in exact natural numbers. A number is a sign and a magnitude, the
63 bits after the sign: finite magnitudes grow with the value they stand for, the next
is infinity, and all above it are not numbers. Every operation takes the exact result
and rounds it once, to the nearest number and to the even one of two.
-/

namespace GatewayClient

structure Binary64 where
  negative : Bool
  magnitude : Nat
  deriving DecidableEq, Repr

namespace Binary64

/-! ## Magnitudes -/

def infinity : Nat := 0x7ff <<< 52

/-- A finite value as a multiple of the least one, `2 ^ -1074`. -/
def units (magnitude : Nat) : Nat :=
  if magnitude < 1 <<< 52 then magnitude
  else ((1 <<< 52) + magnitude % (1 <<< 52)) <<< ((magnitude >>> 52) - 1)

/-- The multiples of the least value that make one. -/
def one : Nat := 1 <<< 1074

/-- The quotient to the nearest integer, and to the even one of two. -/
def roundedQuotient (n d : Nat) : Nat :=
  let q := n / d
  if 2 * (n % d) < d ∨ (2 * (n % d) = d ∧ q % 2 = 0) then q else q + 1

/-- The magnitude nearest to `n / d`. The mantissa has 53 bits, unless the value is so
small that it is a multiple of the least one with fewer. -/
def nearest (n d : Nat) : Nat :=
  let scaled := n * one
  let shift := (scaled / d).log2 + 1 - 53
  min infinity ((shift <<< 52) + roundedQuotient scaled (d <<< shift))

/-! ## Numbers -/

def isNaN (x : Binary64) : Bool := infinity < x.magnitude

def isInfinite (x : Binary64) : Bool := x.magnitude == infinity

def isFinite (x : Binary64) : Bool := x.magnitude < infinity

def isZero (x : Binary64) : Bool := x.magnitude == 0

def nan : Binary64 := ⟨false, infinity + (1 <<< 51)⟩

/-- The number nearest to `n / d`, with the given sign. -/
def ofRatio (negative : Bool) (n d : Nat) : Binary64 := ⟨negative, nearest n d⟩

def ofNat (n : Nat) : Binary64 := ofRatio false n 1

def toBits (x : Binary64) : UInt64 :=
  UInt64.ofNat (x.magnitude + if x.negative then 1 <<< 63 else 0)

def mul (x y : Binary64) : Binary64 :=
  if x.isNaN ∨ y.isNaN ∨ (x.isZero ∧ y.isInfinite) ∨ (x.isInfinite ∧ y.isZero) then nan
  else if x.isInfinite ∨ y.isInfinite then ⟨x.negative != y.negative, infinity⟩
  else ofRatio (x.negative != y.negative) (units x.magnitude * units y.magnitude) (one * one)

/-- One divided by `x`. -/
def inverse (x : Binary64) : Binary64 :=
  if x.isNaN then nan
  else if x.isInfinite then ⟨x.negative, 0⟩
  else if x.isZero then ⟨x.negative, infinity⟩
  else ofRatio x.negative one (units x.magnitude)

/-- Repeated squaring: `r` times `x` to the power of `n`, whose digits are binary. -/
def powerLoop (r x : Binary64) : (bits : Nat) → (n : Nat) → Binary64
  | 0, _ => r
  | bits + 1, n =>
    let r := if n % 2 = 1 then r.mul x else r
    if n / 2 = 0 then r else powerLoop r (x.mul x) bits (n / 2)

/-- An integer power. A negative one is the inverse of the power that is not. -/
def power (x : Binary64) (n : Int) : Binary64 :=
  let r := powerLoop (ofNat 1) x (n.natAbs.log2 + 1) n.natAbs
  if n < 0 then r.inverse else r

/-- The whole part, brought into the range of 64 bits; zero for what is not a number. -/
def toNat64 (x : Binary64) : Nat :=
  if x.isNaN ∨ x.negative then 0
  else if x.isInfinite then (1 <<< 64) - 1
  else min ((1 <<< 64) - 1) (units x.magnitude / one)

/-- Whether a number is less than a positive one. Both zeros are alike. -/
def ltPositive (x : Binary64) (bound : Nat) : Bool :=
  !x.isNaN && (x.negative || x.magnitude < bound)

/-- Equality of numbers: zeros are equal, and what is not a number equals nothing. -/
def equals (x y : Binary64) : Bool :=
  !x.isNaN && !y.isNaN && (x == y || (x.isZero && y.isZero))

end Binary64

end GatewayClient
