/-!
# Digits

Numbers in a base of up to sixteen.
-/

namespace GatewayClient.Digits

/-- The value of a hexadecimal digit in either case. -/
def hexValue? (c : Char) : Option Nat :=
  if '0' ≤ c ∧ c ≤ '9' then some (c.toNat - '0'.toNat)
  else if 'a' ≤ c ∧ c ≤ 'f' then some (c.toNat - 'a'.toNat + 10)
  else if 'A' ≤ c ∧ c ≤ 'F' then some (c.toNat - 'A'.toNat + 10)
  else none

def value? (base : Nat) (c : Char) : Option Nat := (hexValue? c).filter (· < base)

/-- The number with the given digits; no digits stand for zero. -/
def number? (base : Nat) (digits : List Char) : Option Nat :=
  digits.foldlM (fun n c => (value? base c).map (base * n + ·)) 0

end GatewayClient.Digits
