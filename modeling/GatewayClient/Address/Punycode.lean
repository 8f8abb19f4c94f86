/-!
# Punycode

Labels of a domain that begin with `xn--` spell other characters in ASCII. What is told
here is which labels are spelled so, as far as that can be told without tables of Unicode.
-/

namespace GatewayClient.Punycode

def digitValue? (c : Char) : Option Nat :=
  if 'a' ≤ c ∧ c ≤ 'z' then some (c.toNat - 'a'.toNat)
  else if 'A' ≤ c ∧ c ≤ 'Z' then some (c.toNat - 'A'.toNat)
  else if '0' ≤ c ∧ c ≤ '9' then some (c.toNat - '0'.toNat + 26)
  else none

/-- The least digit at position `k` that does not end a number. -/
def threshold (bias k : Nat) : Nat := max 1 (min 26 (k - bias))

/-- A number of variable length; `k` grows by 36 with each digit. -/
def readNumber (bias : Nat) : (k weight sum : Nat) → List Char → Option (Nat × List Char)
  | _, _, _, [] => none
  | k, weight, sum, c :: rest => do
    let digit ← digitValue? c
    let sum := sum + digit * weight
    let t := threshold bias k
    if digit < t then some (sum, rest) else readNumber bias (k + 36) (weight * (36 - t)) sum rest

def adaptLoop (delta k : Nat) : Nat :=
  if 455 < delta then adaptLoop (delta / 35) (k + 36) else k + 36 * delta / (delta + 38)
termination_by delta
decreasing_by exact Nat.div_lt_self (by omega) (by omega)

/-- The bias after a number. -/
def adapt (delta count : Nat) (first : Bool) : Nat :=
  let delta := if first then delta / 700 else delta / 2
  adaptLoop (delta + delta / count) 0

/-- Signs of Latin-1 that stand for other characters in a name, or for nothing. -/
def replacedSigns : List Nat :=
  [0xa8, 0xaa, 0xad, 0xaf, 0xb2, 0xb3, 0xb4, 0xb5, 0xb8, 0xb9, 0xba, 0xbc, 0xbd, 0xbe]

/-- Controls are never spelled, and neither are replaced signs and capital letters, which
stand for small ones. They are known up to Latin-1; beyond it, every character passes. -/
def isSpellable (code : Nat) : Bool :=
  code.isValidChar && 0xa0 < code && !(0xc0 ≤ code && code ≤ 0xde && code != 0xd7) &&
    !replacedSigns.contains code

/-- Whether digits spell characters to be inserted into `count` others. The fuel bounds
the digits. -/
def spellsInsertions : (fuel count : Nat) → (code position bias : Nat) → List Char → Bool
  | _, _, _, _, _, [] => true
  | 0, _, _, _, _, _ => false
  | fuel + 1, count, code, position, bias, digits =>
    match readNumber bias 36 1 0 digits with
    | none => false
    | some (delta, rest) =>
      let place := position + delta
      let code := code + place / (count + 1)
      let bias := adapt delta (count + 1) (position == 0)
      isSpellable code && spellsInsertions fuel (count + 1) code (place % (count + 1) + 1) bias rest

/-- Whether a label, less its `xn--`, spells at least one character that is not ASCII. -/
def isSpelling (text : List Char) : Bool :=
  let digits := (text.reverse.takeWhile (· ≠ '-')).reverse
  let count := text.length - digits.length - 1
  !digits.isEmpty && text != '-' :: digits && spellsInsertions digits.length count 128 0 72 digits

end GatewayClient.Punycode
