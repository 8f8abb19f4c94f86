import GatewayClient.Binary64.Decimal
/-!
# Reading binary64

Decimal texts as numbers: a sign, digits around an optional point, an optional power of
ten; or `inf` and `nan`, with or without a sign.
-/

namespace GatewayClient

namespace Decimal

/-- The number that decimal digits stand for. -/
def ofDigits (digits : List Char) : Nat :=
  digits.foldl (fun n c => 10 * n + (c.toNat - '0'.toNat)) 0

/-- Digits before and after a point, times a power of ten. -/
def ofParts (whole fraction : List Char) (exponent : Int) : Decimal :=
  ⟨ofDigits (whole ++ fraction), exponent - fraction.length⟩

/-- A sign, if there is one, and what follows it. -/
def splitSign : List Char → Bool × List Char
  | '-' :: rest => (true, rest)
  | '+' :: rest => (false, rest)
  | rest => (false, rest)

/-- The power of ten at the end of a number. -/
def parseExponent? : List Char → Option Int
  | [] => some 0
  | e :: rest =>
    let (negative, digits) := splitSign rest
    if (e = 'e' ∨ e = 'E') ∧ !digits.isEmpty ∧ digits.all Char.isDigit then
      some (if negative then -(ofDigits digits : Int) else ofDigits digits)
    else none

/-- A number without a sign. There is a digit before the power of ten. -/
def parse? (text : List Char) : Option Decimal := do
  let whole := text.takeWhile Char.isDigit
  let rest := text.dropWhile Char.isDigit
  let (fraction, rest) := match rest with
    | '.' :: rest => (rest.takeWhile Char.isDigit, rest.dropWhile Char.isDigit)
    | rest => ([], rest)
  if whole.isEmpty && fraction.isEmpty then none
  else some (ofParts whole fraction (← parseExponent? rest))

end Decimal

namespace Binary64

/-- The number nearest to what a text says. -/
def parse? (text : List Char) : Option Binary64 :=
  let (negative, rest) := Decimal.splitSign text
  match rest with
  | ['i', 'n', 'f'] => some ⟨negative, infinity⟩
  | ['n', 'a', 'n'] => some ⟨negative, nan.magnitude⟩
  | rest => (Decimal.parse? rest).map fun d => ⟨negative, d.nearest⟩

end Binary64

end GatewayClient
