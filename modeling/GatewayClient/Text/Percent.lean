import GatewayClient.Text.Digits
import GatewayClient.Text.Utf8
/-!
# Percent-encoding
-/

namespace GatewayClient.Percent

def upperDigit (n : Nat) : Char := (Nat.digitChar (n % 16)).toUpper

/-- A byte as a percent sign and two upper-case hexadecimal digits. -/
def escape (byte : UInt8) : List Char :=
  ['%', upperDigit (byte.toNat / 16), upperDigit byte.toNat]

/-- The bytes of a text in which percent signs before two hexadecimal digits are escapes. -/
def decode : List UInt8 → List UInt8
  | [] => []
  | 0x25 :: a :: b :: rest =>
    match Digits.number? 16 [Char.ofNat a.toNat, Char.ofNat b.toNat] with
    | some n => UInt8.ofNat n :: decode rest
    | none => 0x25 :: decode (a :: b :: rest)
  | b :: rest => b :: decode rest

def isAsciiAlphanumeric (byte : UInt8) : Bool := (Char.ofNat byte.toNat).isAlphanum

end GatewayClient.Percent
