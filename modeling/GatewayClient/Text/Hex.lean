import GatewayClient.Text.Digits
/-!
# Hexadecimal text

Bytes and numbers in lower-case hexadecimal digits.
-/

namespace GatewayClient.Hex

/-- A number in at least `width` digits. -/
def ofNat (width n : Nat) : String :=
  let digits := Nat.toDigits 16 n
  String.ofList (List.replicate (width - digits.length) '0' ++ digits)

def encode (bytes : List UInt8) : String := String.join (bytes.map fun b => ofNat 2 b.toNat)

def decodeList? : List Char → Option (List UInt8)
  | [] => some []
  | a :: b :: rest => do
      some (UInt8.ofNat (← Digits.number? 16 [a, b]) :: (← decodeList? rest))
  | _ => none

def decode? (text : String) : Option (List UInt8) := decodeList? text.toList

end GatewayClient.Hex
