import GatewayClient.Bytes
import GatewayClient.Text.Digits
import GatewayClient.Text.Split
/-!
# IPv4 addresses

An address is a number of 32 bits. It is written as four decimal numbers; when it is
read, there may be fewer numbers, the last one counting for several bytes, and they may
be octal or hexadecimal.
-/

namespace GatewayClient.Ipv4

/-- One number of an address: hexadecimal after `0x`, octal after another zero. -/
def parseNumber? : List Char → Option Nat
  | [] => none
  | '0' :: 'x' :: digits => Digits.number? 16 digits
  | '0' :: 'X' :: digits => Digits.number? 16 digits
  | '0' :: d :: digits => Digits.number? 8 (d :: digits)
  | digits => Digits.number? 10 digits

/-- The parts of a text, less an empty last one. -/
def parts (text : List Char) : List (List Char) :=
  let all := splitAt '.' text
  if all.getLast? = some [] then all.dropLast else all

/-- Whether a host can only be meant as an address: its last part is a number. -/
def endsInNumber (text : List Char) : Bool :=
  match (parts text).getLast? with
  | none => false
  | some last => (!last.isEmpty && last.all Char.isDigit) || (parseNumber? last).isSome

/-- The address that numbers stand for: bytes, and a last number for the bytes that are
left. -/
def ofNumbers? (numbers : List Nat) : Option Nat :=
  match numbers.reverse with
  | [] => none
  | last :: before =>
    let bytes := before.reverse
    if bytes.length ≤ 3 ∧ last < Bytes.capacity (4 - bytes.length) ∧ bytes.all (· < 256) then
      some (bytes.foldl (fun n b => 256 * n + b) 0 * Bytes.capacity (4 - bytes.length) + last)
    else none

def parse? (text : List Char) : Option Nat := do
  ofNumbers? (← (parts text).mapM parseNumber?)

/-- The four bytes of an address. -/
def bytes (address : Nat) : List Nat :=
  [address / 0x1000000 % 256, address / 0x10000 % 256, address / 0x100 % 256, address % 256]

def render (address : Nat) : List Char :=
  List.intercalate ['.'] ((bytes address).map (Nat.toDigits 10))

end GatewayClient.Ipv4
