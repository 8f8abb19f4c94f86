import GatewayClient.MessagePack.Value
/-!
# Reading MessagePack

`Value.read` takes one value off the front of a byte string. Any width of a length or
of an integer is accepted. Containers and extensions may be nested at most
`nestingLimit` deep, so that hostile input cannot exhaust the stack.
-/

namespace GatewayClient.MessagePack

/-- The most containers that may stand inside one another. -/
def nestingLimit : Nat := 1023

def Operand.read : Operand → Reader UInt8 Nat
  | .here n, input => some (n, input)
  | .next width, input => Bytes.number? width input

/-- Reads the part of a value that follows its marker. Values inside a container are
read by `nested`; without it the nesting limit has been reached. -/
def Marker.readRest (nested : Option (Reader UInt8 Value)) (marker : Marker) :
    Reader UInt8 Value := fun input =>
  match marker with
  | .nil => some (.nil, input)
  | .bool b => some (.bool b, input)
  | .unsigned operand => do
      let (n, rest) ← operand.read input
      some (.unsigned n, rest)
  | .signed width digits => do
      let (n, rest) ← digits.read input
      some (.signed (signedOfNat width n), rest)
  | .float32 => do
      let (bits, rest) ← Bytes.number? 4 input
      some (.float32 (UInt32.ofNat bits), rest)
  | .float64 => do
      let (bits, rest) ← Bytes.number? 8 input
      some (.float64 (UInt64.ofNat bits), rest)
  | .text operand => do
      let (length, rest) ← operand.read input
      let (bytes, rest) ← Bytes.take? length rest
      some (.text bytes, rest)
  | .binary operand => do
      let (length, rest) ← operand.read input
      let (bytes, rest) ← Bytes.take? length rest
      some (.binary bytes, rest)
  | .array operand => do
      let (count, rest) ← operand.read input
      let (items, rest) ← (← nested).times count rest
      some (.array items, rest)
  | .map operand => do
      let (count, rest) ← operand.read input
      let item ← nested
      let (entries, rest) ← (item.both item).times count rest
      some (.map entries, rest)
  | .extension operand => do
      let (length, rest) ← operand.read input
      let _ ← nested
      let (kind, rest) ← Bytes.number? 1 rest
      let (data, rest) ← Bytes.take? length rest
      some (.extension (UInt8.ofNat kind) data, rest)
  | .reserved => none

def Value.readWith (nested : Option (Reader UInt8 Value)) : Reader UInt8 Value
  | [] => none
  | marker :: rest => (Marker.ofByte marker).readRest nested rest

/-- One value with at most `levels` containers inside one another. -/
def Value.readNested : (levels : Nat) → Reader UInt8 Value
  | 0 => Value.readWith none
  | levels + 1 => Value.readWith (some (Value.readNested levels))

/-- One value off the front of a byte string. -/
def Value.read : Reader UInt8 Value := Value.readNested nestingLimit

end GatewayClient.MessagePack
