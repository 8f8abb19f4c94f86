import GatewayClient.MessagePack.Value
/-!
# Writing MessagePack

Every value is written in its shortest form, except that floats keep their width.
-/

namespace GatewayClient.MessagePack

/-- A marker followed by a big-endian operand. -/
def withOperand (marker : UInt8) (width n : Nat) : List UInt8 := marker :: Bytes.bigEndian width n

def encodeUnsigned (n : Nat) : List UInt8 :=
  if n < 0x80 then [UInt8.ofNat n]
  else if n < 0x100 then withOperand 0xcc 1 n
  else if n < 0x10000 then withOperand 0xcd 2 n
  else if n < 0x100000000 then withOperand 0xce 4 n
  else withOperand 0xcf 8 n

def encodeSigned (i : Int) : List UInt8 :=
  if -32 ≤ i ∧ i < 0 then [UInt8.ofNat (natOfSigned 1 i)]
  else if -0x80 ≤ i ∧ i < 0x80 then withOperand 0xd0 1 (natOfSigned 1 i)
  else if -0x8000 ≤ i ∧ i < 0x8000 then withOperand 0xd1 2 (natOfSigned 2 i)
  else if -0x80000000 ≤ i ∧ i < 0x80000000 then withOperand 0xd2 4 (natOfSigned 4 i)
  else withOperand 0xd3 8 (natOfSigned 8 i)

def textHeader (length : Nat) : List UInt8 :=
  if length < 32 then [UInt8.ofNat (0xa0 + length)]
  else if length < 0x100 then withOperand 0xd9 1 length
  else if length < 0x10000 then withOperand 0xda 2 length
  else withOperand 0xdb 4 length

def binaryHeader (length : Nat) : List UInt8 :=
  if length < 0x100 then withOperand 0xc4 1 length
  else if length < 0x10000 then withOperand 0xc5 2 length
  else withOperand 0xc6 4 length

def arrayHeader (count : Nat) : List UInt8 :=
  if count < 16 then [UInt8.ofNat (0x90 + count)]
  else if count < 0x10000 then withOperand 0xdc 2 count
  else withOperand 0xdd 4 count

def mapHeader (count : Nat) : List UInt8 :=
  if count < 16 then [UInt8.ofNat (0x80 + count)]
  else if count < 0x10000 then withOperand 0xde 2 count
  else withOperand 0xdf 4 count

def extensionHeader (length : Nat) : List UInt8 :=
  match length with
  | 1 => [0xd4]
  | 2 => [0xd5]
  | 4 => [0xd6]
  | 8 => [0xd7]
  | 16 => [0xd8]
  | _ =>
    if length < 0x100 then withOperand 0xc7 1 length
    else if length < 0x10000 then withOperand 0xc8 2 length
    else withOperand 0xc9 4 length

mutual

/-- The shortest rendering of a value. -/
def Value.encode : Value → List UInt8
  | .nil => [0xc0]
  | .bool false => [0xc2]
  | .bool true => [0xc3]
  | .unsigned n => encodeUnsigned n
  | .signed i => encodeSigned i
  | .float32 bits => withOperand 0xca 4 bits.toNat
  | .float64 bits => withOperand 0xcb 8 bits.toNat
  | .text bytes => textHeader bytes.length ++ bytes
  | .binary bytes => binaryHeader bytes.length ++ bytes
  | .array items => arrayHeader items.length ++ encodeAll items
  | .map entries => mapHeader entries.length ++ encodeEntries entries
  | .extension kind data => extensionHeader data.length ++ kind :: data

def encodeAll : List Value → List UInt8
  | [] => []
  | item :: items => item.encode ++ encodeAll items

def encodeEntries : List (Value × Value) → List UInt8
  | [] => []
  | (key, value) :: entries => key.encode ++ value.encode ++ encodeEntries entries

end

end GatewayClient.MessagePack
