import GatewayClient.Bytes
/-!
# MessagePack values

A value keeps what a reader of records can tell apart: the two integer families, the
two float widths, and text beside binary data. The width of a length or of an integer
is not part of the value.
-/

namespace GatewayClient.MessagePack

inductive Value where
  | nil
  | bool (b : Bool)
  /-- An integer in one of the forms that hold no negative numbers. -/
  | unsigned (n : Nat)
  /-- An integer in one of the two's complement forms. -/
  | signed (i : Int)
  | float32 (bits : UInt32)
  | float64 (bits : UInt64)
  /-- Text as it came: the bytes need not be well-formed UTF-8. -/
  | text (bytes : List UInt8)
  | binary (bytes : List UInt8)
  | array (items : List Value)
  | map (entries : List (Value × Value))
  | extension (kind : UInt8) (data : List UInt8)

/-! ## Markers -/

/-- A number that a marker byte holds itself, or that the next `width` bytes hold. -/
inductive Operand where
  | here (n : Nat)
  | next (width : Nat)
  deriving DecidableEq, Repr

/-- What the first byte of a value announces. -/
inductive Marker where
  | nil
  | bool (b : Bool)
  | unsigned (n : Operand)
  | signed (width : Nat) (digits : Operand)
  | float32
  | float64
  | text (length : Operand)
  | binary (length : Operand)
  | array (count : Operand)
  | map (count : Operand)
  | extension (length : Operand)
  /-- The one byte that starts no value. -/
  | reserved
  deriving DecidableEq, Repr

def Marker.ofByte (byte : UInt8) : Marker :=
  let b := byte.toNat
  if b < 0x80 then .unsigned (.here b)
  else if b < 0x90 then .map (.here (b - 0x80))
  else if b < 0xa0 then .array (.here (b - 0x90))
  else if b < 0xc0 then .text (.here (b - 0xa0))
  else if b ≥ 0xe0 then .signed 1 (.here b)
  else match b with
    | 0xc0 => .nil
    | 0xc2 => .bool false
    | 0xc3 => .bool true
    | 0xc4 => .binary (.next 1)
    | 0xc5 => .binary (.next 2)
    | 0xc6 => .binary (.next 4)
    | 0xc7 => .extension (.next 1)
    | 0xc8 => .extension (.next 2)
    | 0xc9 => .extension (.next 4)
    | 0xca => .float32
    | 0xcb => .float64
    | 0xcc => .unsigned (.next 1)
    | 0xcd => .unsigned (.next 2)
    | 0xce => .unsigned (.next 4)
    | 0xcf => .unsigned (.next 8)
    | 0xd0 => .signed 1 (.next 1)
    | 0xd1 => .signed 2 (.next 2)
    | 0xd2 => .signed 4 (.next 4)
    | 0xd3 => .signed 8 (.next 8)
    | 0xd4 => .extension (.here 1)
    | 0xd5 => .extension (.here 2)
    | 0xd6 => .extension (.here 4)
    | 0xd7 => .extension (.here 8)
    | 0xd8 => .extension (.here 16)
    | 0xd9 => .text (.next 1)
    | 0xda => .text (.next 2)
    | 0xdb => .text (.next 4)
    | 0xdc => .array (.next 2)
    | 0xdd => .array (.next 4)
    | 0xde => .map (.next 2)
    | 0xdf => .map (.next 4)
    | _ => .reserved

/-! ## Two's complement -/

/-- The integer whose two's complement in `width` bytes is `n`. -/
def signedOfNat (width n : Nat) : Int :=
  if 2 * n < Bytes.capacity width then n else (n : Int) - Bytes.capacity width

/-- The two's complement of `i` in `width` bytes. -/
def natOfSigned (width : Nat) (i : Int) : Nat := (i % Bytes.capacity width).toNat

end GatewayClient.MessagePack
