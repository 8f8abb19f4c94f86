import GatewayClient.MessagePack.Dictionary
import GatewayClient.MessagePack.Value
import GatewayClient.Text.Utf8
/-!
# Typed MessagePack

`Packed α` says how an `α` is written as a MessagePack value and which values stand
for one. Reading is more tolerant than writing: text may come as binary data, binary
data may stand for the list of its bytes, and a number comes in any integer form that is
not negative.
-/

namespace GatewayClient.MessagePack

class Packed (α : Type) where
  toValue : α → Value
  ofValue? : Value → Option α

open Packed

instance : Packed Bool where
  toValue := .bool
  ofValue?
    | .bool b => some b
    | _ => none

instance : Packed UInt64 where
  toValue n := .unsigned n.toNat
  ofValue?
    | .unsigned n => some (UInt64.ofNat n)
    | .signed (.ofNat n) => some (UInt64.ofNat n)
    | _ => none

instance : Packed String where
  toValue text := .text (Utf8.encode text)
  ofValue?
    | .text bytes => Utf8.decode? bytes
    | .binary bytes => Utf8.decode? bytes
    | _ => none

instance {α : Type} [Packed α] : Packed (Option α) where
  toValue
    | none => .nil
    | some a => toValue a
  ofValue?
    | .nil => some none
    | value => (ofValue? value).map some

/-- The bytes of binary data as numbers. -/
def Value.ofBytes (bytes : List UInt8) : List Value := bytes.map fun b => .unsigned b.toNat

instance {α : Type} [Packed α] : Packed (List α) where
  toValue items := .array (items.map toValue)
  ofValue?
    | .array items => items.mapM ofValue?
    | .binary bytes => (Value.ofBytes bytes).mapM ofValue?
    | _ => none

/-! ## Dictionaries -/

instance {α : Type} [Packed α] : Packed (Dictionary α) where
  toValue table := .map (table.entries.map fun (key, value) => (toValue key, toValue value))
  ofValue?
    | .map entries => do
        let read ← entries.mapM fun (key, value) => do
          some ((← ofValue? key : String), (← ofValue? value : α))
        some (.ofList read)
    | _ => none

/-! ## Records -/

/-- A record as it is written: a map from the names of its fields. -/
def Value.ofRecord (fields : List (String × Value)) : Value :=
  .map (fields.map fun (name, value) => (toValue name, value))

/-- The field that a map key stands for: `none` if no such key may occur, and
`some none` for a key of no field. A key is the field's name or its position. -/
def Value.fieldOfKey? (names : List String) : Value → Option (Option Nat)
  | .text bytes => some (names.findIdx? (Utf8.encode · == bytes))
  | .binary bytes => some (names.findIdx? (Utf8.encode · == bytes))
  | .unsigned n => some (if n < names.length then some n else none)
  | _ => none

/-- Puts one entry of a map into the slots of a record. A field may be set only once,
and keys of no field are skipped with their values. -/
def Value.fillSlot? (names : List String) (slots : List (Option Value))
    (entry : Value × Value) : Option (List (Option Value)) := do
  match ← entry.1.fieldOfKey? names with
  | none => some slots
  | some i =>
    match slots[i]? with
    | some none => some (slots.set i (some entry.2))
    | _ => none

/-- The slots of `count` fields that are listed in order. What is not listed is missing. -/
def Value.slotsOfList (count : Nat) (items : List Value) : List (Option Value) :=
  items.map some ++ List.replicate (count - items.length) none

/-- The fields of a record, in order: from a map, or from an array that lists them. Binary
data lists the first fields by its bytes. -/
def Value.toRecord? (names : List String) : Value → Option (List (Option Value))
  | .map entries => entries.foldlM (Value.fillSlot? names) (names.map fun _ => none)
  | .array items =>
    if items.length ≤ names.length then some (slotsOfList names.length items) else none
  | .binary bytes => some (slotsOfList names.length (ofBytes (bytes.take names.length)))
  | _ => none

/-- A field that must be there. -/
def required? {α : Type} [Packed α] (slot : Option Value) : Option α := do
  ofValue? (← slot)

/-- A field that may be left out. -/
def orElse? {α : Type} [Packed α] (missing : α) : Option Value → Option α
  | none => some missing
  | some value => ofValue? value

end GatewayClient.MessagePack
