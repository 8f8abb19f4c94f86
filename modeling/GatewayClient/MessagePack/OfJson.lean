import GatewayClient.Binary64.Reader
import GatewayClient.Json.Basic
import GatewayClient.MessagePack.Packed
/-!
# JSON as MessagePack

The value that stands for a JSON value. How a number is written decides its form: without
a fraction and a power of ten it is an integer, if there is one of 64 bits. The members of
an object are in the order of their names.
-/

namespace GatewayClient.MessagePack

/-- A number by its characters. The text of a negative zero is no integer. -/
def Value.ofNumber? (text : List Char) : Option Value :=
  match (String.ofList text).toInt? with
  | some (.ofNat n) =>
    if n < 1 <<< 64 ∧ text ≠ ['-', '0'] then some (.unsigned n) else float?
  | some i => if -0x8000000000000000 ≤ i then some (.signed i) else float?
  | none => float?
where
  float? := (Binary64.parse? text).map fun x => .float64 x.toBits

mutual

def Value.ofJson? : Json → Option Value
  | .null => some .nil
  | .bool b => some (.bool b)
  | .number text => Value.ofNumber? text
  | .string symbols => do some (.text (Utf8.encode (String.ofList (← Json.text? symbols))))
  | .array items => do some (.array (← ofJsonItems? items))
  | .object members => do
    some (.ofRecord (Dictionary.ofList (← ofJsonMembers? members)).entries)

def ofJsonItems? : List Json → Option (List Value)
  | [] => some []
  | item :: items => do some ((← Value.ofJson? item) :: (← ofJsonItems? items))

def ofJsonMembers? : List (List Json.Symbol × Json) → Option (List (String × Value))
  | [] => some []
  | (name, value) :: members => do
    let entry := (String.ofList (← Json.text? name), ← Value.ofJson? value)
    some (entry :: (← ofJsonMembers? members))

end

end GatewayClient.MessagePack
