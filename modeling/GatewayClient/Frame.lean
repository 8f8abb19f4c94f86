import GatewayClient.Bytes
/-!
# Frames

A frame is a binary message of the gateway: the id of its payload in two big-endian
bytes, then the body.
-/

namespace GatewayClient

structure Frame where
  id : UInt16
  body : List UInt8
  deriving DecidableEq, Repr

namespace Frame

def encode (frame : Frame) : List UInt8 := Bytes.bigEndian 2 frame.id.toNat ++ frame.body

/-- Everything after the id is body. Fails only on bytes too few for the id. -/
def decode? (bytes : List UInt8) : Option Frame := do
  let (id, body) ← Bytes.number? 2 bytes
  some ⟨UInt16.ofNat id, body⟩

@[simp] theorem decode?_encode (frame : Frame) : decode? frame.encode = some frame := by
  have room : frame.id.toNat < Bytes.capacity 2 := frame.id.toNat_lt
  simp [decode?, encode, Bytes.number?_bigEndian room]

end Frame

end GatewayClient
