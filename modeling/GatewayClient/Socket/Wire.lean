import GatewayClient.Bytes
import GatewayClient.Socket.Basic
import GatewayClient.Text.Utf8
/-!
# WebSocket frames

Messages as bytes. What a client writes is masked; what a server writes is not. A server
may split a message into several frames and put control frames between them.
-/

namespace GatewayClient.Wire

inductive Opcode where
  | continuation
  | text
  | binary
  | close
  | ping
  | pong
  deriving DecidableEq, Repr

namespace Opcode

def number : Opcode → Nat
  | continuation => 0
  | text => 1
  | binary => 2
  | close => 8
  | ping => 9
  | pong => 10

def ofNumber? (n : Nat) : Option Opcode :=
  [continuation, text, binary, close, ping, pong].find? (·.number = n)

/-- Control frames are short and are not split. -/
def isControl (opcode : Opcode) : Bool := 8 ≤ opcode.number

end Opcode

/-- A frame of a message. -/
structure Piece where
  final : Bool
  opcode : Opcode
  payload : List UInt8
  deriving DecidableEq, Repr

/-- Why what a server writes is refused. -/
inductive Violation where
  | reservedBits
  | unknownOpcode
  | masked
  | badControl
  | unexpectedContinuation
  | missingContinuation
  | notUtf8
  | badClose
  | tooLong
  deriving DecidableEq, Repr

def Violation.message : Violation → String
  | reservedBits => "WebSocket protocol error: Reserved bits are non-zero"
  | unknownOpcode => "WebSocket protocol error: Encountered invalid opcode"
  | masked => "WebSocket protocol error: Received a masked frame from server"
  | badControl => "WebSocket protocol error: Control frame too big or fragmented"
  | unexpectedContinuation =>
    "WebSocket protocol error: Continue frame but nothing to continue"
  | missingContinuation =>
    "WebSocket protocol error: While waiting for more fragments received a new message"
  | notUtf8 => "UTF-8 encoding error"
  | badClose => "WebSocket protocol error: Invalid close sequence"
  | tooLong => "Space limit exceeded: Message too long"

/-! ## Frames -/

/-- The most bytes in a frame, and in a message. -/
def frameLimit : Nat := 16 <<< 20

def messageLimit : Nat := 64 <<< 20

/-- The bytes of a length that follow its first seven bits. -/
def lengthWidth (short : Nat) : Nat := if short = 126 then 2 else if short = 127 then 8 else 0

/-- The length that a header tells. -/
def readLength? (short : Nat) : Reader UInt8 Nat := fun input =>
  if lengthWidth short = 0 then some (short, input) else Bytes.number? (lengthWidth short) input

/-- One frame off the front of what has come in, if it is whole. -/
def readPiece : List UInt8 → Except Violation (Option (Piece × List UInt8))
  | first :: second :: rest =>
    match Opcode.ofNumber? (first.toNat % 16), readLength? (second.toNat % 128) rest with
    | _, none => .ok none
    | opcode, some (length, rest) =>
      if first.toNat / 16 % 8 ≠ 0 then .error .reservedBits
      else if second.toNat / 128 ≠ 0 then .error .masked
      else if length > frameLimit then .error .tooLong
      else
        match opcode with
        | none => .error .unknownOpcode
        | some opcode =>
          let final := first.toNat / 128 = 1
          if opcode.isControl ∧ (length > 125 ∨ !final) then .error .badControl
          else
            match Bytes.take? length rest with
            | some (payload, rest) => .ok (some ({ final, opcode, payload }, rest))
            | none => .ok none
  | _ => .ok none

/-- The length of a payload in a header, with the bit that says that it is masked. -/
def lengthBytes (length : Nat) : List UInt8 :=
  if length < 126 then [UInt8.ofNat (128 + length)]
  else if length < 0x10000 then UInt8.ofNat (128 + 126) :: Bytes.bigEndian 2 length
  else UInt8.ofNat (128 + 127) :: Bytes.bigEndian 8 length

/-- Masks or unmasks bytes; the key is used over and over. -/
def maskWith (key : List UInt8) (bytes : List UInt8) : List UInt8 :=
  bytes.mapIdx fun i b => b ^^^ key.getD (i % key.length) 0

def writePiece (key : List UInt8) (opcode : Opcode) (payload : List UInt8) : List UInt8 :=
  UInt8.ofNat (128 + opcode.number) :: lengthBytes payload.length ++ key ++ maskWith key payload

theorem maskWith_maskWith (key bytes : List UInt8) : maskWith key (maskWith key bytes) = bytes := by
  apply List.ext_getElem
  · simp [maskWith]
  · intro i h₁ h₂
    simp only [maskWith, List.getElem_mapIdx, UInt8.xor_assoc, UInt8.xor_self, UInt8.xor_zero]

/-! ## Messages -/

/-- A message in one frame, masked with four bytes. -/
def writeMessage (key : List UInt8) : Message → List UInt8
  | .binary bytes => writePiece key .binary bytes
  | .text text => writePiece key .text (Utf8.encode text)
  | .ping bytes => writePiece key .ping bytes
  | .pong bytes => writePiece key .pong bytes
  | .close none => writePiece key .close []
  | .close (some (code, reason)) =>
    writePiece key .close (Bytes.bigEndian 2 code ++ Utf8.encode reason)

/-- Whether a server may close with a code. -/
def allowsCode (code : Nat) : Bool :=
  [1000, 1001, 1002, 1003, 1007, 1008, 1009, 1010, 1011, 1012, 1013].contains code
    || (3000 ≤ code && code < 5000)

/-- A close frame with a code that is not allowed counts as one that complains of that. -/
def readClose : List UInt8 → Except Violation Message
  | [] => .ok (.close none)
  | high :: low :: reason =>
    let code := high.toNat * 256 + low.toNat
    match Utf8.decode? reason with
    | none => .error .notUtf8
    | some reason =>
      .ok (.close (some (if allowsCode code then (code, reason) else (1002, "Protocol violation"))))
  | _ => .error .badClose

/-- What has come in: bytes of a frame, and frames of a message whose last is missing. -/
structure Incoming where
  buffer : List UInt8 := []
  /-- Whether the message is a text, and its bytes so far. -/
  begun : Option (Bool × List UInt8) := none
  deriving DecidableEq, Repr

def finishData (isText : Bool) (bytes : List UInt8) : Except Violation Message :=
  if isText then
    match Utf8.decode? bytes with
    | some text => .ok (.text text)
    | none => .error .notUtf8
  else .ok (.binary bytes)

/-- Adds a part of a data message. -/
def Incoming.addData (i : Incoming) (isText : Bool) (bytes : List UInt8) (final : Bool) :
    Except Violation (Option Message × Incoming) :=
  if bytes.length > messageLimit then .error .tooLong
  else if final then
    (finishData isText bytes).map fun message => (some message, { i with begun := none })
  else .ok (none, { i with begun := some (isText, bytes) })

def Incoming.addPiece (i : Incoming) (piece : Piece) :
    Except Violation (Option Message × Incoming) :=
  match piece.opcode, i.begun with
  | .close, _ => (readClose piece.payload).map fun message => (some message, i)
  | .ping, _ => .ok (some (.ping piece.payload), i)
  | .pong, _ => .ok (some (.pong piece.payload), i)
  | .continuation, none => .error .unexpectedContinuation
  | .continuation, some (isText, bytes) =>
    i.addData isText (bytes ++ piece.payload) piece.final
  | .text, none => i.addData true piece.payload piece.final
  | .binary, none => i.addData false piece.payload piece.final
  | .text, some _ | .binary, some _ => .error .missingContinuation

/-- The messages that are whole, up to a violation. The fuel bounds the frames. -/
def Incoming.messages : (fuel : Nat) → Incoming → List Message × Option Violation × Incoming
  | 0, i => ([], none, i)
  | fuel + 1, i =>
    match readPiece i.buffer with
    | .error violation => ([], some violation, i)
    | .ok none => ([], none, i)
    | .ok (some (piece, rest)) =>
      match { i with buffer := rest }.addPiece piece with
      | .error violation => ([], some violation, i)
      | .ok (message, i) =>
        let (others, violation, i) := messages fuel i
        (message.toList ++ others, violation, i)

/-- Takes bytes in. Every frame has at least two of them. -/
def Incoming.feed (i : Incoming) (bytes : List UInt8) :
    List Message × Option Violation × Incoming :=
  let buffer := i.buffer ++ bytes
  { i with buffer }.messages buffer.length

end GatewayClient.Wire
