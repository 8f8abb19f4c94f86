import GatewayClient.Frame
import GatewayClient.Payload.Basic
import GatewayClient.MessagePack.Packed
import GatewayClient.MessagePack.Reader
import GatewayClient.MessagePack.Writer
/-!
# Payloads on the wire

A payload travels as a frame whose body is one MessagePack record. Bodies may come as
maps or as arrays; what follows the body is ignored. Guilds and the ready payload may
lack any of their fields, because their form is not final.
-/

namespace GatewayClient

open MessagePack
open MessagePack.Packed

/-! ## Records -/

namespace Guild

def fieldNames : List String := ["id", "hostname", "available"]

instance : Packed Guild where
  toValue guild := .ofRecord [("id", toValue guild.id), ("hostname", toValue guild.hostname),
    ("available", toValue guild.available)]
  ofValue? value := do
    match ← value.toRecord? fieldNames with
    | [id, hostname, available] =>
      some { id := ← orElse? 0 id, hostname := ← orElse? "" hostname,
             available := ← orElse? false available }
    | _ => none

end Guild

namespace Payload

/-- The names of the fields of a body, in order. -/
def fieldNames : Kind → List String
  | .hello => ["token", "cross_node"]
  | .accepted => ["heartbeat_interval"]
  | .heartbeat => ["id"]
  | .joinGuild => ["hostname", "invite_code", "reply_id"]
  | .ready => ["available_guilds", "unavailable_guilds"]
  | .guildUpdate => Guild.fieldNames

def toValue : Payload → Value
  | .hello token crossNode =>
    .ofRecord [("token", Packed.toValue token), ("cross_node", Packed.toValue crossNode)]
  | .accepted interval => .ofRecord [("heartbeat_interval", Packed.toValue interval)]
  | .heartbeat id => .ofRecord [("id", Packed.toValue id)]
  | .joinGuild hostname inviteCode replyId =>
    .ofRecord [("hostname", Packed.toValue hostname), ("invite_code", Packed.toValue inviteCode),
      ("reply_id", Packed.toValue replyId)]
  | .ready available unavailable =>
    .ofRecord [("available_guilds", Packed.toValue available),
      ("unavailable_guilds", Packed.toValue unavailable)]
  | .guildUpdate guild => Packed.toValue guild

/-- The payload of a given kind that a body stands for. -/
def ofValue? (kind : Kind) (body : Value) : Option Payload :=
  match kind with
  | .hello => do
      match ← body.toRecord? (fieldNames .hello) with
      | [token, crossNode] => some (.hello (← orElse? none token) (← required? crossNode))
      | _ => none
  | .accepted => do
      match ← body.toRecord? (fieldNames .accepted) with
      | [interval] => some (.accepted (← required? interval))
      | _ => none
  | .heartbeat => do
      match ← body.toRecord? (fieldNames .heartbeat) with
      | [id] => some (.heartbeat (← required? id))
      | _ => none
  | .joinGuild => do
      match ← body.toRecord? (fieldNames .joinGuild) with
      | [hostname, inviteCode, replyId] =>
        some (.joinGuild (← required? hostname) (← required? inviteCode) (← required? replyId))
      | _ => none
  | .ready => do
      match ← body.toRecord? (fieldNames .ready) with
      | [available, unavailable] =>
        some (.ready (← orElse? [] available) (← orElse? [] unavailable))
      | _ => none
  | .guildUpdate => (Packed.ofValue? body).map .guildUpdate

end Payload

/-! ## Frames -/

/-- Why bytes are not a payload. -/
inductive DecodeError where
  | truncated (length : Nat)
  | unknownId (id : UInt16)
  | malformedBody
  deriving DecidableEq, Repr

def DecodeError.message : DecodeError → String
  | .truncated length =>
    "frame too short: expected at least 2 header bytes, got " ++ toString length
  | .unknownId id => "unknown payload id: " ++ toString id
  | .malformedBody => "decoding error: malformed body"

/-- The frame that carries `value` under `id`. -/
def Frame.ofValue (id : UInt16) (value : Value) : Frame := ⟨id, value.encode⟩

def Frame.parse (bytes : List UInt8) : Except DecodeError Frame :=
  match decode? bytes with
  | some frame => .ok frame
  | none => .error (.truncated bytes.length)

/-- The value at the front of the body, read as an `α`, whatever the id. -/
def Frame.readBody {α : Type} (frame : Frame) (read : Value → Option α) : Except DecodeError α :=
  match (Value.read frame.body).bind fun (value, _) => read value with
  | some a => .ok a
  | none => .error .malformedBody

namespace Payload

def toFrame (payload : Payload) : Frame := .ofValue payload.kind.id payload.toValue

def encode (payload : Payload) : List UInt8 := payload.toFrame.encode

def Kind.parse (id : UInt16) : Except DecodeError Kind :=
  match ofId? id with
  | some kind => .ok kind
  | none => .error (.unknownId id)

/-- A frame with an unknown id is refused before its body is looked at. -/
def decode (bytes : List UInt8) : Except DecodeError Payload := do
  let frame ← Frame.parse bytes
  let kind ← Kind.parse frame.id
  frame.readBody (ofValue? kind)

end Payload

end GatewayClient
