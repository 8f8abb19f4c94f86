/-!
# Payloads

The messages that a client and a gateway exchange, and the numbers that name them on
the wire.
-/

namespace GatewayClient

/-- A guild as the gateway reports it. Its id is unique on the node that hosts it. -/
structure Guild where
  id : UInt64
  hostname : String
  /-- Whether the hosting node could be reached. -/
  available : Bool
  deriving DecidableEq, Repr

inductive Payload where
  /-- The client announces its session token, if it has one. -/
  | hello (token : Option String) (crossNode : Bool)
  /-- The server takes the session and says how often it sends heartbeats, in
  milliseconds. -/
  | accepted (heartbeatInterval : UInt64)
  /-- A sign of life from the server, which the client sends back. -/
  | heartbeat (id : String)
  /-- The client asks to join a guild on another node. -/
  | joinGuild (hostname inviteCode replyId : String)
  /-- The session is ready. -/
  | ready (available unavailable : List Guild)
  | guildUpdate (guild : Guild)
  deriving DecidableEq, Repr

namespace Payload

inductive Kind where
  | hello
  | accepted
  | heartbeat
  | joinGuild
  | ready
  | guildUpdate
  deriving DecidableEq, Repr

namespace Kind

/-- The number of a kind of payload on the wire. -/
def id : Kind → UInt16
  | .hello => 0
  | .accepted => 1
  | .heartbeat => 2
  | .joinGuild => 3
  | .ready => 4
  | .guildUpdate => 5

def ofId? (id : UInt16) : Option Kind :=
  [hello, accepted, heartbeat, joinGuild, ready, guildUpdate].find? (·.id == id)

@[simp] theorem ofId?_id (kind : Kind) : ofId? kind.id = some kind := by
  cases kind <;> decide

end Kind

def kind : Payload → Kind
  | .hello .. => .hello
  | .accepted .. => .accepted
  | .heartbeat .. => .heartbeat
  | .joinGuild .. => .joinGuild
  | .ready .. => .ready
  | .guildUpdate .. => .guildUpdate

end Payload

end GatewayClient
