import GatewayClient.Connection.Basic
/-!
# Operations

All that can be done to a connection, as one type, and what each operation does.
-/

namespace GatewayClient.Connection

variable {η : Type}

inductive Operation (η : Type) where
  | start
  | shutdown
  | send (payload : Payload)
  /-- The reply id is a fresh one. -/
  | joinGuild (hostname inviteCode replyId : String)
  | addReady (handler : η)
  | removeReady (handle : Handle)
  | addDisconnect (handler : η)
  | removeDisconnect (handle : DisconnectHandle)
  | askInterval
  | poll
  /-- Something happened on the transport of a generation. -/
  | receive (generation : Nat) (event : Event)
  deriving DecidableEq, Repr

/-- What an operation answers. -/
inductive Answer where
  | none
  | sent (result : Except SendError Unit)
  | joined (result : Except SendError String)
  | registered (handle : Handle)
  | registeredDisconnect (handle : DisconnectHandle)
  | interval (interval : Option Duration)

/-- The handle of a ready handler that was added. -/
def Answer.handle? : Answer → Option Handle
  | .registered handle => some handle
  | _ => Option.none

/-- The handle of a disconnect handler that was added. -/
def Answer.disconnectHandle? : Answer → Option DisconnectHandle
  | .registeredDisconnect handle => some handle
  | _ => Option.none

def apply (c : Connection η) (world : Surroundings) :
    Operation η → Turn (Moment η) (Answer × Connection η)
  | .start => do pure (.none, ← c.start)
  | .shutdown => do pure (.none, ← c.shutdown)
  | .send payload => do pure (.sent (← c.send world payload), c)
  | .joinGuild hostname inviteCode replyId => do
    pure (.joined (← c.joinGuild world hostname inviteCode replyId), c)
  | .addReady handler =>
    let (handle, c) := c.addReady handler
    pure (.registered handle, c)
  | .removeReady handle => pure (.none, c.removeReady handle)
  | .addDisconnect handler =>
    let (handle, c) := c.addDisconnect handler
    pure (.registeredDisconnect handle, c)
  | .removeDisconnect handle => pure (.none, c.removeDisconnect handle)
  | .askInterval => pure (.interval c.interval, c)
  | .poll => do pure (.none, ← c.poll world.now)
  | .receive generation event => do pure (.none, ← c.receive world generation event)

end GatewayClient.Connection
