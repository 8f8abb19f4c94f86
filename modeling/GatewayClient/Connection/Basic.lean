import GatewayClient.CloseReason
import GatewayClient.Connection.Turn
import GatewayClient.Payload.Codec
import GatewayClient.Registry
import GatewayClient.RetryPolicy
import GatewayClient.Watchdog
/-!
# Connections

A connection keeps one session open. It holds at most one transport, announces the
session on it, answers heartbeats, watches for silence, and retries after a loss. It
does nothing by itself: it is told what happened on its transports and that time has
passed.

A transport belongs to a generation. Events of any generation but the held transport's
have no effect, because that transport is gone.
-/

namespace GatewayClient

/-- A connection with handlers of type `η`. -/
structure Connection (η : Type) where
  policy : RetryPolicy := {}
  watchdog : Watchdog := {}
  phase : Connection.Phase := .closed
  /-- The interval of heartbeats that the server announced. -/
  interval : Option Duration := none
  /-- Whether a transport is held; its generation is the current one. -/
  hasTransport : Bool := false
  generation : Nat := 0
  /-- Transports lost in a row. -/
  losses : Nat := 0
  retryAt : Option Instant := none
  readyHandlers : Registry η := {}
  /-- Disconnect handlers, as they are called when no reconnect follows. -/
  noReconnectHandlers : Registry η := {}
  /-- Disconnect handlers, as they are called when a reconnect follows. -/
  reconnectHandlers : Registry η := {}
  deriving DecidableEq, Repr

namespace Connection

variable {η α : Type}

def new (policy : RetryPolicy) (multiplier : Nat) : Connection η :=
  { policy, watchdog := { multiplier } }

/-- An act, and the connection as those who notice the act find it. -/
structure Moment (η : Type) where
  act : Act η
  connection : Connection η
  deriving DecidableEq, Repr

/-- What the world sees of a turn. -/
def Turn.effects (turn : Turn (Moment η) α) : List (Effect η) :=
  turn.moments.flatMap (·.act.effects)

def perform (c : Connection η) (act : Act η) : Turn (Moment η) Unit := .perform ⟨act, c⟩

/-- What a turn has to know of the world. -/
structure Surroundings where
  now : Instant
  /-- The session token that is stored now. -/
  token : Option String
  /-- Why the transport of a generation takes no frames now, if it takes none. -/
  refusal : Nat → Option String

/-- Why a payload was not sent. -/
inductive SendError where
  | notConnected
  | refused (reason : String)
  deriving DecidableEq, Repr

def SendError.message : SendError → String
  | .notConnected => "gateway not connected"
  | .refused reason => "gateway transport failed: " ++ reason

/-! ## Handlers -/

/-- Names a disconnect handler in both registries. -/
structure DisconnectHandle where
  noReconnect : Handle
  reconnect : Handle
  deriving DecidableEq, Repr

def addReady (c : Connection η) (handler : η) : Handle × Connection η :=
  let (handle, readyHandlers) := c.readyHandlers.register handler
  (handle, { c with readyHandlers })

def removeReady (c : Connection η) (handle : Handle) : Connection η :=
  { c with readyHandlers := c.readyHandlers.unregister handle }

def addDisconnect (c : Connection η) (handler : η) : DisconnectHandle × Connection η :=
  let (noReconnect, noReconnectHandlers) := c.noReconnectHandlers.register handler
  let (reconnect, reconnectHandlers) := c.reconnectHandlers.register handler
  (⟨noReconnect, reconnect⟩, { c with noReconnectHandlers, reconnectHandlers })

def removeDisconnect (c : Connection η) (handle : DisconnectHandle) : Connection η :=
  { c with noReconnectHandlers := c.noReconnectHandlers.unregister handle.noReconnect,
           reconnectHandlers := c.reconnectHandlers.unregister handle.reconnect }

/-! ## Transports -/

def enter (c : Connection η) (phase : Phase) : Turn (Moment η) (Connection η) :=
  if c.phase = phase then pure c
  else do
    let c := { c with phase }
    c.perform (.entered phase)
    pure c

/-- Opens a transport, unless one is held. -/
def start (c : Connection η) : Turn (Moment η) (Connection η) :=
  if c.hasTransport then pure c
  else do
    let c := { c with generation := c.generation + 1, interval := none,
                      watchdog := c.watchdog.clear, retryAt := none }
    let c ← c.enter .negotiating
    -- What the transport reports while it is being opened is handled after this turn.
    c.perform (.opened c.generation)
    pure { c with hasTransport := true }

/-- Closes the transport that is held. -/
def dropTransport (c : Connection η) : Turn (Moment η) (Connection η) :=
  if c.hasTransport then do
    let c := { c with hasTransport := false }
    c.perform (.closed c.generation)
    pure c
  else pure c

/-- Closes the transport and cancels a retry. What the transport still reports is of an
old generation then. No handler is called. -/
def shutdown (c : Connection η) : Turn (Moment η) (Connection η) := do
  let c ← c.dropTransport
  let c := { c with generation := c.generation + 1, interval := none,
                    watchdog := c.watchdog.clear, retryAt := none, losses := 0 }
  c.enter .closed

/-- Hands a frame to the transport that is held. -/
def transmit (c : Connection η) (world : Surroundings) (frame : List UInt8) :
    Turn (Moment η) (Except SendError Unit) :=
  if c.hasTransport then do
    -- A frame that is refused has been handed over, too.
    c.perform (.sent c.generation frame)
    match world.refusal c.generation with
    | some reason => pure (.error (.refused reason))
    | none => pure (.ok ())
  else pure (.error .notConnected)

def send (c : Connection η) (world : Surroundings) (payload : Payload) :
    Turn (Moment η) (Except SendError Unit) :=
  c.transmit world payload.encode

/-- Asks to join a guild. The reply will carry the id of the request. -/
def joinGuild (c : Connection η) (world : Surroundings) (hostname inviteCode replyId : String) :
    Turn (Moment η) (Except SendError String) := do
  match ← c.send world (.joinGuild hostname inviteCode replyId) with
  | .ok () => pure (.ok replyId)
  | .error e => pure (.error e)

/-! ## Losses -/

/-- Counts a loss and retries, at once or after a wait. The answer is whether there is a
retry. -/
def scheduleRetry (c : Connection η) (now : Instant) : Turn (Moment η) (Bool × Connection η) := do
  let c := { c with losses := RetryPolicy.countLoss c.losses }
  if c.policy.allows c.losses then
    let delay := c.policy.delay c.losses
    -- Without a delay no timer is set, as it would be due only at the next poll.
    if delay = 0 then
      let c ← c.start
      pure (true, c)
    else
      let time ← .attempt (now.after? delay)
      pure (true, { c with retryAt := some time })
  else pure (false, c)

def callDisconnectHandlers (c : Connection η) (reconnect : Bool) : Turn (Moment η) Unit :=
  let registry := if reconnect then c.reconnectHandlers else c.noReconnectHandlers
  c.perform (.calledDisconnect registry.callbacks reconnect)

/-- What a connection is right after its transport is gone. -/
def withoutTransport (c : Connection η) : Turn (Moment η) (Connection η) :=
  let c := { c with hasTransport := false, interval := none, watchdog := c.watchdog.clear }
  c.enter .unhealthy

/-- The transport failed: handlers hear of a final loss, and then there is a retry if the
policy allows one. -/
def onFailure (c : Connection η) (now : Instant) : Turn (Moment η) (Connection η) := do
  let c ← c.withoutTransport
  -- Handlers are called before it is known whether there is a retry.
  c.callDisconnectHandlers false
  let (_, c) ← c.scheduleRetry now
  pure c

/-- No retry follows, and the next loss is the first in a row. -/
def giveUp (c : Connection η) : Turn (Moment η) (Connection η) := do
  let c := { c with retryAt := none, losses := 0 }
  c.callDisconnectHandlers false
  pure c

/-- The server closed the connection: there is a retry if it asks for one and the policy
allows it, and handlers hear which. -/
def onClose (c : Connection η) (text : String) (now : Instant) :
    Turn (Moment η) (Connection η) := do
  let c ← c.withoutTransport
  if (CloseReason.ofCloseText text).reconnect then
    let (retrying, c) ← c.scheduleRetry now
    if retrying then
      -- The next transport may be held already.
      c.callDisconnectHandlers true
      pure c
    else c.giveUp
  else c.giveUp

/-! ## Events -/

/-- The watchdog of a session that is ready. It watches for heartbeats if the server
announced their interval. -/
def armedWatchdog? (c : Connection η) (now : Instant) : Option Watchdog :=
  match c.interval with
  | some interval => c.watchdog.arm? interval now
  | none => some c.watchdog

/-- The session is ready: the watchdog watches, and handlers hear of it. -/
def onReady (c : Connection η) (now : Instant) : Turn (Moment η) (Connection η) := do
  let c ← c.enter .ready
  let watchdog ← .attempt (c.armedWatchdog? now)
  let c := { c with losses := 0, watchdog }
  c.perform (.calledReady c.readyHandlers.callbacks)
  pure c

/-- Any frame is a sign of life. Of those that carry a payload only three matter. -/
def onFrame (c : Connection η) (world : Surroundings) (frame : List UInt8) :
    Turn (Moment η) (Connection η) := do
  -- A frame that cannot be decoded is a sign of life, too.
  let watchdog ← .attempt (c.watchdog.feed? world.now)
  let c := { c with watchdog }
  match Payload.decode frame with
  | .ok (.accepted interval) =>
    pure { c with interval := some (.ofMilliseconds interval.toNat) }
  | .ok (.heartbeat _) => do
    let _ ← c.transmit world frame
    pure c
  | .ok (.ready _ _) => c.onReady world.now
  | _ => pure c

/-- Whether events of a generation concern the transport that is held. -/
def holds (c : Connection η) (generation : Nat) : Bool :=
  c.hasTransport && generation == c.generation

def receive (c : Connection η) (world : Surroundings) (generation : Nat) (event : Event) :
    Turn (Moment η) (Connection η) :=
  if c.holds generation then
    match event with
    | .opened => do
      let _ ← c.send world (.hello world.token false)
      pure c
    | .frame bytes => c.onFrame world bytes
    | .failed _ => c.onFailure world.now
    | .closed text => c.onClose text world.now
  else pure c

/-! ## Time -/

/-- When the connection has to be told next that time has passed. -/
def nextDeadline (c : Connection η) : Option Instant :=
  match c.watchdog.deadline, c.retryAt with
  | some a, some b => some (min a b)
  | some a, none => some a
  | none, b => b

/-- Silence for too long is a failure of the transport. -/
def pollWatchdog (c : Connection η) (now : Instant) : Turn (Moment η) (Connection η) :=
  if c.watchdog.isExpired now then do
    let c ← c.dropTransport
    c.onFailure now
  else pure c

def pollRetry (c : Connection η) (now : Instant) : Turn (Moment η) (Connection η) :=
  if c.retryAt.any (· ≤ now) then { c with retryAt := none }.start else pure c

/-- Does what is due. -/
def poll (c : Connection η) (now : Instant) : Turn (Moment η) (Connection η) := do
  let c ← c.pollWatchdog now
  c.pollRetry now

end Connection

end GatewayClient
