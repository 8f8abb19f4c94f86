import GatewayClient.Bootstrap
import GatewayClient.Connection.Sockets
import GatewayClient.Token.Memory
/-!
# Stages

A gateway and its front ends in memory: in-memory transports, a token store, and a clock
that moves only when somebody sleeps. A call that waits for an answer lets the gateway run
until it has nothing to do.
-/

namespace GatewayClient

open Connection (Answer Operation Record Sockets Surroundings)
open Gateway (Happening)

structure Stage where
  gateway : Gateway
  tokens : Token.Memory := {}
  now : Instant := 0
  sockets : Sockets := {}
  /-- The handlers that panic when they are called. -/
  panicking : List Ticket := []
  /-- The front ends by their names. -/
  mounted : List (String × Bootstrap) := []
  /-- A front end on its way. -/
  mounting : Option Bootstrap := none
  /-- The answers that callers got. -/
  replies : List (Ticket × Answer) := []
  log : List (Record Ticket) := []

namespace Stage

/-! ## Running -/

def surroundings (s : Stage) : Surroundings :=
  { now := s.now, token := s.tokens.get, refusal := s.sockets.refusal }

def see (s : Stage) (happening : Happening) : Stage :=
  let s := { s with mounted := s.mounted.map fun (name, b) => (name, Bootstrap.observe b happening)
                    mounting := s.mounting.map fun b => Bootstrap.observe b happening }
  match happening with
  | .did effect =>
    let (seen, sockets) := s.sockets.record effect
    { s with log := s.log ++ seen, sockets }
  | .replied ticket answer => { s with replies := (ticket, answer) :: s.replies }

/-- Lets the gateway run until it has nothing to do. -/
def settle (s : Stage) : Stage :=
  let (seen, gateway) := s.gateway.settle s.surroundings s.panicking.contains
  seen.foldl see { s with gateway }

/-- Moves the clock, and lets the gateway do what becomes due on the way. The fuel bounds
the times at which something is due. -/
def sleepFor (target : Instant) : (fuel : Nat) → (s : Stage) → Stage
  | 0, s => { s with now := target }
  | fuel + 1, s =>
    let s := s.settle
    match s.gateway.connection.bind Connection.nextDeadline with
    | some deadline =>
      if deadline ≤ target then sleepFor target fuel { s with now := max s.now deadline }
      else { s with now := target }
    | none => { s with now := target }

/-- Sleeps until a time. Each time at which something is due is later than the last. -/
def sleepUntil (s : Stage) (target : Instant) : Stage := sleepFor target (target - s.now + 2) s

/-! ## Calls -/

/-- Waits for an answer, which does not come if the gateway stops. -/
def await (s : Stage) (ticket : Ticket) : Option Answer × Stage :=
  let s := s.settle
  (s.replies.lookup ticket, s)

/-- Calls and waits. There is no answer from a gateway that has stopped. -/
def ask (s : Stage) (operation : Ticket → Operation Ticket) : Option Answer × Stage :=
  match s.gateway.request? operation with
  | none => (none, s)
  | some (ticket, gateway) => { s with gateway }.await ticket

/-- Takes the next step of a mount once the last one is answered with a handle. -/
def mountStep {κ : Type} (s : Stage) (ticket : Option Ticket) (handle? : Answer → Option κ)
    (next : Bootstrap → Gateway → κ → Option (Bootstrap × Gateway)) : Bool × Stage :=
  let (answer, s) := match ticket with
    | some ticket => s.await ticket
    | none => (none, s)
  match answer.bind handle?, s.mounting with
  | some handle, some b =>
    match next b s.gateway handle with
    | some (b, gateway) => (true, { s with gateway, mounting := some b })
    | none => (false, s)
  | _, _ => (false, s)

/-- Keeps a front end that is mounted under a name. -/
def keep (s : Stage) (name : String) (b : Bootstrap) : Stage :=
  { s with mounted := s.mounted.filter (·.1 != name) ++ [(name, b)], mounting := none }

/-- Mounts a front end: its view, unless the gateway has stopped. -/
def mount (s : Stage) (name path : String) : Option View × Stage :=
  if s.tokens.get.isNone then
    let b := Bootstrap.withoutToken path
    (some b.view, s.keep name b)
  else
    match Bootstrap.mount? s.gateway path with
    | none => (none, s)
    | some (b, gateway) =>
      let (added, s) := { s with gateway, mounting := some b }.mountStep b.onDisconnect
        Answer.disconnectHandle? Bootstrap.addReady?
      let (started, s) :=
        if added then s.mountStep (s.mounting.bind (·.onReady)) Answer.handle? Bootstrap.start?
        else (false, s)
      match started, s.mounting with
      | true, some b => (some b.view, s.keep name b)
      | _, _ => (none, { s with mounting := none })

def unmount (s : Stage) (name : String) : Stage :=
  match s.mounted.lookup name with
  | some b =>
    let (b, gateway) := b.unmount s.gateway
    let replace (entry : String × Bootstrap) := if entry.1 = name then (name, b) else entry
    { s with gateway, mounted := s.mounted.map replace }
  | none => s

/-- All front ends and then all other callers go. -/
def abandon (s : Stage) : Stage :=
  let s := (s.mounted.map (·.1)).foldl unmount s
  { s with gateway := s.gateway.abandon }

end Stage

end GatewayClient
