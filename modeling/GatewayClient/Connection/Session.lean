import GatewayClient.Connection.Operation
import GatewayClient.Connection.Sockets
import GatewayClient.Token.Memory
/-!
# Sessions in memory

A connection together with all that surrounds it: the stored token, the clock, in-memory
transports, and the events that these have reported and that were not handled yet.
-/

namespace GatewayClient.Connection

structure Session (η : Type) where
  connection : Connection η
  tokens : Token.Memory := {}
  now : Instant := 0
  sockets : Sockets := {}
  /-- Events with the generations of their transports. -/
  queue : List (Nat × Event) := []
  /-- Whether somebody takes events. -/
  listening : Bool := true
  log : List (Record η) := []

namespace Session

variable {η : Type}

def surroundings (s : Session η) : Surroundings :=
  { now := s.now, token := s.tokens.get, refusal := s.sockets.refusal }

/-- Applies an operation. There is no answer if the clock cannot tell a time. -/
def apply (s : Session η) (operation : Operation η) : Option Answer × Session η :=
  let turn := s.connection.apply s.surroundings operation
  let (seen, sockets) := s.sockets.recordAll turn.effects
  let s := { s with log := s.log ++ seen, sockets }
  match turn.result with
  | some (answer, connection) => (some answer, { s with connection })
  | none => (none, s)

/-- A transport reports an event. The answer is whether anybody listens. -/
def report (s : Session η) (generation : Nat) (event : Event) : Bool × Session η :=
  if s.listening then (true, { s with queue := s.queue ++ [(generation, event)] }) else (false, s)

/-- Handles events in order. The answer is whether all were handled. -/
def handle (s : Session η) : List (Nat × Event) → Bool × Session η
  | [] => (true, s)
  | (generation, event) :: events =>
    match s.apply (.receive generation event) with
    | (some _, s) => s.handle events
    | (none, s) => (false, s)

/-- Handles the events that were reported. -/
def pump (s : Session η) : Bool × Session η := { s with queue := [] }.handle s.queue

/-- Nobody takes events any more. -/
def deafen (s : Session η) : Session η := { s with listening := false, queue := [] }

end Session

end GatewayClient.Connection
