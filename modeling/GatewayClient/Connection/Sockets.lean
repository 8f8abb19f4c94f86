import GatewayClient.Connection.Turn
/-!
# In-memory transports

Transports without a network: they are numbered in the order in which they were opened,
and each takes frames or refuses them. What an observer of them sees of a turn is a list
of records.
-/

namespace GatewayClient.Connection

structure Sockets where
  /-- The generations of the transports that were opened. -/
  generations : List Nat := []
  /-- The numbers of the transports that refuse frames. -/
  refusing : List Nat := []
  deriving DecidableEq, Repr

/-- What an observer sees; transports are given by their numbers. -/
inductive Record (η : Type) where
  | opened (socket generation : Nat)
  | sent (socket : Nat) (frame : List UInt8)
  | refused (socket : Nat) (frame : List UInt8)
  | closed (socket : Nat)
  | ready (handler : η)
  | disconnected (handler : η) (reconnect : Bool)
  deriving DecidableEq, Repr

namespace Sockets

variable {η : Type}

/-- Transports count from one. -/
def number (sockets : Sockets) (generation : Nat) : Nat :=
  sockets.generations.findIdx (· == generation) + 1

def generation? (sockets : Sockets) (number : Nat) : Option Nat :=
  if number = 0 then none else sockets.generations[number - 1]?

/-- What a transport that refuses frames says. -/
def refusal (sockets : Sockets) (generation : Nat) : Option String :=
  if sockets.refusing.contains (sockets.number generation) then some "broken pipe" else none

/-- Lets a transport refuse frames, or take them. -/
def setRefusing (sockets : Sockets) (number : Nat) (refuses : Bool) : Sockets :=
  let others := sockets.refusing.filter (· != number)
  { sockets with refusing := if refuses then number :: others else others }

/-- What is seen of one effect, and the transports after it. -/
def record (sockets : Sockets) : Effect η → List (Record η) × Sockets
  | .entered _ => ([], sockets)
  | .opened generation =>
    let sockets := { sockets with generations := sockets.generations ++ [generation] }
    ([.opened sockets.generations.length generation], sockets)
  | .sent generation frame =>
    let socket := sockets.number generation
    ([if sockets.refusing.contains socket then .refused socket frame else .sent socket frame],
      sockets)
  | .closed generation => ([.closed (sockets.number generation)], sockets)
  | .ready handler => ([.ready handler], sockets)
  | .disconnected handler reconnect => ([.disconnected handler reconnect], sockets)

def recordAll (sockets : Sockets) : List (Effect η) → List (Record η) × Sockets
  | [] => ([], sockets)
  | effect :: effects =>
    let (seen, sockets) := sockets.record effect
    let (others, sockets) := recordAll sockets effects
    (seen ++ others, sockets)

end Sockets

end GatewayClient.Connection
