import GatewayClient.CommandLine.Program
import GatewayClient.Socket.Handshake
import GatewayClient.Socket.Wire
/-!
# Live sessions

A session that is held: a gateway, the front end that watches it, and a socket for each
transport that was opened. The session is told what happens outside, and answers with
what is to be done there. It ends when the user has to log in.
-/

namespace GatewayClient.CommandLine

open Connection (Answer Operation)
open Gateway (Happening)

/-! ## Circuits -/

/-- What comes in on a socket. -/
inductive Reading where
  | nothing
  /-- The response to an opening handshake with a key. -/
  | response (key : String) (bytes : List UInt8)
  | messages (incoming : Wire.Incoming)
  deriving DecidableEq, Repr

/-- A socket and what has come in on it. -/
structure Circuit where
  socket : Socket := {}
  reading : Reading := .nothing
  deriving DecidableEq, Repr

namespace Circuit

def step (c : Circuit) (listening : Bool) (step : Socket.Step) : List Socket.Effect × Circuit :=
  let (effects, socket) := c.socket.step listening step
  (effects, { c with socket })

def steps (listening : Bool) (c : Circuit) : List Socket.Step → List Socket.Effect × Circuit
  | [] => ([], c)
  | step :: rest =>
    let (effects, c) := c.step listening step
    let (others, c) := c.steps listening rest
    (effects ++ others, c)

/-- Carries out all orders. The last one may be the end of the transport. -/
def flush (c : Circuit) : List Socket.Effect × Circuit :=
  c.steps true (List.replicate (c.socket.orders.length + 1) (.wrote none))

/-- The socket cannot be opened, or cannot be read from any more. -/
def fail (c : Circuit) (listening : Bool) (reason : String) : List Socket.Effect × Circuit :=
  c.step listening (if c.socket.phase = .connecting then .refused reason else .readFailed reason)

def takeMessages (c : Circuit) (listening : Bool) (incoming : Wire.Incoming)
    (bytes : List UInt8) : List Socket.Effect × Circuit :=
  let (messages, violation, incoming) := incoming.feed bytes
  let broken := violation.toList.map fun v => Socket.Step.readFailed v.message
  { c with reading := .messages incoming }.steps listening (messages.map Socket.Step.received ++ broken)

def takeBytes (c : Circuit) (listening : Bool) (bytes : List UInt8) :
    List Socket.Effect × Circuit :=
  match c.reading with
  | .nothing => ([], c)
  | .messages incoming => c.takeMessages listening incoming bytes
  | .response key earlier =>
    match Handshake.read key (earlier ++ bytes) with
    | none => ([], { c with reading := .response key (earlier ++ bytes) })
    | some (.error complaint) => c.fail listening complaint
    | some (.ok rest) =>
      let (effects, c) := c.step listening .connected
      let (others, c) := c.takeMessages listening {} rest
      (effects ++ others, c)

end Circuit

/-! ## Sessions -/

/-- What happens outside. -/
inductive News where
  /-- A server was reached, and a request with a key was sent to it. -/
  | dialled (generation : Nat) (key : String)
  | failed (generation : Nat) (reason : String)
  | received (generation : Nat) (bytes : List UInt8)
  | timePassed
  | interrupted
  deriving DecidableEq, Repr

/-- What is to be done outside. -/
inductive Deed where
  | dial (generation : Nat)
  | write (generation : Nat) (message : Message)
  | hangUp (generation : Nat)
  | print (line : Line)
  deriving DecidableEq, Repr

structure Live where
  gateway : Gateway
  front : Bootstrap
  circuits : List (Nat × Circuit) := []
  answers : List (Ticket × Answer) := []
  /-- Whether the view was set since it was logged. -/
  isFresh : Bool := false
  isOver : Bool := false
  /-- What is to be done, in order. -/
  deeds : List Deed := []

namespace Live

def demand (s : Live) (deed : Deed) : Live := { s with deeds := s.deeds ++ [deed] }

/-- Changes the circuit of a generation, and passes on what its socket does. -/
def onCircuit (s : Live) (generation : Nat) (f : Circuit → List Socket.Effect × Circuit) : Live :=
  match s.circuits.lookup generation with
  | none => s
  | some circuit =>
    let (effects, circuit) := f circuit
    let replace (entry : Nat × Circuit) :=
      if entry.1 = generation then (generation, circuit) else entry
    effects.foldl
      (fun s effect => match effect with
        | .reported event => { s with gateway := (s.gateway.emit generation event).2 }
        | .wrote message => s.demand (.write generation message))
      { s with circuits := s.circuits.map replace }

/-- Changes the transport of a generation. -/
def onTransport (s : Live) (generation : Nat) (f : Socket → Socket) : Live :=
  s.onCircuit generation fun c => ([], { c with socket := f c.socket })

/-- Whether a handler of the front end is called. -/
def isCalled (front : Bootstrap) : Happening → Bool
  | .did (.ready ticket) => front.onReady == some ticket
  | .did (.disconnected ticket _) => front.onDisconnect == some ticket
  | _ => false

def see (s : Live) (happening : Happening) : Live :=
  let s := { s with front := s.front.observe happening,
                    isFresh := s.isFresh || isCalled s.front happening }
  match happening with
  | .did (.opened generation) =>
    { s with circuits := s.circuits ++ [(generation, ({ socket := {} } : Circuit))] }.demand (.dial generation)
  | .did (.sent generation frame) =>
    s.onTransport generation fun socket => (socket.send frame).toOption.getD socket
  | .did (.closed generation) => s.onTransport generation Socket.close
  | .did _ => s
  | .replied ticket answer => { s with answers := (ticket, answer) :: s.answers }

/-- The generation of the transport that the connection holds. -/
def heldGeneration? (s : Live) : Option Nat := do
  let connection ← s.gateway.connection
  if connection.hasTransport then some connection.generation else none

/-- Lets go of transports that the connection does not hold any more, carries out all
orders, and hangs up where the socket has ended. -/
def sweep (s : Live) : Live :=
  let generations := s.circuits.map (·.1)
  let s := generations.foldl
    (fun s g => (if s.heldGeneration? = some g then s else s.onTransport g Socket.drop).onCircuit g
      Circuit.flush) s
  let isEnded (entry : Nat × Circuit) : Bool := entry.2.socket.phase = .ended
  let ended := (s.circuits.filter isEnded).map (·.1)
  ended.foldl (fun s g => s.demand (.hangUp g))
    { s with circuits := s.circuits.filter (!isEnded ·) }

/-- Lets the gateway run until it has nothing to do. -/
def settle (s : Live) (now : Instant) (token : Option String) : Live :=
  let refusal (generation : Nat) : Option String := match s.circuits.lookup generation with
    | some _ => none
    | none => some "socket task has exited"
  let (seen, gateway) := s.gateway.settle { now, token, refusal } fun _ => false
  (seen.foldl see { s with gateway }).sweep

/-- Unmounts the front end and shuts the gateway down. -/
def finish (s : Live) (now : Instant) (token : Option String) : Live :=
  let (front, gateway) := s.front.unmount s.gateway
  let gateway := (gateway.tell? .shutdown).getD gateway
  { s with front, gateway, isOver := true }.settle now token

/-- Logs the view, and ends the session if there is nothing left to wait for. -/
def present (s : Live) (now : Instant) (token : Option String) : Live :=
  let s := { s with isFresh := false }.demand (.print (viewLine s.gateway.phase s.front.view))
  match s.front.view with
  | .redirectToLogin _ => s.finish now token
  | _ => s

/-- The answer to a call, if it has come. -/
def answer? (s : Live) (ticket : Option Ticket) : Option Answer := do s.answers.lookup (← ticket)

/-- Starts a session. It cannot be started if the gateway has stopped. -/
def start? (plan : Plan) (now : Instant) (token : Option String) : Option Live := do
  let (front, gateway) ← Bootstrap.mount? (.new plan.connection) plan.path
  let s := { gateway, front : Live }.settle now token
  let disconnect ← (← s.answer? s.front.onDisconnect).disconnectHandle?
  let (front, gateway) ← s.front.addReady? s.gateway disconnect
  let s := { s with front, gateway }.settle now token
  let ready ← (← s.answer? s.front.onReady).handle?
  let (front, gateway) ← s.front.start? s.gateway ready
  some ({ s with front, gateway }.settle now token |>.present now token)

/-- When the session has to be told that time has passed. -/
def nextDeadline? (s : Live) : Option Instant := s.gateway.connection.bind (·.nextDeadline)

def hear (s : Live) (listening : Bool) : News → Live
  | .dialled generation key =>
    s.onCircuit generation fun c => ([], { c with reading := .response key [] })
  | .failed generation reason => s.onCircuit generation fun c => c.fail listening reason
  | .received generation bytes => s.onCircuit generation fun c => c.takeBytes listening bytes
  | .timePassed | .interrupted => s

/-- Reacts to news. -/
def react (s : Live) (now : Instant) (token : Option String) (news : News) : Live :=
  match news with
  | .interrupted =>
    (s.demand (.print (.log .info target "interrupted, shutting down" []))).finish now token
  | news =>
    let s := (s.hear s.gateway.isRunning news).settle now token
    if s.isFresh then s.present now token else s

end Live

end GatewayClient.CommandLine
