import GatewayClient.Connection.Basic
/-!
# Sockets

A transport is a queue of orders to a task that owns a WebSocket. The task opens the
socket. From then on it takes one thing at a time, an order or something that comes in,
in whichever turn they are ready, and reports events until it ends. Orders are carried
out in the order in which they were given; the end of the transport itself is the last.
-/

namespace GatewayClient

open Connection (Event SendError)

/-- A message on a WebSocket. -/
inductive Message where
  | binary (bytes : List UInt8)
  | text (text : String)
  | ping (bytes : List UInt8)
  | pong (bytes : List UInt8)
  /-- A close frame may carry a code and a reason. -/
  | close (reason : Option (Nat × String))
  deriving DecidableEq, Repr

namespace Socket

inductive Phase where
  | connecting
  | connected
  | ended
  deriving DecidableEq, Repr

inductive Order where
  | frame (bytes : List UInt8)
  | close
  deriving DecidableEq, Repr

/-- What happens to a task. -/
inductive Step where
  | connected
  | refused (reason : String)
  /-- The next order is carried out, or writing fails. -/
  | wrote (failure : Option String)
  | received (message : Message)
  | readFailed (reason : String)
  /-- Nothing more comes in. -/
  | finished
  deriving DecidableEq, Repr

inductive Effect where
  | reported (event : Event)
  | wrote (message : Message)
  deriving DecidableEq, Repr

end Socket

structure Socket where
  phase : Socket.Phase := .connecting
  orders : List Socket.Order := []
  /-- Whether the transport is still there to give orders. -/
  held : Bool := true
  deriving DecidableEq, Repr

namespace Socket

/-! ## The transport -/

def order? (s : Socket) (order : Order) : Option Socket :=
  if s.phase = .ended then none else some { s with orders := s.orders ++ [order] }

/-- Queues a frame, also before the socket is open. -/
def send (s : Socket) (frame : List UInt8) : Except SendError Socket :=
  match s.order? (.frame frame) with
  | some s => .ok s
  | none => .error (.refused "socket task has exited")

def close (s : Socket) : Socket := (s.order? .close).getD s

/-- The transport goes. The task closes the socket after the orders it was given. -/
def drop (s : Socket) : Socket := { s with held := false }

/-! ## The task -/

def endWith (s : Socket) (effects : List Effect) : List Effect × Socket :=
  (effects, { s with phase := .ended })

/-- What the task does next without hearing from the server, if there is anything. -/
def nextOrder? (s : Socket) : Option Order :=
  match s.orders with
  | order :: _ => some order
  | [] => if s.held then none else some .close

/-- Carries out the next order. A close frame ends the task even if it cannot be written. -/
def carryOut (s : Socket) (failure : Option String) : List Effect × Socket :=
  match s.nextOrder?, failure with
  | none, _ => ([], s)
  | some (.frame bytes), none => ([.wrote (.binary bytes)], { s with orders := s.orders.drop 1 })
  | some (.frame _), some reason => s.endWith [.reported (.failed ("send failed: " ++ reason))]
  | some .close, none => s.endWith [.wrote (.close none)]
  | some .close, some _ => s.endWith []

/-- A ping is answered with its bytes, and a close frame with itself. -/
def onMessage (s : Socket) : Message → List Effect × Socket
  | .binary bytes => ([.reported (.frame bytes)], s)
  | .ping bytes => ([.wrote (.pong bytes)], s)
  | .close reason =>
    s.endWith [.reported (.closed ((reason.map (·.2)).getD "")), .wrote (.close reason)]
  | .text _ | .pong _ => ([], s)

/-- A step of the task. A socket that opens when nobody listens is given up. -/
def step (s : Socket) (listening : Bool) (step : Step) : List Effect × Socket :=
  match s.phase, step with
  | .connecting, .connected =>
    if listening then ([.reported .opened], { s with phase := .connected })
    else s.endWith [.reported .opened]
  | .connecting, .refused reason =>
    s.endWith [.reported (.failed ("failed to connect: " ++ reason))]
  | .connected, .wrote failure => s.carryOut failure
  | .connected, .received message => s.onMessage message
  | .connected, .readFailed reason => s.endWith [.reported (.failed reason)]
  | .connected, .finished => s.endWith [.reported (.closed "")]
  | _, _ => ([], s)

end Socket

end GatewayClient
