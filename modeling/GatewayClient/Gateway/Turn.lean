import GatewayClient.Gateway.Basic
/-!
# Turns of a gateway

In each turn the driver takes the oldest event, or else the oldest command, or else does
what is due. A handler is called unless it was removed before, even if the connection
does not know that yet.
-/

namespace GatewayClient.Gateway

open Connection (Phase Event Effect Operation Answer Surroundings)

/-- What others see of a turn. -/
inductive Happening where
  | did (effect : Effect Ticket)
  | replied (ticket : Ticket) (answer : Answer)

/-! ## Work -/

structure Work where
  command : Command
  /-- Whether the driver stops afterwards. -/
  last : Bool := false

def Work.ofOperation (operation : Operation Ticket) : Work := ⟨{ operation }, false⟩

/-- What the driver does next at a time, and the gateway without it. -/
def nextWork? (g : Gateway) (connection : Connection Ticket) (now : Instant) :
    Option (Work × Gateway) :=
  match g.events, g.commands with
  | (generation, event) :: events, _ =>
    some (.ofOperation (.receive generation event), { g with events })
  | [], command :: commands => some ({ command }, { g with commands })
  | [], [] =>
    if g.abandoned then some ({ command := { operation := .shutdown }, last := true }, g)
    else if connection.nextDeadline.any (· ≤ now) then some (.ofOperation .poll, g)
    else none

/-! ## Effects -/

/-- The handler that an effect calls. -/
def calledTicket? : Effect Ticket → Option Ticket
  | .ready ticket => some ticket
  | .disconnected ticket _ => some ticket
  | _ => none

/-- Whether an effect takes place: handlers that were removed are not called. -/
def admits (g : Gateway) (effect : Effect Ticket) : Bool :=
  !(calledTicket? effect).any g.removed.contains

/-- Callers see every change of phase. -/
def afterEffect (g : Gateway) : Effect Ticket → Gateway
  | .entered phase => { g with phase }
  | _ => g

/-- Does effects in order, and nothing after a handler that panics. The answer is
whether all was done. -/
def perform (panics : Ticket → Bool) : List (Effect Ticket) → (g : Gateway) →
    List (Effect Ticket) × Bool × Gateway
  | [], g => ([], true, g)
  | effect :: effects, g =>
    if g.admits effect then
      let g := g.afterEffect effect
      if (calledTicket? effect).any panics then ([effect], false, g)
      else
        let (done, all, g) := perform panics effects g
        (effect :: done, all, g)
    else perform panics effects g

/-! ## Turns -/

/-- The driver stops, and whatever is queued is lost. -/
def stop (g : Gateway) : Gateway := { g with connection := none, events := [], commands := [] }

/-- Takes a handler back out whose caller is gone. -/
def withdraw (connection : Connection Ticket) (operation : Operation Ticket) (answer : Answer) :
    Connection Ticket :=
  match operation, answer with
  | .addReady _, .registered handle => connection.removeReady handle
  | .addDisconnect _, .registeredDisconnect handle => connection.removeDisconnect handle
  | _, _ => connection

/-- Answers the caller of a command, if there is one. -/
def reply (g : Gateway) (command : Command) (answer : Answer) (connection : Connection Ticket) :
    List Happening × Connection Ticket :=
  match command.ticket with
  | some ticket =>
    if g.cancelled.contains ticket then ([], withdraw connection command.operation answer)
    else ([.replied ticket answer], connection)
  | none => ([], connection)

/-- One turn, if there is something to do. -/
def turn? (g : Gateway) (world : Surroundings) (panics : Ticket → Bool) :
    Option (List Happening × Gateway) := do
  let connection ← g.connection
  let (work, g) ← g.nextWork? connection world.now
  let turn := connection.apply world work.command.operation
  let (done, all, g) := g.perform panics turn.effects
  let seen := done.map Happening.did
  match all, turn.result with
  | true, some (answer, connection) =>
    let (replies, connection) := g.reply work.command answer connection
    let g := { g with connection := some connection }
    some (seen ++ replies, if work.last then g.stop else g)
  | _, _ => some (seen, g.stop)

def turns (world : Surroundings) (panics : Ticket → Bool) :
    (fuel : Nat) → Gateway → List Happening × Gateway
  | 0, g => ([], g)
  | fuel + 1, g =>
    match g.turn? world panics with
    | none => ([], g)
    | some (seen, g) =>
      let (others, g) := turns world panics fuel g
      (seen ++ others, g)

/-- Turns until there is nothing to do. Each takes something off a queue, stops the
driver, or does what is due, and nothing is due twice at one time. -/
def settle (g : Gateway) (world : Surroundings) (panics : Ticket → Bool) :
    List Happening × Gateway :=
  turns world panics (g.events.length + g.commands.length + 2) g

end GatewayClient.Gateway
