import GatewayClient.Connection.Operation
/-!
# Gateways

A gateway is a connection that many callers share. Callers do not touch the connection:
they queue commands, transports queue events, and one driver takes them one at a time.
The driver runs until it has no callers left, or until a handler panics.

A caller that waits for an answer holds a ticket. The ticket of a call that adds a
handler stands for the handler from then on.
-/

namespace GatewayClient

open Connection (Phase Event Effect Operation Answer Surroundings)

abbrev Ticket : Type := Nat

/-- An operation on the connection, and the ticket of the caller that waits for its
answer. -/
structure Command where
  operation : Operation Ticket
  ticket : Option Ticket := none
  deriving DecidableEq, Repr

/-- A handler that was added, as its caller knows it. -/
structure Subscription (κ : Type) where
  ticket : Ticket
  handle : κ
  deriving DecidableEq, Repr

abbrev ReadySubscription : Type := Subscription Handle

abbrev DisconnectSubscription : Type := Subscription Connection.DisconnectHandle

structure Gateway where
  /-- There is no connection once the driver has stopped. -/
  connection : Option (Connection Ticket) := some {}
  /-- The phase that callers see. -/
  phase : Phase := .closed
  events : List (Nat × Event) := []
  commands : List Command := []
  nextTicket : Ticket := 0
  /-- Tickets that no caller waits for any more. -/
  cancelled : List Ticket := []
  /-- Tickets of handlers that were removed. -/
  removed : List Ticket := []
  /-- Whether all callers are gone. -/
  abandoned : Bool := false
  deriving Repr

namespace Gateway

def new (connection : Connection Ticket) : Gateway := { connection := some connection }

def isRunning (g : Gateway) : Bool := g.connection.isSome

/-- What is said to callers after the driver has stopped. -/
def stoppedMessage : String := "gateway task has stopped"

/-! ## Callers -/

/-- Queues an operation whose answer nobody needs. Fails if the driver has stopped. -/
def tell? (g : Gateway) (operation : Operation Ticket) : Option Gateway :=
  if g.isRunning then some { g with commands := g.commands ++ [{ operation }] } else none

/-- Queues an operation and waits for its answer. Fails if the driver has stopped. -/
def request? (g : Gateway) (operation : Ticket → Operation Ticket) : Option (Ticket × Gateway) :=
  if g.isRunning then
    let command := { operation := operation g.nextTicket, ticket := some g.nextTicket }
    some (g.nextTicket, { g with commands := g.commands ++ [command],
                                 nextTicket := g.nextTicket + 1 })
  else none

/-- Stops waiting for an answer. -/
def cancel (g : Gateway) (ticket : Ticket) : Gateway :=
  { g with cancelled := ticket :: g.cancelled }

/-- Removes a handler: it is not called from now on, and the connection forgets it when
it comes to that. -/
def remove (g : Gateway) (ticket : Ticket) (operation : Operation Ticket) : Gateway :=
  let g := { g with removed := ticket :: g.removed }
  (g.tell? operation).getD g

def removeReady (g : Gateway) (subscription : ReadySubscription) : Gateway :=
  g.remove subscription.ticket (.removeReady subscription.handle)

def removeDisconnect (g : Gateway) (subscription : DisconnectSubscription) : Gateway :=
  g.remove subscription.ticket (.removeDisconnect subscription.handle)

/-- All callers go. -/
def abandon (g : Gateway) : Gateway := { g with abandoned := true }

/-- A transport reports an event. The answer is whether anybody listens. -/
def emit (g : Gateway) (generation : Nat) (event : Event) : Bool × Gateway :=
  if g.isRunning then (true, { g with events := g.events ++ [(generation, event)] })
  else (false, g)

end Gateway

end GatewayClient
