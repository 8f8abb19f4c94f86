import GatewayClient.Gateway.Turn
import GatewayClient.View
/-!
# Bootstraps

A bootstrap keeps the view of one front end up to date with a gateway. It is mounted in
three steps, each of which waits for the gateway: a disconnect handler is added, then a
ready handler, and then the connection is started. Without a session token the view is a
login page, and the gateway is left alone.
-/

namespace GatewayClient

open Gateway (Happening)

structure Bootstrap where
  /-- Where the front end goes to log in. -/
  location : String
  view : View
  onDisconnect : Option Ticket := none
  onReady : Option Ticket := none
  /-- The handlers that were added. -/
  disconnect : Option DisconnectSubscription := none
  ready : Option ReadySubscription := none
  deriving Repr

namespace Bootstrap

def withoutToken (path : String) : Bootstrap :=
  { location := loginRedirect path, view := .redirectToLogin (loginRedirect path) }

/-- The first step adds the disconnect handler. -/
def mount? (g : Gateway) (path : String) : Option (Bootstrap × Gateway) := do
  let (ticket, g) ← g.request? .addDisconnect
  some ({ location := loginRedirect path, view := .loading, onDisconnect := some ticket }, g)

/-- The second step adds the ready handler. -/
def addReady? (b : Bootstrap) (g : Gateway) (handle : Connection.DisconnectHandle) :
    Option (Bootstrap × Gateway) := do
  let (ticket, g) ← g.request? .addReady
  let disconnect := b.onDisconnect.map fun ticket => { ticket, handle }
  some ({ b with disconnect, onReady := some ticket }, g)

/-- The third step starts the connection. -/
def start? (b : Bootstrap) (g : Gateway) (handle : Handle) : Option (Bootstrap × Gateway) := do
  let ready := b.onReady.map fun ticket => { ticket, handle }
  some ({ b with ready }, ← g.tell? .start)

/-- Keeps the view up to date. -/
def observe (b : Bootstrap) : Happening → Bootstrap
  | .did (.ready ticket) => if b.onReady = some ticket then { b with view := .connected } else b
  | .did (.disconnected ticket reconnect) =>
    if b.onDisconnect = some ticket then
      { b with view := if reconnect then .loading else .redirectToLogin b.location }
    else b
  | _ => b

/-- Removes the handlers. The view does not change any more. -/
def unmount (b : Bootstrap) (g : Gateway) : Bootstrap × Gateway :=
  let g := match b.ready with
    | some subscription => g.removeReady subscription
    | none => g
  let g := match b.disconnect with
    | some subscription => g.removeDisconnect subscription
    | none => g
  ({ b with ready := none, disconnect := none }, g)

end Bootstrap

end GatewayClient
