/-!
# Phases of a connection
-/

namespace GatewayClient.Connection

inductive Phase where
  /-- No transport was opened yet, or the connection was shut down. -/
  | closed
  /-- A transport is there and the session is not ready. -/
  | negotiating
  | ready
  /-- The transport was lost. -/
  | unhealthy
  deriving DecidableEq, Repr, Inhabited

namespace Phase

def name : Phase → String
  | .closed => "closed"
  | .negotiating => "negotiating"
  | .ready => "ready"
  | .unhealthy => "unhealthy"

def ofName? (name : String) : Option Phase :=
  [closed, negotiating, ready, unhealthy].find? (·.name == name)

end Phase

end GatewayClient.Connection
