import GatewayClient.Text.FormEncoding
/-!
# Views

What a front end shows of a session.
-/

namespace GatewayClient

/-- The login page, which leads back to `path` after signing in. -/
def loginRedirect (path : String) : String := "/?redirect_to=" ++ FormEncoding.encode path

inductive View where
  /-- There is no session to resume: go and log in. -/
  | redirectToLogin (location : String)
  /-- The session is not ready yet. -/
  | loading
  | connected
  deriving DecidableEq, Repr

end GatewayClient
