import GatewayClient.Files.System
import GatewayClient.Settings
/-!
# Settings in files
-/

namespace GatewayClient.Settings

variable {m : Type → Type} [Monad m] {φ : Type}

/-- Reads settings from a file, and checks them. -/
def load [Idna] (fs : FileSystem m φ) (path : Path) : ExceptT Error m Settings := do
  match ← (fs.readText path).run with
  | .error e => throw (.unreadable path.text e.message)
  | .ok text => (Settings.parse text : Except Error Settings)

end GatewayClient.Settings
