import GatewayClient.Files.System
import GatewayClient.Text.Trim
/-!
# Tokens in files

A session token that outlives the program, in a file that only its owner may read. White
space around the token does not count, and a file without a token is as good as none.
-/

namespace GatewayClient.Token

structure File where
  path : Path
  deriving DecidableEq, Repr

namespace File

variable {m : Type → Type} [Monad m] {φ : Type}

/-- There is no token in a file that cannot be read. -/
def get (file : File) (fs : FileSystem m φ) : m (Option String) := do
  match ← (fs.readText file.path).run with
  | .ok text => return if trim text = "" then none else some (trim text)
  | .error _ => return none

/-- The mode of a file that is there already is changed, too. -/
def set (file : File) (fs : FileSystem m φ) (token : String) : ExceptT FileError m Unit := do
  fs.ensureParent file.path
  let opened ← fs.create file.path 0o600
  fs.setMode opened 0o600
  fs.write opened (Utf8.encode (trim token))

/-- Forgets the token, if there is one. -/
def remove (file : File) (fs : FileSystem m φ) : ExceptT FileError m Unit := do
  try fs.remove file.path
  catch error => if error ≠ .notFound then throw error

end File

end GatewayClient.Token
