import GatewayClient.Files.Path
import GatewayClient.Text.Utf8
/-!
# File systems

What a program asks of the system that keeps its files, and what it builds from that. The
requests are in a monad, so the same program runs on real files and on files in memory.
-/

namespace GatewayClient

inductive FileError where
  | notFound
  | alreadyExists
  | notDirectory
  | isDirectory
  | nameTooLong
  | nulInPath
  | notUtf8
  /-- An error that is known by its text only. -/
  | other (message : String)
  deriving DecidableEq, Repr

def FileError.message : FileError → String
  | .notFound => "No such file or directory (os error 2)"
  | .alreadyExists => "File exists (os error 17)"
  | .notDirectory => "Not a directory (os error 20)"
  | .isDirectory => "Is a directory (os error 21)"
  | .nameTooLong => "File name too long (os error 36)"
  | .nulInPath => "file name contained an unexpected NUL byte"
  | .notUtf8 => "stream did not contain valid UTF-8"
  | .other message => message

/-- The requests to a system in which a file that is open for writing is a `φ`. -/
structure FileSystem (m : Type → Type) (φ : Type) where
  read : Path → ExceptT FileError m (List UInt8)
  makeDirectory : Path → ExceptT FileError m Unit
  isDirectory : Path → m Bool
  /-- Opens a file for writing, and empties it. Only a new file gets the mode. -/
  create : (path : Path) → (mode : Nat) → ExceptT FileError m φ
  setMode : φ → (mode : Nat) → ExceptT FileError m Unit
  write : φ → List UInt8 → ExceptT FileError m Unit
  remove : Path → ExceptT FileError m Unit

namespace FileSystem

variable {m : Type → Type} [Monad m] {φ : Type}

def readText (fs : FileSystem m φ) (path : Path) : ExceptT FileError m String := do
  match Utf8.decode? (← fs.read path) with
  | some text => return text
  | none => throw .notUtf8

/-- The same system, used from within another monad. -/
def hoist {n : Type → Type} (fs : FileSystem m φ) (lift : {α : Type} → m α → n α) :
    FileSystem n φ where
  read path := lift (fs.read path)
  makeDirectory path := lift (fs.makeDirectory path)
  isDirectory path := lift (fs.isDirectory path)
  create path mode := lift (fs.create path mode)
  setMode file mode := lift (fs.setMode file mode)
  write file bytes := lift (fs.write file bytes)
  remove path := lift (fs.remove path)

/-- A directory that is there already is as good as a new one. -/
def ensureDirectory (fs : FileSystem m φ) (path : Path) : ExceptT FileError m Unit := do
  try fs.makeDirectory path
  catch error => if !(← ExceptT.lift (fs.isDirectory path)) then throw error

/-- Makes the first of these directories. If its parent is missing, the others are made
before it. -/
def ensureFirst (fs : FileSystem m φ) : List Path → ExceptT FileError m Unit
  | [] => throw (.other "failed to create whole tree")
  | path :: ancestors =>
    if path.text = "" then pure ()
    else
      tryCatch (fs.ensureDirectory path) fun error =>
        match error with
        | .notFound => do
          fs.ensureFirst ancestors
          fs.ensureDirectory path
        | error => throw error

/-- Makes a directory with all its parents. -/
def ensureDirectories (fs : FileSystem m φ) (path : Path) : ExceptT FileError m Unit :=
  fs.ensureFirst path.ancestors

/-- Makes the directory of a file. -/
def ensureParent (fs : FileSystem m φ) (path : Path) : ExceptT FileError m Unit :=
  match path.parent? with
  | some parent => fs.ensureDirectories parent
  | none => pure ()

def writeText (fs : FileSystem m φ) (path : Path) (mode : Nat) (text : String) :
    ExceptT FileError m Unit := do
  fs.write (← fs.create path mode) (Utf8.encode text)

end FileSystem

end GatewayClient
