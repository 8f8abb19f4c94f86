import GatewayClient.Files.Tree
/-!
# Files on a system that may fail

A tree of files on a system that does not always do what it is asked for. Any request may fail,
because a disk is full or a right is missing; and some files are the system's own, and it keeps
them as they are.
-/

namespace GatewayClient

/-- What happens to a request instead of what was asked for. -/
structure Fault where
  error : FileError
  /-- How many bytes are written all the same, if the request was to write. -/
  written : Nat := 0
  deriving DecidableEq, Repr

structure Disk where
  tree : Tree
  /-- The files of the system's own. Opening one does not empty it, and nothing changes it. -/
  kept : List Location := []
  /-- What happens to the requests to come, one after the other. After the last of these,
  nothing goes wrong any more. -/
  faults : List (Option Fault) := []
  deriving DecidableEq, Repr

namespace Disk

/-- The same files, when nothing goes wrong. -/
def calm (disk : Disk) : Disk := { disk with faults := [] }

def notPermitted : FileError := .other "Operation not permitted (os error 1)"

/-- A request that is carried out unless a fault is in its way. What is left then is up to
`partly`; a request that fails by itself changes nothing. -/
def request {α : Type} (partly : Fault → Disk → Tree) (f : Disk → Except FileError (α × Tree)) :
    ExceptT FileError (StateM Disk) α :=
  fun disk => match disk.faults with
    | some fault :: faults => (.error fault.error, { disk with tree := partly fault disk, faults })
    | faults => match f disk with
      | .ok (a, tree) => (.ok a, { disk with tree, faults := faults.tail })
      | .error e => (.error e, { disk with faults := faults.tail })

/-- A request of which nothing is done if there is a fault. -/
def attempt {α : Type} (f : Disk → Except FileError (α × Tree)) :
    ExceptT FileError (StateM Disk) α :=
  request (fun _ disk => disk.tree) f

def append (location : Location) (bytes : List UInt8) (tree : Tree) : Tree :=
  tree.change location fun mode content => .file mode (content ++ bytes)

/-- A change to a file that is open. -/
def changing (location : Location) (change : Tree → Tree) (disk : Disk) :
    Except FileError (Unit × Tree) :=
  if location ∈ disk.kept then .error notPermitted else .ok ((), change disk.tree)

def system : FileSystem (StateM Disk) Location where
  read path := attempt fun disk => do return (← disk.tree.read path, disk.tree)
  makeDirectory path := attempt fun disk => do return ((), ← disk.tree.makeDirectory path)
  isDirectory path := do
    let answer ← (attempt fun disk => .ok (disk.tree.isDirectory path, disk.tree)).run
    return answer.toOption.getD false
  create path mode := attempt fun disk => do
    let (location, tree) ← disk.tree.create path mode
    return (location, if location ∈ disk.kept then disk.tree else tree)
  setMode location mode := attempt (changing location fun tree =>
    tree.change location fun _ content => .file mode content)
  write location bytes :=
    let begun (fault : Fault) (disk : Disk) : Tree :=
      if location ∈ disk.kept then disk.tree
      else append location (bytes.take fault.written) disk.tree
    request begun (changing location (append location bytes))
  remove path := attempt fun disk => do
    let tree ← disk.tree.remove path
    if ∀ location ∈ disk.kept, tree.entry? location = disk.tree.entry? location then
      return ((), tree)
    else .error notPermitted

/-- A system that keeps a file for every process in which it says what of the process is saved
when it crashes. -/
def linux (tree : Tree) : Disk where
  tree := tree.putDeep ["proc", "self", "coredump_filter"] (.file 0o644 (Utf8.encode "00000033\n"))
  kept := [["proc", "self", "coredump_filter"]]

end Disk

end GatewayClient
