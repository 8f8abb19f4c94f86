import GatewayClient.Files.System
/-!
# Files in memory

A tree of directories and files, with the rules by which a system finds its way in one:
every name on the way has to be a directory, dots lead back, and a slash after the last
name is a wish for a directory. Nobody is refused anything because of a mode.
-/

namespace GatewayClient

inductive Entry where
  | directory
  | file (mode : Nat) (content : List UInt8)
  deriving DecidableEq, Repr

/-- The names from the root. -/
abbrev Location : Type := List String

structure Tree where
  /-- All directories and files but the root, each once. -/
  entries : List (Location × Entry) := []
  /-- Where relative paths start. -/
  here : Location := []
  deriving DecidableEq, Repr

namespace Tree

/-! ## Locations -/

def entry? (tree : Tree) (location : Location) : Option Entry :=
  if location = [] then some .directory else tree.entries.lookup location

/-- Puts an entry in the place of the one that is there, or else after all others. -/
def put (tree : Tree) (location : Location) (entry : Entry) : Tree :=
  if tree.entries.any (·.1 = location) then
    let replace (old : Location × Entry) := if old.1 = location then (location, entry) else old
    { tree with entries := tree.entries.map replace }
  else { tree with entries := tree.entries ++ [(location, entry)] }

def erase (tree : Tree) (location : Location) : Tree :=
  { tree with entries := tree.entries.filter (·.1 ≠ location) }

/-- Puts a directory where there is nothing. -/
def putDirectory (tree : Tree) (location : Location) : Tree :=
  if (tree.entry? location).isSome then tree else tree.put location .directory

/-- Puts an entry, and before it the directories on the way that are missing. -/
def putDeep (tree : Tree) (location : Location) (entry : Entry) : Tree :=
  let parents := (List.range location.length).map location.take
  (parents.foldl putDirectory tree).put location entry

/-! ## Paths -/

/-- Where a path leads: to a directory that is known to be there, or to a name in one. -/
inductive Target where
  | place (location : Location)
  | named (directory : Location) (name : String)
  deriving DecidableEq, Repr

/-- The entry of a name in a directory. A name has at most 255 bytes. -/
def look (tree : Tree) (directory : Location) (name : String) : Except FileError (Option Entry) :=
  if name.utf8ByteSize > 255 then .error .nameTooLong
  else .ok (tree.entry? (directory ++ [name]))

/-- Takes one step on the way. -/
def enter (tree : Tree) (at_ : Location) (name : String) : Except FileError Location :=
  if name = "." then .ok at_
  else if name = ".." then .ok at_.dropLast
  else
    match tree.look at_ name with
    | .error e => .error e
    | .ok none => .error .notFound
    | .ok (some .directory) => .ok (at_ ++ [name])
    | .ok (some (.file _ _)) => .error .notDirectory

def follow (tree : Tree) : Location → List String → Except FileError Target
  | at_, [] => .ok (.place at_)
  | at_, [name] =>
    if name = "." ∨ name = ".." then (tree.enter at_ name).map .place else .ok (.named at_ name)
  | at_, name :: names => do tree.follow (← tree.enter at_ name) names

/-- Finds all but the last name of a path, which has less than 4096 bytes. -/
def resolve (tree : Tree) (path : Path) : Except FileError Target :=
  if path.text.toList.contains '\x00' then .error .nulInPath
  else if path.text = "" then .error .notFound
  else if path.text.utf8ByteSize ≥ 4096 then .error .nameTooLong
  else tree.follow (if path.isAbsolute then [] else tree.here) path.names

/-- The entry at the end of a path. -/
def find (tree : Tree) (path : Path) : Except FileError Entry := do
  match ← tree.resolve path with
  | .place _ => .ok .directory
  | .named directory name =>
    match ← tree.look directory name with
    | none => .error .notFound
    | some (.file mode content) =>
      if path.endsInSlash then .error .notDirectory else .ok (.file mode content)
    | some .directory => .ok .directory

/-! ## Requests -/

def read (tree : Tree) (path : Path) : Except FileError (List UInt8) := do
  match ← tree.find path with
  | .file _ content => .ok content
  | .directory => .error .isDirectory

def isDirectory (tree : Tree) (path : Path) : Bool :=
  match tree.find path with
  | .ok .directory => true
  | _ => false

def makeDirectory (tree : Tree) (path : Path) : Except FileError Tree := do
  match ← tree.resolve path with
  | .place _ => .error .alreadyExists
  | .named directory name =>
    match ← tree.look directory name with
    | some _ => .error .alreadyExists
    | none => .ok (tree.put (directory ++ [name]) .directory)

/-- The location of the file that is opened, and the tree with that file emptied. -/
def create (tree : Tree) (path : Path) (mode : Nat) : Except FileError (Location × Tree) := do
  match ← tree.resolve path with
  | .place _ => .error .isDirectory
  | .named directory name =>
    if path.endsInSlash then .error .isDirectory
    else
      let location := directory ++ [name]
      match ← tree.look directory name with
      | some .directory => .error .isDirectory
      | some (.file mode _) => .ok (location, tree.put location (.file mode []))
      | none => .ok (location, tree.put location (.file mode []))

/-- Changes a file that is there. -/
def change (tree : Tree) (location : Location) (f : Nat → List UInt8 → Entry) : Tree :=
  match tree.entry? location with
  | some (.file mode content) => tree.put location (f mode content)
  | _ => tree

def remove (tree : Tree) (path : Path) : Except FileError Tree := do
  match ← tree.resolve path with
  | .place _ => .error .isDirectory
  | .named directory name =>
    match ← tree.look directory name with
    | none => .error .notFound
    | some .directory => .error .isDirectory
    | some (.file _ _) =>
      if path.endsInSlash then .error .notDirectory else .ok (tree.erase (directory ++ [name]))

/-! ## Trees as file systems -/

/-- A request that changes the tree unless it fails. -/
def request {α : Type} (f : Tree → Except FileError (α × Tree)) :
    ExceptT FileError (StateM Tree) α :=
  fun tree => match f tree with
    | .ok (a, tree) => (.ok a, tree)
    | .error e => (.error e, tree)

def system : FileSystem (StateM Tree) Location where
  read path := request fun tree => do return (← tree.read path, tree)
  makeDirectory path := request fun tree => do return ((), ← tree.makeDirectory path)
  isDirectory path := fun tree => (tree.isDirectory path, tree)
  create path mode := request fun tree => tree.create path mode
  setMode location mode :=
    request fun tree => .ok ((), tree.change location fun _ content => .file mode content)
  write location bytes :=
    request fun tree => .ok ((), tree.change location fun mode content => .file mode (content ++ bytes))
  remove path := request fun tree => do return ((), ← tree.remove path)

end Tree

end GatewayClient
