import GatewayClient.Text.Split
/-!
# Paths

A path is a text whose parts are separated by slashes. An empty part, and a part that is a
single dot, leads nowhere; only a dot at the start of a path is kept when the path is
taken apart.
-/

namespace GatewayClient

structure Path where
  text : String
  deriving DecidableEq, Repr

namespace Path

/-- There is at least one part, and an absolute path starts with an empty one. -/
def parts (path : Path) : List (List Char) := splitAt '/' path.text.toList

def isAbsolute (path : Path) : Bool := path.text.toList.head? == some '/'

def endsInSlash (path : Path) : Bool := path.text.toList.getLast? == some '/'

/-- The names on the way, without empty parts. -/
def names (path : Path) : List String := (path.parts.filter (· ≠ [])).map String.ofList

def ofParts (parts : List (List Char)) : Path := ⟨String.ofList (['/'].intercalate parts)⟩

/-- A path that leads on from another. -/
def child (path : Path) (name : String) : Path :=
  if path.text = "" ∨ path.endsInSlash then ⟨path.text ++ name⟩ else ⟨path.text ++ "/" ++ name⟩

/-! ## Parents -/

def isBlank (part : List Char) : Bool := part = [] || part = ['.']

/-- Parts without the blank ones at the end. -/
def dropBlank (parts : List (List Char)) : List (List Char) :=
  (parts.reverse.dropWhile isBlank).reverse

/-- The path without its last part. The root and the empty path have no parent. -/
def parent? (path : Path) : Option Path :=
  match path.parts with
  | [] => none
  | first :: rest =>
    match dropBlank rest with
    | [] => if first = [] then none else some ⟨""⟩
    | rest =>
      match first, dropBlank rest.dropLast with
      | [], [] => some ⟨"/"⟩
      | first, rest => some (ofParts (first :: rest))

def ancestorsFor : (fuel : Nat) → Path → List Path
  | 0, path => [path]
  | fuel + 1, path =>
    match path.parent? with
    | some parent => path :: ancestorsFor fuel parent
    | none => [path]

/-- The path, its parent and so on. Every parent has fewer parts. -/
def ancestors (path : Path) : List Path := ancestorsFor path.parts.length path

end Path

end GatewayClient
