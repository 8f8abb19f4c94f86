import GatewayClient.Toml.Scalar
import GatewayClient.Toml.Strings
/-!
# Reading TOML

A text is read line by line, and the lines are put together afterwards. Containers may be
nested, and keys dotted, only to a limit that is far beyond any sensible text.
-/

namespace GatewayClient.Toml

/-- Containers inside one another, and names in a key, are fewer than this. -/
def depthLimit : Nat := 80

/-! ## Keys -/

def isBareKeyChar (c : Char) : Bool := c.isAlphanum || c == '-' || c == '_'

def readKey : Reader Char Key
  | '"' :: rest => readBasic rest
  | '\'' :: rest => readLiteral rest
  | input =>
    match input.takeWhile isBareKeyChar with
    | [] => none
    | key => some (key, input.dropWhile isBareKeyChar)

/-- A key of at most `names` names with dots between them, and the blanks around it. -/
def readPath : (names : Nat) → Reader Char (List Key)
  | 0, _ => none
  | names + 1, input => do
    let (key, rest) ← readKey (skipBlanks input)
    match skipBlanks rest with
    | '.' :: rest => do
      let (path, rest) ← readPath names rest
      some (key :: path, rest)
    | rest => some ([key], rest)

/-! ## Values -/

/-- What follows a comment, if the input starts with one. -/
def dropComment : List Char → List Char
  | '#' :: rest => rest.dropWhile isTextChar
  | rest => rest

/-- Skips blanks, line breaks and comments. The fuel bounds the lines. -/
def skipLines : (fuel : Nat) → List Char → List Char
  | 0, input => input
  | fuel + 1, input =>
    match dropComment (skipBlanks input) with
    | '\n' :: rest => skipLines fuel rest
    | '\r' :: '\n' :: rest => skipLines fuel rest
    | rest => rest

def skipSpace (input : List Char) : List Char := skipLines (input.length + 1) input

/-- The items of an array up to its bracket. The last may have a comma after it. -/
def readItems (readValue : Reader Char Value) : (fuel : Nat) → Reader Char (List Value)
  | 0, _ => none
  | fuel + 1, input =>
    match skipSpace input with
    | ']' :: rest => some ([], rest)
    | input => do
      let (item, rest) ← readValue input
      match skipSpace rest with
      | ',' :: rest => do
        let (items, rest) ← readItems readValue fuel rest
        some (item :: items, rest)
      | ']' :: rest => some ([item], rest)
      | _ => none

/-- A key, its value and the blanks around them. -/
def readPair (readValue : Reader Char Value) : Reader Char (List Key × Value) := fun input => do
  match ← readPath (depthLimit - 1) input with
  | (path, '=' :: rest) =>
    let (value, rest) ← readValue (skipBlanks rest)
    some ((path, value), skipBlanks rest)
  | _ => none

/-- The pairs of a table in braces, at least one, up to its brace. -/
def readPairs (readValue : Reader Char Value) : (fuel : Nat) → Reader Char (List (List Key × Value))
  | 0, _ => none
  | fuel + 1, input => do
    match ← readPair readValue input with
    | (pair, ',' :: rest) => do
      let (pairs, rest) ← readPairs readValue fuel rest
      some (pair :: pairs, rest)
    | (pair, '\x7d' :: rest) => some ([pair], rest)
    | _ => none

/-- A value. Containers are read only if their contents can be. -/
def readWith (nested : Option (Reader Char Value)) : Reader Char Value
  | '[' :: rest => do
    let (items, rest) ← readItems (← nested) (rest.length + 1) rest
    some (.array items, rest)
  | '\x7b' :: rest =>
    match nested, skipBlanks rest with
    | none, _ => none
    | some _, '\x7d' :: rest => some (.table .inline [], rest)
    | some readValue, rest => do
      let (pairs, rest) ← readPairs readValue (rest.length + 1) rest
      some (.table .inline (← Entries.fill? [] pairs), rest)
  | '"' :: rest => (readString ('"' :: rest)).map fun (text, rest) => (.string text, rest)
  | '\'' :: rest => (readString ('\'' :: rest)).map fun (text, rest) => (.string text, rest)
  | input => Scalar.read input

/-- A value with at most `levels` containers inside one another. -/
def readNested : (levels : Nat) → Reader Char Value
  | 0 => readWith none
  | levels + 1 => readWith (some (readNested levels))

def readValue : Reader Char Value := readNested (depthLimit - 1)

/-! ## Lines -/

inductive Line where
  | entry (path : List Key) (value : Value)
  /-- The header of a table. -/
  | table (path : List Key)
  /-- The header of one of several tables. -/
  | element (path : List Key)

/-- The next line, if only blanks and a comment stand before it. -/
def endLine? (input : List Char) : Option (List Char) :=
  match dropComment (skipBlanks input) with
  | [] => some []
  | '\n' :: rest => some rest
  | '\r' :: '\n' :: rest => some rest
  | _ => none

/-- A line that is not blank, up to the next one. -/
def readLine : Reader Char Line
  | '[' :: '[' :: rest => do
    match ← readPath (depthLimit - 1) rest with
    | (path, ']' :: ']' :: rest) => some (.element path, ← endLine? rest)
    | _ => none
  | '[' :: rest => do
    match ← readPath (depthLimit - 1) rest with
    | (path, ']' :: rest) => some (.table path, ← endLine? rest)
    | _ => none
  | input => do
    let ((path, value), rest) ← readPair readValue input
    some (.entry path value, ← endLine? rest)

/-- The lines of a text that are not blank. The fuel bounds all lines. -/
def readLines : (fuel : Nat) → List Char → Option (List Line)
  | 0, _ => none
  | fuel + 1, input =>
    match skipBlanks input with
    | [] => some []
    | '#' :: rest => do readLines fuel (← endLine? ('#' :: rest))
    | '\n' :: rest => readLines fuel rest
    | '\r' :: '\n' :: rest => readLines fuel rest
    | input => do
      let (line, rest) ← readLine input
      some (line :: (← readLines fuel rest))

/-! ## Documents -/

/-- The pairs before the first header, and the headers with their pairs. -/
def splitSections : List Line → List (List Key × Value) × List (Line × List (List Key × Value))
  | [] => ([], [])
  | .entry path value :: lines =>
    let (pairs, sections) := splitSections lines
    ((path, value) :: pairs, sections)
  | header :: lines =>
    let (pairs, sections) := splitSections lines
    ([], (header, pairs) :: sections)

/-- Adds the table of a header to a document. -/
def addSection? (root : Entries) : Line × List (List Key × Value) → Option Entries
  | (.table path, pairs) => do
    Entries.modifyAt? (Entries.define? (← path.getLast?) pairs) path.dropLast root
  | (.element path, pairs) => do
    Entries.modifyAt? (Entries.append? (← path.getLast?) pairs) path.dropLast root
  | (.entry _ _, _) => none

def ofLines? (lines : List Line) : Option Entries := do
  let (pairs, sections) := splitSections lines
  sections.foldlM addSection? (← Entries.fill? [] pairs)

/-- The table that a text stands for. A byte order mark at its front is skipped. -/
def parse? (text : List Char) : Option Entries := do
  let text := match text with
    | '\ufeff' :: rest => rest
    | text => text
  ofLines? (← readLines (text.length + 1) text)

end GatewayClient.Toml
