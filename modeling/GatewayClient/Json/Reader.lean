import GatewayClient.Bytes
import GatewayClient.Json.Basic
import GatewayClient.Text.Digits
/-!
# Reading JSON

The strict grammar: no comments, no trailing commas, no control characters in strings.
`Json.parse?` reads a whole text, with white space around the value, to any depth.
-/

namespace GatewayClient.Json

/-! ## Characters -/

def isBlank (c : Char) : Bool := c == ' ' || c == '\t' || c == '\n' || c == '\r'

def skipBlanks (input : List Char) : List Char := input.dropWhile isBlank

def hexUnit? (a b c d : Char) : Option Nat := Digits.number? 16 [a, b, c, d]

/-- The character that a backslash and one more character stand for. -/
def unescape? : Char → Option Char
  | '"' => some '"'
  | '\\' => some '\\'
  | '/' => some '/'
  | 'b' => some '\x08'
  | 'f' => some '\x0c'
  | 'n' => some '\n'
  | 'r' => some '\r'
  | 't' => some '\t'
  | _ => none

/-! ## Strings and numbers -/

/-- A string literal after its opening quote. -/
def readSymbols : Reader Char (List Symbol)
  | '"' :: rest => some ([], rest)
  | '\\' :: 'u' :: a :: b :: c :: d :: rest => do
      let unit ← hexUnit? a b c d
      let (symbols, rest) ← readSymbols rest
      some (.unit unit :: symbols, rest)
  | '\\' :: e :: rest => do
      let c ← unescape? e
      let (symbols, rest) ← readSymbols rest
      some (.char c :: symbols, rest)
  | c :: rest =>
    if c.toNat < 0x20 ∨ c = '\\' then none
    else do
      let (symbols, rest) ← readSymbols rest
      some (.char c :: symbols, rest)
  | [] => none

/-- One digit or more. -/
def readDigits : Reader Char (List Char) := fun input =>
  match input.takeWhile Char.isDigit with
  | [] => none
  | digits => some (digits, input.dropWhile Char.isDigit)

/-- The digits before the point: a zero stands alone. -/
def readWhole : Reader Char (List Char)
  | '0' :: rest => if rest.head?.any Char.isDigit then none else some (['0'], rest)
  | input => readDigits input

/-- What `read` takes, put after `mark`, if the input starts with a mark. -/
def readFraction : Reader Char (List Char)
  | '.' :: rest => do
      let (digits, rest) ← readDigits rest
      some ('.' :: digits, rest)
  | input => some ([], input)

def readExponent : Reader Char (List Char)
  | e :: rest =>
    if e = 'e' ∨ e = 'E' then
      match rest with
      | '+' :: rest => (readDigits rest).map fun (digits, rest) => (e :: '+' :: digits, rest)
      | '-' :: rest => (readDigits rest).map fun (digits, rest) => (e :: '-' :: digits, rest)
      | rest => (readDigits rest).map fun (digits, rest) => (e :: digits, rest)
    else some ([], e :: rest)
  | [] => some ([], [])

def readNumber : Reader Char (List Char) := fun input => do
  let (sign, rest) := match input with
    | '-' :: rest => (['-'], rest)
    | input => ([], input)
  let (whole, rest) ← readWhole rest
  let (fraction, rest) ← readFraction rest
  let (exponent, rest) ← readExponent rest
  some (sign ++ whole ++ fraction ++ exponent, rest)

/-! ## Values -/

mutual

/-- One value, with white space before it. The fuel bounds the symbols looked at. -/
def readValue : (fuel : Nat) → Reader Char Json
  | 0, _ => none
  | fuel + 1, input =>
    match skipBlanks input with
    | 'n' :: 'u' :: 'l' :: 'l' :: rest => some (.null, rest)
    | 't' :: 'r' :: 'u' :: 'e' :: rest => some (.bool true, rest)
    | 'f' :: 'a' :: 'l' :: 's' :: 'e' :: rest => some (.bool false, rest)
    | '"' :: rest => (readSymbols rest).map fun (symbols, rest) => (.string symbols, rest)
    | '[' :: rest =>
      match skipBlanks rest with
      | ']' :: rest => some (.array [], rest)
      | rest => (readItems fuel rest).map fun (items, rest) => (.array items, rest)
    | '\x7b' :: rest =>
      match skipBlanks rest with
      | '\x7d' :: rest => some (.object [], rest)
      | rest => (readMembers fuel rest).map fun (members, rest) => (.object members, rest)
    | rest => (readNumber rest).map fun (text, rest) => (.number text, rest)

/-- The items of an array up to its closing bracket. -/
def readItems : (fuel : Nat) → Reader Char (List Json)
  | 0, _ => none
  | fuel + 1, input => do
    let (item, rest) ← readValue fuel input
    match skipBlanks rest with
    | ',' :: rest => do
      let (items, rest) ← readItems fuel rest
      some (item :: items, rest)
    | ']' :: rest => some ([item], rest)
    | _ => none

/-- The members of an object up to its closing brace. -/
def readMembers : (fuel : Nat) → Reader Char (List (List Symbol × Json))
  | 0, _ => none
  | fuel + 1, input => do
    match skipBlanks input with
    | '"' :: rest => do
      let (name, rest) ← readSymbols rest
      match skipBlanks rest with
      | ':' :: rest => do
        let (value, rest) ← readValue fuel rest
        match skipBlanks rest with
        | ',' :: rest => do
          let (members, rest) ← readMembers fuel rest
          some ((name, value) :: members, rest)
        | '\x7d' :: rest => some ([(name, value)], rest)
        | _ => none
      | _ => none
    | _ => none

end

/-- The value that a text consists of. Every two levels of recursion take a character
off the input, so fuel of twice its length is enough. -/
def parse? (input : List Char) : Option Json := do
  let (value, rest) ← readValue (2 * input.length + 2) input
  if (skipBlanks rest).isEmpty then some value else none

end GatewayClient.Json
