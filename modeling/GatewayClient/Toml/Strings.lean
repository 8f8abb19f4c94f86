import GatewayClient.Bytes
import GatewayClient.Text.Digits
/-!
# Reading TOML strings

Four forms: between quotes with escapes, between apostrophes without, and both on several
lines between three marks. Two marks in a row may stand in a string of several lines.
-/

namespace GatewayClient.Toml

/-- Characters that a string on one line may have besides its marks. -/
def isTextChar (c : Char) : Bool := c == '\t' || (0x20 ≤ c.toNat && c.toNat != 0x7f)

def isBlank (c : Char) : Bool := c == ' ' || c == '\t'

def skipBlanks (input : List Char) : List Char := input.dropWhile isBlank

/-- The character that a backslash and one more character stand for. -/
def unescape? : Char → Option Char
  | 'b' => some '\x08'
  | 't' => some '\t'
  | 'n' => some '\n'
  | 'f' => some '\x0c'
  | 'r' => some '\r'
  | '"' => some '"'
  | '\\' => some '\\'
  | _ => none

/-- The character with a hexadecimal number. -/
def scalar? (digits : List Char) : Option Char := do
  let n ← Digits.number? 16 digits
  if n.isValidChar then some (Char.ofNat n) else none

/-- A string after its opening quote. -/
def readBasic : Reader Char (List Char)
  | '"' :: rest => some ([], rest)
  | '\\' :: 'u' :: a :: b :: c :: d :: rest => do
      let first ← scalar? [a, b, c, d]
      let (text, rest) ← readBasic rest
      some (first :: text, rest)
  | '\\' :: 'U' :: a :: b :: c :: d :: e :: f :: g :: h :: rest => do
      let first ← scalar? [a, b, c, d, e, f, g, h]
      let (text, rest) ← readBasic rest
      some (first :: text, rest)
  | '\\' :: e :: rest => do
      let first ← unescape? e
      let (text, rest) ← readBasic rest
      some (first :: text, rest)
  | c :: rest =>
    if isTextChar c ∧ c ≠ '\\' then do
      let (text, rest) ← readBasic rest
      some (c :: text, rest)
    else none
  | [] => none

/-- A string after its opening apostrophe. -/
def readLiteral : Reader Char (List Char)
  | '\'' :: rest => some ([], rest)
  | c :: rest =>
    if isTextChar c then do
      let (text, rest) ← readLiteral rest
      some (c :: text, rest)
    else none
  | [] => none

/-- Whether blanks are skipped after a backslash: up to a line break, and then on. -/
inductive Folding where
  | none
  | toBreak
  | pastBreak
  deriving DecidableEq, Repr

/-- A string of several lines after its opening quotes. -/
def readLongBasic : Folding → Reader Char (List Char)
  | _, [] => none
  | folding, c :: rest =>
    if folding ≠ .none ∧ isBlank c then readLongBasic folding rest
    else if folding ≠ .none ∧ c = '\n' then readLongBasic .pastBreak rest
    else if folding = .toBreak ∧ c ≠ '\r' then none
    else
      match c, rest with
      | '"', '"' :: '"' :: '"' :: '"' :: rest => some (['"', '"'], rest)
      | '"', '"' :: '"' :: '"' :: rest => some (['"'], rest)
      | '"', '"' :: '"' :: rest => some ([], rest)
      | '\r', '\n' :: rest =>
        if folding = .none then do
          let (text, rest) ← readLongBasic .none rest
          some ('\n' :: text, rest)
        else readLongBasic .pastBreak rest
      | '\\', 'u' :: a :: b :: c :: d :: rest => do
          let first ← scalar? [a, b, c, d]
          let (text, rest) ← readLongBasic .none rest
          some (first :: text, rest)
      | '\\', 'U' :: a :: b :: c :: d :: e :: f :: g :: h :: rest => do
          let first ← scalar? [a, b, c, d, e, f, g, h]
          let (text, rest) ← readLongBasic .none rest
          some (first :: text, rest)
      | '\\', e :: rest =>
        match unescape? e with
        | some first => do
          let (text, rest) ← readLongBasic .none rest
          some (first :: text, rest)
        | none =>
          if e = '\n' then readLongBasic .pastBreak rest
          else if isBlank e ∨ e = '\r' then
            readLongBasic .toBreak (e :: rest)
          else none
      | c, rest =>
        if (isTextChar c ∧ c ≠ '\\') ∨ c = '\n' then do
          let (text, rest) ← readLongBasic .none rest
          some (c :: text, rest)
        else none

/-- A string of several lines after its opening apostrophes. -/
def readLongLiteral : Reader Char (List Char)
  | '\'' :: '\'' :: '\'' :: '\'' :: '\'' :: rest => some (['\'', '\''], rest)
  | '\'' :: '\'' :: '\'' :: '\'' :: rest => some (['\''], rest)
  | '\'' :: '\'' :: '\'' :: rest => some ([], rest)
  | '\r' :: '\n' :: rest => do
      let (text, rest) ← readLongLiteral rest
      some ('\n' :: text, rest)
  | c :: rest =>
    if isTextChar c ∨ c = '\n' then do
      let (text, rest) ← readLongLiteral rest
      some (c :: text, rest)
    else none
  | [] => none

/-- A line break right after the opening marks does not belong to the string. -/
def dropBreak : List Char → List Char
  | '\n' :: rest => rest
  | '\r' :: '\n' :: rest => rest
  | rest => rest

/-- A string in any form, if the input starts with a mark. -/
def readString : Reader Char (List Char)
  | '"' :: '"' :: '"' :: rest => readLongBasic .none (dropBreak rest)
  | '"' :: rest => readBasic rest
  | '\'' :: '\'' :: '\'' :: rest => readLongLiteral (dropBreak rest)
  | '\'' :: rest => readLiteral rest
  | _ => none

end GatewayClient.Toml
