import GatewayClient.Binary64.Decimal
import GatewayClient.Toml.Value
/-!
# Writing TOML

Strings take the plainest form that holds them: without escapes if there is one, on one
line if they are, and between quotes rather than apostrophes. Only a tab between quotes is
always escaped. Floats are written in full, without a power of ten.
-/

namespace GatewayClient.Toml

/-! ## Strings -/

/-- Characters that have to be escaped in every form. -/
def isControl (c : Char) : Bool :=
  (c.toNat < 0x20 && c != '\t' && c != '\n') || c.toNat == 0x7f

/-- The longest run of a mark, not counting the run of `current` that the text continues. -/
def longestRun (mark : Char) : (current : Nat) → List Char → Nat
  | current, [] => current
  | current, c :: rest =>
    if c = mark then longestRun mark (current + 1) rest
    else max current (longestRun mark 0 rest)

def hexUpper (n : Nat) : Char := (Nat.digitChar (n % 16)).toUpper

/-- A character by its number, in four digits. -/
def escapeControl (c : Char) : List Char :=
  ['\\', 'u', '0', '0', hexUpper (c.toNat / 16), hexUpper c.toNat]

/-- A character other than a quote or a line break in a string with escapes. -/
def escapeChar (c : Char) : List Char :=
  if c = '\x08' then ['\\', 'b']
  else if c = '\t' then ['\\', 't']
  else if c = '\x0c' then ['\\', 'f']
  else if c = '\r' then ['\\', 'r']
  else if c = '\\' then ['\\', '\\']
  else if isControl c then escapeControl c
  else [c]

def escapeLine (text : List Char) : List Char :=
  text.flatMap fun c =>
    if c = '"' then ['\\', '"'] else if c = '\n' then ['\\', 'n'] else escapeChar c

/-- In several lines only every third quote in a row is escaped. -/
def escapeLines : (quotes : Nat) → List Char → List Char
  | _, [] => []
  | quotes, c :: rest =>
    if c = '"' then
      if quotes = 2 then '\\' :: '"' :: escapeLines 0 rest else '"' :: escapeLines (quotes + 1) rest
    else (if c = '\n' then ['\n'] else escapeChar c) ++ escapeLines 0 rest

/-- A text between marks; between marks of several lines it starts on a line of its own if
it has line breaks. -/
def delimited (mark : List Char) (text : List Char) : List Char :=
  mark ++ (if mark.length = 3 ∧ text.contains '\n' then ['\n'] else []) ++ text ++ mark

def quotes : List Char := ['"', '"', '"']

def apostrophes : List Char := ['\'', '\'', '\'']

def renderString (text : List Char) : List Char :=
  let isClean := !text.any isControl
  let isLine := !text.contains '\n'
  if isClean ∧ isLine ∧ !text.contains '\\' ∧ !text.contains '"' then
    delimited ['"'] (escapeLine text)
  else if isClean ∧ isLine ∧ !text.contains '\'' then delimited ['\''] text
  else if isClean ∧ !text.contains '\\' ∧ longestRun '"' 0 text ≤ 2 then
    delimited quotes (escapeLines 0 text)
  else if isClean ∧ longestRun '\'' 0 text ≤ 2 then delimited apostrophes text
  else if isLine then delimited ['"'] (escapeLine text)
  else delimited quotes (escapeLines 0 text)

/-! ## Numbers -/

def renderFloat (x : Binary64) : List Char :=
  let sign := if x.negative then ['-'] else []
  sign ++ (if x.isNaN then ['n', 'a', 'n'] else if x.isInfinite then ['i', 'n', 'f']
    else (Binary64.shortest x.magnitude).positional)

/-- Integers end where a signed word of 64 bits does. -/
def renderNat? (n : Nat) : Option (List Char) :=
  if n < 1 <<< 63 then some (Nat.toDigits 10 n) else none

/-! ## Lines -/

def renderEntry (key : String) (value : List Char) : List Char :=
  key.toList ++ [' ', '=', ' '] ++ value ++ ['\n']

def renderHeader (key : String) : List Char := '[' :: (key.toList ++ [']', '\n'])

end GatewayClient.Toml
