import GatewayClient.Text.Digits
import GatewayClient.Text.Split
/-!
# IPv6 addresses

An address is eight pieces of 16 bits. One run of zero pieces may be left out when it is
written, and the last two pieces may be read as an IPv4 address.
-/

namespace GatewayClient.Ipv6

/-- A piece has one to four hexadecimal digits. -/
def parsePiece? (text : List Char) : Option Nat :=
  if text.isEmpty ∨ 4 < text.length then none else Digits.number? 16 text

/-- A byte in decimal without leading zeros. -/
def parseByte? (text : List Char) : Option Nat :=
  if text.isEmpty ∨ (text.head? = some '0' ∧ text.length ≠ 1) then none
  else (Digits.number? 10 text).filter (· < 256)

/-- The two pieces that four bytes in dotted decimal stand for. -/
def parseDotted? (text : List Char) : Option (List Nat) := do
  match ← (splitAt '.' text).mapM parseByte? with
  | [a, b, c, d] => some [256 * a + b, 256 * c + d]
  | _ => none

/-- Pieces in a row. Only the last part may be in dotted decimal. -/
def parseParts? : List (List Char) → Option (List Nat)
  | [] => some []
  | [last] => if last.contains '.' then parseDotted? last else do some [← parsePiece? last]
  | part :: parts => do some ((← parsePiece? part) :: (← parseParts? parts))

def parsePieces? (text : List Char) : Option (List Nat) :=
  if text.isEmpty then some [] else parseParts? (splitAt ':' text)

/-- What stands before and after the first two colons in a row. -/
def splitGap : List Char → Option (List Char × List Char)
  | [] => none
  | ':' :: ':' :: rest => some ([], rest)
  | c :: rest => (splitGap rest).map fun (before, after) => (c :: before, after)

/-- The pieces around a gap, filled up with at least one zero piece. -/
def fillGap? (before after : List Nat) : Option (List Nat) :=
  if before.length + after.length ≤ 7 then
    some (before ++ List.replicate (8 - before.length - after.length) 0 ++ after)
  else none

def parse? (text : List Char) : Option (List Nat) := do
  match splitGap text with
  | some (before, after) =>
    if before.contains '.' then none
    else fillGap? (← parsePieces? before) (← parsePieces? after)
  | none => (parsePieces? text).filter (·.length = 8)

/-! ## Writing -/

/-- The length of the run of zeros at the front. -/
def zeroRun (pieces : List Nat) : Nat := (pieces.takeWhile (· = 0)).length

/-- The first of the longest runs of zeros: its start and its length. -/
def longestRun : (start : Nat) → List Nat → Nat × Nat
  | start, [] => (start, 0)
  | start, piece :: pieces =>
    let here := zeroRun (piece :: pieces)
    let later := longestRun (start + 1) pieces
    if later.2 ≤ here then (start, here) else later

def renderPieces (pieces : List Nat) : List Char :=
  List.intercalate [':'] (pieces.map (Nat.toDigits 16))

/-- The longest run of two zeros or more is left out. -/
def render (pieces : List Nat) : List Char :=
  let (start, length) := longestRun 0 pieces
  if 2 ≤ length then
    renderPieces (pieces.take start) ++ [':', ':'] ++ renderPieces (pieces.drop (start + length))
  else renderPieces pieces

end GatewayClient.Ipv6
