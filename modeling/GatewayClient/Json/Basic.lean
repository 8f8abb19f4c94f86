/-!
# JSON values

A value as it is written: numbers keep their digits and strings keep their escapes, so
that a string with half of a surrogate pair is still a string. `Json.text?` gives the
text that a string stands for, if it stands for one.
-/

namespace GatewayClient

namespace Json

/-- One position of a string literal: a character, or a `\u` escape, which names a
UTF-16 unit. -/
inductive Symbol where
  | char (c : Char)
  | unit (value : Nat)
  deriving DecidableEq, Repr

/-- The text of a string literal. An escape above the basic plane takes two units, and
neither half may stand alone. -/
def text? : List Symbol → Option (List Char)
  | [] => some []
  | .char c :: rest => (text? rest).map (c :: ·)
  | .unit high :: .unit low :: rest =>
    if 0xd800 ≤ high ∧ high < 0xdc00 then
      if 0xdc00 ≤ low ∧ low < 0xe000 then
        (text? rest).map
          (Char.ofNat (0x10000 + (high - 0xd800) * 0x400 + (low - 0xdc00)) :: ·)
      else none
    else if 0xdc00 ≤ high ∧ high < 0xe000 then none
    else (text? (.unit low :: rest)).map (Char.ofNat high :: ·)
  | .unit u :: rest =>
    if 0xd800 ≤ u ∧ u < 0xe000 then none else (text? rest).map (Char.ofNat u :: ·)

end Json

inductive Json where
  | null
  | bool (b : Bool)
  /-- A number, by the characters it is written with. -/
  | number (text : List Char)
  | string (symbols : List Json.Symbol)
  | array (items : List Json)
  | object (members : List (List Json.Symbol × Json))

end GatewayClient
