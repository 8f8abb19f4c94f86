import GatewayClient.Address.Punycode
import GatewayClient.Text.Split
/-!
# Names of domains

A domain may be written in any characters, and goes by a name in ASCII. Which name that is
takes tables of Unicode. They are not part of this library: whoever reads addresses brings
an `Idna`, and `Idna.ascii` serves where there are no tables.
-/

namespace GatewayClient

/-- The names by which domains go. -/
class Idna where
  /-- The name in ASCII of a domain that is written in any characters, if it has one. -/
  toAscii? : List Char → Option (List Char)

namespace Idna

/-- Characters that no name may have. -/
def isForbidden (c : Char) : Bool :=
  c.toNat ≤ 0x20 || c.toNat == 0x7f ||
    ['%', '#', '/', ':', '<', '>', '?', '@', '[', '\\', ']', '^', '|'].contains c

/-- ASCII that a name may have. -/
def isAllowed (c : Char) : Bool := c.toNat < 0x80 && !isForbidden c

/-! ## Without tables -/

/-- Whether a label that claims to be in punycode is. -/
def isValidLabel : List Char → Bool
  | 'x' :: 'n' :: '-' :: '-' :: text => Punycode.isSpelling text
  | _ => true

/-- The small letters of a domain that is written in ASCII. A domain in other characters
has no name here, and labels in punycode are taken on trust beyond Latin-1. -/
def asciiName? (text : List Char) : Option (List Char) :=
  let name := text.map Char.toLower
  if name.all isAllowed ∧ (splitAt '.' name).all isValidLabel then some name else none

@[reducible] def ascii : Idna := ⟨asciiName?⟩

end Idna

end GatewayClient
