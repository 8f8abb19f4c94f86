import GatewayClient.Address.Idna
import GatewayClient.Address.Ipv4
import GatewayClient.Address.Ipv6
import GatewayClient.Text.Percent
/-!
# Hosts

The host of an address: the name of a domain, or a number.
-/

namespace GatewayClient

inductive Host where
  | domain (name : List Char)
  | ipv4 (address : Nat)
  | ipv6 (pieces : List Nat)
  deriving DecidableEq, Repr

/-- Why a text is not an address. -/
inductive AddressError where
  | relative
  | emptyHost
  | invalidPort
  | invalidIpv4
  | invalidIpv6
  | invalidDomain
  | invalidCharacter
  deriving DecidableEq, Repr

def AddressError.message : AddressError → String
  | .relative => "relative URL without a base"
  | .emptyHost => "empty host"
  | .invalidPort => "invalid port number"
  | .invalidIpv4 => "invalid IPv4 address"
  | .invalidIpv6 => "invalid IPv6 address"
  | .invalidDomain => "invalid international domain name"
  | .invalidCharacter => "invalid domain character"

namespace Host

def render : Host → List Char
  | .domain name => name
  | .ipv4 address => Ipv4.render address
  | .ipv6 pieces => '[' :: (Ipv6.render pieces ++ [']'])

/-! ## Reading -/

/-- The text that a host stands for after percent-decoding. Bytes that are ill-formed are
no text: the character that would take their place is in no domain. -/
def decode? (text : List Char) : Option (List Char) :=
  (Utf8.decode? (Percent.decode (Utf8.encode (String.ofList text)))).map String.toList

/-- An address between brackets. -/
def parseBracketed (text : List Char) : Except AddressError Host :=
  match text.getLast?, Ipv6.parse? text.dropLast with
  | some ']', some pieces => .ok (.ipv6 pieces)
  | _, _ => .error .invalidIpv6

variable [Idna]

/-- A host of a scheme that is used on the network. -/
def parse : List Char → Except AddressError Host
  | '[' :: rest => parseBracketed rest
  | text =>
    match (decode? text).bind Idna.toAscii? with
    | none => .error .invalidDomain
    | some [] => .error .emptyHost
    | some name =>
      if Ipv4.endsInNumber name then
        match Ipv4.parse? name with
        | some address => .ok (.ipv4 address)
        | none => .error .invalidIpv4
      else .ok (.domain name)

/-- Characters that no host may have, whatever the scheme. -/
def isForbiddenAnywhere (c : Char) : Bool :=
  ['\x00', '\t', '\n', '\r', ' ', '#', '/', ':', '<', '>', '?', '@', '[', '\\', ']', '^', '|'].contains c

/-- A host of any other scheme. -/
def parseOpaque : List Char → Except AddressError Host
  | '[' :: rest => parseBracketed rest
  | text =>
    if text.any isForbiddenAnywhere then .error .invalidCharacter else .ok (.domain text)

end Host

end GatewayClient
