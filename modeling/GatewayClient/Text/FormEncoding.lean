import GatewayClient.Text.Percent
/-!
# Form encoding

The encoding of text in the query of an address: letters, digits and `* - . _` stand for
themselves, a space is a plus sign, and every other byte is percent-encoded.
-/

namespace GatewayClient.FormEncoding

def isPlain (byte : UInt8) : Bool :=
  Percent.isAsciiAlphanumeric byte || byte == 0x2a || byte == 0x2d || byte == 0x2e || byte == 0x5f

def encodeByte (byte : UInt8) : List Char :=
  if isPlain byte then [Char.ofNat byte.toNat]
  else if byte = 0x20 then ['+']
  else Percent.escape byte

def encode (text : String) : String :=
  String.ofList ((Utf8.encode text).flatMap encodeByte)

end GatewayClient.FormEncoding
