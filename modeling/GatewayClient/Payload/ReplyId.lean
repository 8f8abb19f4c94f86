/-!
# Reply ids

A request to join a guild carries a random id, and the reply repeats it. The id is a
version 4 UUID in lower case.
-/

namespace GatewayClient.ReplyId

/-- The version and the variant of a version 4 UUID, put into its 7th and 9th byte. -/
def stamp (index : Nat) (byte : UInt8) : UInt8 :=
  if index = 6 then (byte &&& 0x0f) ||| 0x40
  else if index = 8 then (byte &&& 0x3f) ||| 0x80
  else byte

def hexDigits (byte : UInt8) : List Char :=
  [Nat.digitChar (byte.toNat / 16), Nat.digitChar (byte.toNat % 16)]

/-- The id made from sixteen random bytes: hexadecimal digits in groups of 8, 4, 4, 4
and 12. -/
def ofRandom (bytes : Vector UInt8 16) : String :=
  let digits := (bytes.toList.mapIdx stamp).flatMap hexDigits
  let group (start size : Nat) := String.ofList ((digits.drop start).take size)
  "-".intercalate [group 0 8, group 8 4, group 12 4, group 16 4, group 20 12]

/-- Whether a text has the form of a version 4 UUID in lower case. -/
def isValid (text : String) : Bool :=
  let isHex (c : Char) : Bool := c.isDigit || ('a' ≤ c && c ≤ 'f')
  text.length == 36 && (text.toList.zipIdx.all fun (c, i) =>
    if i == 8 || i == 13 || i == 18 || i == 23 then c == '-'
    else if i == 14 then c == '4'
    else if i == 19 then c == '8' || c == '9' || c == 'a' || c == 'b'
    else isHex c)

end GatewayClient.ReplyId
