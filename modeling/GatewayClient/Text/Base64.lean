/-!
# Base 64

Bytes as text, three of them in four characters; the last group is filled up with equals
signs.
-/

namespace GatewayClient.Base64

def digit (n : Nat) : Char :=
  let n := n % 64
  if n < 26 then Char.ofNat ('A'.toNat + n)
  else if n < 52 then Char.ofNat ('a'.toNat + (n - 26))
  else if n < 62 then Char.ofNat ('0'.toNat + (n - 52))
  else if n = 62 then '+' else '/'

/-- The characters of three bytes. -/
def group (a b c : UInt8) : List Char :=
  let n := (a.toNat * 256 + b.toNat) * 256 + c.toNat
  [digit (n >>> 18), digit (n >>> 12), digit (n >>> 6), digit n]

def encodeList : List UInt8 → List Char
  | [] => []
  | [a] => (group a 0 0).take 2 ++ ['=', '=']
  | [a, b] => (group a b 0).take 3 ++ ['=']
  | a :: b :: c :: rest => group a b c ++ encodeList rest

def encode (bytes : List UInt8) : String := String.ofList (encodeList bytes)

theorem length_encodeList (bytes : List UInt8) :
    (encodeList bytes).length = (bytes.length + 2) / 3 * 4 := by
  induction bytes using encodeList.induct with
  | case1 => rfl
  | case2 => simp [encodeList, group]
  | case3 => simp [encodeList, group]
  | case4 a b c rest ih =>
    simp only [encodeList, group, List.cons_append, List.nil_append, List.length_cons, ih]
    omega

end GatewayClient.Base64
