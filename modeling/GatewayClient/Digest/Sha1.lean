import GatewayClient.Bytes
/-!
# SHA-1

A digest of 20 bytes. It proves here that a server has read what it was sent; nothing
secret rests on it.
-/

namespace GatewayClient.Sha1

structure State where
  a : UInt32
  b : UInt32
  c : UInt32
  d : UInt32
  e : UInt32
  deriving DecidableEq, Repr

def initial : State := ⟨0x67452301, 0xefcdab89, 0x98badcfe, 0x10325476, 0xc3d2e1f0⟩

def rotate (n word : UInt32) : UInt32 := word <<< n ||| word >>> (32 - n)

/-! ## Blocks -/

/-- The zeros that fill the last block up to the length of the message. -/
def zeros (length : Nat) : Nat := (119 - length % 64) % 64

def pad (message : List UInt8) : List UInt8 :=
  message ++ 0x80 :: List.replicate (zeros message.length) 0
    ++ Bytes.bigEndian 8 (8 * message.length)

/-- Lists of `size` elements each, as many as there are whole. -/
def chunks {α : Type} (size : Nat) (list : List α) : List (List α) :=
  (List.range (list.length / size)).map fun i => (list.drop (i * size)).take size

def words (block : List UInt8) : List UInt32 :=
  (chunks 4 block).map fun bytes => UInt32.ofNat (Bytes.number bytes)

theorem length_pad (message : List UInt8) :
    (pad message).length = message.length + 9 + zeros message.length := by
  simp [pad]
  omega

/-- A padded message is made of whole blocks. -/
theorem length_pad_mod (message : List UInt8) : (pad message).length % 64 = 0 := by
  rw [length_pad, zeros]
  omega

/-! ## Rounds -/

/-- What the middle words contribute to a round. -/
def mix (round : Nat) (s : State) : UInt32 :=
  if round < 20 then (s.b &&& s.c ||| ~~~s.b &&& s.d) + 0x5a827999
  else if round < 40 then (s.b ^^^ s.c ^^^ s.d) + 0x6ed9eba1
  else if round < 60 then (s.b &&& s.c ||| s.b &&& s.d ||| s.c &&& s.d) + 0x8f1bbcdc
  else (s.b ^^^ s.c ^^^ s.d) + 0xca62c1d6

def step (round : Nat) (word : UInt32) (s : State) : State :=
  ⟨rotate 5 s.a + mix round s + s.e + word, s.a, rotate 30 s.b, s.c, s.d⟩

/-- The word that follows sixteen others. -/
def nextWord (window : List UInt32) : UInt32 :=
  rotate 1 (window.getD 0 0 ^^^ window.getD 2 0 ^^^ window.getD 8 0 ^^^ window.getD 13 0)

/-- The rounds that are left, with the next sixteen words. -/
def rounds : (left : Nat) → (window : List UInt32) → State → State
  | 0, _, s => s
  | left + 1, window, s =>
    rounds left (window.drop 1 ++ [nextWord window]) (step (79 - left) (window.getD 0 0) s)

def absorb (s : State) (block : List UInt8) : State :=
  let t := rounds 80 (words block) s
  ⟨s.a + t.a, s.b + t.b, s.c + t.c, s.d + t.d, s.e + t.e⟩

def digest (message : List UInt8) : List UInt8 :=
  let s := (chunks 64 (pad message)).foldl absorb initial
  [s.a, s.b, s.c, s.d, s.e].flatMap fun word => Bytes.bigEndian 4 word.toNat

theorem length_digest (message : List UInt8) : (digest message).length = 20 := by
  simp [digest]

end GatewayClient.Sha1
