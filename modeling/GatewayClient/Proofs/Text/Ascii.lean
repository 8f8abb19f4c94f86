import GatewayClient.Text.Percent
/-!
# ASCII text

Characters of ASCII are their own bytes, so text without any others is encoded one by one. A text
without percent signs has nothing to decode.

Main statements: `encode_ascii`, `decode_eq_self`.
-/

namespace GatewayClient

/-- The byte of a character of ASCII. -/
def asciiByte (c : Char) : UInt8 := UInt8.ofNat c.toNat

variable {c : Char} {text : List Char} {bytes : List UInt8}

@[simp] theorem toNat_asciiByte (h : c.toNat < 0x80) : (asciiByte c).toNat = c.toNat := by
  simp only [asciiByte, UInt8.toNat_ofNat']
  omega

@[simp] theorem ofNat_asciiByte (h : c.toNat < 0x80) : Char.ofNat (asciiByte c).toNat = c := by
  rw [toNat_asciiByte h, Char.ofNat_toNat]

theorem forall_ascii {p : Char → Prop} (h : ∀ n < 0x80, p (Char.ofNat n)) (hc : c.toNat < 0x80) :
    p c :=
  Char.ofNat_toNat c ▸ h c.toNat hc

namespace Utf8

theorem encode_ofList (text : List Char) :
    encode (String.ofList text) = text.flatMap String.utf8EncodeChar := by
  simp [encode, List.utf8Encode]

theorem encodeChar_ascii (h : c.toNat < 0x80) : String.utf8EncodeChar c = [asciiByte c] := by
  have hsize : c.utf8Size = 1 := Char.utf8Size_eq_one_iff.mpr (by
    rw [UInt32.le_iff_toNat_le]
    exact Nat.le_of_lt_succ h)
  rw [String.utf8EncodeChar_eq_singleton hsize]
  rfl

theorem encode_ascii (h : ∀ c ∈ text, c.toNat < 0x80) :
    encode (String.ofList text) = text.map asciiByte := by
  rw [encode_ofList]
  induction text with
  | nil => rfl
  | cons c text ih =>
      have hhead := encodeChar_ascii (h c List.mem_cons_self)
      have hrest := ih fun d hmem => h d (List.mem_cons_of_mem _ hmem)
      rw [List.flatMap_cons, hhead, hrest]
      rfl

end Utf8

namespace Percent

/-- Only a percent sign begins an escape. -/
theorem decode_cons_of_ne {b : UInt8} (h : b ≠ 0x25) (bytes : List UInt8) :
    decode (b :: bytes) = b :: decode bytes := by
  rw [decode]
  intro a c rest hb
  exact absurd hb h

/-- Without percent signs nothing is decoded. -/
theorem decode_eq_self (h : 0x25 ∉ bytes) : decode bytes = bytes := by
  induction bytes with
  | nil => rfl
  | cons b bytes ih =>
      have hhead := List.ne_of_not_mem_cons h
      have hrest := ih (List.not_mem_of_not_mem_cons h)
      rw [decode_cons_of_ne hhead.symm, hrest]

end Percent

end GatewayClient
