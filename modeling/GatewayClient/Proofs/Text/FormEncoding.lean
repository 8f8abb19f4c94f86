import Mathlib.Data.Bool.AllAny
import GatewayClient.Text.FormEncoding
import GatewayClient.Proofs.Text.Ascii
/-!
# Form encoding there and back

Form-encoded text spells bytes, symbol by symbol: a character that stands for itself, a plus sign
for a space, or an escape (`Spells`). Text is encoded as a spelling of its bytes, and the bytes that
a spelling stands for are decoded from it. So encoded text is made of few characters, none of which
ends a parameter of a query, and the text is found again in it.

Main statements: `isSafe_encode`, `decode?_encode`.
-/

namespace GatewayClient.FormEncoding

/-- The characters that stand for themselves: the letters and digits of ASCII, and four more. -/
def literals : List Char :=
  "ABCDEFGHIJKLMNOPQRSTUVWXYZabcdefghijklmnopqrstuvwxyz0123456789*-._".toList

/-- The upper-case hexadecimal digits. -/
def upperDigits : List Char := "0123456789ABCDEF".toList

/-- Which bytes a form-encoded text spells. -/
inductive Spells : List Char → List UInt8 → Prop where
  | nil : Spells [] []
  | literal {c : Char} {text : List Char} {bytes : List UInt8} (hc : c ∈ literals)
      (h : Spells text bytes) : Spells (c :: text) (asciiByte c :: bytes)
  | space {text : List Char} {bytes : List UInt8} (h : Spells text bytes) :
      Spells ('+' :: text) (0x20 :: bytes)
  | escape {high low : Char} {byte : UInt8} {text : List Char} {bytes : List UInt8}
      (hhigh : high ∈ upperDigits) (hlow : low ∈ upperDigits)
      (hbyte : Digits.number? 16 [high, low] = some byte.toNat) (h : Spells text bytes) :
      Spells ('%' :: high :: low :: text) (byte :: bytes)

variable {c : Char} {byte : UInt8} {text : List Char} {bytes : List UInt8}

/-! ## Encoding -/

theorem literal_of_isPlain (h : isPlain byte = true) :
    Char.ofNat byte.toNat ∈ literals ∧ asciiByte (Char.ofNat byte.toNat) = byte := by
  have hall : ∀ n < 256, isPlain (UInt8.ofNat n) = true →
      Char.ofNat n ∈ literals ∧ asciiByte (Char.ofNat n) = UInt8.ofNat n := by
    decide +kernel
  have hbyte := hall byte.toNat byte.toNat_lt
  rw [UInt8.ofNat_toNat] at hbyte
  exact hbyte h

/-- The digits of an escape are those of its byte. -/
theorem escape_digits (byte : UInt8) :
    Percent.upperDigit (byte.toNat / 16) ∈ upperDigits ∧
      Percent.upperDigit byte.toNat ∈ upperDigits ∧
      Digits.number? 16 [Percent.upperDigit (byte.toNat / 16), Percent.upperDigit byte.toNat] =
        some byte.toNat := by
  have hall : ∀ n < 256, Percent.upperDigit (n / 16) ∈ upperDigits ∧
      Percent.upperDigit n ∈ upperDigits ∧
      Digits.number? 16 [Percent.upperDigit (n / 16), Percent.upperDigit n] = some n := by
    decide +kernel
  exact hall byte.toNat byte.toNat_lt

theorem spells_encodeByte_append (byte : UInt8) (h : Spells text bytes) :
    Spells (encodeByte byte ++ text) (byte :: bytes) := by
  unfold encodeByte
  split
  · case isTrue hplain =>
    obtain ⟨hmem, hbyte⟩ := literal_of_isPlain hplain
    have hspells := Spells.literal hmem h
    rwa [hbyte] at hspells
  split
  · case isTrue hspace =>
    subst hspace
    exact .space h
  · obtain ⟨hhigh, hlow, hbyte⟩ := escape_digits byte
    exact .escape hhigh hlow hbyte h

/-- What is written for a text spells the bytes of the text. -/
theorem spells_encode (text : String) : Spells (encode text).toList (Utf8.encode text) := by
  rw [encode, String.toList_ofList]
  induction Utf8.encode text with
  | nil => exact .nil
  | cons byte bytes ih => exact spells_encodeByte_append byte ih

/-! ## Decoding -/

def decodePlus (byte : UInt8) : UInt8 := if byte = 0x2b then 0x20 else byte

/-- Plus signs become spaces before escapes are decoded, because an escape may stand for a plus
sign. Fails if the bytes are ill-formed then. -/
def decode? (text : String) : Option String :=
  Utf8.decode? (Percent.decode ((Utf8.encode text).map decodePlus))

theorem ascii_of_mem_literals (h : c ∈ literals) : c.toNat < 0x80 ∧ c ≠ '+' ∧ c ≠ '%' := by
  have hall : ∀ c ∈ literals, c.toNat < 0x80 ∧ c ≠ '+' ∧ c ≠ '%' :=
    List.all_iff_forall_prop.mp (by decide)
  exact hall c h

theorem literal_of_mem_upperDigits (h : c ∈ upperDigits) : c ∈ literals := by
  have hall : ∀ c ∈ upperDigits, c ∈ literals := List.all_iff_forall_prop.mp (by decide)
  exact hall c h

theorem asciiByte_ne {d : Char} (hc : c.toNat < 0x80) (hd : d.toNat < 0x80) (h : c ≠ d) :
    asciiByte c ≠ asciiByte d := by
  intro hbyte
  apply h
  rw [← ofNat_asciiByte hc, hbyte, ofNat_asciiByte hd]

/-- A literal is neither a plus sign nor the beginning of an escape. -/
theorem decodePlus_asciiByte (h : c ∈ literals) :
    decodePlus (asciiByte c) = asciiByte c ∧ asciiByte c ≠ 0x25 := by
  obtain ⟨hascii, hplus, hpercent⟩ := ascii_of_mem_literals h
  have hplus' : asciiByte c ≠ asciiByte '+' := asciiByte_ne hascii (by decide) hplus
  exact ⟨if_neg hplus', asciiByte_ne hascii (by decide) hpercent⟩

namespace Spells

theorem ascii (h : Spells text bytes) : ∀ c ∈ text, c.toNat < 0x80 := by
  induction h with
  | nil => exact List.forall_mem_nil _
  | literal hc _ ih => exact List.forall_mem_cons.mpr ⟨(ascii_of_mem_literals hc).1, ih⟩
  | space _ ih => exact List.forall_mem_cons.mpr ⟨by decide, ih⟩
  | escape hhigh hlow _ _ ih =>
      have hdigit {c : Char} (h : c ∈ upperDigits) : c.toNat < 0x80 :=
        (ascii_of_mem_literals (literal_of_mem_upperDigits h)).1
      simp only [List.forall_mem_cons]
      exact ⟨by decide, hdigit hhigh, hdigit hlow, ih⟩

/-- The bytes that a text spells are decoded from it. -/
theorem decode (h : Spells text bytes) :
    Percent.decode ((text.map asciiByte).map decodePlus) = bytes := by
  induction h with
  | nil => rfl
  | literal hc _ ih =>
      obtain ⟨hplus, hpercent⟩ := decodePlus_asciiByte hc
      rw [List.map_cons, List.map_cons, hplus, Percent.decode_cons_of_ne hpercent, ih]
  | space _ ih =>
      have hspace : decodePlus (asciiByte '+') = 0x20 := by decide
      rw [List.map_cons, List.map_cons, hspace, Percent.decode_cons_of_ne (by decide), ih]
  | @escape high low byte _ _ hhigh hlow hbyte _ ih =>
      have hhigh := literal_of_mem_upperDigits hhigh
      have hlow := literal_of_mem_upperDigits hlow
      have hpercent : decodePlus (asciiByte '%') = 0x25 := by decide
      simp only [List.map_cons, hpercent, (decodePlus_asciiByte hhigh).1,
        (decodePlus_asciiByte hlow).1]
      simp only [Percent.decode, ofNat_asciiByte (ascii_of_mem_literals hhigh).1,
        ofNat_asciiByte (ascii_of_mem_literals hlow).1, hbyte, UInt8.ofNat_toNat, ih]

end Spells

/-- Text is found again in what is written for it. -/
@[simp] theorem decode?_encode (text : String) : decode? (encode text) = some text := by
  have hspells := spells_encode text
  have hbytes := Utf8.encode_ascii hspells.ascii
  rw [String.ofList_toList] at hbytes
  rw [decode?, hbytes, hspells.decode, Utf8.decode?_encode]

/-! ## Safety -/

/-- Form-encoded text as it is written: literals, plus signs, and percent signs before two
upper-case hexadecimal digits. -/
structure IsSafe (text : List Char) : Prop where
  chars : ∀ c ∈ text, c ∈ literals ∨ c = '+' ∨ c = '%'
  escapes : ∀ before after, text = before ++ '%' :: after →
    ∃ high low rest, after = high :: low :: rest ∧ high ∈ upperDigits ∧ low ∈ upperDigits

namespace IsSafe

theorem nil : IsSafe [] where
  chars := List.forall_mem_nil _
  escapes before after h := by
    cases before <;> cases h

theorem cons (hc : c ∈ literals ∨ c = '+') (h : IsSafe text) : IsSafe (c :: text) where
  chars := List.forall_mem_cons.mpr ⟨hc.imp_right .inl, h.chars⟩
  escapes before after htext := by
    cases before with
    | nil =>
        obtain ⟨rfl, -⟩ := List.cons.inj htext
        exact absurd hc (by decide)
    | cons first before => exact h.escapes before after (List.cons.inj htext).2

theorem escape {high low : Char} (hhigh : high ∈ upperDigits) (hlow : low ∈ upperDigits)
    (h : IsSafe text) : IsSafe ('%' :: high :: low :: text) := by
  -- The digits are literals, so that no other escape begins with them.
  have hdigits : IsSafe (high :: low :: text) :=
    .cons (.inl (literal_of_mem_upperDigits hhigh)) (.cons (.inl (literal_of_mem_upperDigits hlow)) h)
  refine ⟨List.forall_mem_cons.mpr ⟨.inr (.inr rfl), hdigits.chars⟩, fun before after htext => ?_⟩
  cases before with
  | nil => exact ⟨high, low, text, (List.cons.inj htext).2.symm, hhigh, hlow⟩
  | cons first before => exact hdigits.escapes before after (List.cons.inj htext).2

end IsSafe

theorem Spells.isSafe (h : Spells text bytes) : IsSafe text := by
  induction h with
  | nil => exact .nil
  | literal hc _ ih => exact ih.cons (.inl hc)
  | space _ ih => exact ih.cons (.inr rfl)
  | escape hhigh hlow _ _ ih => exact ih.escape hhigh hlow

theorem isSafe_encode (text : String) : IsSafe (encode text).toList :=
  (spells_encode text).isSafe

end GatewayClient.FormEncoding
