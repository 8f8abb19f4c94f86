/-!
# UTF-8

Text as bytes and back. `decode?` accepts exactly the byte strings that `encode`
produces (`decode?_eq_some_iff`), so no two texts share an encoding and ill-formed
bytes are refused.
-/

namespace GatewayClient.Utf8

/-- The bytes of a text. -/
def encode (text : String) : List UInt8 := text.toByteArray.data.toList

/-- The text with these bytes, if they are well-formed. -/
def decode? (bytes : List UInt8) : Option String := String.fromUTF8? ⟨bytes.toArray⟩

theorem decode?_eq_some_iff {bytes : List UInt8} {text : String} :
    decode? bytes = some text ↔ bytes = encode text := by
  unfold decode? encode String.fromUTF8?
  constructor
  · intro h
    split at h
    · simp only [Option.some.injEq] at h
      subst h
      simp [String.fromUTF8]
    · simp at h
  · rintro rfl
    have hb : (⟨text.toByteArray.data.toList.toArray⟩ : ByteArray) = text.toByteArray := rfl
    rw [hb, dif_pos text.isValidUTF8]
    rfl

@[simp] theorem decode?_encode (text : String) : decode? (encode text) = some text :=
  decode?_eq_some_iff.2 rfl

theorem encode_injective {a b : String} (h : encode a = encode b) : a = b := by
  have := decode?_encode a
  rw [h, decode?_encode] at this
  exact (Option.some.inj this).symm

end GatewayClient.Utf8
