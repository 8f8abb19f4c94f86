import GatewayClient.Address.Idna
import GatewayClient.Proofs.Text.Ascii
/-!
# Laws of names

Addresses are written and read again whatever the tables of Unicode say, as long as a name stays
what it is and is made of characters that end no host (`LawfulIdna`). Names without tables keep
these laws.
-/

namespace GatewayClient

open Idna (toAscii? isAllowed)

/-- The laws of names that addresses rely on. -/
class LawfulIdna [Idna] : Prop where
  /-- A domain that is written as its name keeps it. -/
  toAscii?_self {text name : List Char} (h : toAscii? text = some name) : toAscii? name = some name
  isAllowed_of_mem {text name : List Char} (h : toAscii? text = some name) :
    ∀ c ∈ name, isAllowed c = true
  /-- ASCII goes by its small letters, if no label claims to be in punycode. -/
  toAscii?_of_isAllowed {text : List Char} (hchars : ∀ c ∈ text, isAllowed c = true)
    (hlabels : ∀ label ∈ splitAt '.' (text.map Char.toLower), ¬"xn--".toList <+: label) :
    toAscii? text = some (text.map Char.toLower)

namespace Idna

variable {c : Char} {text name label : List Char}

/-! ## Without tables -/

theorem toLower_toLower (c : Char) : c.toLower.toLower = c.toLower := by
  unfold Char.toLower
  grind

theorem ascii_of_isAllowed (h : isAllowed c = true) : c.toNat < 0x80 :=
  of_decide_eq_true (Bool.and_eq_true_iff.mp h).1

theorem isAllowed_toLower (h : isAllowed c = true) : isAllowed c.toLower = true := by
  have hall : ∀ n < 0x80, isAllowed (Char.ofNat n) = true →
      isAllowed (Char.ofNat n).toLower = true := by
    decide +kernel
  exact forall_ascii (p := fun c => isAllowed c = true → isAllowed c.toLower = true) hall
    (ascii_of_isAllowed h) h

theorem isValidLabel_of_not_prefix (h : ¬"xn--".toList <+: label) : isValidLabel label = true := by
  unfold isValidLabel
  split
  case h_1 text => exact absurd (List.prefix_append "xn--".toList text) h
  case h_2 => rfl

/-- What a name is made of: small letters and other ASCII, in labels that are valid. -/
theorem asciiName?_eq_some_iff : asciiName? text = some name ↔
    name = text.map Char.toLower ∧ (∀ c ∈ name, isAllowed c = true) ∧
      ∀ label ∈ splitAt '.' name, isValidLabel label = true := by
  unfold asciiName?
  extract_lets lower
  rw [Option.ite_none_right_eq_some, List.all_eq_true, List.all_eq_true, Option.some_inj]
  constructor
  · rintro ⟨hvalid, rfl⟩
    exact ⟨rfl, hvalid⟩
  · rintro ⟨rfl, hvalid⟩
    exact ⟨hvalid, rfl⟩

attribute [local instance] ascii

instance lawful_ascii : LawfulIdna where
  toAscii?_self h := by
    obtain ⟨rfl, hchars, hlabels⟩ := asciiName?_eq_some_iff.mp h
    refine asciiName?_eq_some_iff.mpr ⟨?_, hchars, hlabels⟩
    rw [List.map_map]
    exact List.map_congr_left fun c _ => (toLower_toLower c).symm
  isAllowed_of_mem h := (asciiName?_eq_some_iff.mp h).2.1
  toAscii?_of_isAllowed hchars hlabels := by
    refine asciiName?_eq_some_iff.mpr ⟨rfl, ?_, fun label hlabel =>
      isValidLabel_of_not_prefix (hlabels label hlabel)⟩
    exact List.forall_mem_map.mpr fun c hc => isAllowed_toLower (hchars c hc)

end Idna

end GatewayClient
