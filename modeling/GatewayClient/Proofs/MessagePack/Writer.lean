import GatewayClient.MessagePack.Writer
import GatewayClient.Proofs.MessagePack.Reader
/-!
# Writing by the grammar

What the writer writes is a rendering (`Value.encodes_encode`), so the reader finds it again,
whatever follows (`Value.read_encode_append`).
-/

namespace GatewayClient.MessagePack

open Reader

/-! ## Values that can be written -/

/-- Numbers have at most 64 bits. -/
def unsignedLimit : Nat := Bytes.capacity 8

/-- Lengths and counts have at most 32 bits. -/
def lengthLimit : Nat := Bytes.capacity 4

mutual

/-- The values that a rendering has room for. -/
def Value.Fits : Value → Prop
  | .unsigned n => n < unsignedLimit
  | .signed i => -(unsignedLimit : Int) ≤ 2 * i ∧ 2 * i < unsignedLimit
  | .text bytes | .binary bytes | .extension _ bytes => bytes.length < lengthLimit
  | .array items => items.length < lengthLimit ∧ FitAll items
  | .map entries => entries.length < lengthLimit ∧ FitEntries entries
  | .nil | .bool _ | .float32 _ | .float64 _ => True

def FitAll : List Value → Prop
  | [] => True
  | item :: items => item.Fits ∧ FitAll items

def FitEntries : List (Value × Value) → Prop
  | [] => True
  | (key, value) :: entries => key.Fits ∧ value.Fits ∧ FitEntries entries

end

/-! ## Headers -/

section Headers

variable {forms : List Form} {marker : UInt8} {count n k : Nat} {rest : List UInt8}

/-- A small number is held by the first byte. -/
theorem header_held_or (first : Nat) (hforms : heldFrom first 0 count ⊆ forms) (hk : k = first + n)
    (hrest : Header forms n rest) : Header forms n (if n < count then [UInt8.ofNat k] else rest) := by
  subst hk
  split
  · case isTrue hn =>
    refine .mk (hforms (List.mem_map.mpr ⟨n, List.mem_range.mpr hn, rfl⟩)) ?_
    rw [Nat.zero_add]
    exact .here n
  · case isFalse => exact hrest

theorem header_withOperand {width : Nat} (hform : (marker, .next width) ∈ forms)
    (hn : n < Bytes.capacity width) : Header forms n (withOperand marker width n) :=
  .mk hform (.next hn)

/-- A number that fits in a width is written in that width. -/
theorem header_width_or (width : Nat) (hform : (marker, .next width) ∈ forms)
    (hrest : Header forms n rest) :
    Header forms n (if n < Bytes.capacity width then withOperand marker width n else rest) := by
  split
  · case isTrue hn => exact header_withOperand hform hn
  · case isFalse => exact hrest

end Headers

section Numbers

variable {n : Nat}

theorem header_encodeUnsigned (h : n < unsignedLimit) :
    Header unsignedForms n (encodeUnsigned n) := by
  refine header_held_or 0 (List.subset_append_right ..) (Nat.zero_add n).symm ?_
  refine header_width_or 1 (by simp [unsignedForms]) ?_
  refine header_width_or 2 (by simp [unsignedForms]) ?_
  refine header_width_or 4 (by simp [unsignedForms]) ?_
  exact header_withOperand (by simp [unsignedForms]) h

theorem header_textHeader (h : n < lengthLimit) : Header textForms n (textHeader n) := by
  refine header_held_or _ (List.subset_append_right ..) rfl ?_
  refine header_width_or 1 (by simp [textForms]) ?_
  refine header_width_or 2 (by simp [textForms]) ?_
  exact header_withOperand (by simp [textForms]) h

theorem header_binaryHeader (h : n < lengthLimit) : Header binaryForms n (binaryHeader n) := by
  refine header_width_or 1 (by simp [binaryForms]) ?_
  refine header_width_or 2 (by simp [binaryForms]) ?_
  exact header_withOperand (by simp [binaryForms]) h

theorem header_arrayHeader (h : n < lengthLimit) : Header arrayForms n (arrayHeader n) := by
  refine header_held_or _ (List.subset_append_right ..) rfl ?_
  refine header_width_or 2 (by simp [arrayForms]) ?_
  exact header_withOperand (by simp [arrayForms]) h

theorem header_mapHeader (h : n < lengthLimit) : Header mapForms n (mapHeader n) := by
  refine header_held_or _ (List.subset_append_right ..) rfl ?_
  refine header_width_or 2 (by simp [mapForms]) ?_
  exact header_withOperand (by simp [mapForms]) h

theorem header_extensionHeader (h : n < lengthLimit) :
    Header extensionForms n (extensionHeader n) := by
  unfold extensionHeader
  split
  case h_6 =>
    refine header_width_or 1 (by simp [extensionForms]) ?_
    refine header_width_or 2 (by simp [extensionForms]) ?_
    exact header_withOperand (by simp [extensionForms]) h
  -- The five lengths that a first byte holds.
  all_goals exact .mk (by simp [extensionForms]) (.here _)

end Numbers

/-! ## Values -/

/-- A two's complement is written in any width that has room for it. -/
theorem encodes_signed_width {i : Int} {marker : UInt8} {width : Nat}
    (hform : (marker, .next width) ∈ signedForms width)
    (hlow : -(Bytes.capacity width : Int) ≤ 2 * i) (hhigh : 2 * i < Bytes.capacity width) :
    (Value.signed i).Encodes (withOperand marker width (natOfSigned width i)) :=
  .signed hlow hhigh (header_withOperand hform (natOfSigned_lt width i))

theorem encodes_encodeSigned {i : Int} (hlow : -(unsignedLimit : Int) ≤ 2 * i)
    (hhigh : 2 * i < unsignedLimit) : (Value.signed i).Encodes (encodeSigned i) := by
  have hwidths : Bytes.capacity 1 = 0x100 ∧ Bytes.capacity 2 = 0x10000 ∧
      Bytes.capacity 4 = 0x100000000 := ⟨rfl, rfl, rfl⟩
  unfold encodeSigned
  split
  -- From -32 to -1 the first byte is the two's complement.
  · case isTrue h =>
    have hn : natOfSigned 1 i = 0xe0 + (i + 32).toNat := by
      rw [natOfSigned, hwidths.1]
      omega
    have hbyte := UInt8.toNat_ofNat_of_lt' (natOfSigned_lt 1 i)
    have hheld : (UInt8.ofNat (natOfSigned 1 i), .here (natOfSigned 1 i)) ∈ heldFrom 0xe0 0xe0 32 :=
      mem_heldFrom (by omega) (by omega) (by omega)
    exact @Value.Encodes.signed i 1 _ (by omega) (by omega) (.mk (.tail _ hheld) (.here _))
  split
  · case isTrue h => exact encodes_signed_width (by simp [signedForms]) (by omega) (by omega)
  split
  · case isTrue h => exact encodes_signed_width (by simp [signedForms]) (by omega) (by omega)
  split
  · case isTrue h => exact encodes_signed_width (by simp [signedForms]) (by omega) (by omega)
  exact encodes_signed_width (by simp [signedForms]) hlow hhigh

mutual

/-- What the writer writes is a rendering of the value. -/
theorem Value.encodes_encode : (value : Value) → value.Fits → value.Encodes value.encode
  | .nil, _ => .nil
  | .bool false, _ => .no
  | .bool true, _ => .yes
  | .unsigned _, h => .unsigned (header_encodeUnsigned h)
  | .signed _, h => encodes_encodeSigned h.1 h.2
  | .float32 bits, _ => .float32 bits
  | .float64 bits, _ => .float64 bits
  | .text _, h => .text (header_textHeader h)
  | .binary _, h => .binary (header_binaryHeader h)
  | .array items, h => .array (header_arrayHeader h.1) (row_encodeAll items h.2)
  | .map entries, h => .map (header_mapHeader h.1) (row_encodeEntries entries h.2)
  | .extension _ _, h => .extension (header_extensionHeader h)

theorem row_encodeAll : (items : List Value) → FitAll items →
    Row Value.Encodes items (encodeAll items)
  | [], _ => .nil
  | item :: items, h => .cons (item.encodes_encode h.1) (row_encodeAll items h.2)

theorem row_encodeEntries : (entries : List (Value × Value)) → FitEntries entries →
    Row (Pair Value.Encodes Value.Encodes) entries (encodeEntries entries)
  | [], _ => .nil
  | (key, value) :: entries, h =>
      .cons (.mk (key.encodes_encode h.1) (value.encodes_encode h.2.1))
        (row_encodeEntries entries h.2.2)

end

/-- The reader finds what the writer wrote, whatever follows. -/
theorem Value.read_encode_append {value : Value} (hfits : value.Fits)
    (hdepth : value.depth ≤ nestingLimit) (rest : List UInt8) :
    Value.read (value.encode ++ rest) = some (value, rest) :=
  Value.read_recognizes.read_append ⟨value.encodes_encode hfits, hdepth⟩ rest

/-! ## Room -/

def Operand.bound : Operand → Nat
  | .here n => n + 1
  | .next width => Bytes.capacity width

/-- No form announces more than there is room for. -/
theorem Header.lt {forms : List Form} {limit n : Nat} {head : List UInt8} (h : Header forms n head)
    (hforms : ∀ form ∈ forms, form.2.bound ≤ limit) : n < limit := by
  cases h with
  | mk hform hdigits =>
      have hle := hforms _ hform
      cases hdigits with
      | here => exact hle
      | next hn => exact Nat.lt_of_lt_of_le hn hle

theorem capacity_le_of_mem_signedForms {width : Nat} {form : Form} (h : form ∈ signedForms width) :
    Bytes.capacity width ≤ unsignedLimit := by
  rcases width_of_mem_signedForms h with rfl | rfl | rfl | rfl <;> decide

mutual

theorem Value.fits_of_encodes :
    (value : Value) → {bytes : List UInt8} → value.Encodes bytes → value.Fits
  | .nil, _, _ | .bool _, _, _ | .float32 _, _, _ | .float64 _, _, _ => trivial
  | .unsigned _, _, .unsigned hhead => hhead.lt (by decide +kernel)
  | .signed _, _, .signed hlow hhigh (.mk hform _) => by
      have hle := capacity_le_of_mem_signedForms hform
      constructor <;> omega
  | .text _, _, .text hhead => hhead.lt (by decide +kernel)
  | .binary _, _, .binary hhead => hhead.lt (by decide +kernel)
  | .array items, _, .array hhead hitems => ⟨hhead.lt (by decide +kernel), fitAll_of_row items hitems⟩
  | .map entries, _, .map hhead hentries =>
      ⟨hhead.lt (by decide +kernel), fitEntries_of_row entries hentries⟩
  | .extension _ _, _, .extension hhead => hhead.lt (by decide +kernel)

theorem fitAll_of_row : (items : List Value) → {body : List UInt8} →
    Row Value.Encodes items body → FitAll items
  | [], _, _ => trivial
  | item :: items, _, .cons hfirst hrest => ⟨item.fits_of_encodes hfirst, fitAll_of_row items hrest⟩

theorem fitEntries_of_row : (entries : List (Value × Value)) → {body : List UInt8} →
    Row (Pair Value.Encodes Value.Encodes) entries body → FitEntries entries
  | [], _, _ => trivial
  | (key, value) :: entries, _, .cons (.mk hkey hvalue) hrest =>
      ⟨key.fits_of_encodes hkey, value.fits_of_encodes hvalue, fitEntries_of_row entries hrest⟩

end

/-- A rendering is possible exactly where there is room. -/
theorem Value.fits_iff_exists_encodes {value : Value} :
    value.Fits ↔ ∃ bytes, value.Encodes bytes :=
  ⟨fun h => ⟨value.encode, value.encodes_encode h⟩, fun ⟨_, h⟩ => value.fits_of_encodes h⟩

theorem fitAll_iff_forall_mem {items : List Value} :
    FitAll items ↔ ∀ item ∈ items, item.Fits := by
  induction items with
  | nil => simp [FitAll]
  | cons item items ih => simp [FitAll, ih]

theorem fitEntries_iff_forall_mem {entries : List (Value × Value)} :
    FitEntries entries ↔ ∀ entry ∈ entries, entry.1.Fits ∧ entry.2.Fits := by
  induction entries with
  | nil => simp [FitEntries]
  | cons entry entries ih => simp [FitEntries, ih, and_assoc]

end GatewayClient.MessagePack
