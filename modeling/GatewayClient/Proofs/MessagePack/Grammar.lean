import GatewayClient.MessagePack.Reader
import GatewayClient.Proofs.Reader
/-!
# The grammar of MessagePack

Which bytes are a rendering of which value. A value has many renderings, as lengths and
integers come in several widths. The forms that headers can have are listed by their first
bytes, and the list is complete (`ofByte_eq_iff`).
-/

namespace GatewayClient.MessagePack

open Reader

/-! ## First bytes -/

/-- A first byte, and where the number is that it announces. -/
abbrev Form : Type := UInt8 × Operand

/-- So many first bytes in a row, which hold numbers in a row. -/
def heldFrom (byte number count : Nat) : List Form :=
  (List.range count).map fun k => (UInt8.ofNat (byte + k), .here (number + k))

def unsignedForms : List Form :=
  [(0xcc, .next 1), (0xcd, .next 2), (0xce, .next 4), (0xcf, .next 8)] ++ heldFrom 0x00 0 128

/-- The forms of two's complements in so many bytes. -/
def signedForms : (width : Nat) → List Form
  | 1 => (0xd0, .next 1) :: heldFrom 0xe0 0xe0 32
  | 2 => [(0xd1, .next 2)]
  | 4 => [(0xd2, .next 4)]
  | 8 => [(0xd3, .next 8)]
  | _ => []

def textForms : List Form :=
  [(0xd9, .next 1), (0xda, .next 2), (0xdb, .next 4)] ++ heldFrom 0xa0 0 32

def binaryForms : List Form := [(0xc4, .next 1), (0xc5, .next 2), (0xc6, .next 4)]

def arrayForms : List Form := [(0xdc, .next 2), (0xdd, .next 4)] ++ heldFrom 0x90 0 16

def mapForms : List Form := [(0xde, .next 2), (0xdf, .next 4)] ++ heldFrom 0x80 0 16

def extensionForms : List Form :=
  [(0xd4, .here 1), (0xd5, .here 2), (0xd6, .here 4), (0xd7, .here 8), (0xd8, .here 16),
    (0xc7, .next 1), (0xc8, .next 2), (0xc9, .next 4)]

/-- All first bytes with what they announce. -/
def markers : List (UInt8 × Marker) :=
  [(0xc0, .nil), (0xc1, .reserved), (0xc2, .bool false), (0xc3, .bool true), (0xca, .float32),
    (0xcb, .float64)] ++
  binaryForms.map (fun (byte, length) => (byte, .binary length)) ++
  extensionForms.map (fun (byte, length) => (byte, .extension length)) ++
  arrayForms.map (fun (byte, count) => (byte, .array count)) ++
  mapForms.map (fun (byte, count) => (byte, .map count)) ++
  textForms.map (fun (byte, length) => (byte, .text length)) ++
  [1, 2, 4, 8].flatMap (fun width =>
    (signedForms width).map fun (byte, digits) => (byte, .signed width digits)) ++
  unsignedForms.map (fun (byte, n) => (byte, .unsigned n))

theorem mem_heldFrom {first number count k : Nat} {byte : UInt8} (hle : first ≤ byte.toNat)
    (hlt : byte.toNat < first + count) (hk : first + k = number + byte.toNat) :
    (byte, .here k) ∈ heldFrom first number count := by
  refine List.mem_map.mpr ⟨byte.toNat - first, List.mem_range.mpr (by omega), ?_⟩
  have hnumber : number + (byte.toNat - first) = k := by omega
  rw [Nat.add_sub_cancel' hle, UInt8.ofNat_toNat, hnumber]

/-- Bytes that hold no number are looked up one by one. -/
theorem mem_markers_of_wide {byte : UInt8} (hlow : 0xc0 ≤ byte.toNat) (hhigh : byte.toNat < 0xe0) :
    (byte, Marker.ofByte byte) ∈ markers := by
  have hall : ∀ n < 0x20,
      (UInt8.ofNat (0xc0 + n), Marker.ofByte (UInt8.ofNat (0xc0 + n))) ∈ markers := by
    decide +kernel
  have hbyte := hall (byte.toNat - 0xc0) (by omega)
  rwa [Nat.add_sub_cancel' hlow, UInt8.ofNat_toNat] at hbyte

theorem mem_markers (byte : UInt8) : (byte, Marker.ofByte byte) ∈ markers := by
  by_cases hwide : 0xc0 ≤ byte.toNat ∧ byte.toNat < 0xe0
  · exact mem_markers_of_wide hwide.1 hwide.2
  · -- All others hold their number. The ranges are those of `Marker.ofByte`, in its order.
    have hbyte := byte.toNat_lt
    simp only [Marker.ofByte]
    split
    · case isTrue hlow =>
      have hheld : (byte, .here byte.toNat) ∈ heldFrom 0x00 0 128 :=
        mem_heldFrom (by omega) (by omega) (by omega)
      simp [markers, unsignedForms, hheld]
    split
    · case isTrue hlow =>
      have hheld : (byte, .here (byte.toNat - 0x80)) ∈ heldFrom 0x80 0 16 :=
        mem_heldFrom (by omega) (by omega) (by omega)
      simp [markers, mapForms, hheld]
    split
    · case isTrue hlow =>
      have hheld : (byte, .here (byte.toNat - 0x90)) ∈ heldFrom 0x90 0 16 :=
        mem_heldFrom (by omega) (by omega) (by omega)
      simp [markers, arrayForms, hheld]
    split
    · case isTrue hlow =>
      have hheld : (byte, .here (byte.toNat - 0xa0)) ∈ heldFrom 0xa0 0 32 :=
        mem_heldFrom (by omega) (by omega) (by omega)
      simp [markers, textForms, hheld]
    rw [if_pos (by omega)]
    have hheld : (byte, .here byte.toNat) ∈ heldFrom 0xe0 0xe0 32 :=
      mem_heldFrom (by omega) (by omega) (by omega)
    simp [markers, signedForms, hheld]

theorem ofByte_eq_iff {byte : UInt8} {marker : Marker} :
    Marker.ofByte byte = marker ↔ (byte, marker) ∈ markers := by
  have hsound : ∀ entry ∈ markers, Marker.ofByte entry.1 = entry.2 := by decide +kernel
  constructor
  · rintro rfl
    exact mem_markers byte
  · exact hsound (byte, marker)

section Markers

variable {byte : UInt8} {operand : Operand}

@[simp] theorem nil_mem_markers : (byte, Marker.nil) ∈ markers ↔ byte = 0xc0 := by simp [markers]

@[simp] theorem bool_mem_markers {b : Bool} :
    (byte, Marker.bool b) ∈ markers ↔ byte = if b then 0xc3 else 0xc2 := by
  cases b <;> simp [markers]

@[simp] theorem float32_mem_markers : (byte, Marker.float32) ∈ markers ↔ byte = 0xca := by
  simp [markers]

@[simp] theorem float64_mem_markers : (byte, Marker.float64) ∈ markers ↔ byte = 0xcb := by
  simp [markers]

@[simp] theorem unsigned_mem_markers :
    (byte, Marker.unsigned operand) ∈ markers ↔ (byte, operand) ∈ unsignedForms := by
  simp [markers]

theorem width_of_mem_signedForms {width : Nat} {form : Form} (h : form ∈ signedForms width) :
    width = 1 ∨ width = 2 ∨ width = 4 ∨ width = 8 := by
  unfold signedForms at h
  split at h
  case h_5 => cases h
  all_goals simp

@[simp] theorem signed_mem_markers {width : Nat} :
    (byte, Marker.signed width operand) ∈ markers ↔ (byte, operand) ∈ signedForms width := by
  constructor
  · intro h
    simp only [markers, List.mem_append, List.mem_map, List.mem_flatMap, List.mem_cons,
      List.not_mem_nil, Prod.mk.injEq, Marker.signed.injEq, reduceCtorEq, and_false, exists_false,
      false_or, or_false] at h
    obtain ⟨_, -, _, hform, rfl, rfl, rfl⟩ := h
    exact hform
  · intro h
    rcases width_of_mem_signedForms h with rfl | rfl | rfl | rfl <;> simp [markers, h]

@[simp] theorem text_mem_markers :
    (byte, Marker.text operand) ∈ markers ↔ (byte, operand) ∈ textForms := by
  simp [markers]

@[simp] theorem binary_mem_markers :
    (byte, Marker.binary operand) ∈ markers ↔ (byte, operand) ∈ binaryForms := by
  simp [markers]

@[simp] theorem array_mem_markers :
    (byte, Marker.array operand) ∈ markers ↔ (byte, operand) ∈ arrayForms := by
  simp [markers]

@[simp] theorem map_mem_markers :
    (byte, Marker.map operand) ∈ markers ↔ (byte, operand) ∈ mapForms := by
  simp [markers]

@[simp] theorem extension_mem_markers :
    (byte, Marker.extension operand) ∈ markers ↔ (byte, operand) ∈ extensionForms := by
  simp [markers]

end Markers

/-! ## Headers -/

/-- The digits that follow a first byte whose number is where an operand says. -/
inductive Operand.Writes : Operand → Nat → List UInt8 → Prop where
  | here (n : Nat) : Writes (.here n) n []
  | next {width n : Nat} (hn : n < Bytes.capacity width) :
      Writes (.next width) n (Bytes.bigEndian width n)

theorem Operand.read_recognizes (operand : Operand) : operand.read.Recognizes operand.Writes := by
  intro input n rest
  cases operand with
  | here m =>
      constructor
      · intro hread
        cases hread
        exact ⟨[], rfl, .here n⟩
      · rintro ⟨taken, rfl, hwrites⟩
        cases hwrites
        rfl
  | next width =>
      refine (Bytes.number?_recognizes width input n rest).trans (exists_congr fun digits => ?_)
      refine and_congr_right fun _ => ⟨?_, ?_⟩
      · rintro ⟨hn, rfl⟩
        exact .next hn
      · intro hwrites
        cases hwrites with
        | next hn => exact ⟨hn, rfl⟩

/-- A first byte of one of the forms with the digits of its number. -/
inductive Header (forms : List Form) : Nat → List UInt8 → Prop where
  | mk {byte : UInt8} {operand : Operand} {n : Nat} {digits : List UInt8}
      (hform : (byte, operand) ∈ forms) (hdigits : operand.Writes n digits) :
      Header forms n (byte :: digits)

/-! ## Values -/

/-- The renderings of values. -/
inductive Value.Encodes : Value → List UInt8 → Prop where
  | nil : Encodes .nil [0xc0]
  | no : Encodes (.bool false) [0xc2]
  | yes : Encodes (.bool true) [0xc3]
  | unsigned {n : Nat} {head : List UInt8} (hhead : Header unsignedForms n head) :
      Encodes (.unsigned n) head
  | signed {i : Int} {width : Nat} {head : List UInt8}
      (hlow : -(Bytes.capacity width : Int) ≤ 2 * i) (hhigh : 2 * i < Bytes.capacity width)
      (hhead : Header (signedForms width) (natOfSigned width i) head) : Encodes (.signed i) head
  | float32 (bits : UInt32) : Encodes (.float32 bits) (0xca :: Bytes.bigEndian 4 bits.toNat)
  | float64 (bits : UInt64) : Encodes (.float64 bits) (0xcb :: Bytes.bigEndian 8 bits.toNat)
  | text {bytes head : List UInt8} (hhead : Header textForms bytes.length head) :
      Encodes (.text bytes) (head ++ bytes)
  | binary {bytes head : List UInt8} (hhead : Header binaryForms bytes.length head) :
      Encodes (.binary bytes) (head ++ bytes)
  | array {items : List Value} {head body : List UInt8}
      (hhead : Header arrayForms items.length head) (hitems : Row Encodes items body) :
      Encodes (.array items) (head ++ body)
  | map {entries : List (Value × Value)} {head body : List UInt8}
      (hhead : Header mapForms entries.length head)
      (hentries : Row (Pair Encodes Encodes) entries body) : Encodes (.map entries) (head ++ body)
  | extension {kind : UInt8} {data head : List UInt8}
      (hhead : Header extensionForms data.length head) :
      Encodes (.extension kind data) (head ++ kind :: data)

mutual

/-- How many containers stand inside one another. An extension counts as one. -/
def Value.depth : Value → Nat
  | .array items => depthAll items + 1
  | .map entries => depthEntries entries + 1
  | .extension _ _ => 1
  | _ => 0

def depthAll : List Value → Nat
  | [] => 0
  | item :: items => max item.depth (depthAll items)

def depthEntries : List (Value × Value) → Nat
  | [] => 0
  | (key, value) :: entries => max (max key.depth value.depth) (depthEntries entries)

end

/-- The renderings of values with so many levels at most. -/
def Value.Within (levels : Nat) (value : Value) (bytes : List UInt8) : Prop :=
  value.Encodes bytes ∧ value.depth ≤ levels

theorem row_within {levels : Nat} {items : List Value} {body : List UInt8} :
    Row (Value.Within levels) items body ↔
      Row Value.Encodes items body ∧ depthAll items ≤ levels := by
  constructor
  · intro h
    induction h with
    | nil => exact ⟨.nil, Nat.zero_le _⟩
    | cons hfirst _ ih => exact ⟨.cons hfirst.1 ih.1, Nat.max_le.mpr ⟨hfirst.2, ih.2⟩⟩
  · rintro ⟨hrow, hdepth⟩
    induction hrow with
    | nil => exact .nil
    | cons hfirst _ ih =>
        obtain ⟨hle, hrest⟩ := Nat.max_le.mp hdepth
        exact .cons ⟨hfirst, hle⟩ (ih hrest)

theorem row_pair_within {levels : Nat} {entries : List (Value × Value)} {body : List UInt8} :
    Row (Pair (Value.Within levels) (Value.Within levels)) entries body ↔
      Row (Pair Value.Encodes Value.Encodes) entries body ∧ depthEntries entries ≤ levels := by
  constructor
  · intro h
    induction h with
    | nil => exact ⟨.nil, Nat.zero_le _⟩
    | cons hfirst _ ih =>
        cases hfirst with
        | mk hkey hvalue =>
            refine ⟨.cons (.mk hkey.1 hvalue.1) ih.1, Nat.max_le.mpr ⟨?_, ih.2⟩⟩
            exact Nat.max_le.mpr ⟨hkey.2, hvalue.2⟩
  · rintro ⟨hrow, hdepth⟩
    induction hrow with
    | nil => exact .nil
    | cons hfirst _ ih =>
        cases hfirst with
        | mk hkey hvalue =>
            obtain ⟨hentry, hrest⟩ := Nat.max_le.mp hdepth
            obtain ⟨hkeyDepth, hvalueDepth⟩ := Nat.max_le.mp hentry
            exact .cons (.mk ⟨hkey, hkeyDepth⟩ ⟨hvalue, hvalueDepth⟩) (ih hrest)

/-! ## Two's complement -/

theorem natOfSigned_lt (width : Nat) (i : Int) : natOfSigned width i < Bytes.capacity width := by
  have hpos : (0 : Int) < Bytes.capacity width := by exact_mod_cast Bytes.capacity_pos width
  have hlt := Int.emod_lt_of_pos i hpos
  have hle := Int.emod_nonneg i (Int.ne_of_gt hpos)
  unfold natOfSigned
  omega

/-- Two's complement names each integer of its range once. -/
theorem signedOfNat_eq_iff {width n : Nat} {i : Int} (hn : n < Bytes.capacity width) :
    signedOfNat width n = i ↔
      -(Bytes.capacity width : Int) ≤ 2 * i ∧ 2 * i < Bytes.capacity width ∧
        n = natOfSigned width i := by
  -- A remainder is the integer itself, or one period above it if it is negative.
  have hmod (j : Int) : 0 ≤ j → j < Bytes.capacity width → j % Bytes.capacity width = j :=
    Int.emod_eq_of_lt
  have hadd := Int.add_emod_right i (Bytes.capacity width)
  unfold signedOfNat natOfSigned
  by_cases hi : 0 ≤ i
  · by_cases hlt : i < Bytes.capacity width
    · rw [hmod i hi hlt]
      split <;> omega
    · split <;> omega
  · by_cases hlow : -(Bytes.capacity width : Int) ≤ i
    · rw [← hadd, hmod _ (by omega) (by omega)]
      split <;> omega
    · split <;> omega

end GatewayClient.MessagePack
