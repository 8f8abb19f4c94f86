import GatewayClient.Proofs.MessagePack.Grammar
/-!
# Reading by the grammar

The reader takes exactly the renderings of values that are not nested too deep
(`Value.read_recognizes`). So bytes are the rendering of at most one value, and no rendering
is the beginning of another (`Value.Encodes.eq_of_append_eq`).
-/

namespace GatewayClient.MessagePack

open Reader

/-- A two's complement fits in its width. -/
theorem lt_of_mem_signedForms {byte : UInt8} {operand : Operand} {width n : Nat}
    {digits : List UInt8} (hform : (byte, operand) ∈ signedForms width)
    (hwrites : operand.Writes n digits) : n < Bytes.capacity width := by
  cases hwrites with
  | here =>
      rcases width_of_mem_signedForms hform with rfl | rfl | rfl | rfl
      · simp [signedForms, heldFrom] at hform
        obtain ⟨k, hk, -, rfl⟩ := hform
        simp [Bytes.capacity]
        omega
      all_goals simp [signedForms] at hform
  | @next width' _ hn =>
      have hwidth : width' = width := by
        rcases width_of_mem_signedForms hform with rfl | rfl | rfl | rfl
        all_goals simp_all [signedForms, heldFrom]
      exact hwidth ▸ hn

/-- A reader of the values inside a container, if there are levels left for them. -/
inductive Nests : Option (Reader UInt8 Value) → Nat → Prop where
  | never : Nests none 0
  | deeper {read : Reader UInt8 Value} {levels : Nat} (h : read.Recognizes (Value.Within levels)) :
      Nests (some read) (levels + 1)

variable {nested : Option (Reader UInt8 Value)} {levels : Nat} {byte : UInt8} {marker : Marker}
  {input rest : List UInt8} {value : Value}

theorem Marker.within_of_readRest (h : Nests nested levels) (hmarker : (byte, marker) ∈ markers)
    (hread : marker.readRest nested input = some (value, rest)) :
    ∃ taken, input = taken ++ rest ∧ value.Within levels (byte :: taken) := by
  -- Each reading is taken apart into its steps, and what they took is put together again.
  -- Containers are read only where a level is left, so `never` contradicts them.
  cases marker with
  | nil =>
      cases hread
      rw [nil_mem_markers] at hmarker
      exact ⟨[], rfl, hmarker ▸ .nil, Nat.zero_le _⟩
  | bool b =>
      cases hread
      rw [bool_mem_markers] at hmarker
      refine ⟨[], rfl, ?_, Nat.zero_le _⟩
      cases b with
      | true => exact hmarker ▸ .yes
      | false => exact hmarker ▸ .no
  | unsigned operand =>
      obtain ⟨⟨n, last⟩, hoperand, hread⟩ := Option.bind_eq_some_iff.mp hread
      cases hread
      obtain ⟨digits, rfl, hwrites⟩ := (operand.read_recognizes _ _ _).mp hoperand
      exact ⟨digits, rfl, .unsigned (.mk (unsigned_mem_markers.mp hmarker) hwrites), Nat.zero_le _⟩
  | signed width operand =>
      obtain ⟨⟨n, last⟩, hoperand, hread⟩ := Option.bind_eq_some_iff.mp hread
      cases hread
      obtain ⟨digits, rfl, hwrites⟩ := (operand.read_recognizes _ _ _).mp hoperand
      have hform := signed_mem_markers.mp hmarker
      obtain ⟨hlow, hhigh, hn⟩ := (signedOfNat_eq_iff (lt_of_mem_signedForms hform hwrites)).mp rfl
      exact ⟨digits, rfl, .signed hlow hhigh (.mk hform (hn ▸ hwrites)), Nat.zero_le _⟩
  | float32 =>
      obtain ⟨⟨bits, last⟩, hbits, hread⟩ := Option.bind_eq_some_iff.mp hread
      cases hread
      obtain ⟨digits, rfl, hn, rfl⟩ := (Bytes.number?_recognizes 4 _ _ _).mp hbits
      refine ⟨_, rfl, ?_, Nat.zero_le _⟩
      have hencodes := Value.Encodes.float32 (UInt32.ofNat bits)
      rwa [UInt32.toNat_ofNat_of_lt' hn, ← float32_mem_markers.mp hmarker] at hencodes
  | float64 =>
      obtain ⟨⟨bits, last⟩, hbits, hread⟩ := Option.bind_eq_some_iff.mp hread
      cases hread
      obtain ⟨digits, rfl, hn, rfl⟩ := (Bytes.number?_recognizes 8 _ _ _).mp hbits
      refine ⟨_, rfl, ?_, Nat.zero_le _⟩
      have hencodes := Value.Encodes.float64 (UInt64.ofNat bits)
      rwa [UInt64.toNat_ofNat_of_lt' hn, ← float64_mem_markers.mp hmarker] at hencodes
  | text operand =>
      obtain ⟨⟨length, last⟩, hoperand, hread⟩ := Option.bind_eq_some_iff.mp hread
      obtain ⟨⟨bytes, last'⟩, htake, hread⟩ := Option.bind_eq_some_iff.mp hread
      cases hread
      obtain ⟨digits, rfl, hwrites⟩ := (operand.read_recognizes _ _ _).mp hoperand
      obtain ⟨rfl, rfl⟩ := Bytes.take?_eq_some_iff.mp htake
      refine ⟨digits ++ bytes, (List.append_assoc ..).symm, ?_, Nat.zero_le _⟩
      exact .text (.mk (text_mem_markers.mp hmarker) hwrites)
  | binary operand =>
      obtain ⟨⟨length, last⟩, hoperand, hread⟩ := Option.bind_eq_some_iff.mp hread
      obtain ⟨⟨bytes, last'⟩, htake, hread⟩ := Option.bind_eq_some_iff.mp hread
      cases hread
      obtain ⟨digits, rfl, hwrites⟩ := (operand.read_recognizes _ _ _).mp hoperand
      obtain ⟨rfl, rfl⟩ := Bytes.take?_eq_some_iff.mp htake
      refine ⟨digits ++ bytes, (List.append_assoc ..).symm, ?_, Nat.zero_le _⟩
      exact .binary (.mk (binary_mem_markers.mp hmarker) hwrites)
  | array operand =>
      obtain ⟨⟨count, last⟩, hoperand, hread⟩ := Option.bind_eq_some_iff.mp hread
      obtain ⟨item, hnested, hread⟩ := Option.bind_eq_some_iff.mp hread
      obtain ⟨⟨items, last'⟩, hitems, hread⟩ := Option.bind_eq_some_iff.mp hread
      cases hread
      cases h with
      | never => cases hnested
      | deeper h =>
          cases hnested
          obtain ⟨digits, rfl, hwrites⟩ := (operand.read_recognizes _ _ _).mp hoperand
          obtain ⟨body, rfl, rfl, hrow⟩ := (h.times _ _ _ _).mp hitems
          obtain ⟨hrow, hdepth⟩ := row_within.mp hrow
          refine ⟨digits ++ body, (List.append_assoc ..).symm, ?_, Nat.succ_le_succ hdepth⟩
          exact .array (.mk (array_mem_markers.mp hmarker) hwrites) hrow
  | map operand =>
      obtain ⟨⟨count, last⟩, hoperand, hread⟩ := Option.bind_eq_some_iff.mp hread
      obtain ⟨item, hnested, hread⟩ := Option.bind_eq_some_iff.mp hread
      obtain ⟨⟨entries, last'⟩, hentries, hread⟩ := Option.bind_eq_some_iff.mp hread
      cases hread
      cases h with
      | never => cases hnested
      | deeper h =>
          cases hnested
          obtain ⟨digits, rfl, hwrites⟩ := (operand.read_recognizes _ _ _).mp hoperand
          obtain ⟨body, rfl, rfl, hrow⟩ := ((h.both h).times _ _ _ _).mp hentries
          obtain ⟨hrow, hdepth⟩ := row_pair_within.mp hrow
          refine ⟨digits ++ body, (List.append_assoc ..).symm, ?_, Nat.succ_le_succ hdepth⟩
          exact .map (.mk (map_mem_markers.mp hmarker) hwrites) hrow
  | extension operand =>
      obtain ⟨⟨length, last⟩, hoperand, hread⟩ := Option.bind_eq_some_iff.mp hread
      obtain ⟨item, hnested, hread⟩ := Option.bind_eq_some_iff.mp hread
      obtain ⟨⟨kind, last'⟩, hkind, hread⟩ := Option.bind_eq_some_iff.mp hread
      obtain ⟨⟨data, last''⟩, htake, hread⟩ := Option.bind_eq_some_iff.mp hread
      cases hread
      cases h with
      | never => cases hnested
      | deeper h =>
          obtain ⟨digits, rfl, hwrites⟩ := (operand.read_recognizes _ _ _).mp hoperand
          obtain ⟨_, rfl, hlt, rfl⟩ := (Bytes.number?_recognizes 1 _ _ _).mp hkind
          obtain ⟨rfl, rfl⟩ := Bytes.take?_eq_some_iff.mp htake
          refine ⟨digits ++ UInt8.ofNat kind :: data, by simp [Bytes.bigEndian, Bytes.capacity], ?_,
            Nat.succ_le_succ (Nat.zero_le _)⟩
          exact .extension (.mk (extension_mem_markers.mp hmarker) hwrites)
  | reserved => cases hread

theorem Header.ofByte {forms : List Form} {family : Operand → Marker} {n : Nat}
    {head : List UInt8} (h : Header forms n head)
    (hfamily : ∀ byte operand, (byte, operand) ∈ forms → (byte, family operand) ∈ markers) :
    ∃ byte operand digits, head = byte :: digits ∧ Marker.ofByte byte = family operand ∧
      ∀ rest, operand.read (digits ++ rest) = some (n, rest) := by
  cases h with
  | @mk byte operand _ digits hform hwrites =>
      refine ⟨byte, operand, digits, rfl, ofByte_eq_iff.mpr (hfamily _ _ hform), ?_⟩
      exact operand.read_recognizes.read_append hwrites

theorem Value.Within.readWith (h : Nests nested levels) {taken : List UInt8}
    (hvalue : value.Within levels taken) (rest : List UInt8) :
    Value.readWith nested (taken ++ rest) = some (value, rest) := by
  obtain ⟨hencodes, hdepth⟩ := hvalue
  cases hencodes with
  | nil | no | yes => rfl
  | unsigned hhead =>
      obtain ⟨byte, operand, digits, rfl, hbyte, hread⟩ :=
        hhead.ofByte fun _ _ => unsigned_mem_markers.mpr
      simp [Value.readWith, hbyte, Marker.readRest, hread]
  | signed hlow hhigh hhead =>
      obtain ⟨byte, operand, digits, rfl, hbyte, hread⟩ :=
        hhead.ofByte fun _ _ => signed_mem_markers.mpr
      have hi := (signedOfNat_eq_iff (natOfSigned_lt _ _)).mpr ⟨hlow, hhigh, rfl⟩
      simp [Value.readWith, hbyte, Marker.readRest, hread, hi]
  | float32 bits =>
      have hlt : bits.toNat < Bytes.capacity 4 := bits.toNat_lt
      have hread := Bytes.number?_bigEndian hlt rest
      have hbyte : Marker.ofByte 0xca = .float32 := rfl
      simp [Value.readWith, hbyte, Marker.readRest, hread]
  | float64 bits =>
      have hlt : bits.toNat < Bytes.capacity 8 := bits.toNat_lt
      have hread := Bytes.number?_bigEndian hlt rest
      have hbyte : Marker.ofByte 0xcb = .float64 := rfl
      simp [Value.readWith, hbyte, Marker.readRest, hread]
  | text hhead =>
      obtain ⟨byte, operand, digits, rfl, hbyte, hread⟩ :=
        hhead.ofByte fun _ _ => text_mem_markers.mpr
      simp [Value.readWith, hbyte, Marker.readRest, hread]
  | binary hhead =>
      obtain ⟨byte, operand, digits, rfl, hbyte, hread⟩ :=
        hhead.ofByte fun _ _ => binary_mem_markers.mpr
      simp [Value.readWith, hbyte, Marker.readRest, hread]
  | array hhead hitems =>
      obtain ⟨byte, operand, digits, rfl, hbyte, hread⟩ :=
        hhead.ofByte fun _ _ => array_mem_markers.mpr
      cases h with
      | never => cases hdepth
      | deeper h =>
          have hrow := row_within.mpr ⟨hitems, Nat.le_of_succ_le_succ hdepth⟩
          have htimes := (h.times _).read_append ⟨rfl, hrow⟩ rest
          simp [Value.readWith, hbyte, Marker.readRest, hread, htimes]
  | map hhead hentries =>
      obtain ⟨byte, operand, digits, rfl, hbyte, hread⟩ :=
        hhead.ofByte fun _ _ => map_mem_markers.mpr
      cases h with
      | never => cases hdepth
      | deeper h =>
          have hrow := row_pair_within.mpr ⟨hentries, Nat.le_of_succ_le_succ hdepth⟩
          have htimes := ((h.both h).times _).read_append ⟨rfl, hrow⟩ rest
          simp [Value.readWith, hbyte, Marker.readRest, hread, htimes]
  | @extension kind data head hhead =>
      obtain ⟨byte, operand, digits, rfl, hbyte, hread⟩ :=
        hhead.ofByte fun _ _ => extension_mem_markers.mpr
      cases h with
      | never => cases hdepth
      | deeper h =>
          have hlt : kind.toNat < Bytes.capacity 1 := kind.toNat_lt
          have hkind := Bytes.number?_bigEndian hlt (data ++ rest)
          have hdigit : Bytes.bigEndian 1 kind.toNat = [kind] := by
            simp [Bytes.bigEndian, Bytes.capacity]
          rw [hdigit] at hkind
          simp [Value.readWith, hbyte, Marker.readRest, hread, List.singleton_append ▸ hkind]

theorem readWith_recognizes (h : Nests nested levels) :
    (Value.readWith nested).Recognizes (Value.Within levels) := by
  intro input value rest
  constructor
  · intro hread
    cases input with
    | nil => cases hread
    | cons byte input =>
        obtain ⟨taken, rfl, hwithin⟩ :=
          Marker.within_of_readRest h (ofByte_eq_iff.mp rfl) hread
        exact ⟨byte :: taken, rfl, hwithin⟩
  · rintro ⟨taken, rfl, hwithin⟩
    exact hwithin.readWith h rest

theorem Value.readNested_recognizes (levels : Nat) :
    (Value.readNested levels).Recognizes (Value.Within levels) := by
  induction levels with
  | zero => exact readWith_recognizes .never
  | succ levels ih => exact readWith_recognizes (.deeper ih)

/-- The reader takes exactly the renderings of values that are not nested too deep. -/
theorem Value.read_recognizes : Value.read.Recognizes (Value.Within nestingLimit) :=
  Value.readNested_recognizes nestingLimit

/-- Bytes begin with a rendering of at most one value, and only one rendering. -/
theorem Value.Encodes.eq_of_append_eq {v w : Value} {x y r s : List UInt8} (hx : v.Encodes x)
    (hy : w.Encodes y) (hinput : x ++ r = y ++ s) : v = w ∧ r = s :=
  -- A reader that stops at no depth of the two finds both.
  (Value.readNested_recognizes (max v.depth w.depth)).eq_of_append_eq
    ⟨hx, Nat.le_max_left ..⟩ ⟨hy, Nat.le_max_right ..⟩ hinput

end GatewayClient.MessagePack
