import Mathlib.Data.List.Nodup
import GatewayClient.MessagePack.Packed
import GatewayClient.Proofs.MessagePack.Writer
/-!
# Records by their fields

A record is a value that presents the fields with given names (`Value.Presents`): a map
that has each of them at most once, an array that lists the first ones in order, or binary
data that lists them by its bytes. The slots of a record are found exactly if the value
presents them (`Value.toRecord?_eq_some_iff`).
-/

namespace GatewayClient.MessagePack

/-! ## Keys -/

/-- The keys that a map of fields may have. -/
inductive Value.IsKey : Value → Prop where
  | text (bytes : List UInt8) : IsKey (.text bytes)
  | binary (bytes : List UInt8) : IsKey (.binary bytes)
  | unsigned (n : Nat) : IsKey (.unsigned n)

/-- The keys of the field that has a name and a position. -/
inductive Value.Names (name : String) (position : Nat) : Value → Prop where
  | text : Names name position (.text (Utf8.encode name))
  | binary : Names name position (.binary (Utf8.encode name))
  | position : Names name position (.unsigned position)

section Keys

variable {names : List String} {key : Value}

theorem findIdx?_encode_eq_some_iff (hnodup : names.Nodup) {bytes : List UInt8} {i : Nat} :
    names.findIdx? (Utf8.encode · == bytes) = some i ↔
      ∃ name, names[i]? = some name ∧ bytes = Utf8.encode name := by
  rw [List.findIdx?_eq_some_iff_getElem]
  constructor
  · rintro ⟨hi, hname, -⟩
    exact ⟨names[i], List.getElem?_eq_getElem hi, (beq_iff_eq.mp hname).symm⟩
  · rintro ⟨name, hname, rfl⟩
    obtain ⟨hi, rfl⟩ := List.getElem?_eq_some_iff.mp hname
    refine ⟨hi, beq_self_eq_true _, fun j hj hsame => ?_⟩
    have hsame := Utf8.encode_injective (beq_iff_eq.mp hsame)
    exact Nat.ne_of_lt hj (hnodup.getElem_inj_iff.mp hsame)

theorem Value.fieldOfKey?_eq_none_iff : key.fieldOfKey? names = none ↔ ¬ key.IsKey := by
  constructor
  · intro h hkey
    cases hkey <;> cases h
  · intro h
    unfold fieldOfKey?
    split
    · exact absurd (.text _) h
    · exact absurd (.binary _) h
    · exact absurd (.unsigned _) h
    · rfl

theorem Value.fieldOfKey?_eq_some_iff (hnodup : names.Nodup) {i : Nat} :
    key.fieldOfKey? names = some (some i) ↔ ∃ name, names[i]? = some name ∧ key.Names name i := by
  constructor
  · intro h
    unfold fieldOfKey? at h
    split at h
    · obtain ⟨name, hname, rfl⟩ := (findIdx?_encode_eq_some_iff hnodup).mp (Option.some.inj h)
      exact ⟨name, hname, .text⟩
    · obtain ⟨name, hname, rfl⟩ := (findIdx?_encode_eq_some_iff hnodup).mp (Option.some.inj h)
      exact ⟨name, hname, .binary⟩
    · split at h
      · case isTrue hlt =>
        cases h
        exact ⟨_, List.getElem?_eq_getElem hlt, .position⟩
      · cases h
    · cases h
  · rintro ⟨name, hname, hkey⟩
    cases hkey with
    | text | binary =>
        exact congrArg some ((findIdx?_encode_eq_some_iff hnodup).mpr ⟨name, hname, rfl⟩)
    | position =>
        obtain ⟨hlt, -⟩ := List.getElem?_eq_some_iff.mp hname
        exact congrArg some (if_pos hlt)

theorem Value.fieldOfKey?_eq_other_iff (hnodup : names.Nodup) :
    key.fieldOfKey? names = some none ↔
      key.IsKey ∧ ∀ i name, names[i]? = some name → ¬ key.Names name i := by
  constructor
  · intro h
    constructor
    · by_contra hkey
      rw [fieldOfKey?_eq_none_iff.mpr hkey] at h
      cases h
    · intro i name hname hkey
      rw [(fieldOfKey?_eq_some_iff hnodup).mpr ⟨name, hname, hkey⟩] at h
      cases h
  · rintro ⟨hkey, hother⟩
    cases hfield : key.fieldOfKey? names with
    | none => exact absurd hkey (fieldOfKey?_eq_none_iff.mp hfield)
    | some field =>
        cases field with
        | none => rfl
        | some i =>
            obtain ⟨name, hname, hkey⟩ := (fieldOfKey?_eq_some_iff hnodup).mp hfield
            exact absurd hkey (hother i name hname)

theorem Value.Names.isKey {name : String} {position : Nat} (h : key.Names name position) :
    key.IsKey := by
  cases h with
  | text => exact .text _
  | binary => exact .binary _
  | position => exact .unsigned _

theorem Value.eq_of_names_text {name other : String} {position : Nat}
    (h : Value.Names name position (.text (Utf8.encode other))) : name = other := by
  generalize htext : Value.text (Utf8.encode other) = key at h
  cases h with
  | text => exact Utf8.encode_injective (Value.text.inj htext).symm
  | binary | position => cases htext

end Keys

/-! ## Slots -/

/-- What the entries of a map make of the slot of a field: they leave it as it is, or one
of them fills it. -/
inductive Fills (field : Value → Prop) (entries : List (Value × Value)) :
    Option Value → Option Value → Prop where
  | kept {slot : Option Value} (hnone : ∀ entry ∈ entries, ¬ field entry.1) :
      Fills field entries slot slot
  | once {before after : List (Value × Value)} {key value : Value}
      (hentries : entries = before ++ (key, value) :: after) (hkey : field key)
      (hothers : ∀ entry ∈ before ++ after, ¬ field entry.1) : Fills field entries none (some value)

namespace Fills

variable {field : Value → Prop} {entries : List (Value × Value)} {key value : Value}
  {slot slot' : Option Value}

theorem nil_iff : Fills field [] slot slot' ↔ slot = slot' := by
  constructor
  · intro h
    cases h with
    | kept => rfl
    | once hentries => exact absurd hentries (by simp)
  · rintro rfl
    exact .kept (by simp)

/-- An entry of another field changes nothing. -/
theorem cons_iff_of_not (hkey : ¬ field key) :
    Fills field ((key, value) :: entries) slot slot' ↔ Fills field entries slot slot' := by
  constructor
  · intro h
    cases h with
    | kept hnone => exact .kept fun entry hentry => hnone entry (.tail _ hentry)
    | @once before after _ _ hentries hfield hothers =>
        cases before with
        | nil =>
            cases hentries
            exact absurd hfield hkey
        | cons first before =>
            cases hentries
            exact .once rfl hfield fun entry hentry => hothers entry (.tail _ hentry)
  · intro h
    cases h with
    | kept hnone => exact .kept (List.forall_mem_cons.mpr ⟨hkey, hnone⟩)
    | @once before after _ _ hentries hfield hothers =>
        subst hentries
        exact @Fills.once field _ ((key, value) :: before) after _ _ rfl hfield
          (List.forall_mem_cons.mpr ⟨hkey, hothers⟩)

/-- An entry of the field fills the slot, which must be empty, and no later one may. -/
theorem cons_iff (hkey : field key) :
    Fills field ((key, value) :: entries) slot slot' ↔
      slot = none ∧ Fills field entries (some value) slot' := by
  constructor
  · intro h
    cases h with
    | kept hnone => exact absurd hkey (hnone _ (.head _))
    | @once before after _ _ hentries hfield hothers =>
        cases before with
        | nil =>
            cases hentries
            exact ⟨rfl, .kept hothers⟩
        | cons first before =>
            cases hentries
            exact absurd hkey (hothers _ (.head _))
  · rintro ⟨rfl, h⟩
    cases h with
    | kept hnone => exact @Fills.once field _ [] entries key value rfl hkey hnone

/-- A slot that entries fill holds the value of one of them. -/
theorem exists_mem (h : Fills field entries none (some value)) :
    ∃ key, (key, value) ∈ entries := by
  cases h with
  | @once before after key _ hentries _ _ =>
      subst hentries
      exact ⟨key, List.mem_append_right _ (.head _)⟩

end Fills

/-- What the entries of a map make of the slots of all fields. -/
structure FillsAll (names : List String) (entries : List (Value × Value))
    (slots slots' : List (Option Value)) : Prop where
  length_eq : slots'.length = slots.length
  keys : ∀ entry ∈ entries, entry.1.IsKey
  fields : ∀ i name slot slot', names[i]? = some name → slots[i]? = some slot →
    slots'[i]? = some slot' → Fills (Value.Names name i) entries slot slot'

section FillSlots

variable {names : List String} {entries : List (Value × Value)} {slots slots' : List (Option Value)}

theorem fillsAll_nil_iff (hlength : slots.length = names.length) :
    FillsAll names [] slots slots' ↔ slots = slots' := by
  constructor
  · intro h
    refine List.ext_getElem h.length_eq.symm fun i hi hi' => ?_
    refine Fills.nil_iff.mp (h.fields i names[i] _ _ ?_ ?_ ?_) <;> exact List.getElem?_eq_getElem _
  · rintro rfl
    refine ⟨rfl, by simp, fun i name slot slot' _ hslot hslot' => Fills.nil_iff.mpr ?_⟩
    exact Option.some.inj (hslot.symm.trans hslot')

/-- An entry of no field is skipped. -/
theorem fillsAll_cons_iff_of_other {entry : Value × Value} (hkey : entry.1.IsKey)
    (hother : ∀ i name, names[i]? = some name → ¬ entry.1.Names name i) :
    FillsAll names (entry :: entries) slots slots' ↔ FillsAll names entries slots slots' := by
  constructor
  · intro h
    refine ⟨h.length_eq, (List.forall_mem_cons.mp h.keys).2, ?_⟩
    intro i name slot slot' hname hslot hslot'
    exact (Fills.cons_iff_of_not (hother i name hname)).mp (h.fields i name _ _ hname hslot hslot')
  · intro h
    refine ⟨h.length_eq, List.forall_mem_cons.mpr ⟨hkey, h.keys⟩, ?_⟩
    intro i name slot slot' hname hslot hslot'
    exact (Fills.cons_iff_of_not (hother i name hname)).mpr (h.fields i name _ _ hname hslot hslot')

/-- An entry of a field fills the slot of the field, which must be empty. -/
theorem fillsAll_cons_iff (hnodup : names.Nodup) {key value : Value} {i : Nat}
    (hlength : slots.length = names.length) (hfield : key.fieldOfKey? names = some (some i)) :
    FillsAll names ((key, value) :: entries) slots slots' ↔
      slots[i]? = some none ∧ FillsAll names entries (slots.set i (some value)) slots' := by
  obtain ⟨name, hname, hkey⟩ := (Value.fieldOfKey?_eq_some_iff hnodup).mp hfield
  -- No other field has this key.
  have hother (j : Nat) (other : String) (hj : names[j]? = some other) (hne : i ≠ j) :
      ¬ key.Names other j := by
    intro hkey'
    have hfield' := (Value.fieldOfKey?_eq_some_iff hnodup).mpr ⟨other, hj, hkey'⟩
    rw [hfield] at hfield'
    exact hne (Option.some.inj (Option.some.inj hfield'))
  have hi : i < slots.length := by
    rw [hlength]
    exact (List.getElem?_eq_some_iff.mp hname).1
  constructor
  · intro h
    have hi' : i < slots'.length := h.length_eq ▸ hi
    obtain ⟨hnone, hfills⟩ := (Fills.cons_iff hkey).mp (h.fields i name _ _ hname
      (List.getElem?_eq_getElem hi) (List.getElem?_eq_getElem hi'))
    refine ⟨by rw [List.getElem?_eq_getElem hi, hnone], ?_, (List.forall_mem_cons.mp h.keys).2, ?_⟩
    · rw [List.length_set, h.length_eq]
    intro j other slot slot' hj hslot hslot'
    by_cases hij : i = j
    · subst hij
      rw [List.getElem?_set_self hi] at hslot
      rw [List.getElem?_eq_getElem hi'] at hslot'
      cases hname.symm.trans hj
      cases hslot
      cases hslot'
      exact hfills
    · rw [List.getElem?_set_ne hij] at hslot
      exact (Fills.cons_iff_of_not (hother j other hj hij)).mp (h.fields j other _ _ hj hslot hslot')
  · rintro ⟨hnone, h⟩
    refine ⟨by rw [h.length_eq, List.length_set], ?_, ?_⟩
    · exact List.forall_mem_cons.mpr ⟨hkey.isKey, h.keys⟩
    intro j other slot slot' hj hslot hslot'
    by_cases hij : i = j
    · subst hij
      cases hname.symm.trans hj
      cases hnone.symm.trans hslot
      refine (Fills.cons_iff hkey).mpr ⟨rfl, ?_⟩
      exact h.fields i name _ _ hname (List.getElem?_set_self hi) hslot'
    · refine (Fills.cons_iff_of_not (hother j other hj hij)).mpr ?_
      exact h.fields j other _ _ hj ((List.getElem?_set_ne hij).trans hslot) hslot'

theorem foldlM_fillSlot?_eq_some_iff (hnodup : names.Nodup)
    (hlength : slots.length = names.length) :
    entries.foldlM (Value.fillSlot? names) slots = some slots' ↔
      FillsAll names entries slots slots' := by
  -- The slots so far are part of the statement: a field that is repeated finds its own taken.
  induction entries generalizing slots with
  | nil =>
      rw [fillsAll_nil_iff hlength]
      exact Option.some_inj
  | cons entry entries ih =>
      obtain ⟨key, value⟩ := entry
      rw [List.foldlM_cons]
      cases hfield : key.fieldOfKey? names with
      | none =>
          have hkey := Value.fieldOfKey?_eq_none_iff.mp hfield
          have hfill : Value.fillSlot? names slots (key, value) = none := by
            simp [Value.fillSlot?, hfield]
          rw [hfill]
          constructor
          · intro h
            cases h
          · intro h
            exact absurd (h.keys _ (.head _)) hkey
      | some field =>
          cases field with
          | none =>
              obtain ⟨hkey, hother⟩ := (Value.fieldOfKey?_eq_other_iff hnodup).mp hfield
              have hfill : Value.fillSlot? names slots (key, value) = some slots := by
                simp [Value.fillSlot?, hfield]
              rw [hfill, fillsAll_cons_iff_of_other hkey hother]
              exact ih hlength
          | some i =>
              rw [fillsAll_cons_iff hnodup hlength hfield]
              by_cases hnone : slots[i]? = some none
              · have hfill : Value.fillSlot? names slots (key, value) =
                    some (slots.set i (some value)) := by
                  simp [Value.fillSlot?, hfield, hnone]
                rw [hfill, and_iff_right hnone]
                exact ih (by rw [List.length_set, hlength])
              · have hfill : Value.fillSlot? names slots (key, value) = none := by
                  simp [Value.fillSlot?, hfield]
                rw [hfill]
                simp [hnone]

end FillSlots

/-! ## Records -/

/-- The slots of so many fields whose values are listed in order, while they last. -/
inductive Listed (count : Nat) (items : List Value) : List (Option Value) → Prop where
  | mk {missing : Nat} (hcount : items.length + missing = count) :
      Listed count items (items.map some ++ List.replicate missing none)

/-- The values that present a record by the slots of its fields. A slot is empty where the
value leaves the field out. -/
inductive Value.Presents (names : List String) : Value → List (Option Value) → Prop where
  | map {entries : List (Value × Value)} {slots : List (Option Value)}
      (h : FillsAll names entries (names.map fun _ => none) slots) : Presents names (.map entries) slots
  | array {items : List Value} {slots : List (Option Value)} (h : Listed names.length items slots) :
      Presents names (.array items) slots
  | binary {bytes : List UInt8} {slots : List (Option Value)}
      (h : Listed names.length (ofBytes (bytes.take names.length)) slots) :
      Presents names (.binary bytes) slots

theorem listed_iff {count : Nat} {items : List Value} {slots : List (Option Value)} :
    Listed count items slots ↔ items.length ≤ count ∧ Value.slotsOfList count items = slots := by
  constructor
  · intro h
    cases h with
    | @mk missing hcount =>
        have hmissing : count - items.length = missing := by omega
        exact ⟨by omega, by rw [Value.slotsOfList, hmissing]⟩
  · rintro ⟨hle, rfl⟩
    exact .mk (by omega)

/-- The slots of a record are those that the value presents. -/
theorem Value.toRecord?_eq_some_iff {names : List String} (hnodup : names.Nodup) {value : Value}
    {slots : List (Option Value)} :
    value.toRecord? names = some slots ↔ value.Presents names slots := by
  constructor
  · intro h
    unfold toRecord? at h
    split at h
    · exact .map ((foldlM_fillSlot?_eq_some_iff hnodup (List.length_map _)).mp h)
    · split at h
      · case isTrue hle => exact .array (listed_iff.mpr ⟨hle, Option.some.inj h⟩)
      · cases h
    · refine .binary (listed_iff.mpr ⟨?_, Option.some.inj h⟩)
      rw [ofBytes, List.length_map]
      exact List.length_take_le ..
    · cases h
  · intro h
    cases h with
    | map h => exact (foldlM_fillSlot?_eq_some_iff hnodup (List.length_map _)).mpr h
    | array h =>
        obtain ⟨hle, rfl⟩ := listed_iff.mp h
        exact if_pos hle
    | binary h =>
        obtain ⟨-, rfl⟩ := listed_iff.mp h
        rfl

theorem Value.bind_toRecord?_eq_some_iff {β : Type} {names : List String} (hnodup : names.Nodup)
    {value : Value} {read : List (Option Value) → Option β} {b : β} :
    (value.toRecord? names).bind read = some b ↔
      ∃ slots, value.Presents names slots ∧ read slots = some b := by
  simp only [Option.bind_eq_some_iff, toRecord?_eq_some_iff hnodup]

theorem Value.fits_of_mem_ofBytes {bytes : List UInt8} {value : Value} (h : value ∈ ofBytes bytes) :
    value.Fits := by
  obtain ⟨byte, -, rfl⟩ := List.mem_map.mp h
  exact Nat.lt_trans byte.toNat_lt (by decide)

theorem Listed.mem {count : Nat} {items : List Value} {slots : List (Option Value)} {value : Value}
    (h : Listed count items slots) (hvalue : some value ∈ slots) : value ∈ items := by
  cases h with
  | mk => simpa using hvalue

/-- The values in the slots of a record are as small as the record. -/
theorem Value.Presents.fits_of_mem {names : List String} {record value : Value}
    {slots : List (Option Value)} (h : record.Presents names slots) (hfits : record.Fits)
    (hvalue : some value ∈ slots) : value.Fits := by
  cases h with
  | map h =>
      obtain ⟨i, hi, hslot⟩ := List.mem_iff_getElem.mp hvalue
      have hi' : i < names.length := by simpa [h.length_eq] using hi
      have hfills := h.fields i names[i] none (some value) (List.getElem?_eq_getElem hi')
        (by simp [hi']) (by rw [List.getElem?_eq_getElem hi, hslot])
      obtain ⟨key, hentry⟩ := hfills.exists_mem
      exact (fitEntries_iff_forall_mem.mp hfits.2 _ hentry).2
  | array h => exact fitAll_iff_forall_mem.mp hfits.2 _ (h.mem hvalue)
  | binary h => exact fits_of_mem_ofBytes (h.mem hvalue)

theorem Value.ofRecord_eq_map (fields : List (String × Value)) :
    ofRecord fields = .map (fields.map fun field => (Packed.toValue field.1, field.2)) := rfl

/-- A record is written as a map that presents its fields. -/
theorem presents_ofRecord (names : List String) (values : List Value) (hnodup : names.Nodup)
    (hlength : names.length = values.length) :
    (Value.ofRecord (names.zip values)).Presents names (values.map some) := by
  have hkeys : ∀ entry ∈ (names.zip values).map fun field => (Packed.toValue field.1, field.2),
      entry.1.IsKey := by
    intro entry hentry
    obtain ⟨field, -, rfl⟩ := List.mem_map.mp hentry
    exact .text _
  rw [Value.ofRecord_eq_map]
  refine .map ⟨by simp [hlength], hkeys, fun i name slot slot' hname hslot hslot' => ?_⟩
  rw [List.getElem?_map, hname] at hslot
  cases hslot
  rw [List.getElem?_map] at hslot'
  obtain ⟨value, hvalue, rfl⟩ := Option.map_eq_some_iff.mp hslot'
  have hfield : (names.zip values)[i]? = some (name, value) :=
    List.getElem?_zip_eq_some.mpr ⟨hname, hvalue⟩
  obtain ⟨before, after, hfields⟩ := List.append_of_mem (List.mem_of_getElem? hfield)
  -- No other field has the name.
  rw [← List.map_fst_zip (Nat.le_of_eq hlength), hfields, List.map_append, List.map_cons] at hnodup
  have hnotin := (List.nodup_cons.mp (List.nodup_middle.mp hnodup)).1
  rw [hfields]
  refine .once (List.map_append ..) .text fun entry hentry hsame => hnotin ?_
  rw [← List.map_append] at hentry ⊢
  obtain ⟨⟨other, value'⟩, hother, rfl⟩ := List.mem_map.mp hentry
  obtain rfl := Value.eq_of_names_text hsame
  exact List.mem_map.mpr ⟨_, hother, rfl⟩

end GatewayClient.MessagePack
