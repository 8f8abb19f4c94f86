import Mathlib.Data.List.Forall2
import GatewayClient.Proofs.MessagePack.Records
/-!
# Forms of typed data

Which values stand for a number, a text, a list. The reading of a type has a form if it finds
exactly the values of the form (`Packed.Reads`), and so has the field of a record, whether it
must be there or not.
-/

namespace GatewayClient.MessagePack

open Packed

variable {α : Type} [Packed α] {form : α → Value → Prop}

/-- Of the values that can be written, exactly those of a form stand for an `α`. -/
def Packed.Reads (form : α → Value → Prop) : Prop :=
  ∀ {value : Value} {a : α}, value.Fits → (ofValue? value = some a ↔ form a value)

/-! ## Numbers, flags and texts -/

/-- Any integer form of a number. -/
inductive NumberForm (n : UInt64) : Value → Prop where
  | unsigned : NumberForm n (.unsigned n.toNat)
  | signed : NumberForm n (.signed n.toNat)

inductive FlagForm (b : Bool) : Value → Prop where
  | bool : FlagForm b (.bool b)

/-- Text, or binary data with the same bytes. -/
inductive TextForm (text : String) : Value → Prop where
  | text : TextForm text (.text (Utf8.encode text))
  | binary : TextForm text (.binary (Utf8.encode text))

theorem reads_number : Reads NumberForm := by
  intro value n hfits
  constructor
  · intro h
    cases value with
    | unsigned m =>
        cases h
        have hform := NumberForm.unsigned (n := UInt64.ofNat m)
        rwa [UInt64.toNat_ofNat_of_lt' hfits] at hform
    | signed i =>
        cases i with
        | ofNat m =>
            cases h
            have hlt : m < unsignedLimit := by
              have hhigh : 2 * (m : Int) < unsignedLimit := hfits.2
              omega
            have hform := NumberForm.signed (n := UInt64.ofNat m)
            rwa [UInt64.toNat_ofNat_of_lt' hlt] at hform
        | negSucc m => cases h
    | _ => cases h
  · intro h
    cases h with
    | unsigned => exact congrArg some (UInt64.ofNat_toNat)
    | signed => exact congrArg some (UInt64.ofNat_toNat)

theorem reads_flag : Reads FlagForm := by
  intro value b _
  constructor
  · intro h
    cases value with
    | bool => cases h; exact .bool
    | _ => cases h
  · rintro ⟨⟩
    rfl

theorem reads_text : Reads TextForm := by
  intro value text _
  constructor
  · intro h
    cases value with
    | text bytes => rw [Utf8.decode?_eq_some_iff.mp h]; exact .text
    | binary bytes => rw [Utf8.decode?_eq_some_iff.mp h]; exact .binary
    | _ => cases h
  · intro h
    cases h with
    | text | binary => exact Utf8.decode?_encode text

/-! ## Options and lists -/

/-- Nil, or a form of what is there. -/
inductive OptionForm (form : α → Value → Prop) : Option α → Value → Prop where
  | none : OptionForm form none .nil
  | some {a : α} {value : Value} (h : form a value) : OptionForm form (some a) value

/-- A list of forms, or binary data whose bytes are such a list. -/
inductive ListForm (form : α → Value → Prop) (as : List α) : Value → Prop where
  | array {items : List Value} (h : List.Forall₂ form as items) : ListForm form as (.array items)
  | binary {bytes : List UInt8} (h : List.Forall₂ form as (Value.ofBytes bytes)) :
      ListForm form as (.binary bytes)

theorem Packed.Reads.option (h : Reads form) (hnil : ∀ a, ¬ form a .nil) :
    Reads (OptionForm form) := by
  intro value a hfits
  -- Nil is read before any form of what may be there is tried.
  by_cases hvalue : value = .nil
  · subst hvalue
    constructor
    · rintro ⟨⟩
      exact .none
    · intro hform
      cases hform with
      | none => rfl
      | some hform => exact absurd hform (hnil _)
  · have hread : ofValue? (α := Option α) value = (ofValue? value).map some := by
      cases value with
      | nil => exact absurd rfl hvalue
      | _ => rfl
    rw [hread, Option.map_eq_some_iff]
    constructor
    · rintro ⟨b, hb, rfl⟩
      exact .some ((h hfits).mp hb)
    · intro hform
      cases hform with
      | none => exact absurd rfl hvalue
      | some hform => exact ⟨_, (h hfits).mpr hform, rfl⟩

theorem Packed.Reads.mapM (h : Reads form) {items : List Value} {as : List α}
    (hfits : ∀ item ∈ items, item.Fits) :
    items.mapM ofValue? = some as ↔ List.Forall₂ form as items := by
  induction items generalizing as with
  | nil => simp [eq_comm]
  | cons item items ih =>
      obtain ⟨hitem, hitems⟩ := List.forall_mem_cons.mp hfits
      rw [List.mapM_cons, List.forall₂_cons_right_iff]
      constructor
      · intro hread
        obtain ⟨a, ha, hread⟩ := Option.bind_eq_some_iff.mp hread
        obtain ⟨others, hothers, hread⟩ := Option.bind_eq_some_iff.mp hread
        cases hread
        exact ⟨a, others, (h hitem).mp ha, (ih hitems).mp hothers, rfl⟩
      · rintro ⟨a, others, ha, hothers, rfl⟩
        simp [(h hitem).mpr ha, (ih hitems).mpr hothers]

theorem Packed.Reads.list (h : Reads form) : Reads (ListForm form) := by
  intro value as hfits
  constructor
  · intro hread
    cases value with
    | array items => exact .array ((h.mapM (fitAll_iff_forall_mem.mp hfits.2)).mp hread)
    | binary bytes => exact .binary ((h.mapM fun _ => Value.fits_of_mem_ofBytes).mp hread)
    | _ => cases hread
  · intro hform
    cases hform with
    | array hitems => exact (h.mapM (fitAll_iff_forall_mem.mp hfits.2)).mpr hitems
    | binary hitems => exact (h.mapM fun _ => Value.fits_of_mem_ofBytes).mpr hitems

/-! ## Fields -/

/-- A slot that must be filled. -/
inductive Required (form : α → Value → Prop) (a : α) : Option Value → Prop where
  | given {value : Value} (h : form a value) : Required form a (some value)

/-- A slot that stands for `missing` where it is empty. -/
inductive OrElse (missing : α) (form : α → Value → Prop) : α → Option Value → Prop where
  | missing : OrElse missing form missing none
  | given {a : α} {value : Value} (h : form a value) : OrElse missing form a (some value)

namespace Value.Presents

variable {names : List String} {value : Value} {slots : List (Option Value)} {slot : Option Value}
  {a missing : α}

theorem required?_eq_some_iff (h : value.Presents names slots) (hfits : value.Fits)
    (hslot : slot ∈ slots) (hreads : Reads form) :
    required? slot = some a ↔ Required form a slot := by
  constructor
  · intro hread
    obtain ⟨v, rfl, hv⟩ := Option.bind_eq_some_iff.mp hread
    exact .given ((hreads (h.fits_of_mem hfits hslot)).mp hv)
  · rintro ⟨hform⟩
    exact (hreads (h.fits_of_mem hfits hslot)).mpr hform

theorem orElse?_eq_some_iff (h : value.Presents names slots) (hfits : value.Fits)
    (hslot : slot ∈ slots) (hreads : Reads form) :
    orElse? missing slot = some a ↔ OrElse missing form a slot := by
  constructor
  · intro hread
    cases slot with
    | none =>
        cases hread
        exact .missing
    | some v => exact .given ((hreads (h.fits_of_mem hfits hslot)).mp hread)
  · intro hform
    cases hform with
    | missing => rfl
    | given hform => exact (hreads (h.fits_of_mem hfits hslot)).mpr hform

end Value.Presents

end GatewayClient.MessagePack
