import GatewayClient.Proofs.Payload.RoundTrip
/-!
# Frames of any data

A frame carries more than payloads. Under any id, texts, numbers, flags, lists and dictionaries of
them are found again at the front of its body, whatever follows. What is left of a frame without
its id is its body.

Main statement: `Frame.carries_all_data`.
-/

namespace GatewayClient

open MessagePack
open MessagePack.Packed

/-! ## Data that is read back -/

namespace MessagePack

variable {α : Type} [Packed α] {levels : Nat}

/-- Data that has a rendering with so many levels at most, and is read back from its value. -/
structure Packed.Restores (levels : Nat) (a : α) : Prop where
  renderable : (toValue a).Renderable levels
  ofValue?_toValue : ofValue? (toValue a) = some a

theorem restores_number (n : UInt64) : Restores levels n where
  renderable := renderable_number n
  ofValue?_toValue := congrArg some UInt64.ofNat_toNat

theorem restores_flag (b : Bool) : Restores levels b where
  renderable := renderable_flag b
  ofValue?_toValue := rfl

theorem restores_text {text : String} (h : FitsText text) : Restores levels text where
  renderable := renderable_text h
  ofValue?_toValue := Utf8.decode?_encode text

/-- Nil stands for nothing, so that what is there must not be written as nil. -/
theorem restores_option {a : Option α} (h : ∀ b ∈ a, Restores levels b)
    (hnil : ∀ b ∈ a, toValue b ≠ .nil) : Restores levels a where
  renderable := renderable_option fun b hb => (h b hb).renderable
  ofValue?_toValue := by
    cases a with
    | none => rfl
    | some b =>
        have hread : ofValue? (α := Option α) (toValue b) = (ofValue? (toValue b)).map some := by
          have hne := hnil b rfl
          generalize toValue b = value at hne
          cases value with
          | nil => exact absurd rfl hne
          | _ => rfl
        exact hread.trans (by rw [(h b rfl).ofValue?_toValue, Option.map_some])

theorem restores_list {as : List α} (hlength : as.length < lengthLimit)
    (h : ∀ a ∈ as, Restores levels a) : Restores (levels + 1) as where
  renderable := renderable_list hlength fun a ha => (h a ha).renderable
  ofValue?_toValue := mapM_map_eq_some fun a ha => (h a ha).ofValue?_toValue

theorem restores_dictionary {table : Dictionary α} (hcount : table.entries.length < lengthLimit)
    (hkeys : ∀ entry ∈ table.entries, FitsText entry.1)
    (h : ∀ entry ∈ table.entries, Restores levels entry.2) : Restores (levels + 1) table where
  renderable := by
    refine renderable_map (by rwa [List.length_map]) fun item hitem => ?_
    obtain ⟨entry, hentry, rfl⟩ := List.mem_map.mp hitem
    exact ⟨renderable_text (hkeys entry hentry), (h entry hentry).renderable⟩
  ofValue?_toValue := by
    -- The entries are in order, so that none of them takes the place of another.
    refine Option.bind_eq_some_iff.mpr ⟨table.entries, mapM_map_eq_some fun entry hentry => ?_,
      congrArg some table.ofList_entries⟩
    have hkey : ofValue? (toValue entry.1) = some entry.1 := Utf8.decode?_encode entry.1
    simp [hkey, (h entry hentry).ofValue?_toValue]

end MessagePack

/-! ## Frames -/

namespace Frame

variable {α : Type} [Packed α]

/-- Under any id and whatever follows, data is found again in the frame that carries it. -/
def Carries (a : α) : Prop :=
  ∀ (id : UInt16) (rest : List UInt8), ∃ frame : Frame,
    parse ((ofValue id (toValue a)).encode ++ rest) = .ok frame ∧ frame.id = id ∧
      frame.readBody (ofValue? (α := α)) = .ok a

theorem parse_encode_append (frame : Frame) (rest : List UInt8) :
    parse (frame.encode ++ rest) = .ok ⟨frame.id, frame.body ++ rest⟩ := by
  rw [encode, List.append_assoc]
  exact parse_encode ⟨frame.id, frame.body ++ rest⟩

theorem carries_of_restores {a : α} (h : Restores nestingLimit a) : Carries a := by
  intro id rest
  refine ⟨_, parse_encode_append .., rfl, ?_⟩
  have hread := Value.read_encode_append h.renderable.1 h.renderable.2 rest
  simp [readBody, ofValue, hread, h.ofValue?_toValue]

/-- Texts, numbers, flags, and texts and numbers in options, lists and dictionaries are found again
in frames with any id, if their lengths have at most 32 bits. Bytes that are enough for an id are
that id and the body. -/
theorem carries_all_data :
    (∀ text : String, FitsText text → Carries text) ∧
      (∀ n : UInt64, Carries n) ∧
      (∀ b : Bool, Carries b) ∧
      (∀ text : Option String, (∀ present ∈ text, FitsText present) → Carries text) ∧
      (∀ texts : List String, texts.length < lengthLimit → (∀ text ∈ texts, FitsText text) →
        Carries texts) ∧
      (∀ table : Dictionary UInt64, table.entries.length < lengthLimit →
        (∀ entry ∈ table.entries, FitsText entry.1) → Carries table) ∧
      ∀ bytes : List UInt8, 2 ≤ bytes.length → ∃ frame : Frame, parse bytes = .ok frame ∧
        Bytes.bigEndian 2 frame.id.toNat ++ frame.body = bytes := by
  refine ⟨?text, ?number, ?flag, ?option, ?list, ?dictionary, ?bytes⟩
  case text => exact fun text h => carries_of_restores (restores_text h)
  case number => exact fun n => carries_of_restores (restores_number n)
  case flag => exact fun b => carries_of_restores (restores_flag b)
  case option =>
    exact fun text h => carries_of_restores
      (restores_option (fun present hpresent => restores_text (h present hpresent)) nofun)
  case list =>
    exact fun texts hlength h => carries_of_restores
      (restores_list hlength fun text htext => restores_text (h text htext))
  case dictionary =>
    exact fun table hcount hkeys => carries_of_restores
      (restores_dictionary hcount hkeys fun entry _ => restores_number entry.2)
  case bytes =>
    intro bytes hlength
    obtain ⟨frame, rfl⟩ := exists_encode_eq hlength
    exact ⟨frame, parse_encode frame, rfl⟩

/-- A text that is one byte too long for the shortest form, alone and in a list, and a dictionary
with an empty key and the greatest number. -/
theorem carries_long_text_and_table :
    let text := "guild-host-012345678.example.org"
    let table : Dictionary UInt64 := .ofList [("é", 128), ("", 0xffffffffffffffff), ("é", 7)]
    FitsText text ∧ Carries text ∧ Carries (some text) ∧ Carries [text, ""] ∧
      table.entries = [("", 0xffffffffffffffff), ("é", 7)] ∧ Carries table ∧
      ∃ frame, parse [0xff, 0xfe] = .ok frame ∧
        Bytes.bigEndian 2 frame.id.toNat ++ frame.body = [0xff, 0xfe] := by
  intro text table
  obtain ⟨htext, -, -, hoption, hlist, htable, hbytes⟩ := carries_all_data
  have hfits : FitsText text := by
    show (Utf8.encode text).length < lengthLimit
    decide
  have hempty : FitsText "" := by
    show (Utf8.encode "").length < lengthLimit
    decide
  have hentries : table.entries = [("", 0xffffffffffffffff), ("é", 7)] := by decide
  have hkeys : ∀ entry ∈ table.entries, FitsText entry.1 := by
    rw [hentries]
    show ∀ entry ∈ [("", (0xffffffffffffffff : UInt64)), ("é", 7)],
      (Utf8.encode entry.1).length < lengthLimit
    decide
  refine ⟨hfits, htext text hfits, hoption (some text) ?_, hlist [text, ""] (by decide) ?_,
    hentries, htable table (by decide) hkeys, hbytes [0xff, 0xfe] (by decide)⟩
  · rintro _ ⟨⟩
    exact hfits
  · exact List.forall_mem_cons.mpr ⟨hfits, List.forall_mem_singleton.mpr hempty⟩

end Frame

end GatewayClient
