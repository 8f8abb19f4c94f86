import GatewayClient.Proofs.Payload.Body
/-!
# Payloads by their wire format

Which bytes are a payload (`Payload.Renders`), and what is wrong with all others. Main
statement: `Payload.decode_by_wire_format`.
-/

namespace GatewayClient

open MessagePack

/-! ## Frames -/

theorem Frame.parse_of_short {bytes : List UInt8} (h : bytes.length < 2) :
    Frame.parse bytes = .error (.truncated bytes.length) := by
  have htake : Bytes.take? 2 bytes = none := if_neg (by omega)
  simp [Frame.parse, Frame.decode?, Bytes.number?, htake]

@[simp] theorem Frame.parse_encode (frame : Frame) : Frame.parse frame.encode = .ok frame := by
  simp [Frame.parse]

/-- Two bytes are enough for a frame. -/
theorem Frame.exists_encode_eq {bytes : List UInt8} (h : 2 ≤ bytes.length) :
    ∃ frame : Frame, bytes = frame.encode := by
  have hlength : (bytes.take 2).length = 2 := by simp [h]
  have hlt := Bytes.number_lt (bytes.take 2)
  have hdigits := Bytes.bigEndian_number (bytes.take 2)
  rw [hlength] at hlt hdigits
  refine ⟨⟨UInt16.ofNat (Bytes.number (bytes.take 2)), bytes.drop 2⟩, ?_⟩
  rw [Frame.encode, UInt16.toNat_ofNat_of_lt' hlt, hdigits, List.take_append_drop]

namespace Payload

/-! ## Kinds -/

theorem Kind.id_le (kind : Kind) : kind.id ≤ 5 := by
  cases kind <;> decide

theorem Kind.exists_id_eq {id : UInt16} (h : id ≤ 5) : ∃ kind : Kind, kind.id = id := by
  have hid (n : Nat) (hn : n ≤ 5) : ∃ kind : Kind, kind.id.toNat = n := by
    match n, hn with
    | 0, _ => exact ⟨.hello, rfl⟩
    | 1, _ => exact ⟨.accepted, rfl⟩
    | 2, _ => exact ⟨.heartbeat, rfl⟩
    | 3, _ => exact ⟨.joinGuild, rfl⟩
    | 4, _ => exact ⟨.ready, rfl⟩
    | 5, _ => exact ⟨.guildUpdate, rfl⟩
  obtain ⟨kind, hkind⟩ := hid id.toNat (UInt16.le_iff_toNat_le.mp h)
  exact ⟨kind, UInt16.toNat_inj.mp hkind⟩

theorem Kind.parse_of_lt {id : UInt16} (h : 5 < id) : Kind.parse id = .error (.unknownId id) := by
  have hnone : ofId? id = none := by
    refine List.find?_eq_none.mpr fun kind _ hkind => ?_
    have hle := kind.id_le
    rw [beq_iff_eq.mp hkind] at hle
    exact UInt16.not_le.mpr h hle
  simp [Kind.parse, hnone]

/-! ## Decoding -/

/-- The bytes of a payload: its id, a rendering of its body, and anything after it. -/
def Renders (payload : Payload) (bytes : List UInt8) : Prop :=
  ∃ value body rest, bytes = Bytes.bigEndian 2 payload.kind.id.toNat ++ (body ++ rest) ∧
    value.Within nestingLimit body ∧ payload.IsBody value

/-- How bytes begin: too early an end, an id of no kind, or the id of a kind. -/
inductive Beginning : List UInt8 → Prop where
  | short {bytes : List UInt8} (h : bytes.length < 2) : Beginning bytes
  | unknown {id : UInt16} (h : 5 < id) (rest : List UInt8) : Beginning (Frame.encode ⟨id, rest⟩)
  | known (kind : Kind) (rest : List UInt8) : Beginning (Frame.encode ⟨kind.id, rest⟩)

theorem beginning (bytes : List UInt8) : Beginning bytes := by
  by_cases hshort : bytes.length < 2
  · exact .short hshort
  · obtain ⟨⟨id, body⟩, rfl⟩ := Frame.exists_encode_eq (Nat.le_of_not_lt hshort)
    by_cases hid : 5 < id
    · exact .unknown hid body
    · obtain ⟨kind, rfl⟩ := Kind.exists_id_eq (UInt16.not_lt.mp hid)
      exact .known kind body

variable {bytes rest : List UInt8} {payload : Payload} {kind : Kind} {id : UInt16}

theorem decode_of_short (h : bytes.length < 2) :
    decode bytes = .error (.truncated bytes.length) := by
  simp [decode, Frame.parse_of_short h, bind, Except.bind]

theorem decode_of_unknown (h : 5 < id) :
    decode (Frame.encode ⟨id, rest⟩) = .error (.unknownId id) := by
  simp [decode, Kind.parse_of_lt h, bind, Except.bind]

theorem decode_of_known (kind : Kind) (rest : List UInt8) :
    decode (Frame.encode ⟨kind.id, rest⟩) = Frame.readBody ⟨kind.id, rest⟩ (ofValue? kind) := by
  simp [decode, Kind.parse, bind, Except.bind]

/-- Under the id of a kind only the body can be wrong. -/
theorem decode_of_known_cases (kind : Kind) (rest : List UInt8) :
    (∃ payload, decode (Frame.encode ⟨kind.id, rest⟩) = .ok payload) ∨
      decode (Frame.encode ⟨kind.id, rest⟩) = .error .malformedBody := by
  rw [decode_of_known, Frame.readBody]
  split
  · case h_1 payload _ => exact .inl ⟨payload, rfl⟩
  · exact .inr rfl

/-- A body is read if a rendering of one is at its front. -/
theorem read_bind_ofValue?_eq_some_iff :
    ((Value.read rest).bind fun (value, _) => ofValue? kind value) = some payload ↔
      payload.kind = kind ∧ payload.Renders (Frame.encode ⟨kind.id, rest⟩) := by
  constructor
  · intro h
    obtain ⟨⟨value, last⟩, hread, hvalue⟩ := Option.bind_eq_some_iff.mp h
    obtain ⟨body, rfl, hwithin⟩ := (Value.read_recognizes _ _ _).mp hread
    have hfits := Value.fits_iff_exists_encodes.mpr ⟨body, hwithin.1⟩
    obtain ⟨rfl, hbody⟩ := (ofValue?_eq_some_iff hfits).mp hvalue
    exact ⟨rfl, value, body, last, rfl, hwithin, hbody⟩
  · rintro ⟨rfl, value, body, last, hbytes, hwithin, hbody⟩
    obtain rfl : rest = body ++ last := List.append_cancel_left hbytes
    rw [Value.read_recognizes.read_append hwithin, Option.bind_some]
    have hfits := Value.fits_iff_exists_encodes.mpr ⟨body, hwithin.1⟩
    exact (ofValue?_eq_some_iff hfits).mpr ⟨rfl, hbody⟩

theorem decode_eq_ok_iff : decode bytes = .ok payload ↔ payload.Renders bytes := by
  constructor
  · intro h
    cases beginning bytes with
    | short hshort =>
        rw [decode_of_short hshort] at h
        cases h
    | unknown hid rest =>
        rw [decode_of_unknown hid] at h
        cases h
    | known kind rest =>
        rw [decode_of_known, Frame.readBody] at h
        split at h
        · case h_1 hread =>
          cases h
          exact (read_bind_ofValue?_eq_some_iff.mp hread).2
        · cases h
  · intro h
    -- The rendering fixes the id, and with it the kind that the body is read as.
    obtain ⟨value, body, rest, rfl, hbody⟩ := id h
    have hread := read_bind_ofValue?_eq_some_iff.mpr ⟨rfl, h⟩
    have hdecode := decode_of_known payload.kind (body ++ rest)
    rw [Frame.readBody, hread] at hdecode
    exact hdecode

theorem decode_eq_truncated_iff {length : Nat} :
    decode bytes = .error (.truncated length) ↔ bytes.length < 2 ∧ length = bytes.length := by
  constructor
  · intro h
    cases beginning bytes with
    | short hshort =>
        rw [decode_of_short hshort] at h
        cases h
        exact ⟨hshort, rfl⟩
    | unknown hid rest =>
        rw [decode_of_unknown hid] at h
        cases h
    | known kind rest =>
        rcases decode_of_known_cases kind rest with ⟨payload, hdecode⟩ | hdecode
        all_goals cases hdecode.symm.trans h
  · rintro ⟨hshort, rfl⟩
    exact decode_of_short hshort

theorem decode_eq_unknownId_iff :
    decode bytes = .error (.unknownId id) ↔
      5 < id ∧ ∃ rest, bytes = Bytes.bigEndian 2 id.toNat ++ rest := by
  constructor
  · intro h
    cases beginning bytes with
    | short hshort =>
        rw [decode_of_short hshort] at h
        cases h
    | unknown hid rest =>
        rw [decode_of_unknown hid] at h
        cases h
        exact ⟨hid, rest, rfl⟩
    | known kind rest =>
        rcases decode_of_known_cases kind rest with ⟨payload, hdecode⟩ | hdecode
        all_goals cases hdecode.symm.trans h
  · rintro ⟨hid, rest, rfl⟩
    exact decode_of_unknown hid

theorem decode_eq_malformedBody_iff :
    decode bytes = .error .malformedBody ↔
      (∃ (kind : Kind) (rest : List UInt8), bytes = Bytes.bigEndian 2 kind.id.toNat ++ rest) ∧
        ∀ payload : Payload, ¬ payload.Renders bytes := by
  constructor
  · intro h
    refine ⟨?_, fun payload hrenders => ?_⟩
    · cases beginning bytes with
      | short hshort =>
          rw [decode_of_short hshort] at h
          cases h
      | unknown hid rest =>
          rw [decode_of_unknown hid] at h
          cases h
      | known kind rest => exact ⟨kind, rest, rfl⟩
    · cases (decode_eq_ok_iff.mpr hrenders).symm.trans h
  · rintro ⟨⟨kind, rest, rfl⟩, hnone⟩
    rcases decode_of_known_cases kind rest with ⟨payload, hdecode⟩ | hdecode
    · exact absurd (decode_eq_ok_iff.mp hdecode) (hnone payload)
    · exact hdecode

/-- Bytes are decoded exactly by the wire format, and each error says what is wrong with
bytes of no payload. -/
theorem decode_by_wire_format (bytes : List UInt8) :
    (∀ payload, decode bytes = .ok payload ↔ payload.Renders bytes) ∧
      (∀ length, decode bytes = .error (.truncated length) ↔
        bytes.length < 2 ∧ length = bytes.length) ∧
      (∀ id, decode bytes = .error (.unknownId id) ↔
        5 < id ∧ ∃ rest, bytes = Bytes.bigEndian 2 id.toNat ++ rest) ∧
      (decode bytes = .error .malformedBody ↔
        (∃ (kind : Kind) (rest : List UInt8), bytes = Bytes.bigEndian 2 kind.id.toNat ++ rest) ∧
          ∀ payload : Payload, ¬ payload.Renders bytes) :=
  ⟨fun _ => decode_eq_ok_iff, fun _ => decode_eq_truncated_iff, fun _ => decode_eq_unknownId_iff,
    decode_eq_malformedBody_iff⟩

/-- Binary data is the body of a payload, though it starts with no map and no array. -/
theorem decode_binary_body :
    decode [0, 1, 0xc4, 1, 0x80] = .ok (.accepted 128) ∧
      ¬ ∃ (value : Value) (body rest : List UInt8), [0xc4, 1, 0x80] = body ++ rest ∧
        value.Encodes body ∧ ((∃ entries, value = .map entries) ∨ ∃ items, value = .array items) := by
  refine ⟨by decide +kernel, ?_⟩
  rintro ⟨value, body, rest, hbytes, hencodes, hvalue⟩
  have hbinary : (Value.binary [0x80]).Encodes [0xc4, 1, 0x80] :=
    Value.encodes_encode (.binary [0x80]) (by decide : [0x80].length < lengthLimit)
  obtain ⟨rfl, -⟩ := hbinary.eq_of_append_eq hencodes ((List.append_nil _).trans hbytes)
  rcases hvalue with ⟨entries, hmap⟩ | ⟨items, harray⟩
  · cases hmap
  · cases harray

end Payload

end GatewayClient
