import GatewayClient.Proofs.Payload.Decoding
/-!
# Payloads there and back

A payload whose texts and lists are not too long for their headers is found again in its
bytes, whatever follows them (`Payload.decode_encode_append`). Where its bytes break off, there is
no payload at all (`Payload.decode_of_cut`).
-/

namespace GatewayClient

open MessagePack
open MessagePack.Packed

/-! ## Values with a rendering of bounded depth -/

namespace MessagePack

/-- A value that has a rendering and is nested at most so deep. -/
def Value.Renderable (levels : Nat) (value : Value) : Prop := value.Fits ∧ value.depth ≤ levels

variable {α : Type} [Packed α] {levels : Nat}

theorem renderable_number (n : UInt64) : (toValue n).Renderable levels :=
  ⟨n.toNat_lt, Nat.zero_le _⟩

theorem renderable_flag (b : Bool) : (toValue b).Renderable levels :=
  ⟨trivial, Nat.zero_le _⟩

theorem renderable_text {text : String} (h : (Utf8.encode text).length < lengthLimit) :
    (toValue text).Renderable levels :=
  ⟨h, Nat.zero_le _⟩

theorem renderable_option {a : Option α} (h : ∀ b ∈ a, (toValue b).Renderable levels) :
    (toValue a).Renderable levels := by
  cases a with
  | none => exact ⟨trivial, Nat.zero_le _⟩
  | some b => exact h b rfl

theorem depthAll_le_of_forall_mem {items : List Value} (h : ∀ item ∈ items, item.depth ≤ levels) :
    depthAll items ≤ levels := by
  induction items with
  | nil => exact Nat.zero_le _
  | cons item items ih =>
      obtain ⟨hitem, hitems⟩ := List.forall_mem_cons.mp h
      exact Nat.max_le.mpr ⟨hitem, ih hitems⟩

theorem depthEntries_le_of_forall_mem {entries : List (Value × Value)}
    (h : ∀ entry ∈ entries, entry.1.depth ≤ levels ∧ entry.2.depth ≤ levels) :
    depthEntries entries ≤ levels := by
  induction entries with
  | nil => exact Nat.zero_le _
  | cons entry entries ih =>
      obtain ⟨hentry, hentries⟩ := List.forall_mem_cons.mp h
      exact Nat.max_le.mpr ⟨Nat.max_le.mpr hentry, ih hentries⟩

theorem renderable_list {as : List α} (hlength : as.length < lengthLimit)
    (h : ∀ a ∈ as, (toValue a).Renderable levels) : (toValue as).Renderable (levels + 1) := by
  have hitems : ∀ item ∈ as.map toValue, item.Renderable levels := by
    intro item hitem
    obtain ⟨a, ha, rfl⟩ := List.mem_map.mp hitem
    exact h a ha
  refine ⟨⟨by rwa [List.length_map], fitAll_iff_forall_mem.mpr fun item hitem => ?_⟩, ?_⟩
  · exact (hitems item hitem).1
  · exact Nat.succ_le_succ (depthAll_le_of_forall_mem fun item hitem => (hitems item hitem).2)

theorem renderable_map {entries : List (Value × Value)} (hcount : entries.length < lengthLimit)
    (h : ∀ entry ∈ entries, entry.1.Renderable levels ∧ entry.2.Renderable levels) :
    (Value.map entries).Renderable (levels + 1) := by
  refine ⟨⟨hcount, fitEntries_iff_forall_mem.mpr fun entry hentry => ?_⟩, ?_⟩
  · exact ⟨(h entry hentry).1.1, (h entry hentry).2.1⟩
  · refine Nat.succ_le_succ (depthEntries_le_of_forall_mem fun entry hentry => ?_)
    exact ⟨(h entry hentry).1.2, (h entry hentry).2.2⟩

theorem renderable_ofRecord (names : List String) (values : List Value)
    (hcount : names.length < lengthLimit)
    (hnames : ∀ name ∈ names, (Utf8.encode name).length < lengthLimit)
    (hvalues : ∀ value ∈ values, value.Renderable levels) :
    (Value.ofRecord (names.zip values)).Renderable (levels + 1) := by
  rw [Value.ofRecord_eq_map]
  refine renderable_map ?_ fun entry hentry => ?_
  · rw [List.length_map, List.length_zip]
    exact Nat.lt_of_le_of_lt (Nat.min_le_left ..) hcount
  · obtain ⟨field, hfield, rfl⟩ := List.mem_map.mp hentry
    obtain ⟨hname, hvalue⟩ := List.of_mem_zip hfield
    exact ⟨renderable_text (hnames _ hname), hvalues _ hvalue⟩

end MessagePack

/-! ## Payloads that can be written -/

/-- A text is written with a length of at most 32 bits. -/
def FitsText (text : String) : Prop := (Utf8.encode text).length < lengthLimit

def FitsGuilds (guilds : List Guild) : Prop :=
  guilds.length < lengthLimit ∧ ∀ guild ∈ guilds, FitsText guild.hostname

/-- The payloads whose texts and lists have lengths of at most 32 bits. -/
def Payload.Fits : Payload → Prop
  | .hello token _ => ∀ text ∈ token, FitsText text
  | .accepted _ => True
  | .heartbeat id => FitsText id
  | .joinGuild hostname inviteCode replyId =>
    FitsText hostname ∧ FitsText inviteCode ∧ FitsText replyId
  | .ready available unavailable => FitsGuilds available ∧ FitsGuilds unavailable
  | .guildUpdate guild => FitsText guild.hostname

/-! ## Bodies -/

namespace Guild

/-- The values of the fields of a guild, in order. -/
def fieldValues (guild : Guild) : List Value :=
  [toValue guild.id, toValue guild.hostname, toValue guild.available]

theorem renderable {guild : Guild} (h : FitsText guild.hostname) : (toValue guild).Renderable 1 := by
  refine renderable_ofRecord fieldNames guild.fieldValues (by decide) (by decide) ?_
  simp only [fieldValues, List.forall_mem_cons]
  exact ⟨renderable_number _, renderable_text h, renderable_flag _, nofun⟩

theorem form_toValue (guild : Guild) : guild.Form (toValue guild) := by
  have hpresents := presents_ofRecord fieldNames guild.fieldValues (by decide) rfl
  exact .mk hpresents (.given .unsigned) (.given .text) (.given .bool)

end Guild

theorem listForm_toValue (guilds : List Guild) : ListForm Guild.Form guilds (toValue guilds) := by
  refine .array (List.forall₂_map_right_iff.mpr (List.forall₂_same.mpr fun guild _ => ?_))
  exact guild.form_toValue

theorem FitsGuilds.renderable {guilds : List Guild} (h : FitsGuilds guilds) :
    (toValue guilds).Renderable 2 :=
  renderable_list h.1 fun _ hguild => Guild.renderable (h.2 _ hguild)

namespace Payload

/-- The values of the fields of a body, in order. -/
def fieldValues : Payload → List Value
  | .hello token crossNode => [Packed.toValue token, Packed.toValue crossNode]
  | .accepted interval => [Packed.toValue interval]
  | .heartbeat id => [Packed.toValue id]
  | .joinGuild hostname inviteCode replyId =>
    [Packed.toValue hostname, Packed.toValue inviteCode, Packed.toValue replyId]
  | .ready available unavailable => [Packed.toValue available, Packed.toValue unavailable]
  | .guildUpdate guild => guild.fieldValues

theorem toValue_eq_ofRecord (payload : Payload) :
    payload.toValue = .ofRecord ((fieldNames payload.kind).zip payload.fieldValues) := by
  cases payload <;> rfl

theorem Fits.renderable_of_mem {payload : Payload} (h : payload.Fits) :
    ∀ value ∈ payload.fieldValues, value.Renderable 2 := by
  cases payload with
  | hello token crossNode =>
      simp only [fieldValues, List.forall_mem_cons]
      refine ⟨renderable_option fun text htext => ?_, renderable_flag _, nofun⟩
      exact renderable_text (h text htext)
  | accepted interval =>
      simp only [fieldValues, List.forall_mem_cons]
      exact ⟨renderable_number _, nofun⟩
  | heartbeat id =>
      simp only [fieldValues, List.forall_mem_cons]
      exact ⟨renderable_text h, nofun⟩
  | joinGuild hostname inviteCode replyId =>
      simp only [fieldValues, List.forall_mem_cons]
      exact ⟨renderable_text h.1, renderable_text h.2.1, renderable_text h.2.2, nofun⟩
  | ready available unavailable =>
      simp only [fieldValues, List.forall_mem_cons]
      exact ⟨h.1.renderable, h.2.renderable, nofun⟩
  | guildUpdate guild =>
      simp only [fieldValues, Guild.fieldValues, List.forall_mem_cons]
      exact ⟨renderable_number _, renderable_text h, renderable_flag _, nofun⟩

theorem Fits.renderable {payload : Payload} (h : payload.Fits) :
    payload.toValue.Renderable nestingLimit := by
  have hnames (kind : Kind) : (fieldNames kind).length < lengthLimit ∧
      ∀ name ∈ fieldNames kind, (Utf8.encode name).length < lengthLimit := by
    cases kind <;> decide
  rw [toValue_eq_ofRecord]
  obtain ⟨hfits, hdepth⟩ := renderable_ofRecord _ _ (hnames _).1 (hnames _).2 h.renderable_of_mem
  exact ⟨hfits, Nat.le_trans hdepth (by decide)⟩

theorem isBody_toValue (payload : Payload) : payload.IsBody payload.toValue := by
  have hlength : (fieldNames payload.kind).length = payload.fieldValues.length := by
    cases payload <;> rfl
  have hbody := presents_ofRecord _ _ (nodup_fieldNames payload.kind) hlength
  rw [← toValue_eq_ofRecord] at hbody
  cases payload with
  | hello token crossNode =>
      refine .hello hbody (.given ?_) (.given .bool)
      cases token with
      | none => exact .none
      | some text => exact .some .text
  | accepted interval => exact .accepted hbody (.given .unsigned)
  | heartbeat id => exact .heartbeat hbody (.given .text)
  | joinGuild hostname inviteCode replyId =>
      exact .joinGuild hbody (.given .text) (.given .text) (.given .text)
  | ready available unavailable =>
      exact .ready hbody (.given (listForm_toValue _)) (.given (listForm_toValue _))
  | guildUpdate guild => exact .guildUpdate guild.form_toValue

/-! ## Round trip -/

theorem Fits.renders {payload : Payload} (h : payload.Fits) (rest : List UInt8) :
    payload.Renders (payload.encode ++ rest) := by
  obtain ⟨hfits, hdepth⟩ := h.renderable
  refine ⟨payload.toValue, payload.toValue.encode, rest, List.append_assoc .., ?_,
    payload.isBody_toValue⟩
  exact ⟨payload.toValue.encodes_encode hfits, hdepth⟩

/-- A payload is found again in its bytes, whatever follows, so no payload's bytes are the
beginning of another's. -/
theorem decode_encode_append (payload : Payload) (h : payload.Fits) :
    payload.encode.take 2 = Bytes.bigEndian 2 payload.kind.id.toNat ∧
      (∀ rest, decode (payload.encode ++ rest) = .ok payload) ∧
      ∀ other : Payload, other.Fits → ∀ rest, other.encode = payload.encode ++ rest →
        rest = [] ∧ other = payload := by
  have hdecode (rest : List UInt8) : decode (payload.encode ++ rest) = .ok payload :=
    decode_eq_ok_iff.mpr (h.renders rest)
  -- The longer of the two decodes to both payloads, as what follows a payload is ignored.
  refine ⟨rfl, hdecode, fun other hother rest hencode => ?_⟩
  have hsame := decode_eq_ok_iff.mpr (hother.renders [])
  rw [List.append_nil, hencode, hdecode] at hsame
  cases hsame
  exact ⟨List.self_eq_append_right.mp hencode, rfl⟩

/-- A guild whose name has just more bytes than the short form of a text holds, and whose id
takes all eight bytes. -/
theorem decode_encode_append_ready :
    (ready [⟨0xffffffffffffffff, "guild-host-012345678.example.org", true⟩] []).Fits ∧
      ∀ rest, decode ((ready [⟨0xffffffffffffffff, "guild-host-012345678.example.org", true⟩]
        []).encode ++ rest) =
          .ok (ready [⟨0xffffffffffffffff, "guild-host-012345678.example.org", true⟩] []) := by
  have hfits : (ready [⟨0xffffffffffffffff, "guild-host-012345678.example.org", true⟩] []).Fits := by
    refine ⟨⟨by decide, List.forall_mem_singleton.mpr ?_⟩, by decide, nofun⟩
    show (Utf8.encode "guild-host-012345678.example.org").length < lengthLimit
    decide
  exact ⟨hfits, (decode_encode_append _ hfits).2.1⟩

/-! ## Payloads that break off -/

/-- A frame whose body begins the body of one payload renders a payload only if it is whole. -/
theorem cut_eq_nil_of_renders {payload other : Payload} {id : UInt16} {body cut : List UInt8}
    (h : payload.Fits) (hbody : payload.toValue.encode = body ++ cut)
    (hother : other.Renders (Frame.encode ⟨id, body⟩)) : cut = [] := by
  obtain ⟨value, taken, rest, hbytes, hwithin, -⟩ := hother
  obtain ⟨-, rfl⟩ := List.append_inj hbytes (by simp)
  -- Two renderings that start at the same place end there, too.
  have hsame : payload.toValue.encode ++ [] = taken ++ (rest ++ cut) := by
    rw [List.append_nil, hbody, List.append_assoc]
  have hencodes := payload.toValue.encodes_encode h.renderable.1
  obtain ⟨-, hrest⟩ := hencodes.eq_of_append_eq hwithin.1 hsame
  exact (List.append_eq_nil_iff.mp hrest.symm).2

/-- Bytes that break off before the end of a payload are no payload, not even where all of its
fields may be left out: they are too short for an id, or their body is malformed. -/
theorem decode_of_cut (payload : Payload) (h : payload.Fits) (bytes : List UInt8)
    (hbegins : bytes <+: payload.encode) (hproper : bytes ≠ payload.encode) :
    (bytes.length < 2 → decode bytes = .error (.truncated bytes.length)) ∧
      (2 ≤ bytes.length → decode bytes = .error .malformedBody) := by
  refine ⟨decode_of_short, fun hlength => ?_⟩
  obtain ⟨cut, hencode⟩ := hbegins
  obtain ⟨⟨id, body⟩, rfl⟩ := Frame.exists_encode_eq hlength
  -- The id is whole, so that the cut goes through the body.
  have hframe : payload.toFrame = ⟨id, body ++ cut⟩ := by
    have hsame : payload.toFrame.encode = Frame.encode ⟨id, body ++ cut⟩ :=
      hencode.symm.trans (List.append_assoc ..)
    simpa using congrArg Frame.decode? hsame
  obtain ⟨rfl, hbody⟩ := Frame.mk.inj hframe
  rcases decode_of_known_cases payload.kind body with ⟨other, hother⟩ | hmalformed
  · have hcut := cut_eq_nil_of_renders h hbody (decode_eq_ok_iff.mp hother)
    rw [hcut, List.append_nil] at hencode
    exact absurd hencode hproper
  · exact hmalformed

/-- Of a ready payload only the last byte is missing, the empty list of the guilds that are not
available. -/
theorem decode_of_cut_ready :
    (ready [⟨7, "a", true⟩] []).Fits ∧
      decode ((ready [⟨7, "a", true⟩] []).encode.dropLast) = .error .malformedBody := by
  have hfits : (ready [⟨7, "a", true⟩] []).Fits := by
    refine ⟨⟨by decide, List.forall_mem_singleton.mpr ?_⟩, by decide, nofun⟩
    show (Utf8.encode "a").length < lengthLimit
    decide
  exact ⟨hfits, (decode_of_cut _ hfits _ (List.dropLast_prefix _) (by decide)).2 (by decide)⟩

end Payload

end GatewayClient
