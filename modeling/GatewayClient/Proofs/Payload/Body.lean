import GatewayClient.Payload.Codec
import GatewayClient.Proofs.MessagePack.Forms
/-!
# Bodies of payloads

Which values are the body of which payload (`Payload.IsBody`), field by field, and that the
payload of a body is found exactly there (`Payload.ofValue?_eq_some_iff`).
-/

namespace GatewayClient

open MessagePack
open MessagePack.Packed

/-- A record of a guild. A field that it leaves out is zero, empty or false. -/
inductive Guild.Form (guild : Guild) : Value → Prop where
  | mk {value : Value} {id hostname available : Option Value}
      (h : value.Presents Guild.fieldNames [id, hostname, available])
      (hid : OrElse 0 NumberForm guild.id id) (hhostname : OrElse "" TextForm guild.hostname hostname)
      (havailable : OrElse false FlagForm guild.available available) : Form guild value

/-- The body of a payload: a record of its fields. -/
inductive Payload.IsBody : Payload → Value → Prop where
  | hello {body : Value} {tokenSlot crossNodeSlot : Option Value} {token : Option String}
      {crossNode : Bool} (h : body.Presents (fieldNames .hello) [tokenSlot, crossNodeSlot])
      (htoken : OrElse none (OptionForm TextForm) token tokenSlot)
      (hcrossNode : Required FlagForm crossNode crossNodeSlot) : IsBody (.hello token crossNode) body
  | accepted {body : Value} {intervalSlot : Option Value} {interval : UInt64}
      (h : body.Presents (fieldNames .accepted) [intervalSlot])
      (hinterval : Required NumberForm interval intervalSlot) : IsBody (.accepted interval) body
  | heartbeat {body : Value} {idSlot : Option Value} {id : String}
      (h : body.Presents (fieldNames .heartbeat) [idSlot]) (hid : Required TextForm id idSlot) :
      IsBody (.heartbeat id) body
  | joinGuild {body : Value} {hostnameSlot inviteCodeSlot replyIdSlot : Option Value}
      {hostname inviteCode replyId : String}
      (h : body.Presents (fieldNames .joinGuild) [hostnameSlot, inviteCodeSlot, replyIdSlot])
      (hhostname : Required TextForm hostname hostnameSlot)
      (hinviteCode : Required TextForm inviteCode inviteCodeSlot)
      (hreplyId : Required TextForm replyId replyIdSlot) :
      IsBody (.joinGuild hostname inviteCode replyId) body
  | ready {body : Value} {availableSlot unavailableSlot : Option Value}
      {available unavailable : List Guild}
      (h : body.Presents (fieldNames .ready) [availableSlot, unavailableSlot])
      (havailable : OrElse [] (ListForm Guild.Form) available availableSlot)
      (hunavailable : OrElse [] (ListForm Guild.Form) unavailable unavailableSlot) :
      IsBody (.ready available unavailable) body
  | guildUpdate {body : Value} {guild : Guild} (h : guild.Form body) : IsBody (.guildUpdate guild) body

theorem reads_token : Reads (OptionForm TextForm) :=
  reads_text.option nofun

theorem Guild.reads_form : Reads Guild.Form := by
  intro value guild hfits
  have hnodup : Guild.fieldNames.Nodup := by decide
  constructor
  · intro hread
    obtain ⟨slots, h, hread⟩ := (Value.bind_toRecord?_eq_some_iff hnodup).mp hread
    split at hread
    · obtain ⟨id, hid, hread⟩ := Option.bind_eq_some_iff.mp hread
      obtain ⟨hostname, hhostname, hread⟩ := Option.bind_eq_some_iff.mp hread
      obtain ⟨available, havailable, hread⟩ := Option.bind_eq_some_iff.mp hread
      cases hread
      exact .mk h ((h.orElse?_eq_some_iff hfits (by simp) reads_number).mp hid)
        ((h.orElse?_eq_some_iff hfits (by simp) reads_text).mp hhostname)
        ((h.orElse?_eq_some_iff hfits (by simp) reads_flag).mp havailable)
    · cases hread
  · intro hform
    obtain ⟨h, hid, hhostname, havailable⟩ := hform
    have hslots := (Value.toRecord?_eq_some_iff hnodup).mpr h
    have hid := (h.orElse?_eq_some_iff hfits (by simp) reads_number).mpr hid
    have hhostname := (h.orElse?_eq_some_iff hfits (by simp) reads_text).mpr hhostname
    have havailable := (h.orElse?_eq_some_iff hfits (by simp) reads_flag).mpr havailable
    simp [Packed.ofValue?, hslots, hid, hhostname, havailable]

namespace Payload

theorem nodup_fieldNames (kind : Kind) : (fieldNames kind).Nodup := by
  cases kind <;> decide

variable {kind : Kind} {body : Value} {payload : Payload}

theorem isBody_of_ofValue? (hfits : body.Fits) (h : ofValue? kind body = some payload) :
    payload.kind = kind ∧ payload.IsBody body := by
  cases kind with
  | hello =>
      obtain ⟨slots, hbody, h⟩ := (Value.bind_toRecord?_eq_some_iff (nodup_fieldNames _)).mp h
      split at h
      · obtain ⟨token, htoken, h⟩ := Option.bind_eq_some_iff.mp h
        obtain ⟨crossNode, hcrossNode, h⟩ := Option.bind_eq_some_iff.mp h
        cases h
        exact ⟨rfl, .hello hbody
          ((hbody.orElse?_eq_some_iff hfits (by simp) reads_token).mp htoken)
          ((hbody.required?_eq_some_iff hfits (by simp) reads_flag).mp hcrossNode)⟩
      · cases h
  | accepted =>
      obtain ⟨slots, hbody, h⟩ := (Value.bind_toRecord?_eq_some_iff (nodup_fieldNames _)).mp h
      split at h
      · obtain ⟨interval, hinterval, h⟩ := Option.bind_eq_some_iff.mp h
        cases h
        exact ⟨rfl, .accepted hbody
          ((hbody.required?_eq_some_iff hfits (by simp) reads_number).mp hinterval)⟩
      · cases h
  | heartbeat =>
      obtain ⟨slots, hbody, h⟩ := (Value.bind_toRecord?_eq_some_iff (nodup_fieldNames _)).mp h
      split at h
      · obtain ⟨id, hid, h⟩ := Option.bind_eq_some_iff.mp h
        cases h
        exact ⟨rfl, .heartbeat hbody
          ((hbody.required?_eq_some_iff hfits (by simp) reads_text).mp hid)⟩
      · cases h
  | joinGuild =>
      obtain ⟨slots, hbody, h⟩ := (Value.bind_toRecord?_eq_some_iff (nodup_fieldNames _)).mp h
      split at h
      · obtain ⟨hostname, hhostname, h⟩ := Option.bind_eq_some_iff.mp h
        obtain ⟨inviteCode, hinviteCode, h⟩ := Option.bind_eq_some_iff.mp h
        obtain ⟨replyId, hreplyId, h⟩ := Option.bind_eq_some_iff.mp h
        cases h
        exact ⟨rfl, .joinGuild hbody
          ((hbody.required?_eq_some_iff hfits (by simp) reads_text).mp hhostname)
          ((hbody.required?_eq_some_iff hfits (by simp) reads_text).mp hinviteCode)
          ((hbody.required?_eq_some_iff hfits (by simp) reads_text).mp hreplyId)⟩
      · cases h
  | ready =>
      obtain ⟨slots, hbody, h⟩ := (Value.bind_toRecord?_eq_some_iff (nodup_fieldNames _)).mp h
      split at h
      · obtain ⟨available, havailable, h⟩ := Option.bind_eq_some_iff.mp h
        obtain ⟨unavailable, hunavailable, h⟩ := Option.bind_eq_some_iff.mp h
        cases h
        exact ⟨rfl, .ready hbody
          ((hbody.orElse?_eq_some_iff hfits (by simp) Guild.reads_form.list).mp havailable)
          ((hbody.orElse?_eq_some_iff hfits (by simp) Guild.reads_form.list).mp hunavailable)⟩
      · cases h
  | guildUpdate =>
      obtain ⟨guild, hguild, rfl⟩ := Option.map_eq_some_iff.mp h
      exact ⟨rfl, .guildUpdate ((Guild.reads_form hfits).mp hguild)⟩

theorem IsBody.ofValue? (hfits : body.Fits) (h : payload.IsBody body) :
    ofValue? payload.kind body = some payload := by
  cases h with
  | hello h htoken hcrossNode =>
      have hslots := (Value.toRecord?_eq_some_iff (nodup_fieldNames _)).mpr h
      have htoken := (h.orElse?_eq_some_iff hfits (by simp) reads_token).mpr htoken
      have hcrossNode := (h.required?_eq_some_iff hfits (by simp) reads_flag).mpr hcrossNode
      simp [Payload.ofValue?, kind, hslots, htoken, hcrossNode]
  | accepted h hinterval =>
      have hslots := (Value.toRecord?_eq_some_iff (nodup_fieldNames _)).mpr h
      have hinterval := (h.required?_eq_some_iff hfits (by simp) reads_number).mpr hinterval
      simp [Payload.ofValue?, kind, hslots, hinterval]
  | heartbeat h hid =>
      have hslots := (Value.toRecord?_eq_some_iff (nodup_fieldNames _)).mpr h
      have hid := (h.required?_eq_some_iff hfits (by simp) reads_text).mpr hid
      simp [Payload.ofValue?, kind, hslots, hid]
  | joinGuild h hhostname hinviteCode hreplyId =>
      have hslots := (Value.toRecord?_eq_some_iff (nodup_fieldNames _)).mpr h
      have hhostname := (h.required?_eq_some_iff hfits (by simp) reads_text).mpr hhostname
      have hinviteCode := (h.required?_eq_some_iff hfits (by simp) reads_text).mpr hinviteCode
      have hreplyId := (h.required?_eq_some_iff hfits (by simp) reads_text).mpr hreplyId
      simp [Payload.ofValue?, kind, hslots, hhostname, hinviteCode, hreplyId]
  | ready h havailable hunavailable =>
      have hslots := (Value.toRecord?_eq_some_iff (nodup_fieldNames _)).mpr h
      have havailable :=
        (h.orElse?_eq_some_iff hfits (by simp) Guild.reads_form.list).mpr havailable
      have hunavailable :=
        (h.orElse?_eq_some_iff hfits (by simp) Guild.reads_form.list).mpr hunavailable
      simp [Payload.ofValue?, kind, hslots, havailable, hunavailable]
  | guildUpdate h =>
      have hguild := (Guild.reads_form hfits).mpr h
      simp [Payload.ofValue?, kind, hguild]

/-- The payload of a body is found exactly where the body is one of that payload. -/
theorem ofValue?_eq_some_iff (hfits : body.Fits) :
    ofValue? kind body = some payload ↔ payload.kind = kind ∧ payload.IsBody body := by
  constructor
  · exact isBody_of_ofValue? hfits
  · rintro ⟨rfl, h⟩
    exact h.ofValue? hfits

end Payload

end GatewayClient
