import GatewayClient.CloseReason
import GatewayClient.Proofs.Json.Reader
import GatewayClient.Proofs.Json.Spelling
/-!
# Announced reasons

A close text announces a reason if it is JSON that says so, in one of two forms
(`CloseReason.Announced`). These are the texts that can be parsed, and every other text counts as
final.
-/

namespace GatewayClient.CloseReason

open Json

/-- One member has this name, in whatever spelling, and this value. -/
inductive HasOnly (members : List (List Symbol × Json)) (name : String) (value : Json) : Prop where
  | mk {before after : List (List Symbol × Json)} {key : List Symbol}
      (hmembers : members = before ++ (key, value) :: after) (hkey : Spells key name.toList)
      (hothers : ∀ member ∈ before ++ after, ¬Spells member.1 name.toList)

/-- What a value says. All names in an object have to spell something, those of members that are
not looked at as well. -/
inductive Says : Json → CloseReason → Prop where
  | object {members : List (List Symbol × Json)} {symbols : List Symbol} {reason : CloseReason}
      (hnames : ∀ member ∈ members, ∃ name, Spells member.1 name)
      (hreason : HasOnly members "reason" (.string symbols))
      (hspells : Spells symbols reason.reason.toList)
      (hreconnect : HasOnly members "reconnect" (.bool reason.reconnect)) :
      Says (.object members) reason
  | array {symbols : List Symbol} {reason : CloseReason}
      (hspells : Spells symbols reason.reason.toList) :
      Says (.array [.string symbols, .bool reason.reconnect]) reason

/-- The text is JSON that says this. -/
def Announced (text : String) (reason : CloseReason) : Prop :=
  ∃ json : Json, TextOf json text.toList ∧ Says json reason

variable {members : List (List Symbol × Json)} {named : List (String × Json)} {key : List Symbol}
  {symbols : List Symbol} {json value : Json} {reason : CloseReason} {taken : List Char}

/-! ## Members by name -/

/-- The members that are read as this name. -/
def called (name : String) (members : List (List Symbol × Json)) : List (List Symbol × Json) :=
  members.filter fun member => text? member.1 = some name.toList

theorem namedMembers?_cons :
    namedMembers? ((key, value) :: members) =
      (text? key).bind fun name =>
        (namedMembers? members).map ((String.ofList name, value) :: ·) := by
  simp only [namedMembers?, List.mapM_cons, Option.bind_eq_bind, Option.bind_assoc,
    Option.bind_some, Option.pure_def, Option.map_eq_bind]
  rfl

theorem namedMembers?_isSome_iff :
    (namedMembers? members).isSome = true ↔ ∀ member ∈ members, (text? member.1).isSome = true := by
  induction members with
  | nil => simp [namedMembers?]
  | cons member members ih =>
    rw [List.forall_mem_cons, ← ih, namedMembers?_cons]
    cases text? member.1 with
    | none => simp
    | some name => simp

theorem filter_named (h : namedMembers? members = some named) (name : String) :
    named.filter (·.1 = name) = (called name members).map (name, ·.2) := by
  induction members generalizing named with
  | nil =>
    cases h
    rfl
  | cons member members ih =>
    rw [namedMembers?_cons] at h
    obtain ⟨text, htext, h⟩ := Option.bind_eq_some_iff.mp h
    obtain ⟨others, hothers, rfl⟩ := Option.map_eq_some_iff.mp h
    have hname : String.ofList text = name ↔ text? member.1 = some name.toList := by
      rw [htext, Option.some_inj, ← String.toList_inj, String.toList_ofList]
    by_cases heq : text? member.1 = some name.toList
    · rw [List.filter_cons_of_pos (by simpa using hname.mpr heq), ih hothers, called, called,
        List.filter_cons_of_pos (by simpa using heq), hname.mpr heq]
      rfl
    · rw [List.filter_cons_of_neg (by simpa using mt hname.mp heq), ih hothers, called, called,
        List.filter_cons_of_neg (by simpa using heq)]

/-- If names are read as what they spell, one member has a name exactly if one is read as it. -/
theorem called_eq_singleton_iff {name : String}
    (hspells : ∀ member ∈ members, ∀ text, text? member.1 = some text ↔ Spells member.1 text) :
    (∃ key, called name members = [(key, value)]) ↔ HasOnly members name value := by
  constructor
  · rintro ⟨key, h⟩
    obtain ⟨before, after, rfl, hbefore, hkey, hafter⟩ := List.filter_eq_cons_iff.mp h
    obtain ⟨hiff, hiff'⟩ := List.forall_mem_append.mp hspells
    have hkey := (hiff' _ List.mem_cons_self name.toList).mp (by simpa using hkey)
    refine .mk rfl hkey fun member hmember => ?_
    rcases List.mem_append.mp hmember with hmember | hmember
    · rw [← hiff member hmember]
      simpa using hbefore member hmember
    · rw [← hiff' member (List.mem_cons_of_mem _ hmember)]
      simpa using List.filter_eq_nil_iff.mp hafter member hmember
  · rintro @⟨before, after, key, rfl, hkey, hothers⟩
    obtain ⟨hiff, hiff'⟩ := List.forall_mem_append.mp hspells
    refine ⟨key, List.filter_eq_cons_iff.mpr ⟨before, after, rfl, fun member hmember => ?_, ?_, ?_⟩⟩
    · have hother := hothers member (List.mem_append_left _ hmember)
      simpa [hiff member hmember] using hother
    · simpa using text?_of_spells hkey
    · refine List.filter_eq_nil_iff.mpr fun member hmember => ?_
      have hother := hothers member (List.mem_append_right _ hmember)
      simpa [hiff' member (List.mem_cons_of_mem _ hmember)] using hother

/-! ## What a value says -/

theorem ofJson?_array (symbols : List Symbol) (reconnect : Bool) :
    ofJson? (.array [.string symbols, .bool reconnect]) =
      (text? symbols).map fun text => ⟨String.ofList text, reconnect⟩ := by
  rw [ofJson?, Option.map_eq_bind]
  rfl

theorem ofJson?_object_eq_some_iff :
    ofJson? (.object members) = some reason ↔
      (namedMembers? members).isSome = true ∧
        (∃ symbols, text? symbols = some reason.reason.toList ∧
          ∃ key, called "reason" members = [(key, .string symbols)]) ∧
        ∃ key, called "reconnect" members = [(key, .bool reason.reconnect)] := by
  constructor
  · intro h
    obtain ⟨named, hnamed, h⟩ := Option.bind_eq_some_iff.mp h
    rw [filter_named hnamed, filter_named hnamed] at h
    split at h
    · case h_1 symbols _ reconnect hreason hreconnect =>
      obtain ⟨text, htext, h⟩ := Option.bind_eq_some_iff.mp h
      cases h
      obtain ⟨⟨key, _⟩, hreason, heq⟩ := List.map_eq_singleton_iff.mp hreason
      cases heq
      obtain ⟨⟨key', _⟩, hreconnect, heq⟩ := List.map_eq_singleton_iff.mp hreconnect
      cases heq
      rw [hnamed, String.toList_ofList]
      exact ⟨rfl, ⟨symbols, htext, key, hreason⟩, key', hreconnect⟩
    · cases h
  · rintro ⟨hnamed, ⟨symbols, htext, key, hreason⟩, key', hreconnect⟩
    obtain ⟨named, hnamed⟩ := Option.isSome_iff_exists.mp hnamed
    refine Option.bind_eq_some_iff.mpr ⟨named, hnamed, ?_⟩
    rw [filter_named hnamed, filter_named hnamed, hreason, hreconnect]
    simp [htext]

theorem spells_iff_of_written {text : List Char} (h : (Json.string symbols).Written taken) :
    text? symbols = some text ↔ Spells symbols text := by
  cases h with
  | string hliteral => exact hliteral.spells_iff

theorem says_object_iff (hwritten : (Json.object members).Written taken) :
    ofJson? (.object members) = some reason ↔ Says (.object members) reason := by
  obtain ⟨body, hlisted⟩ : ∃ body, Listed (Member Written) members body := by
    cases hwritten with
    | object hlisted => exact ⟨_, hlisted⟩
  have hname : ∀ member ∈ members, ∀ text, text? member.1 = some text ↔ Spells member.1 text := by
    intro member hmember text
    obtain ⟨_, hliteral, -⟩ := hlisted.exists_of_mem hmember
    exact hliteral.spells_iff
  have hnames : (namedMembers? members).isSome = true ↔
      ∀ member ∈ members, ∃ name, Spells member.1 name := by
    rw [namedMembers?_isSome_iff]
    refine forall₂_congr fun member hmember => ?_
    rw [Option.isSome_iff_exists]
    exact exists_congr (hname member hmember)
  rw [ofJson?_object_eq_some_iff, hnames, called_eq_singleton_iff hname]
  constructor
  · rintro ⟨hspelled, ⟨symbols, htext, key, hreason⟩, hreconnect⟩
    have hmember : (key, .string symbols) ∈ called "reason" members :=
      hreason ▸ List.mem_singleton_self _
    obtain ⟨_, -, -, -, hstring⟩ := hlisted.exists_of_mem (List.mem_filter.mp hmember).1
    exact .object hspelled ((called_eq_singleton_iff hname).mp ⟨key, hreason⟩)
      ((spells_iff_of_written hstring).mp htext) hreconnect
  · intro h
    cases h with
    | object hspelled hreason hspells hreconnect =>
      exact ⟨hspelled, ⟨_, text?_of_spells hspells, (called_eq_singleton_iff hname).mpr hreason⟩,
        hreconnect⟩

theorem says_array_iff {reconnect : Bool}
    (hwritten : (Json.array [.string symbols, .bool reconnect]).Written taken) :
    ofJson? (.array [.string symbols, .bool reconnect]) = some reason ↔
      Says (.array [.string symbols, .bool reconnect]) reason := by
  obtain ⟨literal, hstring⟩ : ∃ literal, (Json.string symbols).Written literal := by
    cases hwritten with
    | array hlisted => exact hlisted.exists_of_mem List.mem_cons_self
  rw [ofJson?_array, Option.map_eq_some_iff]
  constructor
  · rintro ⟨text, htext, rfl⟩
    have hspells := (spells_iff_of_written hstring).mp htext
    exact @Says.array _ ⟨String.ofList text, reconnect⟩ (by rwa [String.toList_ofList])
  · intro h
    cases h with
    | array hspells => exact ⟨_, text?_of_spells hspells, by rw [String.ofList_toList]⟩

/-- The reason of a value is what it says. -/
theorem ofJson?_eq_some_iff (hwritten : json.Written taken) :
    ofJson? json = some reason ↔ Says json reason := by
  constructor
  · intro h
    unfold ofJson? at h
    split at h
    · exact (says_object_iff hwritten).mp h
    · exact (says_array_iff hwritten).mp h
    · cases h
  · intro h
    cases h with
    | object hnames hreason hspells hreconnect =>
      exact (says_object_iff hwritten).mpr (.object hnames hreason hspells hreconnect)
    | array hspells => exact (says_array_iff hwritten).mpr (.array hspells)

theorem parse?_eq_some_iff {text : String} : parse? text = some reason ↔ Announced text reason := by
  constructor
  · intro h
    obtain ⟨json, hjson, h⟩ := Option.bind_eq_some_iff.mp h
    have htext := Json.parse?_eq_some_iff.mp hjson
    obtain ⟨_, hwritten⟩ := htext.exists_written
    exact ⟨json, htext, (ofJson?_eq_some_iff hwritten).mp h⟩
  · rintro ⟨json, htext, hsays⟩
    obtain ⟨_, hwritten⟩ := htext.exists_written
    exact Option.bind_eq_some_iff.mpr
      ⟨json, Json.parse?_eq_some_iff.mpr htext, (ofJson?_eq_some_iff hwritten).mpr hsays⟩

/-- Only an announced wish makes the client come back. A text that announces nothing is final, and
its reason is the one for such texts. -/
theorem reconnects_iff_announced (text : String) :
    (∀ reason, parse? text = some reason ↔ Announced text reason) ∧
      ((ofCloseText text).reconnect = true ↔ ∃ reason, Announced text ⟨reason, true⟩) ∧
      ((∃ reason, Announced text reason ∧ ofCloseText text = reason) ∨
        (∀ reason, ¬Announced text reason) ∧
          ofCloseText text = ⟨"unable to determine reason from payload", false⟩) := by
  refine ⟨fun _ => parse?_eq_some_iff, ?_⟩
  simp only [← parse?_eq_some_iff, ofCloseText]
  cases parse? text with
  | none =>
    refine ⟨⟨fun h => ?_, fun ⟨_, h⟩ => ?_⟩, .inr ⟨fun _ h => ?_, rfl⟩⟩
    · cases h
    · cases h
    · cases h
  | some reason =>
    refine ⟨⟨fun h => ⟨reason.reason, ?_⟩, fun ⟨_, h⟩ => ?_⟩, .inl ⟨reason, rfl, rfl⟩⟩
    · rw [← h]
      rfl
    · cases h
      rfl

example :
    ofCloseText "\x7b\"a\":[\x7b\x7d],\"reconnect\":true,\"\\u0072eason\":\"maintenance\"\x7d" =
      ⟨"maintenance", true⟩ := by
  cbv

/-! ## Close texts of reasons -/

theorem written_bool (b : Bool) : (Json.bool b).Written (toString b).toList := by
  cases b with
  | false => exact .no
  | true => exact .yes

/-- A quoted name, a colon and a value, with nothing between them. -/
theorem member_quote (name : List Char) (hvalue : value.Written taken) :
    ∃ key, Spells key name ∧ Member Written (key, value) (quote name ++ ':' :: taken) := by
  obtain ⟨key, literal, hquote, hliteral, hspells⟩ := quoted name
  have hblank : Blank [] := List.forall_mem_nil _
  rw [hquote]
  exact ⟨key, hspells, .mk hliteral hblank hblank hvalue⟩

theorem toList_toCloseText (reason : CloseReason) :
    reason.toCloseText.toList =
      '\x7b' :: (quote "reason".toList ++ [':']) ++ quote reason.reason.toList
        ++ ',' :: (quote "reconnect".toList ++ [':']) ++ (toString reason.reconnect).toList
        ++ ['\x7d'] :=
  String.toList_ofList

/-- The close text of a reason is a value that says the reason. -/
theorem says_toCloseText (reason : CloseReason) :
    ∃ json : Json, json.Written reason.toCloseText.toList ∧ Says json reason := by
  have hblank : Blank [] := List.forall_mem_nil _
  have hne : "reason".toList ≠ "reconnect".toList := by decide
  obtain ⟨symbols, literal, hquote, hliteral, hspells⟩ := quoted reason.reason.toList
  have hreason : (Json.string symbols).Written (quote reason.reason.toList) :=
    hquote ▸ .string hliteral
  obtain ⟨key, hkey, hmember⟩ := member_quote "reason".toList hreason
  obtain ⟨key', hkey', hmember'⟩ := member_quote "reconnect".toList (written_bool reason.reconnect)
  have hwritten :=
    Written.object (.some (.cons hblank hmember hblank (.one hblank hmember' hblank)))
  have hother : ¬Spells key' "reason".toList := fun h => hne (h.unique hkey')
  have hother' : ¬Spells key "reconnect".toList := fun h => hne (hkey.unique h)
  have hnames : ∀ member ∈ [(key, Json.string symbols), (key', .bool reason.reconnect)],
      ∃ name, Spells member.1 name :=
    List.forall_mem_cons.mpr ⟨⟨_, hkey⟩, List.forall_mem_singleton.mpr ⟨_, hkey'⟩⟩
  have hfirst := @HasOnly.mk _ "reason" (.string symbols) [] [(key', .bool reason.reconnect)] key
    rfl hkey (List.forall_mem_singleton.mpr hother)
  have hsecond := @HasOnly.mk _ "reconnect" (.bool reason.reconnect) [(key, .string symbols)] []
    key' rfl hkey' (List.forall_mem_singleton.mpr hother')
  refine ⟨_, ?_, .object hnames hfirst hspells hsecond⟩
  rw [toList_toCloseText]
  simpa only [List.append_assoc, List.cons_append, List.nil_append, List.append_nil] using hwritten

/-- A reason survives its close text, whatever white space is put around the text. -/
theorem parse?_padded_toCloseText {before after : String} (hbefore : Blank before.toList)
    (hafter : Blank after.toList) (reason : CloseReason) :
    parse? (before ++ reason.toCloseText ++ after) = some reason ∧
      ofCloseText (before ++ reason.toCloseText ++ after) = reason := by
  obtain ⟨json, hwritten, hsays⟩ := says_toCloseText reason
  have htext : (before ++ reason.toCloseText ++ after).toList =
      before.toList ++ (reason.toCloseText.toList ++ after.toList) := by
    rw [String.toList_append, String.toList_append, List.append_assoc]
  have hparse : parse? (before ++ reason.toCloseText ++ after) = some reason :=
    parse?_eq_some_iff.mpr ⟨json, htext ▸ .mk hbefore hwritten hafter, hsays⟩
  exact ⟨hparse, by rw [ofCloseText, hparse, Option.getD_some]⟩

theorem parse?_padded_toCloseText_escapes :
    Blank " \r\n".toList ∧ Blank "\t".toList ∧
      parse? (" \r\n" ++ toCloseText ⟨"\"C:\\\" \x01\x1f\n\x7f \u0100 😀", true⟩ ++ "\t") =
        some ⟨"\"C:\\\" \x01\x1f\n\x7f \u0100 😀", true⟩ ∧
      ofCloseText (" \r\n" ++ toCloseText ⟨"\"C:\\\" \x01\x1f\n\x7f \u0100 😀", true⟩ ++ "\t") =
        ⟨"\"C:\\\" \x01\x1f\n\x7f \u0100 😀", true⟩ := by
  have hbefore : Blank " \r\n".toList := by simp [Blank, blanks]
  have hafter : Blank "\t".toList := by simp [Blank, blanks]
  exact ⟨hbefore, hafter, parse?_padded_toCloseText hbefore hafter _⟩

end GatewayClient.CloseReason
