import GatewayClient.Proofs.Json.Words
/-!
# Reading JSON by the grammar

A text is read as a value exactly if it consists of a writing of the value
(`Json.parse?_eq_some_iff`), however deep the value is nested.
-/

namespace GatewayClient.Json

variable {c : Char} {space rest input : List Char}

theorem Separated.space_append {α : Type} {language : α → List Char → Prop} {as : List α}
    {body : List Char} (h : Separated language as body) (hspace : Blank space) :
    Separated language as (space ++ body) := by
  cases h with
  | one hbefore h hafter =>
    rw [← List.append_assoc]
    exact .one (hspace.append hbefore) h hafter
  | cons hbefore h hafter hrest =>
    rw [← List.append_assoc]
    exact .cons (hspace.append hbefore) h hafter hrest

/-! ## What is read is written -/

/-- With so much fuel, only writings are read. -/
structure Sound (fuel : Nat) : Prop where
  value {input rest : List Char} {json : Json} (h : readValue fuel input = some (json, rest)) :
    ∃ space taken, Blank space ∧ json.Written taken ∧ input = space ++ (taken ++ rest)
  items {input rest : List Char} {items : List Json}
    (h : readItems fuel input = some (items, rest)) :
    ∃ body, Separated Written items body ∧ input = body ++ ']' :: rest
  members {input rest : List Char} {members : List (List Symbol × Json)}
    (h : readMembers fuel input = some (members, rest)) :
    ∃ body, Separated (Member Written) members body ∧ input = body ++ '\x7d' :: rest

variable {fuel : Nat} {json : Json} {items : List Json} {members : List (List Symbol × Json)}

theorem Sound.value_succ (h : Sound fuel) (hread : readValue (fuel + 1) input = some (json, rest)) :
    ∃ space taken, Blank space ∧ json.Written taken ∧ input = space ++ (taken ++ rest) := by
  suffices htaken : ∃ taken, json.Written taken ∧ skipBlanks input = taken ++ rest by
    obtain ⟨taken, hwritten, hskip⟩ := htaken
    obtain ⟨space, hspace, hinput⟩ := exists_blank_append hskip
    exact ⟨space, taken, hspace, hwritten, hinput⟩
  rw [readValue] at hread
  split at hread
  · case h_1 hskip => cases hread; exact ⟨_, .null, hskip⟩
  · case h_2 hskip => cases hread; exact ⟨_, .yes, hskip⟩
  · case h_3 hskip => cases hread; exact ⟨_, .no, hskip⟩
  · case h_4 hskip =>
    obtain ⟨⟨symbols, last⟩, hsymbols, hread⟩ := Option.map_eq_some_iff.mp hread
    cases hread
    obtain ⟨literal, rfl, hliteral⟩ := (readSymbols_recognizes _ _ _).mp hsymbols
    exact ⟨_, .string hliteral, hskip⟩
  · case h_5 others hskip =>
    split at hread
    · case h_1 hclose =>
      cases hread
      obtain ⟨space, hspace, rfl⟩ := exists_blank_append hclose
      exact ⟨_, .array (.none hspace), by simp [hskip]⟩
    · obtain ⟨⟨items, last⟩, hitems, hread⟩ := Option.map_eq_some_iff.mp hread
      cases hread
      obtain ⟨body, hbody, htaken⟩ := h.items hitems
      obtain ⟨space, hspace, rfl⟩ := exists_blank_append htaken
      exact ⟨_, .array (.some (hbody.space_append hspace)), by simp [hskip]⟩
  · case h_6 others hskip =>
    split at hread
    · case h_1 hclose =>
      cases hread
      obtain ⟨space, hspace, rfl⟩ := exists_blank_append hclose
      exact ⟨_, .object (.none hspace), by simp [hskip]⟩
    · obtain ⟨⟨members, last⟩, hmembers, hread⟩ := Option.map_eq_some_iff.mp hread
      cases hread
      obtain ⟨body, hbody, htaken⟩ := h.members hmembers
      obtain ⟨space, hspace, rfl⟩ := exists_blank_append htaken
      exact ⟨_, .object (.some (hbody.space_append hspace)), by simp [hskip]⟩
  · obtain ⟨⟨number, last⟩, hnumber, hread⟩ := Option.map_eq_some_iff.mp hread
    cases hread
    obtain ⟨hskip, hnumber⟩ := number_of_readNumber hnumber
    exact ⟨_, .number hnumber, hskip⟩

theorem Sound.items_succ (h : Sound fuel)
    (hread : readItems (fuel + 1) input = some (items, rest)) :
    ∃ body, Separated Written items body ∧ input = body ++ ']' :: rest := by
  rw [readItems] at hread
  obtain ⟨⟨item, last⟩, hitem, hmore⟩ := Option.bind_eq_some_iff.mp hread
  obtain ⟨before, taken, hbefore, hwritten, rfl⟩ := h.value hitem
  dsimp only at hmore
  split at hmore
  · case h_1 hskip =>
    obtain ⟨after, hafter, rfl⟩ := exists_blank_append hskip
    obtain ⟨⟨others, last⟩, hothers, hmore⟩ := Option.bind_eq_some_iff.mp hmore
    cases hmore
    obtain ⟨body, hbody, rfl⟩ := h.items hothers
    exact ⟨_, .cons hbefore hwritten hafter hbody, by simp⟩
  · case h_2 hskip =>
    obtain ⟨after, hafter, rfl⟩ := exists_blank_append hskip
    cases hmore
    exact ⟨_, .one hbefore hwritten hafter, by simp⟩
  · cases hmore

theorem Sound.members_succ (h : Sound fuel)
    (hread : readMembers (fuel + 1) input = some (members, rest)) :
    ∃ body, Separated (Member Written) members body ∧ input = body ++ '\x7d' :: rest := by
  rw [readMembers] at hread
  split at hread
  · case h_1 hquote =>
    obtain ⟨before, hbefore, rfl⟩ := exists_blank_append hquote
    obtain ⟨⟨name, last⟩, hname, hmore⟩ := Option.bind_eq_some_iff.mp hread
    obtain ⟨literal, rfl, hliteral⟩ := (readSymbols_recognizes _ _ _).mp hname
    dsimp only at hmore
    split at hmore
    · case h_1 hcolon =>
      obtain ⟨space, hspace, rfl⟩ := exists_blank_append hcolon
      obtain ⟨⟨value, last⟩, hvalue, hclose⟩ := Option.bind_eq_some_iff.mp hmore
      obtain ⟨space', taken, hspace', hwritten, rfl⟩ := h.value hvalue
      have hmember := Member.mk hliteral hspace hspace' hwritten
      dsimp only at hclose
      split at hclose
      · case h_1 hskip =>
        obtain ⟨after, hafter, rfl⟩ := exists_blank_append hskip
        obtain ⟨⟨others, last⟩, hothers, hclose⟩ := Option.bind_eq_some_iff.mp hclose
        cases hclose
        obtain ⟨body, hbody, rfl⟩ := h.members hothers
        exact ⟨_, .cons hbefore hmember hafter hbody, by simp⟩
      · case h_2 hskip =>
        obtain ⟨after, hafter, rfl⟩ := exists_blank_append hskip
        cases hclose
        exact ⟨_, .one hbefore hmember hafter, by simp⟩
      · cases hclose
    · cases hmore
  · cases hread

theorem sound (fuel : Nat) : Sound fuel := by
  induction fuel with
  | zero =>
    constructor
    all_goals
      intro _ _ _ h
      cases h
  | succ fuel ih => exact ⟨ih.value_succ, ih.items_succ, ih.members_succ⟩

/-! ## What is written is read -/

/-- With so much fuel, all writings that are not too long are read. -/
structure Complete (fuel : Nat) : Prop where
  value {space taken rest : List Char} {json : Json} (hspace : Blank space)
    (hwritten : json.Written taken) (hrest : Ends rest) (hfuel : 2 * taken.length ≤ fuel) :
    readValue fuel (space ++ (taken ++ rest)) = some (json, rest)
  items {body : List Char} {items : List Json} (h : Separated Written items body)
    (hfuel : 2 * body.length < fuel) (rest : List Char) :
    readItems fuel (body ++ ']' :: rest) = some (items, rest)
  members {body : List Char} {members : List (List Symbol × Json)}
    (h : Separated (Member Written) members body) (hfuel : 2 * body.length < fuel)
    (rest : List Char) : readMembers fuel (body ++ '\x7d' :: rest) = some (members, rest)

variable {taken body : List Char} {first : Char}

theorem Written.exists_cons (h : json.Written taken) :
    ∃ first others, taken = first :: others ∧ first ∉ closers := by
  cases h with
  | null | yes | no | string _ | array _ | object _ => exact ⟨_, _, rfl, by decide⟩
  | number h =>
    obtain ⟨first, others, rfl, rfl | hfirst⟩ := h.exists_cons
    · exact ⟨_, _, rfl, by decide⟩
    · exact ⟨_, _, rfl, not_mem_of_isDigit (by decide) hfirst⟩

theorem Member.exists_cons {member : List Symbol × Json} (h : Member Written member taken) :
    ∃ first others, taken = first :: others ∧ first ∉ closers := by
  cases h
  exact ⟨_, _, rfl, by decide⟩

/-- White space in front is taken off strings that do not start with any. -/
theorem Separated.exists_cons {α : Type} {language : α → List Char → Prop} {as : List α}
    (h : Separated language as body)
    (hlanguage : ∀ {a : α} {taken : List Char}, language a taken →
      ∃ first others, taken = first :: others ∧ first ∉ closers) :
    ∃ space first others, Blank space ∧ body = space ++ first :: others ∧ first ∉ closers ∧
      Separated language as (first :: others) := by
  cases h with
  | one hbefore h hafter =>
    obtain ⟨first, others, rfl, hfirst⟩ := hlanguage h
    exact ⟨_, first, _, hbefore, rfl, hfirst, .one (List.forall_mem_nil _) h hafter⟩
  | cons hbefore h hafter hrest =>
    obtain ⟨first, others, rfl, hfirst⟩ := hlanguage h
    exact ⟨_, first, _, hbefore, rfl, hfirst, .cons (List.forall_mem_nil _) h hafter hrest⟩

theorem not_blank_of_not_closer (h : c ∉ closers) : c ∉ blanks :=
  fun hc => h (List.mem_append_left _ hc)

/-- White space before a value is skipped. -/
theorem readValue_space (fuel : Nat) (hspace : Blank space) (hfirst : first ∉ blanks) :
    readValue (fuel + 1) (space ++ first :: rest) = readValue (fuel + 1) (first :: rest) := by
  simp only [readValue, skipBlanks_append hspace hfirst, skipBlanks_cons hfirst]

theorem readValue_number (fuel : Nat) (h : first = '-' ∨ first.isDigit = true) :
    readValue (fuel + 1) (first :: rest) =
      (readNumber (first :: rest)).map fun p => (.number p.1, p.2) := by
  have hfirst : first ∉ ['n', 't', 'f', '"', '[', '\x7b'] ++ blanks := by
    rcases h with rfl | h
    · decide
    · exact not_mem_of_isDigit (by decide) h
  rw [readValue, skipBlanks_cons (fun hc => hfirst (List.mem_append_right _ hc)) rest]
  split
  case h_7 => rfl
  -- No other value starts with a sign or a digit.
  all_goals
    case _ heq =>
    obtain rfl := (List.cons.inj heq).1
    exact absurd (by decide) hfirst

theorem readValue_array (fuel : Nat) (hspace : Blank space) (hfirst : first ∉ closers) :
    readValue (fuel + 1) ('[' :: (space ++ first :: rest)) =
      (readItems fuel (first :: rest)).map fun p => (.array p.1, p.2) := by
  have hopen : '[' ∉ blanks := by decide
  simp only [readValue, skipBlanks_cons hopen,
    skipBlanks_append hspace (not_blank_of_not_closer hfirst)]
  split
  · case h_1 hclose =>
    obtain rfl := (List.cons.inj hclose).1
    exact absurd (by decide) hfirst
  · rfl

theorem readValue_object (fuel : Nat) (hspace : Blank space) (hfirst : first ∉ closers) :
    readValue (fuel + 1) ('\x7b' :: (space ++ first :: rest)) =
      (readMembers fuel (first :: rest)).map fun p => (.object p.1, p.2) := by
  have hopen : '\x7b' ∉ blanks := by decide
  simp only [readValue, skipBlanks_cons hopen,
    skipBlanks_append hspace (not_blank_of_not_closer hfirst)]
  split
  · case h_1 hclose =>
    obtain rfl := (List.cons.inj hclose).1
    exact absurd (by decide) hfirst
  · rfl

theorem readValue_emptyArray (fuel : Nat) (hspace : Blank space) (rest : List Char) :
    readValue (fuel + 1) ('[' :: (space ++ ']' :: rest)) = some (.array [], rest) := by
  have hopen : '[' ∉ blanks := by decide
  have hclose : ']' ∉ blanks := by decide
  simp only [readValue, skipBlanks_cons hopen, skipBlanks_append hspace hclose]

theorem readValue_emptyObject (fuel : Nat) (hspace : Blank space) (rest : List Char) :
    readValue (fuel + 1) ('\x7b' :: (space ++ '\x7d' :: rest)) = some (.object [], rest) := by
  have hopen : '\x7b' ∉ blanks := by decide
  have hclose : '\x7d' ∉ blanks := by decide
  simp only [readValue, skipBlanks_cons hopen, skipBlanks_append hspace hclose]

theorem Complete.value_succ (h : Complete fuel) (hspace : Blank space)
    (hwritten : json.Written taken) (hrest : Ends rest) (hfuel : 2 * taken.length ≤ fuel + 1) :
    readValue (fuel + 1) (space ++ (taken ++ rest)) = some (json, rest) := by
  obtain ⟨first, others, htaken, hfirst⟩ := hwritten.exists_cons
  rw [htaken, List.cons_append, readValue_space fuel hspace (not_blank_of_not_closer hfirst),
    ← List.cons_append, ← htaken]
  cases hwritten with
  | null | yes | no => rfl
  | string hliteral =>
    have hread := readSymbols_recognizes.read_append hliteral rest
    simp [readValue, hread, skipBlanks, isBlank]
  | number h =>
    obtain ⟨first, others, rfl, hfirst⟩ := h.exists_cons
    rw [List.cons_append, readValue_number fuel hfirst, ← List.cons_append,
      readNumber_append h hrest]
    rfl
  | array hlisted =>
    rw [List.cons_append, List.append_assoc, List.singleton_append]
    cases hlisted with
    | none hspace => exact readValue_emptyArray fuel hspace rest
    | some hbody =>
      obtain ⟨space, first, others, hspace, rfl, hfirst, hbody⟩ :=
        hbody.exists_cons Written.exists_cons
      simp only [List.length_cons, List.length_append] at hfuel
      have hread := h.items hbody (by rw [List.length_cons]; omega) rest
      rw [List.append_assoc, List.cons_append, readValue_array fuel hspace hfirst,
        ← List.cons_append, hread]
      rfl
  | object hlisted =>
    rw [List.cons_append, List.append_assoc, List.singleton_append]
    cases hlisted with
    | none hspace => exact readValue_emptyObject fuel hspace rest
    | some hbody =>
      obtain ⟨space, first, others, hspace, rfl, hfirst, hbody⟩ :=
        hbody.exists_cons Member.exists_cons
      simp only [List.length_cons, List.length_append] at hfuel
      have hread := h.members hbody (by rw [List.length_cons]; omega) rest
      rw [List.append_assoc, List.cons_append, readValue_object fuel hspace hfirst,
        ← List.cons_append, hread]
      rfl

theorem Complete.items_succ (h : Complete fuel) (hbody : Separated Written items body)
    (hfuel : 2 * body.length < fuel + 1) (rest : List Char) :
    readItems (fuel + 1) (body ++ ']' :: rest) = some (items, rest) := by
  have hcomma : ',' ∈ closers ∧ ',' ∉ blanks := by decide
  have hclose : ']' ∈ closers ∧ ']' ∉ blanks := by decide
  cases hbody with
  | one hbefore hwritten hafter =>
    simp only [List.length_append] at hfuel
    have hread := h.value hbefore hwritten (ends_append hafter hclose.1 rest) (by omega)
    simp [readItems, hread, skipBlanks_append hafter hclose.2 rest]
  | @cons _ _ _ _ _ others hbefore hwritten hafter hothers =>
    simp only [List.length_append, List.length_cons] at hfuel
    have hends := ends_append hafter hcomma.1 (others ++ ']' :: rest)
    have hread := h.value hbefore hwritten hends (by omega)
    have hread' := h.items hothers (by omega) rest
    simp [readItems, hread, hread', skipBlanks_append hafter hcomma.2 (others ++ ']' :: rest)]

/-- A member is read up to the white space after its value. -/
theorem Complete.member (h : Complete fuel) {member : List Symbol × Json} {before : List Char}
    (hbefore : Blank before) (hmember : Member Written member taken) (hrest : Ends rest)
    (hfuel : 2 * taken.length ≤ fuel + 1) :
    readMembers (fuel + 1) (before ++ (taken ++ rest)) =
      match skipBlanks rest with
      | ',' :: rest => (readMembers fuel rest).map fun p => (member :: p.1, p.2)
      | '\x7d' :: rest => some ([member], rest)
      | _ => none := by
  have hquote : '"' ∉ blanks := by decide
  have hcolon : ':' ∉ blanks := by decide
  obtain ⟨hname, hspace, hspace', hvalue⟩ := hmember
  simp only [List.length_append, List.length_cons] at hfuel
  have hread := h.value hspace' hvalue hrest (by omega)
  simp only [readMembers, List.cons_append, List.append_assoc, skipBlanks_append hbefore hquote,
    readSymbols_recognizes.read_append hname, skipBlanks_append hspace hcolon, hread,
    Option.bind_eq_bind, Option.bind_some, Option.map_eq_bind]
  rfl

theorem Complete.members_succ (h : Complete fuel) (hbody : Separated (Member Written) members body)
    (hfuel : 2 * body.length < fuel + 1) (rest : List Char) :
    readMembers (fuel + 1) (body ++ '\x7d' :: rest) = some (members, rest) := by
  have hcomma : ',' ∈ closers ∧ ',' ∉ blanks := by decide
  have hclose : '\x7d' ∈ closers ∧ '\x7d' ∉ blanks := by decide
  cases hbody with
  | one hbefore hmember hafter =>
    simp only [List.length_append] at hfuel
    have hread := h.member hbefore hmember (ends_append hafter hclose.1 rest) (by omega)
    simpa [skipBlanks_append hafter hclose.2 rest] using hread
  | @cons _ _ _ _ _ others hbefore hmember hafter hothers =>
    simp only [List.length_append, List.length_cons] at hfuel
    have hends := ends_append hafter hcomma.1 (others ++ '\x7d' :: rest)
    have hread := h.member hbefore hmember hends (by omega)
    have hread' := h.members hothers (by omega) rest
    simpa [hread', skipBlanks_append hafter hcomma.2 (others ++ '\x7d' :: rest)] using hread

theorem complete (fuel : Nat) : Complete fuel := by
  induction fuel with
  | zero =>
    constructor
    · intro _ _ _ _ _ hwritten _ hfuel
      -- A writing has at least one character.
      obtain ⟨_, _, rfl, -⟩ := hwritten.exists_cons
      simp at hfuel
    · intro _ _ _ hfuel
      cases hfuel
    · intro _ _ _ hfuel
      cases hfuel
  | succ fuel ih => exact ⟨ih.value_succ, ih.items_succ, ih.members_succ⟩

theorem fuel_suffices (before taken after : List Char) :
    2 * taken.length ≤ 2 * (before ++ (taken ++ after)).length + 2 := by
  simp only [List.length_append]
  omega

/-- A text is read as a value exactly if it consists of a writing of it. -/
theorem parse?_eq_some_iff : parse? input = some json ↔ TextOf json input := by
  constructor
  · intro h
    obtain ⟨⟨value, rest⟩, hread, hend⟩ := Option.bind_eq_some_iff.mp h
    obtain ⟨before, taken, hbefore, hwritten, rfl⟩ := (sound _).value hread
    obtain ⟨hempty, hvalue⟩ := Option.ite_none_right_eq_some.mp hend
    cases hvalue
    obtain ⟨after, hafter, rfl⟩ := exists_blank_append (List.isEmpty_iff.mp hempty)
    rw [List.append_nil]
    exact .mk hbefore hwritten hafter
  · rintro @⟨before, taken, after, hbefore, hwritten, hafter⟩
    have hfuel := fuel_suffices before taken after
    have hread := (complete _).value hbefore hwritten hafter.ends hfuel
    exact Option.bind_eq_some_iff.mpr ⟨_, hread, if_pos (skipBlanks_blank hafter)⟩

end GatewayClient.Json
