import GatewayClient.Proofs.Toml.Numbers
import GatewayClient.Proofs.Toml.Strings
import Mathlib.Data.List.Nodup
/-!
# Documents there and back

A document is written as entries under bare keys, first those of the whole document and then
those of its sections. Its lines are read one by one, and put together again as a table with a
table for each section, provided that no two keys in one place are alike.

Main statement: `Document.parse?_eq`.
-/

namespace GatewayClient.Toml

/-! ## Values at the end of a line -/

/-- A text that stands for a value where a line ends after it. -/
structure Denotes (text : List Char) (value : Value) : Prop where
  head : ∀ c ∈ text.head?, isBlank c = false
  read : ∀ rest, readValue (text ++ '\n' :: rest) = some (value, '\n' :: rest)

theorem Denotes.string (text : List Char) : Denotes (renderString text) (.string text) where
  head := by
    intro c hc
    have hread := @readString_renderString [] text (by simp) (by simp)
    rw [List.append_nil] at hread
    obtain ⟨input, hinput | hinput⟩ := readString_eq_some hread
    · rw [hinput] at hc; cases hc; rfl
    · rw [hinput] at hc; cases hc; rfl
  read rest := readValue_renderString text (by simp) (by simp)

theorem Scalar.IsNumeric.isBlank {word : List Char} (h : IsNumeric word) :
    ∀ c ∈ word.head?, isBlank c = false := fun c hc =>
  (isWordChar_of_numeric (h.mem c (List.mem_of_mem_head? hc))).2.1

theorem Denotes.nat {n : Nat} {digits : List Char} (h : renderNat? n = some digits) :
    Denotes digits (.integer n) where
  head := by
    unfold renderNat? at h
    split at h
    · cases h; exact (Scalar.isNumeric_toDigits n).isBlank
    · cases h
  read rest := readValue_renderNat? h (by simp; decide)

theorem Denotes.float {x : Binary64} (h : x.isFinite = true) :
    Denotes (renderFloat x) (.float x) where
  head := (Scalar.isNumeric_renderFloat h).isBlank
  read rest := readValue_renderFloat h (by simp; decide)

/-! ## Keys -/

/-- Keys that are written without quotes. -/
def IsBare (key : Key) : Prop := key ≠ [] ∧ ∀ c ∈ key, isBareKeyChar c = true

instance (key : Key) : Decidable (IsBare key) :=
  decidable_of_iff (key ≠ [] ∧ key.all isBareKeyChar = true) (by rw [IsBare, List.all_eq_true])

variable {key : Key} {rest : List Char}

/-- What a line may start with says that it has a key. -/
theorem ne_of_isBareKeyChar {c : Char} (h : isBareKeyChar c = true) :
    isBlank c = false ∧ c ≠ '"' ∧ c ≠ '\'' ∧ c ≠ '[' ∧ c ≠ '#' ∧ c ≠ '\n' ∧ c ≠ '\r'
      ∧ c ≠ '\ufeff' := by
  refine ⟨?_, ?_, ?_, ?_, ?_, ?_, ?_, ?_⟩
  · by_contra hblank
    simp only [isBlank, Bool.not_eq_false, Bool.or_eq_true, beq_iff_eq] at hblank
    rcases hblank with rfl | rfl <;> cases h
  all_goals rintro rfl; cases h

theorem IsBare.exists_cons (h : IsBare key) :
    ∃ c cs, key = c :: cs ∧ isBareKeyChar c = true := by
  obtain ⟨c, cs, rfl⟩ := List.exists_cons_of_ne_nil h.1
  exact ⟨c, cs, rfl, h.2 c List.mem_cons_self⟩

theorem skipBlanks_append (h : IsBare key) (rest : List Char) :
    skipBlanks (key ++ rest) = key ++ rest := by
  obtain ⟨c, cs, rfl, hc⟩ := h.exists_cons
  rw [skipBlanks, List.cons_append, List.dropWhile_cons_of_neg]
  simp [(ne_of_isBareKeyChar hc).1]

theorem readKey_append (h : IsBare key) (hrest : ∀ c ∈ rest.head?, isBareKeyChar c = false) :
    readKey (key ++ rest) = some (key, rest) := by
  obtain ⟨htake, hdrop⟩ := span_append h.2 hrest
  obtain ⟨c, cs, rfl, hc⟩ := h.exists_cons
  obtain ⟨-, hquote, hmark, -⟩ := ne_of_isBareKeyChar hc
  unfold readKey
  split
  · next heq => exact absurd (List.cons.inj heq).1 hquote
  · next heq => exact absurd (List.cons.inj heq).1 hmark
  · rw [htake, hdrop]

theorem readPath_append (h : IsBare key) (hrest : ∀ c ∈ rest.head?, isBareKeyChar c = false)
    (hdot : ∀ r, skipBlanks rest ≠ '.' :: r) (names : Nat) :
    readPath (names + 1) (key ++ rest) = some ([key], skipBlanks rest) := by
  rw [readPath, skipBlanks_append h, readKey_append h hrest]
  simp only [Option.bind_eq_bind, Option.bind_some]

/-! ## Lines -/

theorem skipBlanks_eq_self (h : ∀ c ∈ rest.head?, isBlank c = false) : skipBlanks rest = rest := by
  cases rest with
  | nil => rfl
  | cons c rest => rw [skipBlanks, List.dropWhile_cons_of_neg (by simp [h c rfl])]

theorem readPair_entry {value : List Char} {v : Value} {name : String} (h : IsBare name.toList)
    (hvalue : Denotes value v) (rest : List Char) :
    readPair readValue (renderEntry name value ++ rest)
      = some (([name.toList], v), '\n' :: rest) := by
  have happend : renderEntry name value ++ rest
      = name.toList ++ (' ' :: '=' :: ' ' :: (value ++ '\n' :: rest)) := by
    simp [renderEntry]
  have hpath := readPath_append h (show ∀ c ∈ (' ' :: '=' :: ' ' :: (value ++ '\n' :: rest)).head?,
    isBareKeyChar c = false by simp; decide) (by rintro r ⟨⟩) (depthLimit - 2)
  -- the value may be empty, as far as its type goes, and then a line break follows
  have hvalue' : skipBlanks (' ' :: (value ++ '\n' :: rest)) = value ++ '\n' :: rest := by
    refine Eq.trans (List.dropWhile_cons_of_pos rfl) (skipBlanks_eq_self ?_)
    cases value with
    | nil => rintro c ⟨⟩; rfl
    | cons c value => exact hvalue.head
  have hequals : skipBlanks (' ' :: '=' :: ' ' :: (value ++ '\n' :: rest))
      = '=' :: ' ' :: (value ++ '\n' :: rest) := rfl
  rw [hequals] at hpath
  rw [happend, readPair, show depthLimit - 1 = depthLimit - 2 + 1 from rfl, hpath]
  simp only [Option.bind_eq_bind, Option.bind_some, hvalue', hvalue.read]
  rfl

theorem readLine_entry {value : List Char} {v : Value} {name : String} (h : IsBare name.toList)
    (hvalue : Denotes value v) (rest : List Char) :
    readLine (renderEntry name value ++ rest) = some (.entry [name.toList] v, rest) := by
  have hpair := readPair_entry h hvalue rest
  obtain ⟨c, cs, hcons, hc⟩ := h.exists_cons
  have hbracket := (ne_of_isBareKeyChar hc).2.2.2.1
  simp only [renderEntry, hcons, List.cons_append] at hpair ⊢
  rw [readLine]
  · rw [hpair]
    rfl
  · exact fun r heq => hbracket (List.cons.inj heq).1
  · exact fun r heq => hbracket (List.cons.inj heq).1

theorem readLine_header {name : String} (h : IsBare name.toList) (rest : List Char) :
    readLine (renderHeader name ++ rest) = some (.table [name.toList], rest) := by
  have hpath := readPath_append h (show ∀ c ∈ (']' :: '\n' :: rest).head?,
    isBareKeyChar c = false by simp; decide) (by rintro r ⟨⟩) (depthLimit - 2)
  have hclose : skipBlanks (']' :: '\n' :: rest) = ']' :: '\n' :: rest := rfl
  have happend : renderHeader name ++ rest = '[' :: (name.toList ++ (']' :: '\n' :: rest)) := by
    simp [renderHeader]
  rw [hclose] at hpath
  rw [happend, readLine, show depthLimit - 1 = depthLimit - 2 + 1 from rfl, hpath]
  · rfl
  · rintro r heq
    obtain ⟨c, cs, hcons, hc⟩ := h.exists_cons
    rw [hcons] at heq
    exact (ne_of_isBareKeyChar hc).2.2.2.1 (List.cons.inj heq).1

/-! ## Texts -/

/-- A text of written lines, and the lines in it that are not blank. -/
inductive Layout : List Char → List Line → Prop where
  | nil : Layout [] []
  | blank {text : List Char} {lines : List Line} (h : Layout text lines) :
      Layout ('\n' :: text) lines
  | entry {name : String} {value text : List Char} {v : Value} {lines : List Line}
      (hname : IsBare name.toList) (hvalue : Denotes value v) (h : Layout text lines) :
      Layout (renderEntry name value ++ text) (.entry [name.toList] v :: lines)
  | header {name : String} {text : List Char} {lines : List Line}
      (hname : IsBare name.toList) (h : Layout text lines) :
      Layout (renderHeader name ++ text) (.table [name.toList] :: lines)

theorem Layout.append {text text' : List Char} {lines lines' : List Line} (h : Layout text lines)
    (h' : Layout text' lines') : Layout (text ++ text') (lines ++ lines') := by
  induction h with
  | nil => exact h'
  | blank _ ih => exact ih.blank
  | entry hname hvalue _ ih =>
    rw [List.append_assoc]
    exact .entry hname hvalue ih
  | header hname _ ih =>
    rw [List.append_assoc]
    exact .header hname ih

theorem Layout.oneEntry {name : String} {value : List Char} {v : Value} (hname : IsBare name.toList)
    (hvalue : Denotes value v) : Layout (renderEntry name value) [.entry [name.toList] v] := by
  simpa using Layout.entry hname hvalue .nil

theorem Layout.oneHeader {name : String} (hname : IsBare name.toList) :
    Layout ('\n' :: renderHeader name) [.table [name.toList]] := by
  simpa using (Layout.header hname .nil).blank

/-- A line that does not look like a blank one or a comment is read as it is. -/
theorem readLines_of_readLine {c : Char} {input rest : List Char} {line : Line}
    (hc : isBlank c = false ∧ c ≠ '#' ∧ c ≠ '\n' ∧ c ≠ '\r')
    (h : readLine (c :: input) = some (line, rest)) (fuel : Nat) :
    readLines (fuel + 1) (c :: input) = (readLines fuel rest).map (line :: ·) := by
  have hblank : skipBlanks (c :: input) = c :: input :=
    skipBlanks_eq_self (by rintro d ⟨⟩; exact hc.1)
  rw [readLines, hblank, Option.map_eq_bind]
  split
  · next heq => cases heq
  · next heq => exact absurd (List.cons.inj heq).1 hc.2.1
  · next heq => exact absurd (List.cons.inj heq).1 hc.2.2.1
  · next heq => exact absurd (List.cons.inj heq).1 hc.2.2.2
  · rw [h]
    rfl

/-- Every line has a character at least, so the length of a text bounds its lines. -/
theorem Layout.readLines_eq {text : List Char} {lines : List Line} (h : Layout text lines)
    {fuel : Nat} (hfuel : text.length < fuel) : readLines fuel text = some lines := by
  induction h generalizing fuel with
  | nil =>
    match fuel, hfuel with
    | fuel + 1, _ => rfl
  | blank h ih =>
    match fuel, hfuel with
    | fuel + 1, hfuel => exact ih (by simpa using hfuel)
  | @entry name value text v lines hname hvalue h ih =>
    match fuel, hfuel with
    | fuel + 1, hfuel =>
      have hrest := @ih fuel (by simp [renderEntry] at hfuel; omega)
      have hline := readLine_entry hname hvalue text
      obtain ⟨c, cs, hcons, hc⟩ := hname.exists_cons
      obtain ⟨hblank, -, -, -, hhash, hbreak, hreturn, -⟩ := ne_of_isBareKeyChar hc
      simp only [renderEntry, hcons, List.cons_append] at hline ⊢
      rw [readLines_of_readLine ⟨hblank, hhash, hbreak, hreturn⟩ hline, hrest]
      rfl
  | @header name text lines hname h ih =>
    match fuel, hfuel with
    | fuel + 1, hfuel =>
      have hrest := @ih fuel (by simp [renderHeader] at hfuel; omega)
      have hline := readLine_header hname text
      rw [renderHeader, List.cons_append] at hline ⊢
      rw [readLines_of_readLine (by decide) hline, hrest]
      rfl

theorem Layout.ne_mark {text : List Char} {lines : List Line} (h : Layout text lines)
    (rest : List Char) : text ≠ '\ufeff' :: rest := by
  intro heq
  cases h with
  | nil => cases heq
  | blank h => exact absurd (List.cons.inj heq).1 (by decide)
  | @entry name value text v lines hname hvalue h =>
    obtain ⟨c, cs, hcons, hc⟩ := hname.exists_cons
    rw [renderEntry, hcons] at heq
    exact (ne_of_isBareKeyChar hc).2.2.2.2.2.2.2 (List.cons.inj heq).1
  | header hname h => exact absurd (List.cons.inj heq).1 (by decide)

theorem Layout.parse?_eq {text : List Char} {lines : List Line} (h : Layout text lines) :
    parse? text = ofLines? lines := by
  rw [parse?]
  · simp only [h.readLines_eq (Nat.lt_succ_self _), Option.bind_eq_bind, Option.bind_some]
  · exact h.ne_mark

/-! ## Tables -/

/-- What a written document holds: entries, and then sections with entries of their own. -/
structure Document where
  entries : List (Key × Value)
  sections : List (Key × List (Key × Value))

namespace Document

def entryLine (entry : Key × Value) : Line := .entry [entry.1] entry.2

def lines (doc : Document) : List Line :=
  doc.entries.map entryLine
    ++ doc.sections.flatMap fun part => .table [part.1] :: part.2.map entryLine

/-- The table of a section. -/
def sectionEntry (part : Key × List (Key × Value)) : Key × Value := (part.1, .table .header part.2)

/-- The table that the lines stand for. -/
def table (doc : Document) : Entries := doc.entries ++ doc.sections.map sectionEntry

/-- No key is used twice in one place. -/
structure Distinct (doc : Document) : Prop where
  keys : (doc.table.map Prod.fst).Nodup
  parts : ∀ part ∈ doc.sections, (part.2.map Prod.fst).Nodup

theorem lookup_eq_none {entries : Entries} {key : Key} (h : key ∉ entries.map Prod.fst) :
    entries.lookup key = none := by
  refine List.lookup_eq_none_iff.2 fun p hp => ?_
  rw [bne_iff_ne]
  rintro rfl
  exact h (List.mem_map_of_mem hp)

theorem not_mem_of_nodup {front back : Entries} {entry : Key × Value}
    (h : ((front ++ entry :: back).map Prod.fst).Nodup) : entry.1 ∉ front.map Prod.fst := by
  rw [List.map_append, List.map_cons, List.nodup_middle, List.nodup_cons] at h
  exact fun hmem => h.1 (List.mem_append_left _ hmem)

theorem fill?_append {entries pairs : Entries}
    (h : ((entries ++ pairs).map Prod.fst).Nodup) :
    Entries.fill? entries (pairs.map fun p => ([p.1], p.2)) = some (entries ++ pairs) := by
  induction pairs generalizing entries with
  | nil => simp [Entries.fill?]
  | cons p pairs ih =>
    -- the key is new, so its entry goes to the end of those before it
    have hp := not_mem_of_nodup h
    rw [List.append_cons] at h ⊢
    rw [← ih h]
    simp [Entries.fill?, Entries.insert?, Entries.insertNew?, lookup_eq_none hp]

theorem splitSections_entries (pairs : Entries) (lines : List Line) :
    splitSections (pairs.map entryLine ++ lines)
      = (pairs.map (fun p => ([p.1], p.2)) ++ (splitSections lines).1, (splitSections lines).2) := by
  induction pairs with
  | nil => simp
  | cons p pairs ih =>
    rw [List.map_cons, List.cons_append, entryLine, splitSections, ih]
    rfl

theorem splitSections_sections (sections : List (Key × List (Key × Value))) :
    splitSections (sections.flatMap fun part => .table [part.1] :: part.2.map entryLine)
      = ([], sections.map fun part => (.table [part.1], part.2.map fun p => ([p.1], p.2))) := by
  induction sections with
  | nil => rfl
  | cons part sections ih =>
    rw [List.flatMap_cons, List.cons_append, splitSections, splitSections_entries, ih,
      List.append_nil]
    · rfl
    · rintro path value ⟨⟩

theorem addSection?_append {root pairs : Entries} {key : Key} (hkey : key ∉ root.map Prod.fst)
    (hpairs : (pairs.map Prod.fst).Nodup) :
    addSection? root (.table [key], pairs.map fun p => ([p.1], p.2))
      = some (root ++ [(key, .table .header pairs)]) := by
  have hfill := @fill?_append [] pairs (by simpa using hpairs)
  simp [addSection?, Entries.modifyAt?, Entries.define?, lookup_eq_none hkey, hfill]

theorem foldlM_addSection? {root : Entries} {sections : List (Key × List (Key × Value))}
    (hkeys : ((root ++ sections.map sectionEntry).map Prod.fst).Nodup)
    (hparts : ∀ part ∈ sections, (part.2.map Prod.fst).Nodup) :
    (sections.map fun part => (Line.table [part.1], part.2.map fun p => ([p.1], p.2))).foldlM
      addSection? root = some (root ++ sections.map sectionEntry) := by
  induction sections generalizing root with
  | nil => simp
  | cons part sections ih =>
    rw [List.forall_mem_cons] at hparts
    have hkey : part.1 ∉ root.map Prod.fst := not_mem_of_nodup hkeys
    rw [List.map_cons, List.foldlM_cons, addSection?_append hkey hparts.1]
    rw [List.map_cons, List.append_cons] at hkeys
    rw [List.map_cons, List.append_cons root (sectionEntry part)]
    exact ih hkeys hparts.2

/-- A document that uses no key twice is put together as it was written. -/
theorem ofLines?_lines {doc : Document} (h : doc.Distinct) :
    ofLines? doc.lines = some doc.table := by
  have hkeys := h.keys
  rw [table, List.map_append, List.nodup_append] at hkeys
  have hfill := @fill?_append [] doc.entries hkeys.1
  rw [ofLines?, lines, splitSections_entries, splitSections_sections, List.append_nil]
  simp only [hfill, Option.bind_eq_bind, Option.bind_some]
  exact foldlM_addSection? h.keys h.parts

theorem parse?_eq {doc : Document} {text : List Char} (h : Layout text doc.lines)
    (hdistinct : doc.Distinct) : parse? text = some doc.table :=
  h.parse?_eq.trans (ofLines?_lines hdistinct)

end Document

end GatewayClient.Toml
