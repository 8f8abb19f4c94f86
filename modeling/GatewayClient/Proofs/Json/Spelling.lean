import GatewayClient.Json.Quoted
import GatewayClient.Proofs.Json.Words
/-!
# What a string literal spells

A text has many spellings, as each of its characters may be escaped by its UTF-16 units
(`Json.Spells`). A literal spells one text at most (`Json.Literal.spells_iff`), and none if half of
a surrogate pair is on its own. Quoting finds one of the spellings (`Json.quoted`).
-/

namespace GatewayClient.Json

open Reader

/-- A character in UTF-16: one unit in the basic plane, and a surrogate pair above it. -/
def units (c : Char) : List Nat :=
  if c.toNat < 0x10000 then [c.toNat]
  else [0xd800 + (c.toNat - 0x10000) / 0x400, 0xdc00 + (c.toNat - 0x10000) % 0x400]

/-- The symbols are the characters of the text, some of them as the escapes of their units. -/
inductive Spells : List Symbol → List Char → Prop where
  | nil : Spells [] []
  | plain {c : Char} {symbols : List Symbol} {text : List Char} (h : Spells symbols text) :
      Spells (.char c :: symbols) (c :: text)
  | escaped {c : Char} {symbols : List Symbol} {text : List Char} (h : Spells symbols text) :
      Spells ((units c).map .unit ++ symbols) (c :: text)

/-- An escape of a literal names a unit of sixteen bits. -/
def Symbol.Fits : Symbol → Prop
  | .char _ => True
  | .unit u => u < 0x10000

variable {c : Char} {symbols : List Symbol} {text taken : List Char} {u high low : Nat}

/-! ## Units -/

theorem toNat_ofNat (hvalid : u.isValidChar) : (Char.ofNat u).toNat = u := by
  rw [Char.ofNat, dif_pos hvalid]
  rfl

theorem units_ofNat (hu : u < 0x10000) (hsurrogate : ¬(0xd800 ≤ u ∧ u < 0xe000)) :
    units (Char.ofNat u) = [u] := by
  have hvalid : u.isValidChar := by
    rw [Nat.isValidChar]
    omega
  rw [units, toNat_ofNat hvalid, if_pos hu]

theorem units_pair (hhigh : 0xd800 ≤ high ∧ high < 0xdc00) (hlow : 0xdc00 ≤ low ∧ low < 0xe000) :
    units (Char.ofNat (0x10000 + (high - 0xd800) * 0x400 + (low - 0xdc00))) = [high, low] := by
  generalize hn : 0x10000 + (high - 0xd800) * 0x400 + (low - 0xdc00) = n
  have hvalid : n.isValidChar := by
    rw [Nat.isValidChar]
    omega
  have hquotient : 0xd800 + (n - 0x10000) / 0x400 = high := by omega
  have hremainder : 0xdc00 + (n - 0x10000) % 0x400 = low := by omega
  rw [units, toNat_ofNat hvalid, if_neg (by omega), hquotient, hremainder]

/-! ## The text of a literal -/

theorem text?_unit (hsurrogate : ¬(0xd800 ≤ u ∧ u < 0xe000)) :
    text? (.unit u :: symbols) = (text? symbols).map (Char.ofNat u :: ·) := by
  have hhigh : ¬(0xd800 ≤ u ∧ u < 0xdc00) := by omega
  have hlow : ¬(0xdc00 ≤ u ∧ u < 0xe000) := by omega
  match symbols with
  | [] | .char _ :: _ => exact if_neg hsurrogate
  | .unit _ :: _ => rw [text?, if_neg hhigh, if_neg hlow]

theorem text?_escaped (c : Char) (symbols : List Symbol) :
    text? ((units c).map .unit ++ symbols) = (text? symbols).map (c :: ·) := by
  have hvalid : c.toNat.isValidChar := c.valid
  rw [Nat.isValidChar] at hvalid
  unfold units
  split
  · case isTrue =>
    rw [List.map_singleton, List.singleton_append, text?_unit (by omega), Char.ofNat_toNat]
  · case isFalse =>
    have hhigh : 0xd800 ≤ 0xd800 + (c.toNat - 0x10000) / 0x400 ∧
        0xd800 + (c.toNat - 0x10000) / 0x400 < 0xdc00 := by omega
    have hlow : 0xdc00 ≤ 0xdc00 + (c.toNat - 0x10000) % 0x400 ∧
        0xdc00 + (c.toNat - 0x10000) % 0x400 < 0xe000 := by omega
    have hc : 0x10000 + (0xd800 + (c.toNat - 0x10000) / 0x400 - 0xd800) * 0x400 +
        (0xdc00 + (c.toNat - 0x10000) % 0x400 - 0xdc00) = c.toNat := by omega
    simp only [List.map_cons, List.map_nil, List.cons_append, List.nil_append, text?, if_pos hhigh,
      if_pos hlow, hc, Char.ofNat_toNat]

theorem text?_of_spells (h : Spells symbols text) : text? symbols = some text := by
  induction h with
  | nil => rfl
  | plain _ ih => rw [text?, ih, Option.map_some]
  | escaped _ ih => rw [text?_escaped, ih, Option.map_some]

theorem Spells.unique {other : List Char} (h : Spells symbols text) (h' : Spells symbols other) :
    text = other :=
  Option.some.inj ((text?_of_spells h).symm.trans (text?_of_spells h'))

theorem Spells.cons_units {us : List Nat} (h : Spells symbols text) (hunits : units c = us) :
    Spells (us.map .unit ++ symbols) (c :: text) :=
  hunits ▸ .escaped h

theorem spells_of_text? (hfits : ∀ symbol ∈ symbols, symbol.Fits)
    (h : text? symbols = some text) : Spells symbols text := by
  fun_induction text? symbols generalizing text with
  | case1 =>
    cases h
    exact .nil
  | case2 c symbols ih =>
    obtain ⟨others, hothers, rfl⟩ := Option.map_eq_some_iff.mp h
    exact .plain (ih (List.forall_mem_cons.mp hfits).2 hothers)
  | case3 high low symbols hhigh hlow ih =>
    obtain ⟨others, hothers, rfl⟩ := Option.map_eq_some_iff.mp h
    have hspells := ih (List.forall_mem_cons.mp (List.forall_mem_cons.mp hfits).2).2 hothers
    exact (hspells.cons_units (units_pair hhigh hlow) :)
  | case4 | case5 => cases h
  | case6 high low symbols hhigh hlow ih =>
    obtain ⟨others, hothers, rfl⟩ := Option.map_eq_some_iff.mp h
    obtain ⟨hunit, hrest⟩ := List.forall_mem_cons.mp hfits
    exact ((ih hrest hothers).cons_units (units_ofNat hunit (by omega)) :)
  | case7 => cases h
  | case8 u symbols _ hsurrogate ih =>
    obtain ⟨others, hothers, rfl⟩ := Option.map_eq_some_iff.mp h
    obtain ⟨hunit, hrest⟩ := List.forall_mem_cons.mp hfits
    exact ((ih hrest hothers).cons_units (units_ofNat hunit hsurrogate) :)

theorem IsUnit.lt {digits : List Char} (h : IsUnit u digits) : u < 0x10000 := by
  have hdigit : ∀ digit ∈ hexDigits, digit.2 < 16 := by decide
  obtain ⟨ha, hb, hc, hd⟩ := h
  have := hdigit _ ha
  have := hdigit _ hb
  have := hdigit _ hc
  have := hdigit _ hd
  omega

theorem Symbol.Written.fits {symbol : Symbol} (h : symbol.Written taken) : symbol.Fits := by
  cases h with
  | plain | escape => trivial
  | unit h => exact h.lt

theorem Literal.fits (h : Literal symbols taken) : ∀ symbol ∈ symbols, symbol.Fits := by
  obtain ⟨hrow⟩ := h
  induction hrow with
  | nil => exact List.forall_mem_nil _
  | cons hfirst _ ih => exact List.forall_mem_cons.mpr ⟨hfirst.fits, ih⟩

/-- The text of a literal is the one that it spells. -/
theorem Literal.spells_iff (h : Literal symbols taken) :
    text? symbols = some text ↔ Spells symbols text :=
  ⟨spells_of_text? h.fits, text?_of_spells⟩

/-! ## Quoting -/

theorem hexDigit_mem (n : Nat) : (hexDigit n, n % 16) ∈ hexDigits := by
  have hall : ∀ i < 16, (Nat.digitChar i, i) ∈ hexDigits := by decide
  exact hall (n % 16) (Nat.mod_lt n (by decide))

theorem quoteChar_of_escape {e : Char} (h : (e, c) ∈ escapes) (he : e ≠ '/') :
    quoteChar c = ['\\', e] := by
  have hall : ∀ escape ∈ escapes, escape.1 ≠ '/' → quoteChar escape.2 = ['\\', escape.1] := by
    decide
  exact hall (e, c) h he

theorem quoteChar_of_not_escape (h : ∀ e, (e, c) ∈ escapes → e = '/') :
    quoteChar c =
      if c.toNat < 0x20 then ['\\', 'u', '0', '0', hexDigit (c.toNat / 16), hexDigit c.toNat]
      else [c] := by
  have hne {d : Char} (hd : ∃ e, (e, d) ∈ escapes ∧ e ≠ '/') : c ≠ d := by
    rintro rfl
    obtain ⟨e, he, hslash⟩ := hd
    exact hslash (h e he)
  rw [quoteChar, if_neg (hne ⟨'"', by decide⟩), if_neg (hne ⟨'\\', by decide⟩),
    if_neg (hne ⟨'b', by decide⟩), if_neg (hne ⟨'f', by decide⟩), if_neg (hne ⟨'n', by decide⟩),
    if_neg (hne ⟨'r', by decide⟩), if_neg (hne ⟨'t', by decide⟩)]

theorem control_written (hcontrol : c.toNat < 0x20) :
    (Symbol.unit c.toNat).Written
      ['\\', 'u', '0', '0', hexDigit (c.toNat / 16), hexDigit c.toNat] := by
  have hzero : ('0', 0) ∈ hexDigits := by decide
  have hunit := IsUnit.mk hzero hzero (hexDigit_mem (c.toNat / 16)) (hexDigit_mem c.toNat)
  have hvalue : 16 * (16 * (16 * 0 + 0) + c.toNat / 16 % 16) + c.toNat % 16 = c.toNat := by omega
  rw [hvalue] at hunit
  exact .unit hunit

/-- A quoted character is one symbol, which spells the character. -/
theorem quoteChar_written (c : Char) :
    ∃ symbol : Symbol, symbol.Written (quoteChar c) ∧
      ∀ symbols text, Spells symbols text → Spells (symbol :: symbols) (c :: text) := by
  by_cases hescape : ∃ e, (e, c) ∈ escapes ∧ e ≠ '/'
  · obtain ⟨e, h, he⟩ := hescape
    rw [quoteChar_of_escape h he]
    exact ⟨.char c, .escape h, fun _ _ => .plain⟩
  · have hslash : ∀ e, (e, c) ∈ escapes → e = '/' := by
      simpa only [not_exists, not_and, not_not] using hescape
    rw [quoteChar_of_not_escape hslash]
    by_cases hcontrol : c.toNat < 0x20
    · rw [if_pos hcontrol]
      have hunits : units c = [c.toNat] := if_pos (Nat.lt_trans hcontrol (by decide))
      exact ⟨.unit c.toNat, control_written hcontrol, fun _ _ h => (h.cons_units hunits :)⟩
    · rw [if_neg hcontrol]
      refine ⟨.char c, .plain (Nat.le_of_not_lt hcontrol) ?_ ?_, fun _ _ => .plain⟩
      · rintro rfl
        exact absurd (hslash '"' (by decide)) (by decide)
      · rintro rfl
        exact absurd (hslash '\\' (by decide)) (by decide)

/-- A quoted text is a literal that spells the text. -/
theorem quoted (text : List Char) :
    ∃ symbols literal, quote text = '"' :: literal ∧ Literal symbols literal ∧
      Spells symbols text := by
  suffices h : ∃ symbols, Row Symbol.Written symbols (text.flatMap quoteChar) ∧
      Spells symbols text by
    obtain ⟨symbols, hrow, hspells⟩ := h
    exact ⟨symbols, _, rfl, .mk hrow, hspells⟩
  induction text with
  | nil => exact ⟨[], .nil, .nil⟩
  | cons c text ih =>
    obtain ⟨symbols, hrow, hspells⟩ := ih
    obtain ⟨symbol, hwritten, hcons⟩ := quoteChar_written c
    exact ⟨symbol :: symbols, .cons hwritten hrow, hcons symbols text hspells⟩

end GatewayClient.Json
