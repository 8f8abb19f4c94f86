import Mathlib.Data.List.TakeWhile
import GatewayClient.Json.Reader
import GatewayClient.Proofs.Json.Grammar
import GatewayClient.Proofs.Text.Ascii
/-!
# Reading the words of JSON

White space, string literals and numbers. A string literal ends with its quote, whatever
follows (`Json.readSymbols_recognizes`). A number only ends where no character follows that could
belong to it (`Json.readNumber_append`).
-/

namespace GatewayClient.Json

open Reader

variable {c : Char} {space rest input : List Char}

/-! ## White space -/

theorem isBlank_iff : isBlank c = true ↔ c ∈ blanks := by
  simp [isBlank, blanks, or_assoc]

theorem exists_blank_append (h : skipBlanks input = rest) :
    ∃ space, Blank space ∧ input = space ++ rest :=
  ⟨input.takeWhile isBlank,
    fun c hc => isBlank_iff.mp (List.all_eq_true.mp List.all_takeWhile c hc),
    h ▸ List.takeWhile_append_dropWhile.symm⟩

theorem Blank.append {others : List Char} (h : Blank space) (h' : Blank others) :
    Blank (space ++ others) :=
  List.forall_mem_append.mpr ⟨h, h'⟩

theorem skipBlanks_cons (hc : c ∉ blanks) (rest : List Char) :
    skipBlanks (c :: rest) = c :: rest :=
  List.dropWhile_cons_of_neg (mt isBlank_iff.mp hc)

theorem skipBlanks_append (hspace : Blank space) (hc : c ∉ blanks) (rest : List Char) :
    skipBlanks (space ++ c :: rest) = c :: rest := by
  rw [skipBlanks, List.dropWhile_append_of_pos fun c hc => isBlank_iff.mpr (hspace c hc)]
  exact skipBlanks_cons hc rest

theorem skipBlanks_blank (h : Blank space) : (skipBlanks space).isEmpty = true :=
  List.isEmpty_iff.mpr (List.dropWhile_eq_nil_iff.mpr fun c hc => isBlank_iff.mpr (h c hc))

/-! ## Where a value may end -/

/-- White space, commas and closing brackets. No value starts with one of them. -/
def closers : List Char := blanks ++ [',', ']', '\x7d']

/-- What may follow a value. -/
def Ends (rest : List Char) : Prop := ∀ c ∈ rest.head?, c ∈ closers

theorem Blank.ends (h : Blank space) : Ends space := fun c hc =>
  List.mem_append_left [',', ']', '\x7d'] (h c (List.mem_of_mem_head? hc))

/-- White space, a comma or a closing bracket after a value ends it. -/
theorem ends_append (hspace : Blank space) (hc : c ∈ closers) (rest : List Char) :
    Ends (space ++ c :: rest) := by
  cases space with
  | nil => exact fun _ h => Option.some.inj h ▸ hc
  | cons blank space =>
    have hblank := List.mem_append_left [',', ']', '\x7d'] (hspace blank List.mem_cons_self)
    exact fun _ h => Option.some.inj h ▸ hblank

theorem not_mem_of_isDigit {others : List Char} (hall : others.all fun c => !c.isDigit)
    (h : c.isDigit = true) : c ∉ others := by
  intro hc
  have hdigit := List.all_eq_true.mp hall c hc
  rw [h] at hdigit
  cases hdigit

/-! ## Strings -/

theorem unescape?_eq_some_iff {e : Char} : unescape? e = some c ↔ (e, c) ∈ escapes := by
  constructor
  · intro h
    unfold unescape? at h
    split at h <;> cases h <;> decide
  · have hall : ∀ escape ∈ escapes, unescape? escape.1 = some escape.2 := by decide
    exact hall (e, c)

theorem toNat_lt_of_hexValue? {n : Nat} (h : Digits.hexValue? c = some n) : c.toNat < 0x80 := by
  have hle {upper : Char} (hc : c ≤ upper) : c.toNat ≤ upper.toNat := hc
  unfold Digits.hexValue? at h
  split at h
  · case isTrue hc => exact Nat.lt_of_le_of_lt (hle hc.2) (by decide)
  split at h
  · case isTrue hc => exact Nat.lt_of_le_of_lt (hle hc.2) (by decide)
  split at h
  · case isTrue hc => exact Nat.lt_of_le_of_lt (hle hc.2) (by decide)
  cases h

theorem value?_eq_some_iff {n : Nat} : Digits.value? 16 c = some n ↔ (c, n) ∈ hexDigits := by
  constructor
  · intro h
    have hall : ∀ k < 0x80, ∀ m ∈ Digits.value? 16 (Char.ofNat k),
        (Char.ofNat k, m) ∈ hexDigits := by
      decide +kernel
    have hlt := toNat_lt_of_hexValue? (Option.filter_eq_some_iff.mp h).1
    exact forall_ascii (p := fun c => ∀ m ∈ Digits.value? 16 c, (c, m) ∈ hexDigits) hall hlt n h
  · have hall : ∀ digit ∈ hexDigits, Digits.value? 16 digit.1 = some digit.2 := by decide
    exact hall (c, n)

theorem hexUnit?_eq_some_iff {a b c d : Char} {u : Nat} :
    hexUnit? a b c d = some u ↔ IsUnit u [a, b, c, d] := by
  simp only [hexUnit?, Digits.number?, List.foldlM_cons, List.foldlM_nil, Option.bind_eq_bind,
    Option.bind_eq_some_iff, Option.map_eq_some_iff, value?_eq_some_iff, Option.pure_def,
    Nat.mul_zero, Nat.zero_add]
  constructor
  · rintro ⟨_, ⟨i, ha, rfl⟩, _, ⟨j, hb, rfl⟩, _, ⟨k, hc, rfl⟩, _, ⟨l, hd, rfl⟩, hu⟩
    cases hu
    exact .mk ha hb hc hd
  · rintro ⟨ha, hb, hc, hd⟩
    exact ⟨_, ⟨_, ha, rfl⟩, _, ⟨_, hb, rfl⟩, _, ⟨_, hc, rfl⟩, _, ⟨_, hd, rfl⟩, by simp⟩

theorem Literal.cons {symbol : Symbol} {symbols : List Symbol} {first taken : List Char}
    (hfirst : symbol.Written first) (h : Literal symbols taken) :
    Literal (symbol :: symbols) (first ++ taken) := by
  cases h with
  | mk hrow =>
    rw [← List.append_assoc]
    exact .mk (.cons hfirst hrow)

theorem literal_of_readSymbols {symbols : List Symbol}
    (h : readSymbols input = some (symbols, rest)) :
    ∃ taken, input = taken ++ rest ∧ Literal symbols taken := by
  fun_induction readSymbols input generalizing symbols with
  | case1 =>
    cases h
    exact ⟨['"'], rfl, .mk .nil⟩
  | case2 a b c d input ih =>
    obtain ⟨u, hu, h⟩ := Option.bind_eq_some_iff.mp h
    obtain ⟨⟨others, last⟩, hothers, h⟩ := Option.bind_eq_some_iff.mp h
    cases h
    obtain ⟨taken, rfl, hliteral⟩ := ih hothers
    exact ⟨_, rfl, hliteral.cons (.unit (hexUnit?_eq_some_iff.mp hu))⟩
  | case3 e input _ ih =>
    obtain ⟨c, hc, h⟩ := Option.bind_eq_some_iff.mp h
    obtain ⟨⟨others, last⟩, hothers, h⟩ := Option.bind_eq_some_iff.mp h
    cases h
    obtain ⟨taken, rfl, hliteral⟩ := ih hothers
    exact ⟨_, rfl, hliteral.cons (.escape (unescape?_eq_some_iff.mp hc))⟩
  | case4 => cases h
  | case5 c input hquote _ _ hplain ih =>
    obtain ⟨⟨others, last⟩, hothers, h⟩ := Option.bind_eq_some_iff.mp h
    cases h
    obtain ⟨taken, rfl, hliteral⟩ := ih hothers
    obtain ⟨hcontrol, hbackslash⟩ := not_or.mp hplain
    exact ⟨_, rfl, hliteral.cons (.plain (Nat.le_of_not_lt hcontrol) hquote hbackslash)⟩
  | case6 => cases h

/-- The symbols of a literal are read one at a time. -/
theorem readSymbols_append {symbol : Symbol} {first : List Char} (h : symbol.Written first)
    (rest : List Char) :
    readSymbols (first ++ rest) = (readSymbols rest).map fun p => (symbol :: p.1, p.2) := by
  cases h with
  | plain hcontrol hquote hbackslash =>
    rw [List.singleton_append, readSymbols,
      if_neg (not_or.mpr ⟨Nat.not_lt.mpr hcontrol, hbackslash⟩)]
    · rw [Option.map_eq_bind]
      rfl
    · exact hquote
    · exact fun _ _ _ _ _ hc => absurd hc hbackslash
    · exact fun _ _ hc => absurd hc hbackslash
  | @escape e c h =>
    have hu : e ≠ 'u' := by
      rintro rfl
      simp [escapes] at h
    rw [List.cons_append, List.singleton_append, readSymbols, unescape?_eq_some_iff.mpr h]
    · rw [Option.map_eq_bind]
      rfl
    · exact fun _ _ _ _ _ he => absurd he hu
  | unit h =>
    obtain ⟨ha, hb, hc, hd⟩ := id h
    simp only [List.cons_append, List.nil_append, readSymbols, hexUnit?_eq_some_iff.mpr h]
    rw [Option.map_eq_bind]
    rfl

theorem readSymbols_recognizes : readSymbols.Recognizes Literal := by
  intro input symbols rest
  refine ⟨literal_of_readSymbols, ?_⟩
  rintro ⟨_, rfl, hrow⟩
  cases hrow with
  | mk hrow =>
    induction hrow with
    | nil => rfl
    | cons hfirst _ ih =>
      rw [List.append_assoc, List.append_assoc, readSymbols_append hfirst, ← List.append_assoc, ih]
      rfl

/-! ## Numbers -/

variable {digits whole fraction exponent number : List Char}

theorem Ends.not_in_number (h : Ends rest) (hc : c ∈ rest.head?) :
    c.isDigit = false ∧ c ≠ '.' ∧ c ≠ 'e' ∧ c ≠ 'E' := by
  have hall : closers.all fun c => !c.isDigit && (c != '.' && (c != 'e' && c != 'E')) := by decide
  simpa using List.all_eq_true.mp hall c (h c hc)

theorem IsDigits.exists_cons (h : IsDigits digits) :
    ∃ first others, digits = first :: others ∧ first.isDigit = true := by
  obtain ⟨first, others, rfl⟩ := List.exists_cons_of_ne_nil h.1
  exact ⟨first, others, rfl, h.2 first List.mem_cons_self⟩

theorem digits_of_readDigits (h : readDigits input = some (digits, rest)) :
    input = digits ++ rest ∧ IsDigits digits := by
  unfold readDigits at h
  split at h
  · cases h
  · case h_2 hne =>
    cases h
    refine ⟨List.takeWhile_append_dropWhile.symm, hne, fun c hc => ?_⟩
    exact List.all_eq_true.mp List.all_takeWhile c hc

theorem readDigits_append (h : IsDigits digits) (hrest : ∀ c ∈ rest.head?, c.isDigit = false) :
    readDigits (digits ++ rest) = some (digits, rest) := by
  obtain ⟨htake, hdrop⟩ := span_append h.2 hrest
  obtain ⟨first, others, rfl⟩ := List.exists_cons_of_ne_nil h.1
  rw [readDigits, htake, hdrop]

theorem whole_of_readWhole (h : readWhole input = some (whole, rest)) :
    input = whole ++ rest ∧ IsWhole whole := by
  unfold readWhole at h
  split at h
  · split at h
    · cases h
    · cases h
      exact ⟨rfl, .zero⟩
  · case h_2 hzero =>
    obtain ⟨rfl, hdigits⟩ := digits_of_readDigits h
    obtain ⟨first, others, rfl, -⟩ := hdigits.exists_cons
    exact ⟨rfl, .digits (fun hfirst => hzero _ (by rw [hfirst]; rfl)) hdigits⟩

theorem readWhole_append (h : IsWhole whole) (hrest : ∀ c ∈ rest.head?, c.isDigit = false) :
    readWhole (whole ++ rest) = some (whole, rest) := by
  cases h with
  | zero =>
    have hnone : ¬rest.head?.any Char.isDigit = true := by
      rw [Option.any_eq_true]
      rintro ⟨c, hc, hdigit⟩
      exact absurd hdigit (ne_true_of_eq_false (hrest c hc))
    exact if_neg hnone
  | digits hfirst hdigits =>
    rw [List.cons_append, readWhole]
    · exact readDigits_append hdigits hrest
    · exact fun _ hzero => hfirst (List.cons.inj hzero).1

theorem fraction_of_readFraction (h : readFraction input = some (fraction, rest)) :
    input = fraction ++ rest ∧ IsFraction fraction := by
  unfold readFraction at h
  split at h
  · obtain ⟨⟨digits, last⟩, hdigits, h⟩ := Option.bind_eq_some_iff.mp h
    cases h
    obtain ⟨rfl, hfraction⟩ := digits_of_readDigits hdigits
    exact ⟨rfl, .some hfraction⟩
  · cases h
    exact ⟨rfl, .none⟩

theorem readFraction_append (h : IsFraction fraction)
    (hrest : ∀ c ∈ rest.head?, c.isDigit = false ∧ c ≠ '.') :
    readFraction (fraction ++ rest) = some (fraction, rest) := by
  cases h with
  | none =>
    rw [List.nil_append, readFraction]
    rintro others rfl
    exact (hrest '.' rfl).2 rfl
  | some hdigits =>
    rw [List.cons_append, readFraction, readDigits_append hdigits fun c hc => (hrest c hc).1]
    rfl

/-- The digits of an exponent, whatever its sign. -/
theorem exponent_of_digits {e : Char} {sign : List Char} (he : e = 'e' ∨ e = 'E')
    (hsign : sign ∈ [[], ['+'], ['-']])
    (h : (readDigits input).map (fun p => (e :: (sign ++ p.1), p.2)) = some (exponent, rest)) :
    e :: (sign ++ input) = exponent ++ rest ∧ IsExponent exponent := by
  obtain ⟨⟨digits, last⟩, hdigits, hexponent⟩ := Option.map_eq_some_iff.mp h
  cases hexponent
  obtain ⟨rfl, isDigits⟩ := digits_of_readDigits hdigits
  exact ⟨by simp, .some he hsign isDigits⟩

theorem exponent_of_readExponent (h : readExponent input = some (exponent, rest)) :
    input = exponent ++ rest ∧ IsExponent exponent := by
  unfold readExponent at h
  split at h
  · split at h
    · case isTrue he =>
      split at h
      · exact @exponent_of_digits _ _ _ _ ['+'] he (by decide) h
      · exact @exponent_of_digits _ _ _ _ ['-'] he (by decide) h
      · exact @exponent_of_digits _ _ _ _ [] he (by decide) h
    · cases h
      exact ⟨rfl, .none⟩
  · cases h
    exact ⟨rfl, .none⟩

theorem readExponent_append (h : IsExponent exponent) (hrest : Ends rest) :
    readExponent (exponent ++ rest) = some (exponent, rest) := by
  cases h with
  | none =>
    cases rest with
    | nil => rfl
    | cons c rest =>
      obtain ⟨-, -, he, hE⟩ := hrest.not_in_number rfl
      exact if_neg (not_or.mpr ⟨he, hE⟩)
  | @some e sign digits he hsign hdigits =>
    have hread := readDigits_append hdigits fun c hc => (hrest.not_in_number hc).1
    simp only [List.mem_cons, List.not_mem_nil, or_false] at hsign
    rcases hsign with rfl | rfl | rfl
    · -- Digits do not start with a sign.
      obtain ⟨first, others, rfl, hfirst⟩ := hdigits.exists_cons
      have hplus : first ≠ '+' := by rintro rfl; cases hfirst
      have hminus : first ≠ '-' := by rintro rfl; cases hfirst
      rw [List.nil_append, List.cons_append, readExponent, if_pos he, hread]
      · rfl
      · exact fun _ h => hplus (List.cons.inj h).1
      · exact fun _ h => hminus (List.cons.inj h).1
    · simp [readExponent, he, hread]
    · simp [readExponent, he, hread]

/-- The parts of a number after its sign. -/
def readParts (sign : List Char) : Reader Char (List Char) := fun input => do
  let (whole, rest) ← readWhole input
  let (fraction, rest) ← readFraction rest
  let (exponent, rest) ← readExponent rest
  some (sign ++ whole ++ fraction ++ exponent, rest)

theorem readNumber_minus (rest : List Char) : readNumber ('-' :: rest) = readParts ['-'] rest := rfl

theorem readNumber_of_ne (h : input.head? ≠ some '-') : readNumber input = readParts [] input := by
  cases input with
  | nil => rfl
  | cons c input =>
    have hc : c ≠ '-' := fun hc => h (congrArg some hc)
    simp [readNumber, readParts, hc]

theorem number_of_readParts {sign : List Char} (hsign : sign ∈ [[], ['-']])
    (h : readParts sign input = some (number, rest)) :
    sign ++ input = number ++ rest ∧ IsNumber number := by
  obtain ⟨⟨whole, last⟩, hwhole, h⟩ := Option.bind_eq_some_iff.mp h
  obtain ⟨⟨fraction, last'⟩, hfraction, h⟩ := Option.bind_eq_some_iff.mp h
  obtain ⟨⟨exponent, last''⟩, hexponent, h⟩ := Option.bind_eq_some_iff.mp h
  cases h
  obtain ⟨rfl, isWhole⟩ := whole_of_readWhole hwhole
  obtain ⟨rfl, isFraction⟩ := fraction_of_readFraction hfraction
  obtain ⟨rfl, isExponent⟩ := exponent_of_readExponent hexponent
  simpa using IsNumber.mk hsign isWhole isFraction isExponent

theorem number_of_readNumber (h : readNumber input = some (number, rest)) :
    input = number ++ rest ∧ IsNumber number := by
  by_cases hminus : input.head? = some '-'
  · obtain ⟨others, rfl⟩ := List.head?_eq_some_iff.mp hminus
    exact @number_of_readParts _ _ _ ['-'] (by decide) h
  · rw [readNumber_of_ne hminus] at h
    exact @number_of_readParts _ _ _ [] (by decide) h

theorem IsExponent.ends_fraction (h : IsExponent exponent) (hrest : Ends rest)
    (hc : c ∈ (exponent ++ rest).head?) : c.isDigit = false ∧ c ≠ '.' := by
  cases h with
  | none => exact ⟨(hrest.not_in_number hc).1, (hrest.not_in_number hc).2.1⟩
  | some he =>
    obtain rfl := Option.some.inj hc
    rcases he with rfl | rfl
    · decide
    · decide

theorem IsFraction.ends_whole (h : IsFraction fraction) (hexponent : IsExponent exponent)
    (hrest : Ends rest) (hc : c ∈ (fraction ++ (exponent ++ rest)).head?) : c.isDigit = false := by
  cases h with
  | none => exact (hexponent.ends_fraction hrest hc).1
  | some =>
    obtain rfl := Option.some.inj hc
    rfl

theorem readParts_append {sign : List Char} (hwhole : IsWhole whole)
    (hfraction : IsFraction fraction) (hexponent : IsExponent exponent) (hrest : Ends rest) :
    readParts sign (whole ++ (fraction ++ (exponent ++ rest))) =
      some (sign ++ whole ++ fraction ++ exponent, rest) := by
  have hread := readWhole_append hwhole fun c => hfraction.ends_whole hexponent hrest
  have hread' := readFraction_append hfraction fun c => hexponent.ends_fraction hrest
  simp [readParts, hread, hread', readExponent_append hexponent hrest]

theorem IsWhole.exists_cons (h : IsWhole whole) :
    ∃ first others, whole = first :: others ∧ first.isDigit = true := by
  cases h with
  | zero => exact ⟨'0', [], rfl, rfl⟩
  | digits _ h => exact ⟨_, _, rfl, h.2 _ List.mem_cons_self⟩

theorem IsNumber.exists_cons (h : IsNumber number) :
    ∃ first others, number = first :: others ∧ (first = '-' ∨ first.isDigit = true) := by
  obtain ⟨hsign, hwhole, -, -⟩ := h
  obtain ⟨first, others, rfl, hfirst⟩ := hwhole.exists_cons
  simp only [List.mem_cons, List.not_mem_nil, or_false] at hsign
  rcases hsign with rfl | rfl
  · exact ⟨first, _, rfl, .inr hfirst⟩
  · exact ⟨'-', _, rfl, .inl rfl⟩

/-- A number ends where no character of one follows. -/
theorem readNumber_append (h : IsNumber number) (hrest : Ends rest) :
    readNumber (number ++ rest) = some (number, rest) := by
  obtain ⟨hsign, hwhole, hfraction, hexponent⟩ := h
  have hread (sign : List Char) := @readParts_append _ _ _ _ sign hwhole hfraction hexponent hrest
  simp only [List.mem_cons, List.not_mem_nil, or_false] at hsign
  rcases hsign with rfl | rfl
  · -- Without a sign a number starts with a digit.
    rw [readNumber_of_ne]
    · simpa using hread []
    · obtain ⟨first, others, rfl, hfirst⟩ := hwhole.exists_cons
      rintro ⟨⟩
      cases hfirst
  · simpa [readNumber_minus] using hread ['-']

end GatewayClient.Json
