import GatewayClient.Proofs.Binary64.Decimal
import GatewayClient.Proofs.Reader
import GatewayClient.Toml.Reader
import GatewayClient.Toml.Writer
/-!
# Numbers there and back

The words that stand for numbers: decimal digits for an integer, and digits around a point for a
finite float, which is read as the same number because its digits were chosen so. Neither can be
taken for a date, which has a minus sign or a colon among its digits.

Main statements: `readValue_renderNat?`, `readValue_renderFloat`.
-/

namespace GatewayClient.Toml

/-! ## Digits of words -/

namespace Scalar

variable {word rest digits whole fraction : List Char}

theorem ungroup?_digits (hne : digits ≠ []) (h : ∀ c ∈ digits, c.isDigit = true) :
    ungroup? Char.isDigit digits = some digits := by
  induction digits with
  | nil => exact absurd rfl hne
  | cons d digits ih =>
    rw [List.forall_mem_cons] at h
    match digits with
    | [] => rw [ungroup?, if_pos h.1]
    | e :: digits =>
      have he : e ≠ '_' := by rintro rfl; exact absurd (h.2 _ List.mem_cons_self) (by decide)
      rw [ungroup?, if_pos h.1, ih (by simp) h.2]
      · rfl
      · simp
      · rintro rest ⟨rfl⟩; exact he rfl

/-- Only digits and underscores are a number. -/
theorem mem_of_ungroup? {isDigit : Char → Bool} (h : ungroup? isDigit word = some digits) :
    ∀ c ∈ word, isDigit c = true ∨ c = '_' := by
  fun_induction ungroup? isDigit word generalizing digits with
  | case1 => simp
  | case2 d hd => simp [hd]
  | case3 => cases h
  | case4 d rest hd ih =>
    obtain ⟨ds, hds, -⟩ := Option.map_eq_some_iff.1 h
    simpa [hd] using ih hds
  | case5 => cases h
  | case6 d rest _ _ hd ih =>
    obtain ⟨ds, hds, -⟩ := Option.map_eq_some_iff.1 h
    simpa [hd] using ih hds
  | case7 => cases h

theorem wholeDigits?_digits (hne : digits ≠ []) (h : ∀ c ∈ digits, c.isDigit = true)
    (hhead : digits.head? ≠ some '0' ∨ digits.length = 1) :
    wholeDigits? digits = some digits := by
  rw [wholeDigits?, ungroup?_digits hne h, Option.filter_some, if_pos]
  rcases hhead with hhead | hone
  · simp [hhead]
  · simp [hone]

theorem wholeDigits?_toDigits (n : Nat) :
    wholeDigits? (Nat.toDigits 10 n) = some (Nat.toDigits 10 n) :=
  wholeDigits?_digits Nat.toDigits_ne_nil (fun _ => Decimal.isDigit_of_mem_toDigits)
    (Decimal.head_toDigits n)

/-! ## Words -/

/-- A digit or a minus sign, and then digits and points. -/
structure IsNumeric (word : List Char) : Prop where
  head : ∃ c rest, word = c :: rest ∧ (c.isDigit = true ∨ c = '-')
  tail : ∀ c ∈ word.tail, c.isDigit = true ∨ c = '.'

theorem isWordChar_of_numeric {c : Char} (h : c.isDigit = true ∨ c = '-' ∨ c = '.') :
    isWordChar c = true ∧ isBlank c = false ∧ c ≠ ':' := by
  rcases h with h | rfl | rfl
  · refine ⟨by simp [isWordChar, Char.isAlphanum, h], ?_, ?_⟩
    · by_contra hblank
      simp only [isBlank, Bool.not_eq_false, Bool.or_eq_true, beq_iff_eq] at hblank
      rcases hblank with rfl | rfl <;> cases h
    · rintro rfl; cases h
  · decide
  · decide

theorem IsNumeric.mem (h : IsNumeric word) : ∀ c ∈ word, c.isDigit = true ∨ c = '-' ∨ c = '.' := by
  obtain ⟨⟨c, rest, rfl, hc⟩, htail⟩ := h
  rintro d (_ | ⟨_, hd⟩)
  · exact hc.imp_right .inl
  · exact (htail d hd).imp_right .inr

/-- A word without colons, and without a minus sign except in front, is not a date or time. -/
theorem isDatetime_eq_false (hcolon : ':' ∉ word) (hminus : '-' ∉ word.tail) :
    isDatetime word = false ∧ isDate word = false := by
  have hdate : dropDate? word = none := by
    unfold dropDate?
    split
    · simp at hminus
    · rfl
  have hminutes : dropMinutes? word = none := by
    unfold dropMinutes?
    split
    · simp at hcolon
    · rfl
  simp [isDatetime, isLocalTime, isDate, dropTime?, hdate, hminutes]

theorem IsNumeric.isDatetime (h : IsNumeric word) :
    isDatetime word = false ∧ isDate word = false :=
  isDatetime_eq_false (fun hmem => (isWordChar_of_numeric (h.mem _ hmem)).2.2 rfl)
    fun hmem => absurd (h.tail _ hmem) (by decide)

theorem IsNumeric.ofWord? (h : IsNumeric word) :
    ofWord? word = ((integer? word).map .integer).or ((float? word).map .float) := by
  have htrue : word ≠ "true".toList := by
    obtain ⟨⟨c, rest, rfl, hc⟩, -⟩ := h
    rintro ⟨rfl, -⟩
    exact absurd hc (by decide)
  have hfalse : word ≠ "false".toList := by
    obtain ⟨⟨c, rest, rfl, hc⟩, -⟩ := h
    rintro ⟨rfl, -⟩
    exact absurd hc (by decide)
  rw [Scalar.ofWord?, if_neg htrue, if_neg hfalse, if_neg (by simp [h.isDatetime.1])]
  cases integer? word <;> cases float? word <;> rfl

/-- A number is read up to the end of its word. -/
theorem IsNumeric.read_append (h : IsNumeric word) (hrest : ∀ c ∈ rest.head?, isWordChar c = false) :
    read (word ++ rest) = (Scalar.ofWord? word).map fun value => (value, rest) := by
  obtain ⟨htake, hdrop⟩ := span_append (fun c hc => (isWordChar_of_numeric (h.mem c hc)).1) hrest
  rw [read, htake, hdrop, h.isDatetime.2]

/-- Without a base in front, an integer is a sign and decimal digits. -/
theorem IsNumeric.integer? (h : IsNumeric word) :
    integer? word = ((wholeDigits? (Decimal.splitSign word).2).map fun digits =>
      if (Decimal.splitSign word).1 then -(Decimal.ofDigits digits : Int)
      else Decimal.ofDigits digits).filter fits := by
  unfold Scalar.integer?
  split
  · exact absurd (h.tail 'x' (by simp)) (by decide)
  · exact absurd (h.tail 'o' (by simp)) (by decide)
  · exact absurd (h.tail 'b' (by simp)) (by decide)
  · cases Decimal.splitSign word
    rw [Option.map_eq_bind]
    rfl

theorem splitSign_of_isDigit {c : Char} (h : c.isDigit = true) :
    Decimal.splitSign (c :: rest) = (false, c :: rest) := by
  unfold Decimal.splitSign
  split <;> simp_all

/-! ## Integers -/

theorem isNumeric_toDigits (n : Nat) : IsNumeric (Nat.toDigits 10 n) := by
  obtain ⟨c, rest, hcons⟩ := List.exists_cons_of_ne_nil (@Nat.toDigits_ne_nil n 10)
  have hdigit : ∀ d ∈ c :: rest, d.isDigit = true := hcons ▸ fun d => Decimal.isDigit_of_mem_toDigits
  rw [hcons]
  exact ⟨⟨c, rest, rfl, .inl (hdigit c List.mem_cons_self)⟩,
    fun d hd => .inl (hdigit d (List.mem_cons_of_mem _ hd))⟩

theorem splitSign_toDigits (n : Nat) :
    Decimal.splitSign (Nat.toDigits 10 n) = (false, Nat.toDigits 10 n) := by
  obtain ⟨c, rest, hcons⟩ := List.exists_cons_of_ne_nil (@Nat.toDigits_ne_nil n 10)
  rw [hcons]
  exact splitSign_of_isDigit (Decimal.isDigit_of_mem_toDigits (hcons ▸ List.mem_cons_self))

theorem ofWord?_toDigits {n : Nat} (h : n < 1 <<< 63) :
    ofWord? (Nat.toDigits 10 n) = some (.integer n) := by
  have hfits : fits n = true := by
    simp only [fits, Bool.and_eq_true, decide_eq_true_eq]
    simp only [Nat.shiftLeft_eq] at h
    omega
  rw [(isNumeric_toDigits n).ofWord?, (isNumeric_toDigits n).integer?, splitSign_toDigits,
    wholeDigits?_toDigits]
  simp [hfits]

/-! ## Floats -/

/-- Digits around a point are read as they stand. -/
theorem decimal?_of_isParts {d : Decimal} {before after : List Char}
    (h : d.IsParts before after) :
    decimal? d.positional = some (.ofParts before after 0) := by
  have hmark {c : Char} (h : c.isDigit = true) : (!(c == '.' || c == 'e' || c == 'E')) = true := by
    simp only [Bool.not_eq_true', Bool.or_eq_false_iff, beq_eq_false_iff_ne]
    refine ⟨⟨?_, ?_⟩, ?_⟩ <;> (rintro rfl; cases h)
  have hfront := @span_append (fun c => !(c == '.' || c == 'e' || c == 'E')) before ('.' :: after)
    (fun c hc => hmark (h.digits_before c hc)) (by simp)
  have hback := @span_append (fun c => !(c == '.' || c == 'e' || c == 'E')) after []
    (fun c hc => hmark (h.digits_after c hc)) (by simp)
  rw [List.append_nil] at hback
  simp only [h.positional, decimal?, hfront.1, hfront.2, hback.1, hback.2,
    wholeDigits?_digits h.before_ne h.digits_before h.head,
    ungroup?_digits h.after_ne h.digits_after]
  rfl

/-- The digits of a decimal start with one, and do not make an integer. -/
theorem positional_eq_cons (d : Decimal) :
    ∃ c rest, d.positional = c :: rest ∧ c.isDigit = true
      ∧ (∀ e ∈ rest, e.isDigit = true ∨ e = '.') ∧ '.' ∈ rest := by
  obtain ⟨before, after, h⟩ := d.exists_isParts
  obtain ⟨c, before, rfl⟩ := List.exists_cons_of_ne_nil h.before_ne
  refine ⟨c, before ++ '.' :: after, h.positional, h.digits_before c List.mem_cons_self, ?_, by simp⟩
  intro e he
  rcases List.mem_append.1 he with he | he
  · exact .inl (h.digits_before e (List.mem_cons_of_mem _ he))
  · exact (List.mem_cons.1 he).symm.imp_left (h.digits_after e)

theorem wholeDigits?_eq_none (h : '.' ∈ word) : wholeDigits? word = none := by
  cases hdigits : ungroup? Char.isDigit word with
  | none => rw [wholeDigits?, hdigits]; rfl
  | some digits => exact absurd (mem_of_ungroup? hdigits '.' h) (by decide)

/-- A finite number is written as a sign and a decimal. -/
theorem renderFloat_eq {x : Binary64} (h : x.isFinite = true) :
    renderFloat x
      = (if x.negative then ['-'] else []) ++ (Binary64.shortest x.magnitude).positional := by
  have hlt : x.magnitude < Binary64.infinity := by simpa [Binary64.isFinite] using h
  have hnan : x.isNaN = false := by simp [Binary64.isNaN]; omega
  have hinfinite : x.isInfinite = false := by simp [Binary64.isInfinite]; omega
  simp [renderFloat, hnan, hinfinite]

theorem splitSign_renderFloat {x : Binary64} (h : x.isFinite = true) :
    Decimal.splitSign (renderFloat x)
      = (x.negative, (Binary64.shortest x.magnitude).positional) := by
  obtain ⟨c, rest, hcons, hc, -⟩ := positional_eq_cons (Binary64.shortest x.magnitude)
  rw [renderFloat_eq h]
  cases x.negative with
  | true => rfl
  | false => rw [hcons]; exact splitSign_of_isDigit hc

theorem isNumeric_renderFloat {x : Binary64} (h : x.isFinite = true) :
    IsNumeric (renderFloat x) := by
  obtain ⟨c, rest, hcons, hc, hrest, -⟩ := positional_eq_cons (Binary64.shortest x.magnitude)
  rw [renderFloat_eq h, hcons]
  cases x.negative with
  | true =>
    exact ⟨⟨_, _, rfl, .inr rfl⟩, List.forall_mem_cons.2 ⟨.inl hc, hrest⟩⟩
  | false => exact ⟨⟨_, _, rfl, .inl hc⟩, hrest⟩

theorem float?_renderFloat {x : Binary64} (h : x.isFinite = true) :
    float? (renderFloat x) = some x := by
  obtain ⟨c, rest, hcons, hc, -⟩ := positional_eq_cons (Binary64.shortest x.magnitude)
  obtain ⟨before, after, hparts⟩ := (Binary64.shortest x.magnitude).exists_isParts
  have hlt : x.magnitude < Binary64.infinity := by simpa [Binary64.isFinite] using h
  have hnearest := hparts.nearest.trans (Binary64.nearest_shortest hlt)
  simp only [float?, splitSign_renderFloat h]
  split
  · next hinf =>
    rw [hcons] at hinf
    cases hinf
    cases hc
  · next hnan =>
    rw [hcons] at hnan
    cases hnan
    cases hc
  · simp [decimal?_of_isParts hparts, hnearest, hlt.ne]

theorem ofWord?_renderFloat {x : Binary64} (h : x.isFinite = true) :
    ofWord? (renderFloat x) = some (.float x) := by
  obtain ⟨c, rest, hcons, -, -, hpoint⟩ := positional_eq_cons (Binary64.shortest x.magnitude)
  have hnone : wholeDigits? (Binary64.shortest x.magnitude).positional = none :=
    -- the point keeps it from being read as an integer
    wholeDigits?_eq_none (hcons ▸ List.mem_cons_of_mem _ hpoint)
  have hnumeric := isNumeric_renderFloat h
  rw [hnumeric.ofWord?, hnumeric.integer?, splitSign_renderFloat h, hnone, float?_renderFloat h]
  rfl

end Scalar

/-! ## Values -/

variable {rest : List Char}

theorem readValue_append {word : List Char} (h : Scalar.IsNumeric word)
    (hrest : ∀ c ∈ rest.head?, Scalar.isWordChar c = false) :
    readValue (word ++ rest) = (Scalar.ofWord? word).map fun value => (value, rest) := by
  rw [← h.read_append hrest]
  obtain ⟨⟨c, word, rfl, hc⟩, -⟩ := h
  change readWith _ (c :: (word ++ rest)) = _
  rw [readWith]
  · rfl
  all_goals rintro r ⟨rfl, -⟩; exact absurd hc (by decide)

/-- Integers that are written fit in the range of those that are read. -/
theorem readValue_renderNat? {n : Nat} {digits : List Char} (h : renderNat? n = some digits)
    (hrest : ∀ c ∈ rest.head?, Scalar.isWordChar c = false) :
    readValue (digits ++ rest) = some (.integer n, rest) := by
  unfold renderNat? at h
  split at h
  · next hn =>
    cases h
    rw [readValue_append (Scalar.isNumeric_toDigits n) hrest, Scalar.ofWord?_toDigits hn]
    rfl
  · cases h

theorem readValue_renderFloat {x : Binary64} (h : x.isFinite = true)
    (hrest : ∀ c ∈ rest.head?, Scalar.isWordChar c = false) :
    readValue (renderFloat x ++ rest) = some (.float x, rest) := by
  rw [readValue_append (Scalar.isNumeric_renderFloat h) hrest, Scalar.ofWord?_renderFloat h]
  rfl

end GatewayClient.Toml
