import GatewayClient.Toml.Reader
import GatewayClient.Toml.Writer
/-!
# Strings there and back

Whatever form the writer takes for a text, the reader gets the text back and stops right after
the closing marks. The two forms with escapes are read alike as far as single characters go;
what is left for the forms of several lines is to tell the marks in the text from those at its
end.

Main statement: `readString_renderString`.
-/

namespace GatewayClient.Toml

variable {c : Char} {text rest : List Char}

/-! ## Characters -/

theorem isTextChar_of_isControl (h : isControl c = false) (hbreak : c ≠ '\n') :
    isTextChar c = true := by
  simp only [isControl, Bool.or_eq_false_iff, Bool.and_eq_false_iff, decide_eq_false_iff_not,
    bne_eq_false_iff_eq, beq_eq_false_iff_ne] at h
  simp only [isTextChar, Bool.or_eq_true, beq_iff_eq, Bool.and_eq_true, decide_eq_true_eq,
    bne_iff_ne]
  obtain ⟨(hlow | htab) | hnl, hdel⟩ := h
  · exact .inr ⟨by omega, hdel⟩
  · exact .inl htab
  · exact absurd hnl hbreak

/-- Control characters have numbers of two hexadecimal digits. -/
theorem toNat_lt_of_isControl (h : isControl c = true) : c.toNat < 0x80 := by
  simp only [isControl, Bool.or_eq_true, Bool.and_eq_true, decide_eq_true_eq, beq_iff_eq] at h
  omega

private theorem scalar?_hexUpper :
    ∀ n < 0x80, scalar? ['0', '0', hexUpper (n / 16), hexUpper n] = some (Char.ofNat n) := by
  decide +kernel

theorem scalar?_escapeControl (h : c.toNat < 0x80) :
    scalar? ['0', '0', hexUpper (c.toNat / 16), hexUpper c.toNat] = some c := by
  rw [scalar?_hexUpper _ h, Char.ofNat_toNat]

/-! ## Escapes -/

/-- A reader of strings that takes characters and escapes one by one. -/
structure Unescapes (read : Reader Char (List Char)) : Prop where
  plain : ∀ {c rest}, isTextChar c = true → c ≠ '"' → c ≠ '\\' →
    read (c :: rest) = (read rest).map fun p => (c :: p.1, p.2)
  escape : ∀ {e c rest}, unescape? e = some c →
    read ('\\' :: e :: rest) = (read rest).map fun p => (c :: p.1, p.2)
  numbered : ∀ {a b c d first rest}, scalar? [a, b, c, d] = some first →
    read ('\\' :: 'u' :: a :: b :: c :: d :: rest)
      = (read rest).map fun p => (first :: p.1, p.2)

theorem Unescapes.escapeChar {read : Reader Char (List Char)} (h : Unescapes read)
    (hquote : c ≠ '"') (hbreak : c ≠ '\n') (rest : List Char) :
    read (escapeChar c ++ rest) = (read rest).map fun p => (c :: p.1, p.2) := by
  unfold Toml.escapeChar
  split
  · subst c; exact h.escape rfl
  split
  · subst c; exact h.escape rfl
  split
  · subst c; exact h.escape rfl
  split
  · subst c; exact h.escape rfl
  split
  · subst c; exact h.escape rfl
  next hbackslash =>
  split
  · next hcontrol => exact h.numbered (scalar?_escapeControl (toNat_lt_of_isControl hcontrol))
  · next hcontrol =>
    exact h.plain (isTextChar_of_isControl (by simpa using hcontrol) hbreak) hquote hbackslash

theorem ne_of_unescape? {e : Char} (h : unescape? e = some c) :
    e ≠ 'u' ∧ e ≠ 'U' ∧ e ≠ '\n' ∧ isBlank e = false := by
  refine ⟨?_, ?_, ?_, ?_⟩
  · rintro rfl; cases h
  · rintro rfl; cases h
  · rintro rfl; cases h
  · unfold unescape? at h
    split at h <;> first | rfl | cases h

theorem unescapes_readBasic : Unescapes readBasic where
  plain := by
    intro c rest htext hquote hbackslash
    rw [readBasic, if_pos ⟨htext, hbackslash⟩, Option.map_eq_bind]
    · rfl
    · exact hquote
    all_goals intros; contradiction
  escape := by
    intro e c rest h
    obtain ⟨hu, hU, -, -⟩ := ne_of_unescape? h
    rw [readBasic, h, Option.map_eq_bind]
    · rfl
    all_goals intros; contradiction
  numbered := by
    intro a b c d first rest h
    rw [readBasic, h, Option.map_eq_bind]
    rfl

theorem unescapes_readLongBasic : Unescapes (readLongBasic .none) where
  plain := by
    intro c rest htext hquote hbackslash
    have hreturn : c ≠ '\r' := by rintro rfl; cases htext
    rw [readLongBasic, Option.map_eq_bind]
    · simp only [ne_eq, not_true_eq_false, false_and, if_false, reduceCtorEq, htext, hbackslash,
        not_false_eq_true, and_self, true_or, if_true]
      rfl
    all_goals intros; contradiction
  escape := by
    intro e c rest h
    obtain ⟨hu, hU, -, -⟩ := ne_of_unescape? h
    rw [readLongBasic, Option.map_eq_bind]
    · simp only [ne_eq, not_true_eq_false, false_and, if_false, reduceCtorEq, h]
      rfl
    all_goals intros; contradiction
  numbered := by
    intro a b c d first rest h
    rw [readLongBasic, Option.map_eq_bind, h]
    rfl

/-- What stands for a character starts with a quote only if the character is one. -/
theorem escapeChar_eq_cons (h : c ≠ '"') : ∃ e es, escapeChar c = e :: es ∧ e ≠ '"' := by
  unfold escapeChar
  split
  · exact ⟨_, _, rfl, by decide⟩
  split
  · exact ⟨_, _, rfl, by decide⟩
  split
  · exact ⟨_, _, rfl, by decide⟩
  split
  · exact ⟨_, _, rfl, by decide⟩
  split
  · exact ⟨_, _, rfl, by decide⟩
  split
  · exact ⟨_, _, rfl, by decide⟩
  · exact ⟨_, _, rfl, h⟩

theorem escapeLine_eq_cons (c : Char) (text : List Char) :
    ∃ e es, escapeLine (c :: text) = e :: es ∧ e ≠ '"' := by
  rw [escapeLine, List.flatMap_cons]
  split
  · exact ⟨_, _, rfl, by decide⟩
  split
  · exact ⟨_, _, rfl, by decide⟩
  · next hquote _ =>
    obtain ⟨e, es, he, hne⟩ := escapeChar_eq_cons hquote
    exact ⟨e, es ++ escapeLine text, by rw [he]; rfl, hne⟩

/-! ## On one line -/

theorem readBasic_escapeLine (text rest : List Char) :
    readBasic (escapeLine text ++ '"' :: rest) = some (text, rest) := by
  induction text with
  | nil => rw [escapeLine, List.flatMap_nil, List.nil_append, readBasic]
  | cons c text ih =>
    have hcons : escapeLine (c :: text) ++ '"' :: rest
        = (if c = '"' then ['\\', '"'] else if c = '\n' then ['\\', 'n'] else escapeChar c)
          ++ (escapeLine text ++ '"' :: rest) := by
      simp [escapeLine]
    have hescape {e : Char} (h : unescape? e = some c) :
        readBasic ('\\' :: e :: (escapeLine text ++ '"' :: rest)) = some (c :: text, rest) := by
      rw [unescapes_readBasic.escape h, ih]; rfl
    rw [hcons]
    split
    · next hquote => subst c; exact hescape rfl
    split
    · next hbreak => subst c; exact hescape rfl
    · next hquote hbreak => rw [unescapes_readBasic.escapeChar hquote hbreak, ih]; rfl

theorem readLiteral_append (hclean : ∀ c ∈ text, isControl c = false) (hline : '\n' ∉ text)
    (hmark : '\'' ∉ text) (rest : List Char) :
    readLiteral (text ++ '\'' :: rest) = some (text, rest) := by
  induction text with
  | nil => rw [List.nil_append, readLiteral]
  | cons c text ih =>
    simp only [List.mem_cons, not_or, forall_eq_or_imp] at hclean hline hmark
    rw [List.cons_append, readLiteral, ih hclean.2 hline.2 hmark.2,
      if_pos (isTextChar_of_isControl hclean.1 (Ne.symm hline.1))]
    · rfl
    · exact fun h => hmark.1 h.symm

/-! ## On several lines

A mark is taken as a part of the text unless two more follow it. -/

theorem readLongBasic_quote (h : ∀ r, rest ≠ '"' :: '"' :: r) :
    readLongBasic .none ('"' :: rest) = (readLongBasic .none rest).map fun p => ('"' :: p.1, p.2) := by
  rw [readLongBasic, Option.map_eq_bind]
  · rfl
  all_goals intros; first | contradiction | exact h _ ‹_›

theorem escapeLines_eq_cons {quotes : Nat} (h : quotes = 2 ∨ c ≠ '"') (text : List Char) :
    ∃ e es, escapeLines quotes (c :: text) = e :: es ∧ e ≠ '"' := by
  rw [escapeLines]
  split
  · next hquote =>
    rw [if_pos (h.resolve_right (not_not_intro hquote))]
    exact ⟨_, _, rfl, by decide⟩
  split
  · exact ⟨_, _, rfl, by decide⟩
  · next hquote _ =>
    obtain ⟨e, es, he, hne⟩ := escapeChar_eq_cons hquote
    exact ⟨e, es ++ escapeLines 0 text, by rw [he]; rfl, hne⟩

/-- Up to two marks before the closing ones belong to the text. -/
theorem readLongBasic_marks (hrest : rest.head? ≠ some '"') :
    readLongBasic .none (quotes ++ rest) = some ([], rest)
      ∧ readLongBasic .none ('"' :: quotes ++ rest) = some (['"'], rest)
      ∧ readLongBasic .none ('"' :: '"' :: quotes ++ rest) = some (['"', '"'], rest) := by
  cases rest with
  | nil => exact ⟨rfl, rfl, rfl⟩
  | cons c rest =>
    have hc : c ≠ '"' := fun h => hrest (by rw [h]; rfl)
    simp [quotes, readLongBasic, hc]

theorem readLongBasic_break (rest : List Char) :
    readLongBasic .none ('\n' :: rest) = (readLongBasic .none rest).map fun p => ('\n' :: p.1, p.2) := by
  rw [readLongBasic, Option.map_eq_bind]
  · rfl
  all_goals intros; contradiction

/-- After an unescaped quote the text is over, or has one more quote, or does not go on with two. -/
theorem escapeLines_cases {marks : Nat} (hmarks : marks < 2) (text : List Char) :
    text = [] ∨ marks = 0 ∧ text = ['"']
      ∨ ∀ tail r, escapeLines (marks + 1) text ++ tail ≠ '"' :: '"' :: r := by
  match text with
  | [] => exact .inl rfl
  | d :: text =>
    refine .inr ?_
    by_cases hd : marks + 1 = 2 ∨ d ≠ '"'
    · obtain ⟨e, es, he, hne⟩ := escapeLines_eq_cons hd text
      exact .inr fun tail r h => hne (by rw [he] at h; exact (List.cons.inj h).1)
    · obtain ⟨hlt, rfl⟩ : marks + 1 ≠ 2 ∧ d = '"' := by simpa [not_or] using hd
      obtain rfl : marks = 0 := by omega
      match text with
      | [] => exact .inl ⟨rfl, rfl⟩
      | e :: text =>
        -- The third quote in a row would be escaped.
        obtain ⟨f, fs, hf, hne⟩ := escapeLines_eq_cons (.inl rfl) text
        refine .inr fun tail r h => hne ?_
        rw [escapeLines, if_pos rfl, if_neg (by decide), hf] at h
        exact (List.cons.inj (List.cons.inj h).2).1

theorem readLongBasic_escapeLines {marks : Nat} (hmarks : marks ≤ 2) (text : List Char)
    (hrest : rest.head? ≠ some '"') :
    readLongBasic .none (escapeLines marks text ++ (quotes ++ rest)) = some (text, rest) := by
  obtain ⟨hnone, hone, htwo⟩ := readLongBasic_marks hrest
  induction text generalizing marks with
  | nil => exact hnone
  | cons c text ih =>
    rw [escapeLines]
    split
    · next hquote =>
      subst c
      split
      · rw [List.cons_append, List.cons_append,
          unescapes_readLongBasic.escape (show unescape? '"' = some '"' from rfl),
          ih (Nat.zero_le 2)]
        rfl
      · next hless =>
        obtain rfl | ⟨rfl, rfl⟩ | hplain := @escapeLines_cases marks (by omega) text
        · exact hone
        · exact htwo
        · rw [List.cons_append, readLongBasic_quote (hplain _), ih (by omega)]
          rfl
    · next hquote =>
      rw [List.append_assoc]
      split
      · next hbreak =>
        subst c
        rw [List.singleton_append, readLongBasic_break, ih (Nat.zero_le 2)]
        rfl
      · next hbreak =>
        rw [unescapes_readLongBasic.escapeChar hquote hbreak, ih (Nat.zero_le 2)]
        rfl

theorem readLongLiteral_marks (hrest : rest.head? ≠ some '\'') :
    readLongLiteral (apostrophes ++ rest) = some ([], rest)
      ∧ readLongLiteral ('\'' :: apostrophes ++ rest) = some (['\''], rest)
      ∧ readLongLiteral ('\'' :: '\'' :: apostrophes ++ rest) = some (['\'', '\''], rest) := by
  cases rest with
  | nil => exact ⟨rfl, rfl, rfl⟩
  | cons c rest =>
    have hc : c ≠ '\'' := fun h => hrest (by rw [h]; rfl)
    simp [apostrophes, readLongLiteral, hc]

theorem readLongLiteral_cons (hclean : isControl c = false)
    (h : c = '\'' → ∀ r, rest ≠ '\'' :: '\'' :: r) :
    readLongLiteral (c :: rest) = (readLongLiteral rest).map fun p => (c :: p.1, p.2) := by
  have hreturn : c ≠ '\r' := by rintro rfl; cases hclean
  have htext : isTextChar c = true ∨ c = '\n' :=
    (Decidable.em (c = '\n')).symm.imp_left (isTextChar_of_isControl hclean)
  rw [readLongLiteral, if_pos htext, Option.map_eq_bind]
  · rfl
  all_goals intros; first | contradiction | exact h ‹_› _ ‹_›

theorem le_longestRun (mark : Char) (marks : Nat) (text : List Char) :
    marks ≤ longestRun mark marks text := by
  induction text generalizing marks with
  | nil => exact Nat.le_refl _
  | cons c text ih =>
    rw [longestRun]
    split
    · exact Nat.le_of_succ_le (ih (marks + 1))
    · exact Nat.le_max_left _ _

theorem longestRun_tail {mark : Char} {marks : Nat} (h : longestRun mark marks (c :: text) ≤ 2)
    (hc : c ≠ mark) : longestRun mark 0 text ≤ 2 := by
  rw [longestRun, if_neg hc] at h
  exact Nat.le_trans (Nat.le_max_right _ _) h

/-- After one of its marks the text is over, or has one more mark, or does not go on with two. -/
theorem cases_of_longestRun {mark : Char} {marks : Nat}
    (h : longestRun mark (marks + 1) text ≤ 2) :
    text = [] ∨ text = [mark] ∨ ∀ tail r, text ++ tail ≠ mark :: mark :: r := by
  match text with
  | [] => exact .inl rfl
  | [d] =>
    by_cases hd : d = mark
    · exact .inr (.inl (by rw [hd]))
    · exact .inr (.inr fun tail r heq => hd (List.cons.inj heq).1)
  | d :: e :: text =>
    refine .inr (.inr fun tail r heq => ?_)
    obtain ⟨hd, heq⟩ := List.cons.inj heq
    rw [longestRun, if_pos hd, longestRun, if_pos (List.cons.inj heq).1] at h
    have := le_longestRun mark (marks + 1 + 1 + 1) text
    omega

theorem readLongLiteral_append {marks : Nat} (hclean : ∀ c ∈ text, isControl c = false)
    (hrun : longestRun '\'' marks text ≤ 2) (hrest : rest.head? ≠ some '\'') :
    readLongLiteral (text ++ (apostrophes ++ rest)) = some (text, rest) := by
  obtain ⟨hnone, hone, htwo⟩ := readLongLiteral_marks hrest
  induction text generalizing marks with
  | nil => exact hnone
  | cons c text ih =>
    rw [List.forall_mem_cons] at hclean
    have plain (h : c = '\'' → ∀ r, text ++ (apostrophes ++ rest) ≠ '\'' :: '\'' :: r)
        {marks : Nat} (hrun : longestRun '\'' marks text ≤ 2) :
        readLongLiteral (c :: text ++ (apostrophes ++ rest)) = some (c :: text, rest) := by
      rw [List.cons_append, readLongLiteral_cons hclean.1 h, ih hclean.2 hrun]
      rfl
    by_cases hc : c = '\''
    · subst c
      rw [longestRun, if_pos rfl] at hrun
      obtain rfl | rfl | hplain := cases_of_longestRun hrun
      · exact hone
      · exact htwo
      · exact plain (fun _ => hplain _) hrun
    · exact plain (fun h => absurd h hc) (longestRun_tail hrun hc)

/-! ## Marks -/

theorem dropBreak_eq (h : '\n' ∉ text.take 2) : dropBreak text = text := by
  unfold dropBreak
  split
  · simp at h
  · simp at h
  · rfl

/-- The line break that the writer puts after opening marks is the one that the reader drops. -/
theorem dropBreak_delimited {mark : List Char} (hmark : mark.length = 3) (hbreak : '\n' ∉ mark) :
    ∃ rest', delimited mark text ++ rest = mark ++ rest' ∧ dropBreak rest' = text ++ (mark ++ rest) := by
  unfold delimited
  by_cases h : '\n' ∈ text
  · exact ⟨'\n' :: (text ++ (mark ++ rest)), by simp [hmark, h], rfl⟩
  · refine ⟨text ++ (mark ++ rest), by simp [h], dropBreak_eq fun hmem => ?_⟩
    rw [← List.append_assoc] at hmem
    rw [List.take_append_of_le_length (by simp [hmark])] at hmem
    exact (List.mem_append.1 (List.mem_of_mem_take hmem)).elim h hbreak

theorem readString_quotes (rest : List Char) :
    readString (quotes ++ rest) = readLongBasic .none (dropBreak rest) := rfl

theorem readString_apostrophes (rest : List Char) :
    readString (apostrophes ++ rest) = readLongLiteral (dropBreak rest) := rfl

theorem readString_longBasic (text : List Char) (hrest : rest.head? ≠ some '"') :
    readString (delimited quotes (escapeLines 0 text) ++ rest) = some (text, rest) := by
  obtain ⟨rest', happend, hdrop⟩ := @dropBreak_delimited (escapeLines 0 text) rest quotes rfl (by decide)
  rw [happend, readString_quotes, hdrop, readLongBasic_escapeLines (Nat.zero_le 2) text hrest]

theorem readString_longLiteral (hclean : ∀ c ∈ text, isControl c = false)
    (hrun : longestRun '\'' 0 text ≤ 2) (hrest : rest.head? ≠ some '\'') :
    readString (delimited apostrophes text ++ rest) = some (text, rest) := by
  obtain ⟨rest', happend, hdrop⟩ := @dropBreak_delimited text rest apostrophes rfl (by decide)
  rw [happend, readString_apostrophes, hdrop, readLongLiteral_append hclean hrun hrest]

theorem readString_basic (text : List Char) (hrest : rest.head? ≠ some '"') :
    readString (delimited ['"'] (escapeLine text) ++ rest) = some (text, rest) := by
  have happend : delimited ['"'] (escapeLine text) ++ rest = '"' :: (escapeLine text ++ '"' :: rest) := by
    simp [delimited]
  rw [happend, readString, readBasic_escapeLine]
  intro r h
  match text with
  | [] =>
    injection h with _ h
    exact hrest (by rw [h]; rfl)
  | c :: text =>
    obtain ⟨e, es, he, hne⟩ := escapeLine_eq_cons c text
    rw [he] at h
    exact hne (List.cons.inj h).1

theorem readString_literal (hclean : ∀ c ∈ text, isControl c = false) (hline : '\n' ∉ text)
    (hmark : '\'' ∉ text) (hne : text ≠ []) (rest : List Char) :
    readString (delimited ['\''] text ++ rest) = some (text, rest) := by
  have happend : delimited ['\''] text ++ rest = '\'' :: (text ++ '\'' :: rest) := by
    simp [delimited]
  rw [happend, readString, readLiteral_append hclean hline hmark]
  rintro r h
  obtain ⟨c, text, rfl⟩ := List.exists_cons_of_ne_nil hne
  exact hmark ((List.cons.inj h).1 ▸ List.mem_cons_self)

/-- The plainest form that holds a text is one of four, and each is read back. -/
theorem readString_renderString (text : List Char) (hquote : rest.head? ≠ some '"')
    (hmark : rest.head? ≠ some '\'') :
    readString (renderString text ++ rest) = some (text, rest) := by
  simp only [renderString, Bool.not_eq_true', List.any_eq_false, Bool.not_eq_true,
    List.contains_eq_mem, decide_eq_false_iff_not]
  split
  · exact readString_basic text hquote
  next hbasic =>
  split
  · next h =>
    refine readString_literal h.1 h.2.1 h.2.2 ?_ rest
    rintro rfl
    exact hbasic (by simp)
  split
  · exact readString_longBasic text hquote
  split
  · next h => exact readString_longLiteral h.1 h.2 hmark
  split
  · exact readString_basic text hquote
  · exact readString_longBasic text hquote

theorem readString_eq_some {input : List Char} {p : List Char × List Char}
    (h : readString input = some p) :
    ∃ input', input = '"' :: input' ∨ input = '\'' :: input' := by
  unfold readString at h
  split at h
  · exact ⟨_, .inl rfl⟩
  · exact ⟨_, .inl rfl⟩
  · exact ⟨_, .inr rfl⟩
  · exact ⟨_, .inr rfl⟩
  · cases h

theorem readWith_of_readString {input : List Char} (nested : Option (Reader Char Value))
    (h : readString input = some (text, rest)) :
    readWith nested input = some (.string text, rest) := by
  obtain ⟨input', rfl | rfl⟩ := readString_eq_some h
  · rw [readWith, h]; rfl
  · rw [readWith, h]; rfl

theorem readValue_renderString (text : List Char) (hquote : rest.head? ≠ some '"')
    (hmark : rest.head? ≠ some '\'') :
    readValue (renderString text ++ rest) = some (.string text, rest) :=
  readWith_of_readString _ (readString_renderString text hquote hmark)

end GatewayClient.Toml
