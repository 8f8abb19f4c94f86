import Mathlib.Data.List.TakeWhile
import GatewayClient.Address.Ipv6
import GatewayClient.Proofs.Address.Ipv4
/-!
# IPv6 addresses there and back

A run of zeros that is left out is put back, because the pieces around it tell how long it was:
there are eight in all. It does not matter which run that is.

Main statements: `parse?_render`, `isAddress_of_parse?`.
-/

namespace GatewayClient.Ipv6

/-- Eight pieces of 16 bits. -/
structure IsAddress (pieces : List Nat) : Prop where
  length_eq : pieces.length = 8
  lt : ∀ piece ∈ pieces, piece < 0x10000

variable {pieces before after : List Nat} {word text rest : List Char}

/-! ## Words -/

theorem colon_not_mem_toDigits (n : Nat) : ':' ∉ Nat.toDigits 16 n :=
  Digits.not_mem_toDigits (by decide) (by decide) (by decide) n

theorem dot_not_mem_toDigits (n : Nat) : '.' ∉ Nat.toDigits 16 n :=
  Digits.not_mem_toDigits (by decide) (by decide) (by decide) n

theorem parsePiece?_toDigits {n : Nat} (h : n < 0x10000) : parsePiece? (Nat.toDigits 16 n) = some n := by
  have hlength : ¬4 < (Nat.toDigits 16 n).length :=
    Nat.not_lt.mpr ((Nat.length_toDigits_le_iff (by decide) (by decide)).mpr h)
  rw [parsePiece?, if_neg (by simp [Nat.toDigits_ne_nil, hlength])]
  exact Digits.number?_toDigits (by decide) (by decide) n

theorem lt_of_parsePiece? {n : Nat} (h : parsePiece? text = some n) : n < 0x10000 := by
  unfold parsePiece? at h
  split at h
  case isTrue => cases h
  case isFalse hfits =>
    have hlength : text.length ≤ 4 := by
      rw [not_or, Nat.not_lt] at hfits
      exact hfits.2
    calc n < 16 ^ text.length := Digits.lt_of_number? h
      _ ≤ 16 ^ 4 := Nat.pow_le_pow_right (by decide) hlength

theorem parseParts?_words (h : ∀ piece ∈ pieces, piece < 0x10000) :
    parseParts? (pieces.map (Nat.toDigits 16)) = some pieces := by
  induction pieces with
  | nil => rfl
  | cons piece others ih =>
      have hpiece := parsePiece?_toDigits (h piece List.mem_cons_self)
      have hothers := ih fun p hmem => h p (List.mem_cons_of_mem _ hmem)
      cases others with
      | nil => simp [parseParts?, hpiece, dot_not_mem_toDigits]
      | cons second others =>
          rw [List.map_cons] at hothers
          simp [parseParts?, hpiece, hothers]

theorem renderPieces_ne_nil (hne : pieces ≠ []) : renderPieces pieces ≠ [] := by
  obtain ⟨piece, others, rfl⟩ := List.exists_cons_of_ne_nil hne
  cases others with
  | nil => simp [renderPieces, Nat.toDigits_ne_nil]
  | cons second others => simp [renderPieces, List.intercalate_cons_cons]

/-- Pieces in a row are read from the words between the colons. -/
theorem parsePieces?_renderPieces (h : ∀ piece ∈ pieces, piece < 0x10000) :
    parsePieces? (renderPieces pieces) = some pieces := by
  by_cases hnil : pieces = []
  · subst hnil
    rfl
  · have hwords : splitAt ':' (renderPieces pieces) = pieces.map (Nat.toDigits 16) := by
      apply splitAt_intercalate (by simpa using hnil)
      intro part hmem
      obtain ⟨piece, -, rfl⟩ := List.mem_map.mp hmem
      exact colon_not_mem_toDigits piece
    rw [parsePieces?, if_neg (by simpa using renderPieces_ne_nil hnil), hwords]
    exact parseParts?_words h

theorem mem_renderPieces {c : Char} (h : c ∈ renderPieces pieces) : c = ':' ∨ c ∈ Digits.all := by
  rcases mem_intercalate h with hcolon | ⟨part, hpart, hmem⟩
  · exact .inl hcolon
  · obtain ⟨piece, -, rfl⟩ := List.mem_map.mp hpart
    exact .inr (Digits.mem_all_of_mem_toDigits (by decide) (by decide) hmem)

/-! ## The gap -/

theorem splitGap_append (hword : ':' ∉ word) (text : List Char) :
    splitGap (word ++ text) = (splitGap text).map fun (before, after) => (word ++ before, after) := by
  induction word with
  | nil => simp
  | cons c word ih =>
      have hhead := List.ne_of_not_mem_cons hword
      have hrest := ih (List.not_mem_of_not_mem_cons hword)
      rw [List.cons_append, splitGap]
      · rw [hrest, Option.map_map]
        rfl
      · intro rest hcolon
        exact absurd hcolon.symm hhead

/-- One colon is no gap. -/
theorem splitGap_colon_append (hword : ':' ∉ word) (hne : word ≠ []) (text : List Char) :
    splitGap (':' :: (word ++ text)) =
      (splitGap (word ++ text)).map fun (before, after) => (':' :: before, after) := by
  obtain ⟨c, others, rfl⟩ := List.exists_cons_of_ne_nil hne
  rw [List.cons_append, splitGap]
  rintro rest - ⟨rfl⟩
  exact hword List.mem_cons_self

theorem renderPieces_cons (piece second : Nat) (others : List Nat) :
    renderPieces (piece :: second :: others) =
      Nat.toDigits 16 piece ++ ':' :: renderPieces (second :: others) := by
  simp [renderPieces, List.intercalate_cons_cons]

/-- The pieces begin with a word, so that no gap begins before them. -/
theorem exists_renderPieces_eq (piece : Nat) (others : List Nat) :
    ∃ tail, renderPieces (piece :: others) = Nat.toDigits 16 piece ++ tail := by
  cases others with
  | nil => exact ⟨[], by simp [renderPieces]⟩
  | cons second others => exact ⟨_, renderPieces_cons piece second others⟩

/-- Behind the pieces in front of it, a text is split as it is alone. -/
theorem splitGap_renderPieces_append (pieces : List Nat) (text : List Char) :
    splitGap (renderPieces pieces ++ text) =
      (splitGap text).map fun (before, after) => (renderPieces pieces ++ before, after) := by
  induction pieces with
  | nil => simp [renderPieces]
  | cons piece others ih =>
      cases others with
      | nil =>
          have hword : renderPieces [piece] = Nat.toDigits 16 piece := by simp [renderPieces]
          rw [hword]
          exact splitGap_append (colon_not_mem_toDigits piece) text
      | cons second others =>
          obtain ⟨tail, htail⟩ := exists_renderPieces_eq second others
          have hcolon := splitGap_colon_append (colon_not_mem_toDigits second) Nat.toDigits_ne_nil
            (tail ++ text)
          rw [← List.append_assoc, ← htail, ih, Option.map_map] at hcolon
          rw [renderPieces_cons, List.append_assoc, splitGap_append (colon_not_mem_toDigits piece),
            List.cons_append, hcolon, Option.map_map]
          congr 1
          funext ⟨before, after⟩
          simp

theorem splitGap_renderPieces (pieces : List Nat) : splitGap (renderPieces pieces) = none := by
  simpa [splitGap] using splitGap_renderPieces_append pieces []

/-- What is left out is a run of zeros. -/
theorem replicate_longestRun (start : Nat) (pieces : List Nat) :
    ∃ before after, pieces = before ++ List.replicate (longestRun start pieces).2 0 ++ after ∧
      (longestRun start pieces).1 = start + before.length := by
  induction pieces generalizing start with
  | nil => exact ⟨[], [], rfl, rfl⟩
  | cons piece pieces ih =>
      rw [longestRun]
      split
      case isTrue =>
        have hrun : (piece :: pieces).takeWhile (· = 0) = List.replicate (zeroRun (piece :: pieces)) 0 := by
          apply List.eq_replicate_iff.mpr
          refine ⟨rfl, fun n hmem => ?_⟩
          simpa using List.mem_takeWhile_imp hmem
        exact ⟨[], (piece :: pieces).dropWhile (· = 0), by
          rw [List.nil_append, ← hrun, List.takeWhile_append_dropWhile], rfl⟩
      case isFalse =>
        obtain ⟨before, after, hpieces, hstart⟩ := ih (start + 1)
        exact ⟨piece :: before, after, by rw [List.cons_append, List.cons_append, ← hpieces], by
          rw [hstart, List.length_cons]
          omega⟩

/-! ## Addresses -/

/-- The gap is filled up with as many zeros as there is room for. -/
theorem parse?_gap (hbefore : ∀ piece ∈ before, piece < 0x10000)
    (hafter : ∀ piece ∈ after, piece < 0x10000) (hroom : before.length + after.length ≤ 7) :
    parse? (renderPieces before ++ [':', ':'] ++ renderPieces after) =
      some (before ++ List.replicate (8 - before.length - after.length) 0 ++ after) := by
  have hgap : splitGap (renderPieces before ++ [':', ':'] ++ renderPieces after) =
      some (renderPieces before, renderPieces after) := by
    rw [List.append_assoc, splitGap_renderPieces_append]
    simp [splitGap]
  have hdot : '.' ∉ renderPieces before := by
    intro hmem
    exact absurd (mem_renderPieces hmem) (by decide)
  rw [parse?, hgap]
  simp [hdot, parsePieces?_renderPieces hbefore, parsePieces?_renderPieces hafter, fillGap?, hroom]

/-- An address is read as what it is written for. -/
theorem parse?_render (h : IsAddress pieces) : parse? (render pieces) = some pieces := by
  obtain ⟨before, after, hpieces, hstart⟩ := replicate_longestRun 0 pieces
  generalize hrun : longestRun 0 pieces = run at hpieces hstart
  obtain ⟨start, length⟩ := run
  obtain rfl : start = before.length := by simpa using hstart
  have hlength := h.length_eq
  unfold render
  rw [hrun]
  dsimp only at hpieces ⊢
  split
  case isTrue hlong =>
    have htake : pieces.take before.length = before := by simp [hpieces]
    have hdrop : pieces.drop (before.length + length) = after := by
      rw [hpieces, List.drop_append_of_le_length (by simp), List.drop_eq_nil_of_le (by simp),
        List.nil_append]
    simp only [hpieces, List.length_append, List.length_replicate] at hlength
    have hfits : 8 - before.length - after.length = length := by omega
    rw [htake, hdrop, parse?_gap, hfits, ← hpieces]
    · exact fun piece hmem => h.lt piece (by simp [hpieces, hmem])
    · exact fun piece hmem => h.lt piece (by simp [hpieces, hmem])
    · omega
  case isFalse =>
    rw [parse?, splitGap_renderPieces]
    simp [parsePieces?_renderPieces h.lt, hlength]

theorem mem_render {c : Char} (h : c ∈ render pieces) : c = ':' ∨ c ∈ Digits.all := by
  unfold render at h
  dsimp only at h
  split at h
  · rcases List.mem_append.mp h with h | hafter
    · rcases List.mem_append.mp h with hbefore | hcolons
      · exact mem_renderPieces hbefore
      · exact .inl (by simpa using hcolons)
    · exact mem_renderPieces hafter
  · exact mem_renderPieces h

theorem lt_of_parseByte? {n : Nat} (h : parseByte? text = some n) : n < 256 := by
  unfold parseByte? at h
  split at h
  · cases h
  · exact of_decide_eq_true (Option.filter_eq_some_iff.mp h).2

theorem lt_of_mapM_parseByte? {parts : List (List Char)} {numbers : List Nat}
    (h : parts.mapM parseByte? = some numbers) : ∀ n ∈ numbers, n < 256 := by
  induction parts generalizing numbers with
  | nil =>
      cases h
      simp
  | cons part others ih =>
      rw [List.mapM_cons] at h
      obtain ⟨n, hn, h⟩ := Option.bind_eq_some_iff.mp h
      obtain ⟨rest, hrest, h⟩ := Option.bind_eq_some_iff.mp h
      cases h
      simpa using ⟨lt_of_parseByte? hn, ih hrest⟩

theorem lt_of_parseDotted? (h : parseDotted? text = some pieces) :
    ∀ piece ∈ pieces, piece < 0x10000 := by
  obtain ⟨numbers, hnumbers, h⟩ := Option.bind_eq_some_iff.mp h
  split at h
  case h_2 => cases h
  case h_1 a b c d =>
    cases h
    have hbytes := lt_of_mapM_parseByte? hnumbers
    simp only [List.mem_cons, List.not_mem_nil, or_false, forall_eq_or_imp, forall_eq] at hbytes ⊢
    omega

theorem lt_of_parseParts? {parts : List (List Char)} (h : parseParts? parts = some pieces) :
    ∀ piece ∈ pieces, piece < 0x10000 := by
  induction parts generalizing pieces with
  | nil =>
      cases h
      simp
  | cons part others ih =>
      cases others with
      | nil =>
          rw [parseParts?] at h
          split at h
          · exact lt_of_parseDotted? h
          · obtain ⟨piece, hpiece, hpieces⟩ := Option.bind_eq_some_iff.mp h
            cases hpieces
            simpa using lt_of_parsePiece? hpiece
      | cons second others =>
          rw [parseParts?] at h
          · obtain ⟨piece, hpiece, h⟩ := Option.bind_eq_some_iff.mp h
            obtain ⟨rest, hrest, h⟩ := Option.bind_eq_some_iff.mp h
            cases h
            simpa using ⟨lt_of_parsePiece? hpiece, ih hrest⟩
          · simp

theorem lt_of_parsePieces? (h : parsePieces? text = some pieces) :
    ∀ piece ∈ pieces, piece < 0x10000 := by
  unfold parsePieces? at h
  split at h
  · cases h
    simp
  · exact lt_of_parseParts? h

/-- What is read is an address. -/
theorem isAddress_of_parse? (h : parse? text = some pieces) : IsAddress pieces := by
  unfold parse? at h
  split at h
  case h_1 before after =>
    split at h
    case isTrue => cases h
    case isFalse =>
      obtain ⟨front, hfront, h⟩ := Option.bind_eq_some_iff.mp h
      obtain ⟨back, hback, h⟩ := Option.bind_eq_some_iff.mp h
      unfold fillGap? at h
      split at h
      case isFalse => cases h
      case isTrue hroom =>
        cases h
        refine ⟨by simp; omega, fun piece hmem => ?_⟩
        simp only [List.mem_append, List.mem_replicate] at hmem
        rcases hmem with (hmem | ⟨-, rfl⟩) | hmem
        · exact lt_of_parsePieces? hfront piece hmem
        · decide
        · exact lt_of_parsePieces? hback piece hmem
  case h_2 =>
    obtain ⟨hpieces, hlength⟩ := Option.filter_eq_some_iff.mp h
    exact ⟨of_decide_eq_true hlength, lt_of_parsePieces? hpieces⟩

end GatewayClient.Ipv6
