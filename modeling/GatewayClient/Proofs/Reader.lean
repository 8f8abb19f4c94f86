import GatewayClient.Bytes
/-!
# Languages of readers

A language says which strings stand for which values. A reader recognizes a language if it
finds a string of it at the front of an input whenever there is one, whatever follows. So
there is at most one way to split an input, and no string of the language is the beginning
of another.
-/

namespace GatewayClient

/-- A reader that goes on as long as it can stops at the end of a word. -/
theorem span_append {p : Char → Bool} {word rest : List Char} (hword : ∀ c ∈ word, p c = true)
    (hrest : ∀ c ∈ rest.head?, p c = false) :
    (word ++ rest).takeWhile p = word ∧ (word ++ rest).dropWhile p = rest := by
  rw [List.takeWhile_append_of_pos hword, List.dropWhile_append_of_pos hword]
  cases rest with
  | nil => simp
  | cons c rest => simp [hrest c rfl]

/-- Items that are read back one by one are read back in a row. -/
theorem mapM_map_eq_some {α β : Type} {write : α → β} {read : β → Option α} {items : List α}
    (h : ∀ item ∈ items, read (write item) = some item) :
    (items.map write).mapM read = some items := by
  induction items with
  | nil => rfl
  | cons item items ih =>
      obtain ⟨hitem, hitems⟩ := List.forall_mem_cons.mp h
      simp [hitem, ih hitems]

namespace Reader

variable {σ α β : Type} {read : Reader σ α} {language : α → List σ → Prop}

def Recognizes (read : Reader σ α) (language : α → List σ → Prop) : Prop :=
  ∀ input a rest, read input = some (a, rest) ↔
    ∃ taken, input = taken ++ rest ∧ language a taken

/-- Strings of a language in a row, and their values. -/
inductive Row (language : α → List σ → Prop) : List α → List σ → Prop where
  | nil : Row language [] []
  | cons {a : α} {others : List α} {first rest : List σ} (hfirst : language a first)
      (hrest : Row language others rest) : Row language (a :: others) (first ++ rest)

/-- Strings of two languages, one after the other. -/
inductive Pair (first : α → List σ → Prop) (second : β → List σ → Prop) :
    α × β → List σ → Prop where
  | mk {a : α} {b : β} {left right : List σ} (hfirst : first a left) (hsecond : second b right) :
      Pair first second (a, b) (left ++ right)

namespace Recognizes

theorem read_append (h : read.Recognizes language) {a : α} {taken : List σ}
    (htaken : language a taken) (rest : List σ) : read (taken ++ rest) = some (a, rest) :=
  (h _ a rest).mpr ⟨taken, rfl, htaken⟩

/-- An input begins with at most one string of the language. -/
theorem eq_of_append_eq (h : read.Recognizes language) {a b : α} {x y r s : List σ}
    (hx : language a x) (hy : language b y) (hinput : x ++ r = y ++ s) : a = b ∧ r = s := by
  have hread := h.read_append hx r
  rw [hinput, h.read_append hy s] at hread
  simpa [eq_comm] using hread

theorem both {second : Reader σ β} {language' : β → List σ → Prop}
    (h : read.Recognizes language) (h' : second.Recognizes language') :
    (read.both second).Recognizes (Pair language language') := by
  intro input ab rest
  unfold Reader.both
  constructor
  · intro hread
    obtain ⟨⟨a, middle⟩, hfirst, hread⟩ := Option.bind_eq_some_iff.mp hread
    obtain ⟨⟨b, last⟩, hsecond, hpair⟩ := Option.bind_eq_some_iff.mp hread
    cases hpair
    obtain ⟨left, rfl, hleft⟩ := (h _ _ _).mp hfirst
    obtain ⟨right, rfl, hright⟩ := (h' _ _ _).mp hsecond
    exact ⟨left ++ right, (List.append_assoc ..).symm, .mk hleft hright⟩
  · rintro ⟨taken, rfl, hpair⟩
    cases hpair with
    | mk hfirst hsecond =>
        simp [h.read_append hfirst, h'.read_append hsecond]

theorem times (h : read.Recognizes language) (n : Nat) :
    (read.times n).Recognizes fun as taken => as.length = n ∧ Row language as taken := by
  -- Strings are split off one at a time. The language says where each of them ends.
  induction n with
  | zero =>
      intro input as rest
      constructor
      · intro hread
        cases hread
        exact ⟨[], rfl, rfl, .nil⟩
      · rintro ⟨taken, rfl, hlength, hrow⟩
        cases hrow with
        | nil => rfl
        | cons => cases hlength
  | succ n ih =>
      intro input as rest
      unfold Reader.times
      constructor
      · intro hread
        obtain ⟨⟨a, middle⟩, hfirst, hread⟩ := Option.bind_eq_some_iff.mp hread
        obtain ⟨⟨others, last⟩, hothers, hcons⟩ := Option.bind_eq_some_iff.mp hread
        cases hcons
        obtain ⟨first, rfl, hvalue⟩ := (h _ _ _).mp hfirst
        obtain ⟨taken, rfl, hlength, hrow⟩ := (ih _ _ _).mp hothers
        refine ⟨first ++ taken, (List.append_assoc ..).symm, ?_, .cons hvalue hrow⟩
        rw [List.length_cons, hlength]
      · rintro ⟨taken, rfl, hlength, hrow⟩
        cases hrow with
        | nil => cases hlength
        | cons hfirst hrest =>
            rw [List.append_assoc]
            simp [h.read_append hfirst, ih.read_append ⟨Nat.succ.inj hlength, hrest⟩]

end Recognizes

end Reader

namespace Bytes

theorem number?_recognizes (width : Nat) :
    (number? width).Recognizes fun n digits => n < capacity width ∧ digits = bigEndian width n := by
  intro input n rest
  constructor
  · intro hread
    obtain ⟨⟨digits, last⟩, htake, hnumber⟩ := Option.bind_eq_some_iff.mp hread
    cases hnumber
    obtain ⟨rfl, rfl⟩ := take?_eq_some_iff.mp htake
    exact ⟨digits, rfl, number_lt digits, (bigEndian_number digits).symm⟩
  · rintro ⟨digits, rfl, hn, rfl⟩
    exact number?_bigEndian hn rest

end Bytes

end GatewayClient
