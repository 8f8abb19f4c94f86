import GatewayClient.Json.Basic
import GatewayClient.Proofs.Reader
/-!
# The grammar of JSON

Which characters are a writing of which value (`Json.Written`). A value has many writings, as
there may be white space between its parts and escapes in its strings.
-/

namespace GatewayClient.Json

open Reader

/-! ## White space -/

def blanks : List Char := [' ', '\t', '\n', '\r']

/-- White space of any length. -/
def Blank (space : List Char) : Prop := ∀ c ∈ space, c ∈ blanks

/-! ## Strings -/

/-- What may stand after a backslash, with the character that both stand for. -/
def escapes : List (Char × Char) :=
  [('"', '"'), ('\\', '\\'), ('/', '/'), ('b', '\x08'), ('f', '\x0c'), ('n', '\n'), ('r', '\r'),
    ('t', '\t')]

/-- The hexadecimal digits, of either case, with their values. -/
def hexDigits : List (Char × Nat) :=
  [('0', 0), ('1', 1), ('2', 2), ('3', 3), ('4', 4), ('5', 5), ('6', 6), ('7', 7), ('8', 8),
    ('9', 9), ('a', 10), ('b', 11), ('c', 12), ('d', 13), ('e', 14), ('f', 15), ('A', 10),
    ('B', 11), ('C', 12), ('D', 13), ('E', 14), ('F', 15)]

/-- Four hexadecimal digits. -/
inductive IsUnit : Nat → List Char → Prop where
  | mk {a b c d : Char} {i j k l : Nat} (ha : (a, i) ∈ hexDigits) (hb : (b, j) ∈ hexDigits)
      (hc : (c, k) ∈ hexDigits) (hd : (d, l) ∈ hexDigits) :
      IsUnit (16 * (16 * (16 * i + j) + k) + l) [a, b, c, d]

/-- One position of a string literal. Control characters have to be escaped. -/
inductive Symbol.Written : Symbol → List Char → Prop where
  | plain {c : Char} (hcontrol : 0x20 ≤ c.toNat) (hquote : c ≠ '"') (hbackslash : c ≠ '\\') :
      Written (.char c) [c]
  | escape {e c : Char} (h : (e, c) ∈ escapes) : Written (.char c) ['\\', e]
  | unit {u : Nat} {digits : List Char} (h : IsUnit u digits) :
      Written (.unit u) ('\\' :: 'u' :: digits)

/-- A string literal after its opening quote. -/
inductive Literal : List Symbol → List Char → Prop where
  | mk {symbols : List Symbol} {body : List Char} (h : Row Symbol.Written symbols body) :
      Literal symbols (body ++ ['"'])

/-! ## Numbers -/

/-- One digit or more. -/
def IsDigits (text : List Char) : Prop := text ≠ [] ∧ ∀ c ∈ text, c.isDigit = true

/-- The digits before the point: a zero stands alone. -/
inductive IsWhole : List Char → Prop where
  | zero : IsWhole ['0']
  | digits {first : Char} {others : List Char} (hfirst : first ≠ '0')
      (h : IsDigits (first :: others)) : IsWhole (first :: others)

inductive IsFraction : List Char → Prop where
  | none : IsFraction []
  | some {digits : List Char} (h : IsDigits digits) : IsFraction ('.' :: digits)

inductive IsExponent : List Char → Prop where
  | none : IsExponent []
  | some {e : Char} {sign digits : List Char} (he : e = 'e' ∨ e = 'E')
      (hsign : sign ∈ [[], ['+'], ['-']]) (h : IsDigits digits) : IsExponent (e :: (sign ++ digits))

inductive IsNumber : List Char → Prop where
  | mk {sign whole fraction exponent : List Char} (hsign : sign ∈ [[], ['-']])
      (hwhole : IsWhole whole) (hfraction : IsFraction fraction) (hexponent : IsExponent exponent) :
      IsNumber (sign ++ (whole ++ (fraction ++ exponent)))

/-! ## Values -/

section

variable {α : Type}

/-- One string of a language or more, with commas between them and white space around each. -/
inductive Separated (language : α → List Char → Prop) : List α → List Char → Prop where
  | one {a : α} {before taken after : List Char} (hbefore : Blank before) (h : language a taken)
      (hafter : Blank after) : Separated language [a] (before ++ (taken ++ after))
  | cons {a : α} {others : List α} {before taken after rest : List Char} (hbefore : Blank before)
      (h : language a taken) (hafter : Blank after) (hrest : Separated language others rest) :
      Separated language (a :: others) (before ++ (taken ++ (after ++ ',' :: rest)))

/-- What may stand between brackets: nothing, or strings of a language. -/
inductive Listed (language : α → List Char → Prop) : List α → List Char → Prop where
  | none {space : List Char} (hspace : Blank space) : Listed language [] space
  | some {as : List α} {body : List Char} (h : Separated language as body) :
      Listed language as body

variable {language : α → List Char → Prop} {as : List α} {body : List Char} {a : α}

theorem Separated.exists_of_mem (h : Separated language as body) (ha : a ∈ as) :
    ∃ taken, language a taken := by
  induction h with
  | one _ h => exact ⟨_, List.mem_singleton.mp ha ▸ h⟩
  | cons _ h _ _ ih =>
    rcases List.mem_cons.mp ha with rfl | ha
    · exact ⟨_, h⟩
    · exact ih ha

theorem Listed.exists_of_mem (h : Listed language as body) (ha : a ∈ as) :
    ∃ taken, language a taken := by
  cases h with
  | none => cases ha
  | some h => exact h.exists_of_mem ha

end

/-- A name, a colon and a value, with white space around the colon. -/
inductive Member (language : Json → List Char → Prop) : List Symbol × Json → List Char → Prop where
  | mk {name : List Symbol} {value : Json} {literal before after taken : List Char}
      (hname : Literal name literal) (hbefore : Blank before) (hafter : Blank after)
      (hvalue : language value taken) :
      Member language (name, value) ('"' :: (literal ++ (before ++ ':' :: (after ++ taken))))

/-- The writings of values, without white space around them. -/
inductive Written : Json → List Char → Prop where
  | null : Written .null ['n', 'u', 'l', 'l']
  | yes : Written (.bool true) ['t', 'r', 'u', 'e']
  | no : Written (.bool false) ['f', 'a', 'l', 's', 'e']
  | number {text : List Char} (h : IsNumber text) : Written (.number text) text
  | string {symbols : List Symbol} {literal : List Char} (h : Literal symbols literal) :
      Written (.string symbols) ('"' :: literal)
  | array {items : List Json} {body : List Char} (h : Listed Written items body) :
      Written (.array items) ('[' :: (body ++ [']']))
  | object {members : List (List Symbol × Json)} {body : List Char}
      (h : Listed (Member Written) members body) :
      Written (.object members) ('\x7b' :: (body ++ ['\x7d']))

/-- A text that consists of one value, with white space around it. -/
inductive TextOf : Json → List Char → Prop where
  | mk {json : Json} {before taken after : List Char} (hbefore : Blank before)
      (h : json.Written taken) (hafter : Blank after) : TextOf json (before ++ (taken ++ after))

theorem TextOf.exists_written {json : Json} {text : List Char} (h : TextOf json text) :
    ∃ taken, json.Written taken := by
  cases h with
  | mk _ hwritten _ => exact ⟨_, hwritten⟩

end GatewayClient.Json
