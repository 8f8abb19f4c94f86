import GatewayClient.Binary64.Reader
import GatewayClient.Bytes
import GatewayClient.Text.Digits
import GatewayClient.Toml.Value
/-!
# TOML numbers, booleans and dates

What a word stands for that is not a string. Integers have 64 bits and a sign. A decimal
that is too large to be a finite number is refused, unless it is negative.
-/

namespace GatewayClient.Toml.Scalar

/-! ## Numbers -/

/-- Digits without the underscores between them. -/
def ungroup? (isDigit : Char → Bool) : List Char → Option (List Char)
  | [] => none
  | [d] => if isDigit d then some [d] else none
  | d :: '_' :: rest => if isDigit d then (ungroup? isDigit rest).map (d :: ·) else none
  | d :: rest => if isDigit d then (ungroup? isDigit rest).map (d :: ·) else none

/-- The digits of a decimal number, which begins with a zero only if it is one. -/
def wholeDigits? (text : List Char) : Option (List Char) :=
  (ungroup? Char.isDigit text).filter fun digits => digits.head? != some '0' || digits.length == 1

def fits (i : Int) : Bool := -0x8000000000000000 ≤ i && i < 0x8000000000000000

def integerInBase? (base : Nat) (text : List Char) : Option Int := do
  let digits ← ungroup? (fun c => (Digits.value? base c).isSome) text
  some (← Digits.number? base digits)

def integer? (word : List Char) : Option Int :=
  let value := match word with
    | '0' :: 'x' :: text => integerInBase? 16 text
    | '0' :: 'o' :: text => integerInBase? 8 text
    | '0' :: 'b' :: text => integerInBase? 2 text
    | word => do
      let (negative, text) := Decimal.splitSign word
      let n := Decimal.ofDigits (← wholeDigits? text)
      some (if negative then -(n : Int) else n)
  value.filter fits

/-- A number after its sign: digits, then a fraction, a power of ten, or both. -/
def decimal? (text : List Char) : Option Decimal := do
  let isMark (c : Char) : Bool := c == '.' || c == 'e' || c == 'E'
  let whole ← wholeDigits? (text.takeWhile fun c => !isMark c)
  let (fraction, rest) ← match text.dropWhile fun c => !isMark c with
    | '.' :: rest => do
      some (← ungroup? Char.isDigit (rest.takeWhile fun c => !isMark c),
        rest.dropWhile fun c => !isMark c)
    | [] => none
    | rest => some ([], rest)
  let exponent ← match rest with
    | [] => some 0
    | e :: rest => do
      let (negative, digits) := Decimal.splitSign rest
      let n := Decimal.ofDigits (← ungroup? Char.isDigit digits)
      if e = '.' then none else some (if negative then -(n : Int) else n)
  some (.ofParts whole fraction exponent)

def float? (word : List Char) : Option Binary64 :=
  let (negative, text) := Decimal.splitSign word
  match text with
  | ['i', 'n', 'f'] => some ⟨negative, Binary64.infinity⟩
  | ['n', 'a', 'n'] => some ⟨negative, Binary64.nan.magnitude⟩
  | text => do
    let magnitude := (← decimal? text).nearest
    if magnitude = Binary64.infinity ∧ !negative then none else some ⟨negative, magnitude⟩

/-! ## Dates and times -/

/-- A number of exactly so many decimal digits. -/
def field? (digits : List Char) : Option Nat :=
  if digits.all Char.isDigit then some (Decimal.ofDigits digits) else none

def isLeapYear (year : Nat) : Bool := year % 4 == 0 && (year % 100 != 0 || year % 400 == 0)

def daysIn (year month : Nat) : Nat :=
  if month = 2 then (if isLeapYear year then 29 else 28)
  else if month = 4 ∨ month = 6 ∨ month = 9 ∨ month = 11 then 30
  else 31

/-- What follows a date at the front of a word. -/
def dropDate? : List Char → Option (List Char)
  | a :: b :: c :: d :: '-' :: e :: f :: '-' :: g :: h :: rest => do
    let year ← field? [a, b, c, d]
    let month ← field? [e, f]
    let day ← field? [g, h]
    if 1 ≤ month ∧ month ≤ 12 ∧ 1 ≤ day ∧ day ≤ daysIn year month then some rest else none
  | _ => none

/-- What follows hours and minutes at the front of a word. -/
def dropMinutes? : List Char → Option (List Char)
  | a :: b :: ':' :: c :: d :: rest => do
    let hour ← field? [a, b]
    let minute ← field? [c, d]
    if hour < 24 ∧ minute < 60 then some rest else none
  | _ => none

/-- What follows a time at the front of a word. A minute may have a 61st second. -/
def dropTime? (word : List Char) : Option (List Char) := do
  match ← dropMinutes? word with
  | ':' :: e :: f :: rest =>
    let second ← field? [e, f]
    if 60 < second then none
    else
      match rest with
      | '.' :: rest => if rest.head?.any Char.isDigit then some (rest.dropWhile Char.isDigit) else none
      | rest => some rest
  | _ => none

def isOffset : List Char → Bool
  | ['Z'] => true
  | ['z'] => true
  | '+' :: rest => dropMinutes? rest == some []
  | '-' :: rest => dropMinutes? rest == some []
  | _ => false

def isLocalTime (word : List Char) : Bool := dropTime? word == some []

/-- Whether a word is a time that may follow a date. -/
def isTimeOfDate (word : List Char) : Bool :=
  (dropTime? word).any fun rest => rest.isEmpty || isOffset rest

def isDate (word : List Char) : Bool := dropDate? word == some []

def isDatetime (word : List Char) : Bool :=
  isLocalTime word ||
    match dropDate? word with
    | some [] => true
    | some (mark :: time) => (mark == 'T' || mark == 't') && isTimeOfDate time
    | none => false

/-! ## Words -/

def isWordChar (c : Char) : Bool :=
  c.isAlphanum || c == '+' || c == '-' || c == '.' || c == '_' || c == ':'

def ofWord? (word : List Char) : Option Value :=
  if word = "true".toList then some (.boolean true)
  else if word = "false".toList then some (.boolean false)
  else if isDatetime word then some (.datetime word)
  else
    match integer? word, float? word with
    | some i, _ => some (.integer i)
    | none, some x => some (.float x)
    | none, none => none

/-- A word, or a date and a time with a space between them. -/
def read : Reader Char Value := fun input =>
  let word := input.takeWhile isWordChar
  let rest := input.dropWhile isWordChar
  match isDate word, rest with
  | true, ' ' :: more =>
    let time := more.takeWhile isWordChar
    if isTimeOfDate time then some (.datetime (word ++ ' ' :: time), more.dropWhile isWordChar)
    else some (.datetime word, rest)
  | _, rest => (ofWord? word).map fun value => (value, rest)

end GatewayClient.Toml.Scalar
