import Mathlib.Data.List.Induction
import Mathlib.Tactic.Ring
import GatewayClient.Address.Ipv4
import GatewayClient.Proofs.Binary64.Decimal
import GatewayClient.Proofs.Reader
/-!
# IPv4 addresses there and back

Numbers are read back from their digits in any base, and parts that were put together from the
marks between them. An address has other spellings than the one in which it is written; that one
is read as the address.

Main statements: `parse?_render`, `lt_of_parse?`.
-/

namespace GatewayClient

/-! ## Parts -/

section

variable {α : Type} [DecidableEq α] {mark : α} {part : List α} {parts : List (List α)}

theorem splitAt_of_not_mem (h : mark ∉ part) : splitAt mark part = [part] := by
  induction part with
  | nil => rfl
  | cons a rest ih =>
      have hhead := List.ne_of_not_mem_cons h
      have hrest := ih (List.not_mem_of_not_mem_cons h)
      simp [splitAt, hhead.symm, hrest]

theorem splitAt_append_cons (h : mark ∉ part) (rest : List α) :
    splitAt mark (part ++ mark :: rest) = part :: splitAt mark rest := by
  induction part with
  | nil => simp [splitAt]
  | cons a part ih =>
      have hhead := List.ne_of_not_mem_cons h
      have hpart := ih (List.not_mem_of_not_mem_cons h)
      simp [splitAt, hhead.symm, hpart]

/-- Parts without the mark are found again between the marks. -/
theorem splitAt_intercalate (hne : parts ≠ []) (h : ∀ part ∈ parts, mark ∉ part) :
    splitAt mark ([mark].intercalate parts) = parts := by
  induction parts with
  | nil => exact absurd rfl hne
  | cons first others ih =>
      have hfirst := h first List.mem_cons_self
      cases others with
      | nil => simpa using splitAt_of_not_mem hfirst
      | cons second others =>
          have hrest := ih (by simp) fun part hmem => h part (List.mem_cons_of_mem _ hmem)
          rw [List.intercalate_cons_cons, List.append_assoc, List.singleton_append,
            splitAt_append_cons hfirst, hrest]

omit [DecidableEq α] in
theorem mem_intercalate {a : α} (h : a ∈ [mark].intercalate parts) :
    a = mark ∨ ∃ part ∈ parts, a ∈ part := by
  induction parts with
  | nil => simp at h
  | cons first others ih =>
      cases others with
      | nil => exact .inr ⟨first, List.mem_cons_self, by simpa using h⟩
      | cons second others =>
          rw [List.intercalate_cons_cons, List.append_assoc, List.singleton_append] at h
          rcases List.mem_append.mp h with hfirst | hrest
          · exact .inr ⟨first, List.mem_cons_self, hfirst⟩
          rcases List.mem_cons.mp hrest with hmark | hrest
          · exact .inl hmark
          · rcases ih hrest with hmark | ⟨part, hpart, hmem⟩
            · exact .inl hmark
            · exact .inr ⟨part, List.mem_cons_of_mem _ hpart, hmem⟩

end

namespace Digits

variable {base n : Nat} {digits : List Char} {c : Char}

/-- The digits of all bases. -/
def all : List Char := "0123456789abcdef".toList

theorem value?_digitChar (hbase : base ≤ 16) (h : n < base) :
    value? base (Nat.digitChar n) = some n := by
  have hhex : ∀ n < 16, hexValue? (Nat.digitChar n) = some n := by decide
  simp [value?, hhex n (by omega), h]

theorem number?_concat (digits : List Char) (c : Char) : number? base (digits ++ [c]) =
    (number? base digits).bind fun n => (value? base c).map (base * n + ·) := by
  simp [number?, List.foldlM_append]

/-- A number is read from the digits in which it is written. -/
theorem number?_toDigits (hpos : 1 < base) (hbase : base ≤ 16) (n : Nat) :
    number? base (Nat.toDigits base n) = some n := by
  induction n using Nat.strong_induction_on with
  | h n ih =>
      by_cases hsmall : n < base
      · rw [Nat.toDigits_of_lt_base hsmall]
        simp [number?, value?_digitChar hbase hsmall]
      · have hle : base ≤ n := Nat.le_of_not_lt hsmall
        have hquotient := ih (n / base) (Nat.div_lt_self (by omega) hpos)
        have hremainder : n % base < base := Nat.mod_lt n (by omega)
        rw [Nat.toDigits_of_base_le hpos hle, number?_concat, hquotient, Option.bind_some,
          value?_digitChar hbase hremainder, Option.map_some, Nat.div_add_mod]

theorem lt_of_value? (h : value? base c = some n) : n < base := by
  obtain ⟨-, hlt⟩ := Option.filter_eq_some_iff.mp h
  exact of_decide_eq_true hlt

/-- A number has no more than its digits have room for. -/
theorem lt_of_number? (h : number? base digits = some n) : n < base ^ digits.length := by
  induction digits using List.reverseRecOn generalizing n with
  | nil =>
      obtain rfl : 0 = n := by simpa [number?] using h
      simp
  | append_singleton digits c ih =>
      rw [number?_concat] at h
      obtain ⟨front, hfront, hlast⟩ := Option.bind_eq_some_iff.mp h
      obtain ⟨d, hd, rfl⟩ := Option.map_eq_some_iff.mp hlast
      have hlt := ih hfront
      have hdigit := lt_of_value? hd
      rw [List.length_append, List.length_singleton, Nat.pow_succ]
      calc base * front + d < base * front + base := by omega
        _ = (front + 1) * base := by ring
        _ ≤ base ^ digits.length * base := Nat.mul_le_mul_right _ hlt

theorem mem_all_of_mem_toDigits (hpos : 1 < base) (hbase : base ≤ 16)
    (h : c ∈ Nat.toDigits base n) : c ∈ all := by
  have hdigits : ∀ n < 16, Nat.digitChar n ∈ all := by decide
  induction n using Nat.strong_induction_on with
  | h n ih =>
      by_cases hsmall : n < base
      · rw [Nat.toDigits_of_lt_base hsmall] at h
        obtain rfl := List.mem_singleton.mp h
        exact hdigits n (by omega)
      · rw [Nat.toDigits_of_base_le hpos (Nat.le_of_not_lt hsmall)] at h
        rcases List.mem_append.mp h with hfront | hlast
        · exact ih (n / base) (Nat.div_lt_self (by omega) hpos) hfront
        · obtain rfl := List.mem_singleton.mp hlast
          exact hdigits _ (Nat.lt_of_lt_of_le (Nat.mod_lt n (by omega)) hbase)

/-- A mark that is no digit stands in no number. -/
theorem not_mem_toDigits (hpos : 1 < base) (hbase : base ≤ 16) {mark : Char} (hmark : mark ∉ all)
    (n : Nat) : mark ∉ Nat.toDigits base n :=
  fun hmem => hmark (mem_all_of_mem_toDigits hpos hbase hmem)

end Digits

namespace Ipv4

variable {address : Nat} {text : List Char} {numbers : List Nat}

/-- No number is written with a zero in front, so none is taken for octal or hexadecimal. -/
theorem parseNumber?_toDigits (n : Nat) : parseNumber? (Nat.toDigits 10 n) = some n := by
  have hdecimal : Digits.number? 10 (Nat.toDigits 10 n) = some n :=
    Digits.number?_toDigits (by decide) (by decide) n
  unfold parseNumber?
  split
  case h_1 hnil => exact absurd hnil Nat.toDigits_ne_nil
  case h_5 => exact hdecimal
  all_goals
    next heq =>
      rcases Decimal.head_toDigits n with hhead | hlength
      · exact absurd (by rw [heq]; rfl) hhead
      · simp [heq] at hlength

theorem mapM_parseNumber? (numbers : List Nat) :
    (numbers.map (Nat.toDigits 10)).mapM parseNumber? = some numbers :=
  mapM_map_eq_some fun n _ => parseNumber?_toDigits n

theorem splitAt_render (address : Nat) :
    splitAt '.' (render address) = (bytes address).map (Nat.toDigits 10) := by
  apply splitAt_intercalate (by simp [bytes])
  intro part hmem
  obtain ⟨byte, -, rfl⟩ := List.mem_map.mp hmem
  exact Digits.not_mem_toDigits (by decide) (by decide) (by decide) byte

theorem parts_render (address : Nat) :
    parts (render address) = (bytes address).map (Nat.toDigits 10) := by
  have hlast : ((bytes address).map (Nat.toDigits 10)).getLast? ≠ some [] := by
    simp [bytes]
  rw [parts, splitAt_render, if_neg hlast]

theorem ofNumbers?_bytes (h : address < 0x100000000) : ofNumbers? (bytes address) = some address := by
  simp [ofNumbers?, bytes, Bytes.capacity]
  omega

/-- An address is read as what it is written for. -/
theorem parse?_render (h : address < 0x100000000) : parse? (render address) = some address := by
  rw [parse?, parts_render, mapM_parseNumber?]
  exact ofNumbers?_bytes h

theorem endsInNumber_render (address : Nat) : endsInNumber (render address) = true := by
  have hdigits : ∀ c ∈ Nat.toDigits 10 (address % 256), c.isDigit = true :=
    fun _ => Decimal.isDigit_of_mem_toDigits
  have hlast : (parts (render address)).getLast? = some (Nat.toDigits 10 (address % 256)) := by
    rw [parts_render]
    rfl
  rw [endsInNumber, hlast]
  simpa [Nat.toDigits_ne_nil] using .inl hdigits

theorem render_ne_nil (address : Nat) : render address ≠ [] := by
  intro hnil
  have hends := endsInNumber_render address
  rw [hnil] at hends
  cases hends

theorem mem_render {c : Char} (h : c ∈ render address) : c = '.' ∨ c ∈ Digits.all := by
  rcases mem_intercalate h with hdot | ⟨part, hpart, hmem⟩
  · exact .inl hdot
  · obtain ⟨byte, -, rfl⟩ := List.mem_map.mp hpart
    exact .inr (Digits.mem_all_of_mem_toDigits (by decide) (by decide) hmem)

theorem foldl_lt (hbytes : ∀ byte ∈ numbers, byte < 256) (start : Nat) :
    numbers.foldl (fun n b => 256 * n + b) start < (start + 1) * Bytes.capacity numbers.length := by
  induction numbers generalizing start with
  | nil => simp [Bytes.capacity]
  | cons byte numbers ih =>
      have hbyte := hbytes byte List.mem_cons_self
      have hrest := ih (fun b hmem => hbytes b (List.mem_cons_of_mem _ hmem)) (256 * start + byte)
      rw [List.foldl_cons, List.length_cons, Bytes.capacity]
      calc numbers.foldl (fun n b => 256 * n + b) (256 * start + byte)
          < (256 * start + byte + 1) * Bytes.capacity numbers.length := hrest
        _ ≤ ((start + 1) * 256) * Bytes.capacity numbers.length := Nat.mul_le_mul_right _ (by omega)
        _ = (start + 1) * (256 * Bytes.capacity numbers.length) := Nat.mul_assoc ..

theorem lt_of_ofNumbers? (h : ofNumbers? numbers = some address) : address < 0x100000000 := by
  have hroom : ∀ k ≤ 3, Bytes.capacity k * Bytes.capacity (4 - k) = 0x100000000 := by decide
  unfold ofNumbers? at h
  split at h
  case h_1 => cases h
  case h_2 last before hreverse =>
    extract_lets bytes at h
    split at h
    case isFalse => cases h
    case isTrue hfits =>
      obtain ⟨hlength, hlast, hbytes⟩ := hfits
      obtain rfl := Option.some.inj h
      have hfront := foldl_lt (fun byte hmem => of_decide_eq_true (List.all_eq_true.mp hbytes byte hmem)) 0
      rw [← hroom _ hlength]
      generalize bytes.foldl (fun n b => 256 * n + b) 0 = front at hfront ⊢
      generalize Bytes.capacity (4 - bytes.length) = room at hlast ⊢
      calc front * room + last < front * room + room := Nat.add_lt_add_left hlast _
        _ = (front + 1) * room := by ring
        _ ≤ Bytes.capacity bytes.length * room := Nat.mul_le_mul_right _ (by omega)

/-- What is read is an address. -/
theorem lt_of_parse? (h : parse? text = some address) : address < 0x100000000 := by
  obtain ⟨numbers, -, hnumbers⟩ := Option.bind_eq_some_iff.mp h
  exact lt_of_ofNumbers? hnumbers

end Ipv4

end GatewayClient
