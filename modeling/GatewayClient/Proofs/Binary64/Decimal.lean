import GatewayClient.Binary64.Reader
import Mathlib.Algebra.Order.Ring.Nat
/-!
# Numbers as decimals and back

The decimal that is written for a finite number is read as that number. The candidates of up to
seventeen digits are tested by reading them, so all depends on the exact value that stands behind
them: a value that a number has exactly is rounded to that number (`nearest_units`), whatever
fraction it is given by (`nearest_mul`).

Main statement: `nearest_shortest`.
-/

namespace GatewayClient

namespace Binary64

/-! ## Rounding -/

theorem one_pos : 0 < one := Nat.shiftLeft_pos_iff.2 Nat.one_pos

theorem roundedQuotient_mul {c : Nat} (hc : 0 < c) (n d : Nat) :
    roundedQuotient (n * c) (d * c) = roundedQuotient n d := by
  have hlt : 2 * (n % d * c) < d * c ↔ 2 * (n % d) < d := by
    rw [← Nat.mul_assoc]; exact Nat.mul_lt_mul_right hc
  have heq : 2 * (n % d * c) = d * c ↔ 2 * (n % d) = d := by
    rw [← Nat.mul_assoc]; exact Nat.mul_left_inj hc.ne'
  simp only [roundedQuotient, Nat.mul_div_mul_right _ _ hc, Nat.mul_mod_mul_right, hlt, heq]

/-- Rounding depends on the value of a fraction only. -/
theorem nearest_mul {c : Nat} (hc : 0 < c) (n d : Nat) :
    nearest (n * c) (d * c) = nearest n d := by
  have hshift (s : Nat) : (d * c) <<< s = (d <<< s) * c := by
    rw [Nat.shiftLeft_eq, Nat.shiftLeft_eq, Nat.mul_right_comm]
  simp only [nearest, Nat.mul_right_comm n c one, Nat.mul_div_mul_right _ _ hc, hshift,
    roundedQuotient_mul hc]

theorem roundedQuotient_exact {d : Nat} (hd : 0 < d) (q : Nat) : roundedQuotient (q * d) d = q := by
  simp [roundedQuotient, Nat.mul_mod_left, hd]

/-- A multiple of the least value whose mantissa has 53 bits is rounded to itself. -/
theorem nearest_mantissa {m shift : Nat} (hm : (m <<< shift).log2 + 1 - 53 = shift)
    (hfinite : (shift <<< 52) + m ≤ infinity) :
    nearest (m <<< shift) one = (shift <<< 52) + m := by
  have hquotient : (m <<< shift) * one = m * (one <<< shift) := by
    rw [Nat.shiftLeft_eq, Nat.shiftLeft_eq, Nat.mul_right_comm, Nat.mul_assoc]
  have hpos : 0 < one <<< shift := Nat.shiftLeft_pos_iff.2 one_pos
  rw [nearest, Nat.mul_div_cancel _ one_pos, hm, hquotient, roundedQuotient_exact hpos]
  exact Nat.min_eq_right hfinite

theorem log2_shiftLeft {m k : Nat} (hlow : 2 ^ k ≤ m) (hhigh : m < 2 ^ (k + 1)) (shift : Nat) :
    (m <<< shift).log2 = k + shift := by
  have hpos : 0 < 2 ^ shift := Nat.two_pow_pos _
  rw [Nat.shiftLeft_eq, Nat.log2_eq_iff (Nat.mul_pos (by omega) hpos).ne', Nat.pow_add,
    Nat.add_right_comm, Nat.pow_add]
  exact ⟨Nat.mul_le_mul_right _ hlow, Nat.mul_lt_mul_of_pos_right hhigh hpos⟩

/-- What a number stands for is rounded to that number. -/
theorem nearest_units {m : Nat} (h : m < infinity) : nearest (units m) one = m := by
  have hfinite : infinity = 0x7ff * 2 ^ 52 := rfl
  unfold units
  split
  · next hsmall =>
    have hlog : (m <<< 0).log2 + 1 - 53 = 0 := by
      by_cases hm : m = 0
      · subst m; rfl
      · have : m.log2 < 52 := (Nat.log2_lt hm).2 (by simpa [Nat.shiftLeft_eq] using hsmall)
        simp only [Nat.shiftLeft_zero]
        omega
    simpa using nearest_mantissa hlog (by simp; omega)
  · next hlarge =>
    have hm : ((m >>> 52 - 1) <<< 52) + ((1 <<< 52) + m % (1 <<< 52)) = m := by
      simp only [Nat.shiftLeft_eq, Nat.shiftRight_eq_div_pow] at hlarge ⊢
      omega
    have hlog := @log2_shiftLeft ((1 <<< 52) + m % (1 <<< 52)) 52 (by simp [Nat.shiftLeft_eq])
      (by simp only [Nat.shiftLeft_eq]; omega) (m >>> 52 - 1)
    have := nearest_mantissa (show _ = m >>> 52 - 1 by rw [hlog]; omega) (by rw [hm]; omega)
    rwa [hm] at this

/-! ## Exact decimals -/

theorem units_pos {m : Nat} (h : m ≠ 0) : 0 < units m := by
  unfold units
  split
  · exact Nat.pos_of_ne_zero h
  · exact Nat.shiftLeft_pos_iff.2 (by simp [Nat.shiftLeft_eq])

theorem units_lt {m top : Nat} (h : m < (top + 2) * 2 ^ 52) : units m < 2 ^ 53 * 2 ^ top := by
  unfold units
  split
  · next hsmall =>
    rw [Nat.shiftLeft_eq] at hsmall
    exact Nat.lt_of_lt_of_le (by omega) (Nat.le_mul_of_pos_right _ (Nat.two_pow_pos _))
  · rw [Nat.shiftLeft_eq, Nat.shiftLeft_eq, Nat.shiftRight_eq_div_pow]
    exact Nat.mul_lt_mul_of_lt_of_le (by omega)
      (Nat.pow_le_pow_right (by decide) (by omega)) (Nat.two_pow_pos _)

/-- A decimal of a size within range is rounded without further ado. -/
theorem nearest_of_size {digits : Nat} {exponent : Int} (hdigits : digits ≠ 0)
    (hlow : -330 ≤ (Nat.toDigits 10 digits).length + exponent)
    (hhigh : (Nat.toDigits 10 digits).length + exponent ≤ 310) :
    Decimal.nearest ⟨digits, exponent⟩
      = if 0 ≤ exponent then nearest (digits * 10 ^ exponent.toNat) 1
        else nearest digits (10 ^ (-exponent).toNat) := by
  simp only [Decimal.nearest]
  rw [if_neg (by omega), if_neg (by omega)]
  rfl

/-- With as many places as the least value has, every multiple of it is a decimal. The other
numbers bound the size of that decimal. -/
theorem nearest_places {d : Decimal} {exponent : Int} {n factor places low bound high : Nat}
    (hd : d = ⟨n * factor, exponent⟩) (hexponent : exponent = -places) (hplaces : 0 < places)
    (hfactor : one * factor = 10 ^ places) (hn : 0 < n ∧ n < bound)
    (hlow : 0 < low ∧ 10 ^ low ≤ factor ∧ places < low + 331)
    (hhigh : 0 < high ∧ bound * factor ≤ 10 ^ high ∧ high ≤ places + 310) :
    d.nearest = nearest n one := by
  have hpos : 0 < factor := Nat.lt_of_lt_of_le (Nat.pow_pos (by decide)) hlow.2.1
  have hmany : low < (Nat.toDigits 10 (n * factor)).length := by
    rw [← Nat.not_le, Nat.length_toDigits_le_iff (by decide) hlow.1, Nat.not_lt]
    exact Nat.le_trans hlow.2.1 (Nat.le_mul_of_pos_left _ hn.1)
  have hfew : (Nat.toDigits 10 (n * factor)).length ≤ high := by
    rw [Nat.length_toDigits_le_iff (by decide) hhigh.1]
    exact Nat.lt_of_lt_of_le (Nat.mul_lt_mul_of_pos_right hn.2 hpos) hhigh.2.1
  rw [hd, hexponent, nearest_of_size (Nat.mul_pos hn.1 hpos).ne' (by omega) (by omega),
    if_neg (by omega), neg_neg, Int.toNat_natCast, ← hfactor, nearest_mul hpos]

theorem nearest_exact {m : Nat} (hm : m ≠ 0) (h : m < infinity) : (exact m).nearest = m := by
  have hplaces := @nearest_places (exact m) _ (units m) _ 1074 744 (2 ^ 53 * 2 ^ 2045) 1383 rfl rfl
    (by decide) (by decide +kernel) ⟨units_pos hm, units_lt h⟩ (by decide +kernel)
    (by decide +kernel)
  rw [hplaces, nearest_units h]

/-! ## Shortest decimals -/

theorem nearest_of_readable? {m count : Nat} {d : Decimal} (h : readable? m count = some d) :
    d.nearest = m := by
  unfold readable? at h
  extract_lets below above at h
  split at h
  · next hbelow habove =>
    rw [← Option.some.inj h]
    split
    · exact beq_iff_eq.1 hbelow
    · exact beq_iff_eq.1 habove
  · next hbelow _ => rw [← Option.some.inj h]; exact beq_iff_eq.1 hbelow
  · next habove => rw [← Option.some.inj h]; exact beq_iff_eq.1 habove
  · cases h

/-- The decimal that stands for a finite number is read as that number. -/
theorem nearest_shortest {m : Nat} (h : m < infinity) : (shortest m).nearest = m := by
  unfold shortest
  split
  · next hm => subst m; rfl
  next hm =>
    cases hfind : (List.range 17).findSome? fun i => readable? m (i + 1) with
    -- seventeen digits are enough, but that need not be known: the exact decimal would do as well
    | none => exact nearest_exact hm h
    | some d =>
      obtain ⟨i, -, hi⟩ := List.exists_of_findSome?_eq_some hfind
      exact nearest_of_readable? hi

end Binary64

namespace Decimal

/-! ## Digits -/

theorem ofDigits_eq (digits : List Char) : ofDigits digits = Nat.ofDigitChars 10 digits 0 := rfl

@[simp] theorem ofDigits_toDigits (n : Nat) : ofDigits (Nat.toDigits 10 n) = n :=
  Nat.ofDigitChars_ten_toDigits

theorem ofDigits_zeros_append (k : Nat) (digits : List Char) :
    ofDigits (List.replicate k '0' ++ digits) = ofDigits digits := by
  rw [ofDigits_eq, Nat.ofDigitChars_append, Nat.ofDigitChars_replicate_zero, Nat.mul_zero]
  rfl

theorem toDigits_mul_pow {n : Nat} (hn : 0 < n) (k : Nat) :
    Nat.toDigits 10 (n * 10 ^ k) = Nat.toDigits 10 n ++ List.replicate k '0' := by
  induction k with
  | zero => simp
  | succ k ih =>
    have happend := @Nat.toDigits_append_toDigits 10 (n * 10 ^ k) 0 (by decide)
      (Nat.mul_pos hn (Nat.pow_pos (by decide))) (by decide)
    rw [Nat.pow_succ, ← Nat.mul_assoc, Nat.mul_comm _ 10, ← Nat.add_zero (10 * _), ← happend, ih,
      Nat.toDigits_zero, List.append_assoc, ← List.replicate_succ']

theorem isDigit_of_mem_toDigits {n : Nat} {c : Char} (h : c ∈ Nat.toDigits 10 n) :
    c.isDigit = true :=
  Nat.isDigit_of_mem_toDigits (by decide) (by decide) h

/-- Only zero has a zero in front. -/
theorem head?_toDigits {n : Nat} (hn : 0 < n) : (Nat.toDigits 10 n).head? ≠ some '0' := by
  induction n using Nat.strong_induction_on with
  | h n ih =>
    by_cases hsmall : n < 10
    · rw [Nat.toDigits_of_lt_base hsmall]
      simp; omega
    · have hhead := ih (n / 10) (by omega) (by omega)
      obtain ⟨d, ds, hds⟩ := List.exists_cons_of_ne_nil (@Nat.toDigits_ne_nil (n / 10) 10)
      rw [hds] at hhead
      rwa [Nat.toDigits_of_base_le (by decide) (by omega), hds]

/-! ## Places -/

/-- Another place does not change a number. -/
theorem nearest_tenths (n k : Nat) : nearest ⟨n * 10 ^ k * 10, -1⟩ = nearest ⟨n, k⟩ := by
  by_cases hn : n = 0
  · subst n; simp [nearest]
  have hpos : 0 < n * 10 ^ k * 10 := by
    have := Nat.mul_pos (Nat.pos_of_ne_zero hn) (show 0 < 10 ^ k from Nat.pow_pos (by decide))
    omega
  have hsize : (Nat.toDigits 10 (n * 10 ^ k * 10)).length + (-1 : Int)
      = (Nat.toDigits 10 n).length + (k : Int) := by
    rw [Nat.mul_assoc, ← Nat.pow_succ, toDigits_mul_pow (Nat.pos_of_ne_zero hn),
      List.length_append, List.length_replicate]
    omega
  have hplace : Nat.pow 10 (- -1 : Int).toNat = 1 * 10 := rfl
  have hwhole : Nat.pow 10 (k : Int).toNat = 10 ^ k := by rw [Int.toNat_natCast, Nat.pow_eq]
  simp only [nearest, hsize, hn, hpos.ne', Int.natCast_nonneg, if_true, hplace, hwhole,
    Binary64.nearest_mul (show 0 < 10 by decide), if_neg (show ¬(0 : Int) ≤ -1 by decide)]

/-- Digits before and after a point, which are read as the number that a decimal is. -/
structure IsParts (d : Decimal) (before after : List Char) : Prop where
  positional : d.positional = before ++ '.' :: after
  digits_before : ∀ c ∈ before, c.isDigit = true
  before_ne : before ≠ []
  /-- A zero is the first digit only if it is the only one. -/
  head : before.head? ≠ some '0' ∨ before.length = 1
  digits_after : ∀ c ∈ after, c.isDigit = true
  after_ne : after ≠ []
  nearest : (ofParts before after 0).nearest = d.nearest

theorem head_toDigits (n : Nat) :
    (Nat.toDigits 10 n).head? ≠ some '0' ∨ (Nat.toDigits 10 n).length = 1 := by
  by_cases hn : n = 0
  · subst n; exact .inr rfl
  · exact .inl (head?_toDigits (Nat.pos_of_ne_zero hn))

theorem isParts_whole (n k : Nat) :
    IsParts ⟨n, k⟩ (Nat.toDigits 10 (n * 10 ^ k)) ['0'] where
  positional := by
    simp only [positional, Int.natCast_nonneg, if_true, Int.toNat_natCast]
    by_cases hn : n = 0
    · subst n; simp
    · rw [if_neg hn, toDigits_mul_pow (Nat.pos_of_ne_zero hn)]
  digits_before := fun c => isDigit_of_mem_toDigits
  before_ne := Nat.toDigits_ne_nil
  head := head_toDigits _
  digits_after := by simp
  after_ne := by simp
  nearest := by
    rw [← nearest_tenths, ofParts, ofDigits_eq, Nat.ofDigitChars_append,
      Nat.ofDigitChars_ten_toDigits, Nat.mul_comm _ 10]
    rfl

/-- Digits with zeros in front, so that there is one before the point. -/
def padded (n places : Nat) : List Char :=
  List.replicate (places + 1 - (Nat.toDigits 10 n).length) '0' ++ Nat.toDigits 10 n

theorem length_padded (n places : Nat) :
    (padded n places).length = max (places + 1) (Nat.toDigits 10 n).length := by
  simp [padded]; omega

theorem isDigit_of_mem_padded {n places : Nat} {c : Char} (h : c ∈ padded n places) :
    c.isDigit = true := by
  rcases List.mem_append.1 h with h | h
  · rw [List.eq_of_mem_replicate h]; rfl
  · exact isDigit_of_mem_toDigits h

theorem positional_places {n places : Nat} (hplaces : 0 < places) :
    positional ⟨n, -places⟩
      = (padded n places).take ((padded n places).length - places)
        ++ '.' :: (padded n places).drop ((padded n places).length - places) := by
  simp only [positional, if_neg (show ¬(0 : Int) ≤ -(places : Int) by omega), neg_neg,
    Int.toNat_natCast]
  rfl

/-- If there are more digits than places, none had to be put in front. -/
theorem head_padded (n : Nat) {places : Nat} (hplaces : 0 < places) :
    ((padded n places).take ((padded n places).length - places)).head? ≠ some '0'
      ∨ ((padded n places).take ((padded n places).length - places)).length = 1 := by
  have hlength := length_padded n places
  by_cases hfew : (Nat.toDigits 10 n).length ≤ places + 1
  · refine .inr ?_
    rw [List.length_take]
    omega
  · have hpadded : padded n places = Nat.toDigits 10 n := by
      rw [padded, Nat.sub_eq_zero_of_le (by omega)]; rfl
    refine .inl ?_
    rw [List.head?_take, if_neg (by omega), hpadded]
    exact (head_toDigits n).resolve_right (by omega)

theorem isParts_places (n : Nat) {places : Nat} (hplaces : 0 < places) :
    IsParts ⟨n, -places⟩ ((padded n places).take ((padded n places).length - places))
      ((padded n places).drop ((padded n places).length - places)) where
  positional := positional_places hplaces
  digits_before := fun c hc => isDigit_of_mem_padded (List.mem_of_mem_take hc)
  before_ne := by
    have := length_padded n places
    rw [← List.length_pos_iff, List.length_take]
    omega
  head := head_padded n hplaces
  digits_after := fun c hc => isDigit_of_mem_padded (List.mem_of_mem_drop hc)
  after_ne := by
    have := length_padded n places
    rw [← List.length_pos_iff, List.length_drop]
    omega
  nearest := by
    have hdrop : ((padded n places).drop ((padded n places).length - places)).length = places := by
      have := length_padded n places
      rw [List.length_drop]
      omega
    rw [ofParts, List.take_append_drop, hdrop, padded, ofDigits_zeros_append, ofDigits_toDigits,
      Int.zero_sub]

theorem exists_isParts (d : Decimal) : ∃ before after, IsParts d before after := by
  obtain ⟨n, exponent⟩ := d
  rcases Int.eq_nat_or_neg exponent with ⟨k, rfl | rfl⟩
  · exact ⟨_, _, isParts_whole n k⟩
  · rcases Nat.eq_zero_or_pos k with rfl | hk
    · exact ⟨_, _, isParts_whole n 0⟩
    · exact ⟨_, _, isParts_places n hk⟩

end Decimal

end GatewayClient
