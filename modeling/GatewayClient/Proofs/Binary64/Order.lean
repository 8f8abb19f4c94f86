import GatewayClient.Proofs.Binary64.Decimal
import Mathlib.Data.Nat.Log
import Mathlib.Tactic.Ring
/-!
# Rounding and order

Rounding keeps the order of fractions (`nearest_le_nearest`). As a number is rounded to itself,
all that is known of the order of exact results is known of rounded ones: magnitudes are ordered
as their values are, and products of positive numbers grow with their factors (`product_mono`).
-/

namespace GatewayClient.Binary64

/-! ## Rounding -/

theorem le_roundedQuotient (n d : Nat) : n / d ≤ roundedQuotient n d := by
  unfold roundedQuotient
  extract_lets q
  split <;> omega

theorem roundedQuotient_le_succ (n d : Nat) : roundedQuotient n d ≤ n / d + 1 := by
  unfold roundedQuotient
  extract_lets q
  split <;> omega

theorem roundedQuotient_mono {m n : Nat} (h : m ≤ n) (d : Nat) :
    roundedQuotient m d ≤ roundedQuotient n d := by
  have hquotient : m / d ≤ n / d := Nat.div_le_div_right h
  rcases Nat.lt_or_eq_of_le hquotient with hlt | heq
  · exact Nat.le_trans (roundedQuotient_le_succ m d) (Nat.le_trans hlt (le_roundedQuotient n d))
  · -- between the same two integers the remainders decide
    have hremainder : m % d ≤ n % d := by
      have hm := Nat.div_add_mod m d
      have hn := Nat.div_add_mod n d
      rw [heq] at hm
      omega
    simp only [roundedQuotient, heq]
    split <;> split <;> omega

/-- The binary digits of an integer beyond the 53 of a mantissa. -/
def excess (n : Nat) : Nat := n.log2 + 1 - 53

theorem excess_mono {m n : Nat} (h : m ≤ n) : excess m ≤ excess n := by
  have hlog : m.log2 ≤ n.log2 := by
    rw [Nat.log2_eq_log_two, Nat.log2_eq_log_two]
    exact Nat.log_mono_right h
  unfold excess
  omega

theorem div_excess_lt (n : Nat) : n / 2 ^ excess n < 2 ^ 53 := by
  rw [Nat.div_lt_iff_lt_mul (Nat.two_pow_pos _), ← Nat.pow_add]
  refine Nat.lt_of_lt_of_le Nat.lt_log2_self (Nat.pow_le_pow_right (by decide) ?_)
  unfold excess
  omega

theorem le_div_excess {n : Nat} (h : 0 < excess n) : 2 ^ 52 ≤ n / 2 ^ excess n := by
  have hn : n ≠ 0 := by
    rintro rfl
    simp [excess] at h
  rw [Nat.le_div_iff_mul_le (Nat.two_pow_pos _), ← Nat.pow_add]
  refine Nat.le_trans (Nat.pow_le_pow_right (by decide) ?_) (Nat.log2_self_le hn)
  unfold excess at h ⊢
  omega

theorem nearest_eq (n d : Nat) :
    nearest n d = min infinity (excess (n * one / d) * 2 ^ 52 +
      roundedQuotient (n * one) (d * 2 ^ excess (n * one / d))) := by
  simp only [nearest, excess, Nat.shiftLeft_eq]

theorem nearest_le_infinity (n d : Nat) : nearest n d ≤ infinity := Nat.min_le_left ..

theorem nearest_mono {m n : Nat} (h : m ≤ n) (d : Nat) : nearest m d ≤ nearest n d := by
  have hscaled : m * one ≤ n * one := Nat.mul_le_mul_right _ h
  rw [nearest_eq, nearest_eq]
  generalize m * one = p at *
  generalize n * one = q at *
  have hquotient : p / d ≤ q / d := Nat.div_le_div_right hscaled
  refine Nat.le_min.mpr ⟨Nat.min_le_left .., Nat.le_trans (Nat.min_le_right ..) ?_⟩
  rcases Nat.lt_or_eq_of_le (excess_mono hquotient) with hlt | heq
  · -- the lesser mantissa is at most 2 ^ 53, and the greater one has all of its digits
    have hp : roundedQuotient p (d * 2 ^ excess (p / d)) ≤ 2 ^ 53 := by
      refine Nat.le_trans (roundedQuotient_le_succ ..) ?_
      rw [← Nat.div_div_eq_div_mul]
      exact div_excess_lt _
    have hq : 2 ^ 52 ≤ roundedQuotient q (d * 2 ^ excess (q / d)) := by
      refine Nat.le_trans ?_ (le_roundedQuotient ..)
      rw [← Nat.div_div_eq_div_mul]
      exact le_div_excess (Nat.zero_lt_of_lt hlt)
    omega
  · rw [heq]
    exact Nat.add_le_add_left (roundedQuotient_mono hscaled _) _

/-- The lesser fraction is rounded to the lesser number. -/
theorem nearest_le_nearest {m n d e : Nat} (hd : 0 < d) (he : 0 < e) (h : m * e ≤ n * d) :
    nearest m d ≤ nearest n e := by
  calc nearest m d = nearest (m * e) (d * e) := (nearest_mul he m d).symm
    _ ≤ nearest (n * d) (d * e) := nearest_mono h _
    _ = nearest (n * d) (e * d) := by rw [Nat.mul_comm d e]
    _ = nearest n e := nearest_mul hd n e

/-! ## Values -/

theorem units_lt_units {a b : Nat} (h : a < b) (hb : b < infinity) : units a < units b := by
  by_contra hle
  have hnearest := nearest_mono (Nat.le_of_not_lt hle) one
  rw [nearest_units hb, nearest_units (Nat.lt_trans h hb)] at hnearest
  omega

theorem units_le_units {a b : Nat} (h : a ≤ b) (hb : b < infinity) : units a ≤ units b := by
  rcases Nat.lt_or_eq_of_le h with hlt | rfl
  · exact Nat.le_of_lt (units_lt_units hlt hb)
  · exact Nat.le_refl _

theorem nearest_mul_one (n : Nat) : nearest (n * one) one = nearest n 1 := by
  have h := nearest_mul one_pos n 1
  rwa [Nat.one_mul] at h

/-- What is below a rounded integer is below the integer. -/
theorem units_lt_of_lt_nearest {b n : Nat} (h : b < nearest n 1) : units b < n * one := by
  have hb : b < infinity := Nat.lt_of_lt_of_le h (nearest_le_infinity n 1)
  by_contra hle
  have hnearest := nearest_mono (Nat.le_of_not_lt hle) one
  rw [nearest_units hb, nearest_mul_one] at hnearest
  omega

/-- What is above a rounded integer is above the integer. -/
theorem lt_units_of_nearest_lt {b n : Nat} (h : nearest n 1 < b) (hb : b < infinity) :
    n * one < units b := by
  by_contra hle
  have hnearest := nearest_mono (Nat.le_of_not_lt hle) one
  rw [nearest_units hb, nearest_mul_one] at hnearest
  omega

/-- The distance of a number with a full mantissa from the next. -/
def gap (a : Nat) : Nat := 2 ^ (a / 2 ^ 52 - 1)

theorem units_of_le {a : Nat} (h : 2 ^ 52 ≤ a) : units a = (2 ^ 52 + a % 2 ^ 52) * gap a := by
  rw [units, if_neg (by simpa [Nat.shiftLeft_eq] using h)]
  simp only [Nat.shiftLeft_eq, Nat.shiftRight_eq_div_pow, Nat.one_mul, gap]

theorem gap_mul_le_units {a : Nat} (h : 2 ^ 52 ≤ a) : gap a * 2 ^ 52 ≤ units a := by
  rw [units_of_le h, Nat.mul_comm]
  exact Nat.mul_le_mul_right _ (Nat.le_add_right ..)

theorem units_succ {a : Nat} (h : 2 ^ 52 ≤ a) : units (a + 1) = units a + gap a := by
  rw [units_of_le h, units_of_le (Nat.le_succ_of_le h), ← Nat.succ_mul]
  by_cases hlast : a % 2 ^ 52 = 2 ^ 52 - 1
  · -- the mantissa is full, and the next number has twice the distance
    have hmantissa : (a + 1) % 2 ^ 52 = 0 := by omega
    have hexponent : (a + 1) / 2 ^ 52 - 1 = a / 2 ^ 52 - 1 + 1 := by omega
    have hgap : gap (a + 1) = gap a * 2 := by rw [gap, hexponent, Nat.pow_succ, gap]
    rw [hmantissa, hlast, hgap]
    omega
  · have hmantissa : (a + 1) % 2 ^ 52 = a % 2 ^ 52 + 1 := by omega
    have hexponent : (a + 1) / 2 ^ 52 = a / 2 ^ 52 := by omega
    rw [hmantissa, gap, hexponent, ← gap]
    rfl

/-! ## Products -/

/-- The magnitude of one. -/
def unit : Nat := 0x3ff <<< 52

theorem units_unit : units unit = one := by decide +kernel

/-- The magnitude of a product, unless one factor is zero and the other is infinite. -/
def product (a b : Nat) : Nat :=
  if a = infinity ∨ b = infinity then infinity else nearest (units a * units b) (one * one)

theorem product_comm (a b : Nat) : product a b = product b a := by
  simp only [product, Or.comm, Nat.mul_comm (units a)]

theorem product_le_infinity (a b : Nat) : product a b ≤ infinity := by
  unfold product
  split
  · exact Nat.le_refl _
  · exact nearest_le_infinity ..

theorem product_mono {a a' b b' : Nat} (ha : a ≤ a') (hb : b ≤ b') (ha' : a' ≤ infinity)
    (hb' : b' ≤ infinity) : product a b ≤ product a' b' := by
  by_cases hfinite : a' = infinity ∨ b' = infinity
  · rw [product.eq_def a', if_pos hfinite]
    exact product_le_infinity a b
  · have hunits : units a * units b ≤ units a' * units b' :=
      Nat.mul_le_mul (units_le_units ha (by omega)) (units_le_units hb (by omega))
    rw [product, product, if_neg (by omega), if_neg hfinite]
    exact nearest_mono hunits _

theorem product_unit {a : Nat} (ha : a ≤ infinity) : product a unit = a := by
  rcases Nat.lt_or_eq_of_le ha with hfinite | rfl
  · have hunit : unit ≠ infinity := by decide
    rw [product, if_neg (by omega), units_unit, nearest_mul one_pos, nearest_units hfinite]
  · exact if_pos (.inl rfl)

theorem le_product {a b : Nat} (ha : a ≤ infinity) (hb : unit ≤ b) (hb' : b ≤ infinity) :
    a ≤ product a b := by
  calc a = product a unit := (product_unit ha).symm
    _ ≤ product a b := product_mono (Nat.le_refl a) hb ha hb'

/-- A factor above one makes a number greater. -/
theorem lt_product {a b : Nat} (ha : 2 ^ 52 ≤ a) (ha' : a + 1 < infinity) (hb : unit < b)
    (hb' : b ≤ infinity) : a < product a b := by
  have hunit : units (unit + 1) * 2 ^ 52 = (2 ^ 52 + 1) * one := by decide +kernel
  have hexact : units (a + 1) * one ≤ units a * units (unit + 1) := by
    rw [units_succ ha]
    refine Nat.le_of_mul_le_mul_right ?_ (Nat.two_pow_pos 52)
    calc (units a + gap a) * one * 2 ^ 52
        = (units a * 2 ^ 52 + gap a * 2 ^ 52) * one := by ring
      _ ≤ (units a * 2 ^ 52 + units a) * one :=
          Nat.mul_le_mul_right _ (Nat.add_le_add_left (gap_mul_le_units ha) _)
      _ = units a * (units (unit + 1) * 2 ^ 52) := by rw [hunit]; ring
      _ = units a * units (unit + 1) * 2 ^ 52 := (Nat.mul_assoc ..).symm
  have hfinite : ¬ (a = infinity ∨ unit + 1 = infinity) := by
    have : unit + 1 < infinity := by decide
    omega
  calc a + 1 = nearest (units (a + 1) * one) (one * one) := by
          rw [nearest_mul one_pos, nearest_units ha']
    _ ≤ nearest (units a * units (unit + 1)) (one * one) := nearest_mono hexact _
    _ = product a (unit + 1) := by rw [product, if_neg hfinite]
    _ ≤ product a b := product_mono (Nat.le_refl a) hb (by omega) hb'

/-- A factor below one by two places or more makes a number less. -/
theorem product_lt {a b : Nat} (ha : 2 ^ 52 < a) (ha' : a < infinity) (hb : b + 2 ≤ unit) :
    product a b < a := by
  obtain ⟨a, rfl⟩ : ∃ c, a = c + 1 := ⟨a - 1, by omega⟩
  have hunit : units (unit - 2) * 2 ^ 52 = (2 ^ 52 - 1) * one := by decide +kernel
  have hexact : units (a + 1) * units (unit - 2) ≤ units a * one := by
    refine Nat.le_of_mul_le_mul_right ?_ (Nat.two_pow_pos 52)
    have hgap := gap_mul_le_units (Nat.le_of_lt_succ ha)
    have hless : (units a + gap a) * (2 ^ 52 - 1) ≤ units a * 2 ^ 52 := by
      rw [Nat.mul_sub, Nat.add_mul]
      omega
    calc units (a + 1) * units (unit - 2) * 2 ^ 52
        = (units a + gap a) * (units (unit - 2) * 2 ^ 52) := by
          rw [units_succ (Nat.le_of_lt_succ ha), Nat.mul_assoc]
      _ = (units a + gap a) * (2 ^ 52 - 1) * one := by rw [hunit, Nat.mul_assoc]
      _ ≤ units a * 2 ^ 52 * one := Nat.mul_le_mul_right _ hless
      _ = units a * one * 2 ^ 52 := Nat.mul_right_comm ..
  have hinfinity : unit < infinity := by decide
  refine Nat.lt_succ_of_le ?_
  calc product (a + 1) b ≤ product (a + 1) (unit - 2) :=
          product_mono (Nat.le_refl _) (by omega) (by omega) (by omega)
    _ = nearest (units (a + 1) * units (unit - 2)) (one * one) := by
          rw [product, if_neg (by omega)]
    _ ≤ nearest (units a * one) (one * one) := nearest_mono hexact _
    _ = a := by rw [nearest_mul one_pos, nearest_units (by omega)]

theorem mul_eq {a b : Nat} (ha : 0 < a) (ha' : a ≤ infinity) (hb : b ≤ infinity)
    (h : a < infinity ∨ 0 < b) : mul ⟨false, a⟩ ⟨false, b⟩ = ⟨false, product a b⟩ := by
  have hnumber : ¬ (infinity < a ∨ infinity < b ∨ a = 0 ∧ b = infinity ∨
      a = infinity ∧ b = 0) := by
    omega
  simp only [mul, isNaN, isInfinite, isZero, decide_eq_true_eq, beq_iff_eq, if_neg hnumber,
    product]
  split <;> rfl

/-! ## Inverses -/

/-- The magnitude of one divided by a number that is not zero. -/
def reciprocal (a : Nat) : Nat := if a = infinity then 0 else nearest one (units a)

theorem reciprocal_anti {a b : Nat} (ha : 0 < a) (h : a ≤ b) (hb : b ≤ infinity) :
    reciprocal b ≤ reciprocal a := by
  unfold reciprocal
  split
  · exact Nat.zero_le _
  · next hfinite =>
    have hunits := units_le_units h (Nat.lt_of_le_of_ne hb hfinite)
    rw [if_neg (by omega)]
    exact nearest_le_nearest (units_pos (by omega)) (units_pos (by omega))
      (Nat.mul_le_mul_left _ hunits)

theorem reciprocal_unit : reciprocal unit = unit := by decide +kernel

/-- The inverse of a number above one is below one by two places or more. -/
theorem reciprocal_add_two_le {a : Nat} (h : unit < a) (ha : a ≤ infinity) :
    reciprocal a + 2 ≤ unit := by
  have hnext : reciprocal (unit + 1) + 2 = unit := by decide +kernel
  have hanti : reciprocal a ≤ reciprocal (unit + 1) := reciprocal_anti (Nat.succ_pos unit) h ha
  omega

theorem inverse_eq {a : Nat} (ha : 0 < a) (ha' : a ≤ infinity) :
    inverse ⟨false, a⟩ = ⟨false, reciprocal a⟩ := by
  have hnumber : ¬ infinity < a := by omega
  have hpos : a ≠ 0 := by omega
  simp only [inverse, isNaN, isInfinite, isZero, decide_eq_true_eq, beq_iff_eq, if_neg hnumber,
    if_neg hpos, reciprocal]
  split <;> rfl

/-! ## Whole parts -/

/-- The whole part of a number that is not negative. -/
def wholePart (a : Nat) : Nat :=
  if a = infinity then (1 <<< 64) - 1 else min ((1 <<< 64) - 1) (units a / one)

theorem toNat64_eq {a : Nat} (ha : a ≤ infinity) : toNat64 ⟨false, a⟩ = wholePart a := by
  have hnumber : ¬ infinity < a := by omega
  simp [toNat64, isNaN, isInfinite, hnumber, wholePart]

theorem wholePart_mono {a b : Nat} (h : a ≤ b) (hb : b ≤ infinity) :
    wholePart a ≤ wholePart b := by
  by_cases hfinite : b = infinity
  · rw [wholePart.eq_def b, if_pos hfinite, wholePart]
    split
    · exact Nat.le_refl _
    · exact Nat.min_le_left ..
  · have hunits := units_le_units h (Nat.lt_of_le_of_ne hb hfinite)
    rw [wholePart, wholePart, if_neg (by omega), if_neg hfinite]
    exact Nat.le_min.mpr ⟨Nat.min_le_left ..,
      Nat.le_trans (Nat.min_le_right ..) (Nat.div_le_div_right hunits)⟩

theorem wholePart_unit : wholePart unit = 1 := by decide +kernel

/-- The whole part of a number below a rounded integer is below the integer. -/
theorem wholePart_lt {b n : Nat} (h : b < nearest n 1) : wholePart b < n := by
  have hfinite : b ≠ infinity :=
    Nat.ne_of_lt (Nat.lt_of_lt_of_le h (nearest_le_infinity n 1))
  rw [wholePart, if_neg hfinite]
  refine Nat.lt_of_le_of_lt (Nat.min_le_right ..) ?_
  rw [Nat.div_lt_iff_lt_mul one_pos]
  exact units_lt_of_lt_nearest h

/-- The whole part of a number above a rounded integer is at least the integer. -/
theorem le_wholePart {b n : Nat} (h : nearest n 1 < b) (hb : b ≤ infinity) (hn : n < 1 <<< 64) :
    n ≤ wholePart b := by
  have hlimit : n ≤ (1 <<< 64) - 1 := Nat.le_sub_one_of_lt hn
  unfold wholePart
  split
  · exact hlimit
  · next hfinite =>
    have hunits := lt_units_of_nearest_lt h (Nat.lt_of_le_of_ne hb hfinite)
    refine Nat.le_min.mpr ⟨hlimit, ?_⟩
    rw [Nat.le_div_iff_mul_le one_pos]
    exact Nat.le_of_lt hunits

end GatewayClient.Binary64
