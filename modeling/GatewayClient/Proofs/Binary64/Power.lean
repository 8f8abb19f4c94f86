import GatewayClient.Proofs.Binary64.Order
/-!
# Powers

Powers of numbers from one on grow with the exponent, although each of the products on the way is
rounded. Between an exponent and the next all digits may change. What is rounded differently then
is compared digit by digit: as long as the next exponent has zeros where the exponent has ones, the
product of the powers before a digit is at most the power that belongs to the digit
(`powerLoop_le_succ`).

Main statement: `power_le_power`.
-/

namespace GatewayClient.Binary64

/-- A number from one to infinity. -/
structure AtLeastOne (x : Binary64) : Prop where
  negative_eq : x.negative = false
  unit_le : unit ≤ x.magnitude
  le_infinity : x.magnitude ≤ infinity

theorem unit_pos : 0 < unit := by decide

theorem ofNat_one : ofNat 1 = ⟨false, unit⟩ := by decide +kernel

theorem atLeastOne_one : AtLeastOne (ofNat 1) := by
  rw [ofNat_one]
  exact ⟨rfl, Nat.le_refl unit, by decide⟩

variable {r r' x y : Binary64}

namespace AtLeastOne

theorem magnitude_pos (hx : AtLeastOne x) : 0 < x.magnitude :=
  Nat.lt_of_lt_of_le unit_pos hx.unit_le

theorem eq_mk (hx : AtLeastOne x) : x = ⟨false, x.magnitude⟩ := by
  rw [← hx.negative_eq]

/-! ## Products -/

theorem mul_eq (hx : AtLeastOne x) (hy : AtLeastOne y) :
    x.mul y = ⟨false, product x.magnitude y.magnitude⟩ := by
  rw [hx.eq_mk, hy.eq_mk]
  exact Binary64.mul_eq hx.magnitude_pos hx.le_infinity hy.le_infinity (.inr hy.magnitude_pos)

theorem mul (hx : AtLeastOne x) (hy : AtLeastOne y) : AtLeastOne (x.mul y) := by
  rw [hx.mul_eq hy]
  have hle := le_product hx.le_infinity hy.unit_le hy.le_infinity
  exact ⟨rfl, Nat.le_trans hx.unit_le hle, product_le_infinity ..⟩

theorem mul_le_mul (hr : AtLeastOne r) (hr' : AtLeastOne r') (hx : AtLeastOne x)
    (h : r.magnitude ≤ r'.magnitude) : (r.mul x).magnitude ≤ (r'.mul x).magnitude := by
  rw [hr.mul_eq hx, hr'.mul_eq hx]
  exact product_mono h (Nat.le_refl _) hr'.le_infinity hx.le_infinity

theorem le_mul (hr : AtLeastOne r) (hx : AtLeastOne x) :
    x.magnitude ≤ (r.mul x).magnitude := by
  rw [hr.mul_eq hx, product_comm]
  exact le_product hx.le_infinity hr.unit_le hr.le_infinity

end AtLeastOne

/-! ## Digits -/

theorem powerLoop_zero (r x : Binary64) (bits : Nat) : powerLoop r x bits 0 = r := by
  cases bits <;> rfl

theorem powerLoop_of_even {n : Nat} (h : n % 2 = 0) (r x : Binary64) (bits : Nat) :
    powerLoop r x (bits + 1) n = powerLoop r (x.mul x) bits (n / 2) := by
  rw [powerLoop, if_neg (show ¬ n % 2 = 1 by omega)]
  split
  · next hzero => rw [hzero, powerLoop_zero]
  · rfl

theorem powerLoop_of_odd {n : Nat} (h : n % 2 = 1) (r x : Binary64) (bits : Nat) :
    powerLoop r x (bits + 1) n = powerLoop (r.mul x) (x.mul x) bits (n / 2) := by
  rw [powerLoop, if_pos h]
  split
  · next hzero => rw [hzero, powerLoop_zero]
  · rfl

/-- Of the number of digits it only matters that it is large enough. -/
theorem powerLoop_of_lt {bits n : Nat} (h : n < 2 ^ bits) (r x : Binary64) (more : Nat) :
    powerLoop r x (bits + more) n = powerLoop r x bits n := by
  induction bits generalizing r x n with
  | zero =>
      obtain rfl : n = 0 := by omega
      rw [powerLoop_zero, powerLoop_zero]
  | succ bits ih =>
      rw [Nat.add_right_comm]
      rcases Nat.mod_two_eq_zero_or_one n with heven | hodd
      · rw [powerLoop_of_even heven, powerLoop_of_even heven, ih (by omega)]
      · rw [powerLoop_of_odd hodd, powerLoop_of_odd hodd, ih (by omega)]

namespace AtLeastOne

theorem powerLoop (hr : AtLeastOne r) (hx : AtLeastOne x) (bits n : Nat) :
    AtLeastOne (powerLoop r x bits n) := by
  induction bits generalizing r x n with
  | zero => exact hr
  | succ bits ih =>
      rcases Nat.mod_two_eq_zero_or_one n with heven | hodd
      · rw [powerLoop_of_even heven]
        exact ih hr (hx.mul hx) _
      · rw [powerLoop_of_odd hodd]
        exact ih (hr.mul hx) (hx.mul hx) _

/-- The digits that are left make the greater of two products so far the greater power. -/
theorem powerLoop_le_powerLoop (hr : AtLeastOne r) (hr' : AtLeastOne r') (hx : AtLeastOne x)
    (h : r.magnitude ≤ r'.magnitude) (bits n : Nat) :
    (Binary64.powerLoop r x bits n).magnitude ≤ (Binary64.powerLoop r' x bits n).magnitude := by
  induction bits generalizing r r' x n with
  | zero => exact h
  | succ bits ih =>
      rcases Nat.mod_two_eq_zero_or_one n with heven | hodd
      · rw [powerLoop_of_even heven, powerLoop_of_even heven]
        exact ih hr hr' (hx.mul hx) h _
      · rw [powerLoop_of_odd hodd, powerLoop_of_odd hodd]
        exact ih (hr.mul hx) (hr'.mul hx) (hx.mul hx) (hr.mul_le_mul hr' hx h) _

/-- Adding one to the digits that are left makes up for a product so far that is at most the
power that belongs to the next digit. -/
theorem powerLoop_le_succ (hr : AtLeastOne r) (hx : AtLeastOne x) (h : r.magnitude ≤ x.magnitude)
    {bits n : Nat} (hn : n + 1 < 2 ^ bits) :
    (Binary64.powerLoop r x bits n).magnitude ≤
      (Binary64.powerLoop (ofNat 1) x bits (n + 1)).magnitude := by
  induction bits generalizing r x n with
  | zero => omega
  | succ bits ih =>
      rcases Nat.mod_two_eq_zero_or_one n with heven | hodd
      · -- the last digit becomes one, and all others stay
        have hodd : (n + 1) % 2 = 1 := by omega
        have hhalf : (n + 1) / 2 = n / 2 := by omega
        have hfactor := Nat.le_trans h (atLeastOne_one.le_mul hx)
        rw [powerLoop_of_even heven, powerLoop_of_odd hodd, hhalf]
        exact hr.powerLoop_le_powerLoop (atLeastOne_one.mul hx) (hx.mul hx) hfactor _ _
      · -- the last digit becomes zero, and one is carried to the others
        have heven : (n + 1) % 2 = 0 := by omega
        have hhalf : (n + 1) / 2 = n / 2 + 1 := by omega
        rw [powerLoop_of_odd hodd, powerLoop_of_even heven, hhalf]
        exact ih (hr.mul hx) (hx.mul hx) (hr.mul_le_mul hx hx h) (by omega)

end AtLeastOne

/-! ## Powers -/

theorem power_natCast (x : Binary64) {bits n : Nat} (h : n < 2 ^ bits) :
    x.power n = powerLoop (ofNat 1) x bits n := by
  have hnonneg : ¬ (n : Int) < 0 := by omega
  -- Both numbers of digits are large enough, so that neither differs from their sum.
  rw [power, Int.natAbs_natCast, if_neg hnonneg, ← powerLoop_of_lt Nat.lt_log2_self _ _ bits,
    Nat.add_comm, powerLoop_of_lt h]

theorem power_neg_natCast (x : Binary64) {n : Nat} (h : 0 < n) :
    x.power (-n : Int) = (x.power n).inverse := by
  have hneg : (-n : Int) < 0 := by omega
  have hnonneg : ¬ (n : Int) < 0 := by omega
  rw [power, power, Int.natAbs_neg, Int.natAbs_natCast, if_pos hneg, if_neg hnonneg]

/-- The power of one is one, whatever digits the exponent has. -/
theorem power_one (n : Nat) : (ofNat 1).power n = ofNat 1 := by
  have hmul : (ofNat 1).mul (ofNat 1) = ofNat 1 := by
    rw [atLeastOne_one.mul_eq atLeastOne_one, ofNat_one, product_unit (by decide)]
  have hloop : ∀ bits n, powerLoop (ofNat 1) (ofNat 1) bits n = ofNat 1 := by
    intro bits
    induction bits with
    | zero => exact fun n => rfl
    | succ bits ih =>
        intro n
        rcases Nat.mod_two_eq_zero_or_one n with heven | hodd
        · rw [powerLoop_of_even heven, hmul, ih]
        · rw [powerLoop_of_odd hodd, hmul, ih]
  rw [power_natCast _ Nat.lt_two_pow_self, hloop]

namespace AtLeastOne

theorem power (hx : AtLeastOne x) (n : Nat) : AtLeastOne (x.power n) := by
  rw [power_natCast x Nat.lt_two_pow_self]
  exact atLeastOne_one.powerLoop hx _ _

theorem power_le_succ (hx : AtLeastOne x) (n : Nat) :
    (x.power n).magnitude ≤ (x.power (n + 1 : Nat)).magnitude := by
  have hone : (ofNat 1).magnitude ≤ x.magnitude := by
    rw [ofNat_one]
    exact hx.unit_le
  have hbits : n + 1 < 2 ^ (n + 1) := Nat.lt_two_pow_self
  rw [power_natCast x (Nat.lt_of_succ_lt hbits), power_natCast x hbits]
  exact atLeastOne_one.powerLoop_le_succ hx hone hbits

/-- The greater power is the one with the greater exponent. -/
theorem power_le_power (hx : AtLeastOne x) {m n : Nat} (h : m ≤ n) :
    (x.power m).magnitude ≤ (x.power n).magnitude := by
  induction n, h using Nat.le_induction with
  | base => exact Nat.le_refl _
  | succ n _ ih => exact Nat.le_trans ih (hx.power_le_succ n)

theorem le_power (hx : AtLeastOne x) {n : Nat} (h : 0 < n) :
    x.magnitude ≤ (x.power n).magnitude := by
  have hbits : 1 < 2 ^ 1 := by decide
  have hfirst : x.power (1 : Nat) = (ofNat 1).mul x := by
    rw [power_natCast x hbits, powerLoop_of_odd rfl, powerLoop_zero]
  have hle := hx.power_le_power h
  rw [hfirst] at hle
  exact Nat.le_trans (atLeastOne_one.le_mul hx) hle

end AtLeastOne

end GatewayClient.Binary64
