import GatewayClient.Proofs.Settings.Validity
/-!
# Backoff

The waits of valid settings grow as long as the exponent does. The exponent has 32 bits and a sign,
so it is negative from one attempt on (`wrap`). Then the waits are cut down to less than the initial
delay, and grow again.

Main statement: `delays_grow_until_wrap`.
-/

namespace GatewayClient.RetryPolicy

open Binary64 (AtLeastOne infinity nearest product reciprocal unit wholePart)

/-! ## Exponents -/

/-- The first attempt with a negative exponent. -/
def wrap : Nat := 0x80000002

variable {n : Nat}

theorem le_attemptLimit (h : n < wrap) : n ≤ attemptLimit :=
  Nat.le_of_lt (Nat.lt_trans h (by decide))

theorem exponent_of_lt (h : n < wrap) : exponent n = (n - 2 : Nat) := by
  unfold wrap at h
  unfold exponent
  apply Int.bmod_eq_of_le <;> omega

theorem exponent_of_wrap_le (h : wrap ≤ n) (hlimit : n ≤ attemptLimit) :
    exponent n = -(0x100000002 - n : Nat) := by
  unfold wrap at h
  unfold attemptLimit at hlimit
  have hshift : ((n - 2 : Nat) : Int) = -(0x100000002 - n : Nat) + ((0x100000000 : Nat) : Int) := by
    omega
  -- The two differ by a multiple of the 32 bits, and the right one is in their range.
  unfold exponent
  rw [hshift, Int.add_bmod_right]
  apply Int.bmod_eq_of_le <;> omega

/-! ## Factors -/

/-- What the bounds of valid settings say of their policy. -/
structure Growing (policy : RetryPolicy) : Prop where
  initialDelay_pos : 0 < policy.initialDelay.toMilliseconds
  initialDelay_lt : policy.initialDelay.toMilliseconds < 1 <<< 64
  initialDelay_le : .ofMilliseconds policy.initialDelay.toMilliseconds ≤ policy.maxDelay
  multiplier : AtLeastOne policy.multiplier

/-- The initial delay in milliseconds, as a rounded number. -/
def start (policy : RetryPolicy) : Nat := nearest policy.initialDelay.toMilliseconds 1

/-- The power of the multiplier before a retry. -/
def factor (policy : RetryPolicy) (n : Nat) : Nat :=
  if n < wrap then (policy.multiplier.power (n - 2 : Nat)).magnitude
  else reciprocal (policy.multiplier.power (0x100000002 - n : Nat)).magnitude

variable {policy : RetryPolicy}

namespace Growing

theorem power_eq (h : Growing policy) (hlimit : n ≤ attemptLimit) :
    policy.multiplier.power (exponent n) = ⟨false, policy.factor n⟩ := by
  unfold factor
  split
  · next hlt =>
    rw [exponent_of_lt hlt]
    exact (h.multiplier.power _).eq_mk
  · next hle =>
    have hpower := h.multiplier.power (0x100000002 - n)
    rw [exponent_of_wrap_le (Nat.le_of_not_lt hle) hlimit,
      Binary64.power_neg_natCast _ (by unfold attemptLimit at hlimit; omega), hpower.eq_mk]
    exact Binary64.inverse_eq hpower.magnitude_pos hpower.le_infinity

theorem factor_le_infinity (h : Growing policy) (n : Nat) : policy.factor n ≤ infinity := by
  unfold factor
  split
  · exact (h.multiplier.power _).le_infinity
  · have hpower := h.multiplier.power (0x100000002 - n)
    calc reciprocal _ ≤ reciprocal unit :=
          Binary64.reciprocal_anti Binary64.unit_pos hpower.unit_le hpower.le_infinity
      _ = unit := Binary64.reciprocal_unit
      _ ≤ infinity := by decide

/-- Factors grow with the attempt, except at the wrap. -/
theorem factor_le_succ (h : Growing policy) (hwrap : n + 1 ≠ wrap) :
    policy.factor n ≤ policy.factor (n + 1) := by
  unfold factor
  by_cases hlt : n < wrap
  · rw [if_pos hlt, if_pos (by omega)]
    exact h.multiplier.power_le_power (by omega)
  · rw [if_neg hlt, if_neg (by omega)]
    exact Binary64.reciprocal_anti (h.multiplier.power _).magnitude_pos
      (h.multiplier.power_le_power (by omega)) (h.multiplier.power _).le_infinity

theorem unit_le_factor (h : Growing policy) (hlt : n < wrap) : unit ≤ policy.factor n := by
  rw [factor, if_pos hlt]
  exact (h.multiplier.power _).unit_le

theorem factor_of_one (hone : policy.multiplier = .ofNat 1) (n : Nat) : policy.factor n = unit := by
  simp only [factor, hone, Binary64.power_one]
  simp only [Binary64.ofNat_one, Binary64.reciprocal_unit, ite_self]

/-! ## Multipliers above one -/

theorem unit_lt_multiplier (h : Growing policy) (hone : policy.multiplier ≠ .ofNat 1) :
    unit < policy.multiplier.magnitude := by
  refine Nat.lt_of_le_of_ne h.multiplier.unit_le ?_
  intro heq
  rw [h.multiplier.eq_mk, ← heq, Binary64.ofNat_one] at hone
  exact hone rfl

theorem unit_lt_factor (h : Growing policy) (hone : policy.multiplier ≠ .ofNat 1) (hn : 2 < n)
    (hlt : n < wrap) : unit < policy.factor n := by
  rw [factor, if_pos hlt]
  exact Nat.lt_of_lt_of_le (h.unit_lt_multiplier hone) (h.multiplier.le_power (by omega))

theorem factor_add_two_le (h : Growing policy) (hone : policy.multiplier ≠ .ofNat 1)
    (hle : wrap ≤ n) (hlimit : n ≤ attemptLimit) : policy.factor n + 2 ≤ unit := by
  have hpos : 0 < 0x100000002 - n := by
    unfold attemptLimit at hlimit
    omega
  rw [factor, if_neg (Nat.not_lt.2 hle)]
  exact Binary64.reciprocal_add_two_le
    (Nat.lt_of_lt_of_le (h.unit_lt_multiplier hone) (h.multiplier.le_power hpos))
    (h.multiplier.power _).le_infinity

/-! ## Waits -/

theorem unit_le_start (h : Growing policy) : unit ≤ policy.start := by
  have hone : nearest 1 1 = unit := by decide +kernel
  rw [← hone]
  exact Binary64.nearest_mono h.initialDelay_pos 1

/-- No initial delay is near infinity. -/
theorem start_succ_lt (h : Growing policy) : policy.start + 1 < infinity := by
  have hmost : nearest (1 <<< 64) 1 + 1 < infinity := by decide +kernel
  have hle : policy.start ≤ nearest (1 <<< 64) 1 :=
    Binary64.nearest_mono (Nat.le_of_lt h.initialDelay_lt) 1
  omega

theorem start_lt (h : Growing policy) : policy.start < infinity :=
  Nat.lt_of_succ_lt h.start_succ_lt

theorem delay_eq (h : Growing policy) (hn : 2 ≤ n) (hlimit : n ≤ attemptLimit) :
    policy.delay n =
      min (.ofMilliseconds (wholePart (product policy.start (policy.factor n))))
        policy.maxDelay := by
  have hpos : 0 < policy.start := Nat.lt_of_lt_of_le Binary64.unit_pos h.unit_le_start
  have hproduct : (Binary64.ofNat policy.initialDelay.toMilliseconds).mul
      ⟨false, policy.factor n⟩ = ⟨false, product policy.start (policy.factor n)⟩ :=
    Binary64.mul_eq hpos (Nat.le_of_lt h.start_lt) (h.factor_le_infinity n) (.inl h.start_lt)
  simp only [delay, if_neg (Nat.not_le.2 hn), h.power_eq hlimit, hproduct,
    Binary64.toNat64_eq (Binary64.product_le_infinity ..)]

/-- Whole numbers of milliseconds keep the order that the factors have. -/
theorem delay_mono (h : Growing policy) {m : Nat} (hm : 2 ≤ m) (hmlimit : m ≤ attemptLimit)
    (hn : 2 ≤ n) (hlimit : n ≤ attemptLimit) (hfactor : policy.factor m ≤ policy.factor n) :
    policy.delay m ≤ policy.delay n := by
  have hproduct : product policy.start (policy.factor m) ≤ product policy.start (policy.factor n) :=
    Binary64.product_mono (Nat.le_refl _) hfactor (Nat.le_of_lt h.start_lt) (h.factor_le_infinity n)
  have hwhole := Binary64.wholePart_mono hproduct (Binary64.product_le_infinity ..)
  rw [h.delay_eq hm hmlimit, h.delay_eq hn hlimit]
  exact min_le_min_right _ (Nat.mul_le_mul_right _ hwhole)

theorem delay_pos (h : Growing policy) (hn : 2 ≤ n) (hlt : n < wrap) : 0 < policy.delay n := by
  have hproduct : unit ≤ product policy.start (policy.factor n) :=
    Nat.le_trans h.unit_le_start (Binary64.le_product (Nat.le_of_lt h.start_lt)
      (h.unit_le_factor hlt) (h.factor_le_infinity n))
  -- No factor before the wrap is below one, and no start is.
  have hwhole : 1 ≤ wholePart (product policy.start (policy.factor n)) := by
    rw [← Binary64.wholePart_unit]
    exact Binary64.wholePart_mono hproduct (Binary64.product_le_infinity ..)
  have hmax : 0 < policy.maxDelay :=
    Nat.lt_of_lt_of_le (Nat.mul_pos h.initialDelay_pos (by decide)) h.initialDelay_le
  rw [h.delay_eq hn (le_attemptLimit hlt)]
  exact Nat.lt_min.2 ⟨Nat.mul_pos hwhole (by decide), hmax⟩

/-- After the first wait and before the wrap, no wait is shorter than the initial delay. -/
theorem initialDelay_le_delay (h : Growing policy) (hone : policy.multiplier ≠ .ofNat 1)
    (hn : 2 < n) (hlt : n < wrap) :
    .ofMilliseconds policy.initialDelay.toMilliseconds ≤ policy.delay n := by
  have hnormal : 2 ^ 52 ≤ policy.start := Nat.le_trans (by decide) h.unit_le_start
  have hproduct : policy.start < product policy.start (policy.factor n) :=
    Binary64.lt_product hnormal h.start_succ_lt (h.unit_lt_factor hone hn hlt)
      (h.factor_le_infinity n)
  have hwhole := Binary64.le_wholePart hproduct (Binary64.product_le_infinity ..) h.initialDelay_lt
  rw [h.delay_eq (Nat.le_of_lt hn) (le_attemptLimit hlt)]
  exact Nat.le_min.2 ⟨Nat.mul_le_mul_right _ hwhole, h.initialDelay_le⟩

theorem delay_lt_initialDelay (h : Growing policy) (hone : policy.multiplier ≠ .ofNat 1)
    (hle : wrap ≤ n) (hlimit : n ≤ attemptLimit) :
    policy.delay n < .ofMilliseconds policy.initialDelay.toMilliseconds := by
  have hnormal : 2 ^ 52 < policy.start := Nat.lt_of_lt_of_le (by decide) h.unit_le_start
  have hproduct : product policy.start (policy.factor n) < policy.start :=
    Binary64.product_lt hnormal h.start_lt (h.factor_add_two_le hone hle hlimit)
  have hwhole := Binary64.wholePart_lt hproduct
  rw [h.delay_eq (Nat.le_trans (by decide) hle) hlimit]
  exact Nat.lt_of_le_of_lt (Nat.min_le_left ..) (Nat.mul_lt_mul_of_pos_right hwhole (by decide))

/-- Waits grow with the attempt. At the wrap they do so only if they are all the same. -/
theorem delay_le_succ_iff (h : Growing policy) (hn : 2 ≤ n) (hlimit : n < attemptLimit) :
    policy.delay n ≤ policy.delay (n + 1) ↔ n + 1 ≠ wrap ∨ policy.multiplier = .ofNat 1 := by
  have hmono := h.delay_mono hn (Nat.le_of_lt hlimit) (Nat.le_succ_of_le hn) hlimit
  constructor
  · intro hle
    by_contra hcollapse
    -- On the two sides of the wrap the waits are on the two sides of the initial delay.
    obtain ⟨hwrap, hone⟩ := not_or.1 hcollapse
    have hwrap : n + 1 = wrap := not_not.1 hwrap
    have hsecond : 2 < n := by
      unfold wrap at hwrap
      omega
    have hbefore := h.initialDelay_le_delay hone hsecond (Nat.lt_of_succ_le (Nat.le_of_eq hwrap))
    have hafter := h.delay_lt_initialDelay hone (Nat.le_of_eq hwrap.symm) hlimit
    exact Nat.not_le.2 (Nat.lt_of_lt_of_le hafter hbefore) hle
  · rintro (hwrap | hone)
    · exact hmono (h.factor_le_succ hwrap)
    · exact hmono (by rw [factor_of_one hone, factor_of_one hone])

end Growing

/-! ## Valid settings -/

variable {s : Settings}

theorem growing_of_validate [Idna] (hvalid : s.validate = .ok ())
    (hmax : s.retry.maxDelay < 1 <<< 64) : Growing s.retryPolicy := by
  have hvalid := Settings.validate_eq_ok_iff.1 hvalid
  have hinitial : s.retryPolicy.initialDelay.toMilliseconds = s.retry.initialDelay :=
    Duration.toMilliseconds_ofMilliseconds _
  constructor
  · rw [hinitial]
    exact hvalid.initialDelay_pos
  · rw [hinitial]
    exact Nat.lt_of_le_of_lt hvalid.initialDelay_le hmax
  · rw [hinitial]
    exact Nat.mul_le_mul_right _ hvalid.initialDelay_le
  · exact hvalid.atLeastOne_multiplier

/-- The waits of valid settings are never longer than the bound. Only the first two attempts before
the wrap are immediate, and waits never get shorter there. From the wrap on the wait is less than
the initial delay, unless the multiplier is one. -/
theorem delays_grow_until_wrap [Idna] (hvalid : s.validate = .ok ())
    (hmax : s.retry.maxDelay < 1 <<< 64) :
    (∀ n, s.retryPolicy.delay n ≤ s.retryPolicy.maxDelay) ∧
    (∀ n < wrap, s.retryPolicy.delay n = 0 ↔ n ≤ 1) ∧
    (∀ n, 2 ≤ n → n < attemptLimit →
      (s.retryPolicy.delay n ≤ s.retryPolicy.delay (n + 1) ↔
        n + 1 ≠ wrap ∨ s.retry.multiplier = .ofNat 1)) ∧
    ∀ n, wrap ≤ n → n ≤ attemptLimit → s.retry.multiplier ≠ .ofNat 1 →
      s.retryPolicy.delay n < s.retryPolicy.initialDelay := by
  have hgrowing := growing_of_validate hvalid hmax
  refine ⟨delay_le _, ?_, ?_, ?_⟩
  · intro n hlt
    constructor
    · intro hzero
      by_contra hn
      exact Nat.ne_of_gt (hgrowing.delay_pos (Nat.lt_of_not_le hn) hlt) hzero
    · exact delay_of_le_one _
  · intro n hn hlimit
    exact hgrowing.delay_le_succ_iff hn hlimit
  · intro n hle hlimit hone
    have hinitial : .ofMilliseconds s.retryPolicy.initialDelay.toMilliseconds
        = s.retryPolicy.initialDelay :=
      congrArg Duration.ofMilliseconds (Duration.toMilliseconds_ofMilliseconds _)
    rw [← hinitial]
    exact hgrowing.delay_lt_initialDelay hone hle hlimit

attribute [local instance] Idna.ascii

theorem default_delays_grow :
    ({ baseUrl := "http://localhost" } : Settings).validate = .ok () ∧
    (∀ n < wrap, ({} : RetryPolicy).delay n = 0 ↔ n ≤ 1) ∧
    ∀ n, 2 ≤ n → n < attemptLimit → n + 1 ≠ wrap →
      ({} : RetryPolicy).delay n ≤ ({} : RetryPolicy).delay (n + 1) := by
  have hvalid : ({ baseUrl := "http://localhost" } : Settings).validate = .ok () := by
    decide +kernel
  obtain ⟨-, hzero, hgrow, -⟩ := delays_grow_until_wrap hvalid (by decide)
  exact ⟨hvalid, hzero, fun n hn hlimit hwrap => (hgrow n hn hlimit).2 (.inl hwrap)⟩

/-- With the default policy the longest wait is followed by none. -/
theorem default_delay_collapses :
    ({ baseUrl := "http://localhost" } : Settings).validate = .ok () ∧
    (2 ≤ 0x80000002 ∧ 0x80000002 < attemptLimit) ∧
    ({ baseUrl := "http://localhost" } : Settings).retryPolicy.delay 0x80000001 = .ofSeconds 30 ∧
    ({ baseUrl := "http://localhost" } : Settings).retryPolicy.delay 0x80000002 = 0 := by
  decide +kernel

end GatewayClient.RetryPolicy
