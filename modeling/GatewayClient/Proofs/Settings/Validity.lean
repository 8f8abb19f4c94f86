import GatewayClient.Proofs.Binary64.Power
import GatewayClient.Settings
/-!
# Valid settings

What is accepted as settings, as a structure with a field for each check.

Main statement: `validate_eq_ok_iff`.
-/

namespace GatewayClient.Settings

open Binary64 (AtLeastOne infinity unit)

/-- Settings that pass every check. -/
structure Valid [Idna] (s : Settings) : Prop where
  baseUrl_ne : s.baseUrl ≠ ""
  endpoint_ok : ∃ endpoint, s.endpoint = .ok endpoint
  initialDelay_pos : 0 < s.retry.initialDelay
  initialDelay_le : s.retry.initialDelay ≤ s.retry.maxDelay
  multiplier_finite : s.retry.multiplier.isFinite = true
  one_le_multiplier : s.retry.multiplier.ltPositive unit = false
  maxAttempts_ne : s.retry.maxAttempts ≠ some 0

variable [Idna] {s : Settings}

theorem valid_of_validate (h : s.validate = .ok ()) : Valid s := by
  simp only [validate, bind, Except.bind] at h
  split at h
  · cases h
  next hurl =>
  split at h
  · cases h
  next endpoint hendpoint =>
  split at h
  · cases h
  next hinitial =>
  split at h
  · cases h
  next hmax =>
  split at h
  · cases h
  next hmultiplier =>
  split at h
  · cases h
  next hattempts =>
  rw [not_or] at hmultiplier
  exact {
    baseUrl_ne := hurl
    endpoint_ok := ⟨endpoint, hendpoint⟩
    initialDelay_pos := Nat.pos_of_ne_zero hinitial
    initialDelay_le := Nat.le_of_not_lt hmax
    multiplier_finite := by simpa using hmultiplier.1
    one_le_multiplier := by simpa [unit] using hmultiplier.2
    maxAttempts_ne := hattempts }

/-- Settings are accepted when they pass every check, and only then. -/
theorem validate_eq_ok_iff : s.validate = .ok () ↔ Valid s := by
  constructor
  · exact valid_of_validate
  · intro h
    obtain ⟨endpoint, hendpoint⟩ := h.endpoint_ok
    have hmultiplier : ¬ ((!s.retry.multiplier.isFinite) = true ∨
        s.retry.multiplier.ltPositive (0x3ff <<< 52) = true) := by
      rw [h.multiplier_finite, ← unit, h.one_le_multiplier]
      decide
    simp only [validate, bind, Except.bind, if_neg h.baseUrl_ne, hendpoint,
      if_neg (Nat.ne_of_gt h.initialDelay_pos), if_neg (Nat.not_lt.2 h.initialDelay_le),
      if_neg hmultiplier, if_neg h.maxAttempts_ne]
    rfl

namespace Valid

theorem multiplier_lt (h : Valid s) : s.retry.multiplier.magnitude < infinity := by
  simpa [Binary64.isFinite] using h.multiplier_finite

/-- A number that is not less than one has no sign. -/
theorem atLeastOne_multiplier (h : Valid s) : AtLeastOne s.retry.multiplier := by
  have hlt := h.multiplier_lt
  have hnumber : ¬ infinity < s.retry.multiplier.magnitude := by omega
  have hone := h.one_le_multiplier
  simp only [Binary64.ltPositive, Binary64.isNaN, hnumber, decide_false, Bool.not_false,
    Bool.true_and, Bool.or_eq_false_iff, decide_eq_false_iff_not, not_lt] at hone
  exact ⟨hone.1, hone.2, Nat.le_of_lt hlt⟩

end Valid

end GatewayClient.Settings
