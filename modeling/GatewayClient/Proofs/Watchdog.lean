import GatewayClient.Watchdog
/-!
# Watchdogs, armed and fed

What an armed and a fed watchdog is, as one equation each, and when the clock can tell its deadline.
-/

namespace GatewayClient.Watchdog

variable {dog dog' : Watchdog} {interval : Duration} {now : Instant}

/-! ## Equations -/

/-- How much silence a watchdog bears that is armed for an interval, if it watches at all. -/
def patience? (multiplier : Nat) (interval : Duration) : Option Duration :=
  if multiplier = 0 ∨ interval = 0 then none else some (interval.saturatingMul multiplier)

theorem patience?_pos {multiplier : Nat} {timeout : Duration}
    (h : timeout ∈ patience? multiplier interval) : 0 < timeout := by
  simp only [patience?, Option.mem_def, Option.ite_none_left_eq_some, not_or] at h
  obtain ⟨⟨hmultiplier, hinterval⟩, htimeout⟩ := h
  rw [← Option.some.inj htimeout]
  exact Nat.lt_min.mpr ⟨by decide, Nat.mul_pos (Nat.pos_of_ne_zero hinterval)
    (Nat.pos_of_ne_zero hmultiplier)⟩

theorem eq_of_arm? (h : dog.arm? interval now = some dog') :
    dog' = { dog with
      timeout := patience? dog.multiplier interval
      deadline := (patience? dog.multiplier interval).map (now + ·) } := by
  unfold arm? at h
  unfold patience?
  split at h
  · next hoff =>
    rw [if_pos hoff, ← Option.some.inj h]
    rfl
  · next hon =>
    obtain ⟨deadline, htime, harmed⟩ := Option.bind_eq_some_iff.mp h
    obtain ⟨-, rfl⟩ := Instant.after?_eq_some_iff.mp htime
    rw [if_neg hon, ← Option.some.inj harmed]
    rfl

/-- Feeding a watchdog that is not armed changes nothing. -/
theorem eq_of_feed? (h : dog.feed? now = some dog') :
    dog' = { dog with deadline := (dog.timeout.map (now + ·)).or dog.deadline } := by
  unfold feed? at h
  split at h
  · next timeout htimeout =>
    obtain ⟨deadline, htime, hfed⟩ := Option.bind_eq_some_iff.mp h
    obtain ⟨-, rfl⟩ := Instant.after?_eq_some_iff.mp htime
    rw [htimeout, ← Option.some.inj hfed, htimeout]
    rfl
  · next htimeout =>
    have hdeadline : (dog.timeout.map (now + ·)).or dog.deadline = dog.deadline := by
      rw [htimeout]
      rfl
    rw [hdeadline, ← Option.some.inj h]

theorem multiplier_of_feed? (h : dog.feed? now = some dog') :
    dog'.multiplier = dog.multiplier := by
  rw [eq_of_feed? h]

/-- An armed watchdog bears silence for at most the multiple of the interval. -/
theorem timeout_le_of_arm? (h : dog.arm? interval now = some dog') :
    dog'.multiplier = dog.multiplier ∧
      ∀ timeout ∈ dog'.timeout, timeout ≤ interval * dog.multiplier := by
  rw [eq_of_arm? h]
  refine ⟨rfl, ?_⟩
  intro timeout htimeout
  simp only [patience?, Option.mem_def] at htimeout
  split at htimeout
  · cases htimeout
  · cases htimeout
    exact Nat.min_le_right ..

/-! ## Times that the clock can tell -/

theorem isSome_arm? (h : now + interval * dog.multiplier < Instant.limit) :
    (dog.arm? interval now).isSome := by
  unfold arm?
  split
  · rfl
  · have hle : interval.saturatingMul dog.multiplier ≤ interval * dog.multiplier :=
      Nat.min_le_right ..
    have htime := Instant.after?_eq_some_iff.mpr
      ⟨Nat.lt_of_le_of_lt (Nat.add_le_add_left hle now) h, rfl⟩
    simp [htime]

theorem isSome_feed? (h : ∀ timeout ∈ dog.timeout, now + timeout < Instant.limit) :
    (dog.feed? now).isSome := by
  unfold feed?
  split
  · case h_1 timeout htimeout =>
    have htime := Instant.after?_eq_some_iff.mpr ⟨h timeout htimeout, rfl⟩
    simp [htime]
  · rfl

theorem add_lt_of_isSome_feed? (h : (dog.feed? now).isSome) :
    ∀ timeout ∈ dog.timeout, now + timeout < Instant.limit := by
  intro timeout htimeout
  obtain ⟨fed, hfed⟩ := Option.isSome_iff_exists.mp h
  rw [feed?, htimeout] at hfed
  obtain ⟨deadline, htime, -⟩ := Option.bind_eq_some_iff.mp hfed
  exact (Instant.after?_eq_some_iff.mp htime).1

theorem add_lt_of_isSome_arm? (htimeout : interval.saturatingMul dog.multiplier ≠ 0)
    (h : (dog.arm? interval now).isSome) :
    now + interval.saturatingMul dog.multiplier < Instant.limit := by
  unfold arm? at h
  split at h
  · case isTrue hzero =>
    refine absurd ?_ htimeout
    rcases hzero with hzero | hzero <;> simp [Duration.saturatingMul, hzero]
  · obtain ⟨armed, harmed⟩ := Option.isSome_iff_exists.mp h
    obtain ⟨deadline, htime, -⟩ := Option.bind_eq_some_iff.mp harmed
    exact (Instant.after?_eq_some_iff.mp htime).1

end GatewayClient.Watchdog
