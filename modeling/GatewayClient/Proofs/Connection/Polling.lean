import GatewayClient.Proofs.Connection.Deadlines
import GatewayClient.Proofs.Connection.Quiescence
/-!
# Polls

A poll does what is due and nothing else. Of the two timers at most one is waited for, and what the
poll of one sets off lies in the future: a retry after silence waits, or is carried out at once and
leaves no timer. So a poll is never due twice at one time.
-/

namespace GatewayClient.Connection

open Turn

variable {η : Type} {c c' : Connection η} {world : Surroundings} {now : Instant}
  {operation : Operation η} {moments : List (Moment η)} {answer : Answer}

/-! ## What is due -/

/-- Whether a poll has anything to do. -/
def isDue (c : Connection η) (now : Instant) : Bool := c.nextDeadline.any (· ≤ now)

theorem isDue_eq (c : Connection η) (now : Instant) :
    c.isDue now = (c.watchdog.isExpired now || c.retryAt.any (· ≤ now)) := by
  unfold isDue nextDeadline Watchdog.isExpired
  cases c.watchdog.deadline with
  | none => rfl
  | some deadline =>
      cases c.retryAt with
      | none => simp
      | some time =>
          have hmin : min deadline time ≤ now ↔ deadline ≤ now ∨ time ≤ now := Std.min_le
          simp [hmin]

theorem mem_nextDeadline {deadline : Instant} (h : deadline ∈ c.nextDeadline) :
    deadline ∈ c.watchdog.deadline ∨ deadline ∈ c.retryAt := by
  unfold nextDeadline at h
  cases hwatchdog : c.watchdog.deadline with
  | none =>
      rw [hwatchdog] at h
      exact .inr h
  | some first =>
      rw [hwatchdog] at h
      cases hretry : c.retryAt with
      | none =>
          rw [hretry] at h
          exact .inl h
      | some second =>
          rw [hretry] at h
          obtain rfl := Option.some.inj h
          rcases Nat.le_total first second with hle | hle
          · exact .inl (by simp [Nat.min_eq_left hle])
          · exact .inr (by simp [Nat.min_eq_right hle])

/-- There is no timer that the next deadline leaves out. -/
theorem Coupled.nextDeadline_eq (hc : c.Coupled) :
    c.nextDeadline = c.watchdog.deadline.or c.retryAt := by
  unfold nextDeadline
  rcases hc.deadline_or_retryAt with hnone | hnone
  · rw [hnone]
    rfl
  · rw [hnone]
    cases c.watchdog.deadline <;> rfl

theorem poll_of_not_due (h : c.isDue now = false) : c.poll now = pure c := by
  rw [isDue_eq, Bool.or_eq_false_iff] at h
  obtain ⟨hexpired, hretry⟩ := h
  have hwatchdog : c.pollWatchdog now = pure c := by simp [pollWatchdog, hexpired]
  have hpoll : c.pollRetry now = pure c := by simp [pollRetry, hretry]
  rw [poll, hwatchdog]
  exact hpoll

/-! ## What is done -/

/-- The acts of a turn, in order. -/
def acts (moments : List (Moment η)) : List (Act η) := moments.map (·.act)

@[simp] theorem acts_append (first rest : List (Moment η)) :
    acts (first ++ rest) = acts first ++ acts rest :=
  List.map_append

def Act.isClosing : Act η → Bool
  | .closed _ => true
  | .entered _ | .opened _ | .sent _ _ | .calledReady _ | .calledDisconnect _ _ => false

/-- What is seen of the opening of the next transport. -/
def reopening (c : Connection η) : List (Act η) :=
  [.entered .negotiating, .opened (c.generation + 1)]

theorem acts_enter {phase : Phase} (h : (c.enter phase).Yields moments c') :
    acts moments = if c.phase = phase then [] else [.entered phase] := by
  unfold enter at h
  split at h
  · next hsame =>
    obtain ⟨rfl, -⟩ := yields_pure.mp h
    exact (if_pos hsame).symm
  · next hother =>
    simp only [perform, yields_bind, yields_perform, yields_pure] at h
    obtain ⟨_, _, _, rfl, ⟨rfl, -⟩, rfl⟩ := h
    exact (if_neg hother).symm

theorem acts_start (hfree : c.hasTransport = false) (hphase : c.phase ≠ .negotiating)
    (h : c.start.Yields moments c') : acts moments = c.reopening := by
  simp only [start, hfree, Bool.false_eq_true, if_false, perform, yields_bind, yields_perform,
    yields_pure] at h
  obtain ⟨_, _, _, henter, ⟨_, _, _, rfl, ⟨rfl, -⟩, rfl⟩, rfl⟩ := h
  have hacts := (acts_enter henter).trans (if_neg hphase)
  obtain ⟨-, rfl⟩ := enter_yields henter
  rw [acts_append, hacts]
  rfl

theorem acts_scheduleRetry {retrying : Bool} (hfree : c.hasTransport = false)
    (hphase : c.phase ≠ .negotiating) (h : (c.scheduleRetry now).Yields moments (retrying, c')) :
    acts moments = [] ∨ acts moments = c.reopening := by
  simp only [scheduleRetry] at h
  split at h
  · split at h
    · obtain ⟨_, _, _, hstart, hpure, rfl⟩ := yields_bind.mp h
      obtain ⟨rfl, -⟩ := yields_pure.mp hpure
      have hacts := acts_start (by exact hfree) (by exact hphase) hstart
      right
      rw [List.append_nil]
      exact hacts
    · obtain ⟨_, _, _, htime, hpure, rfl⟩ := yields_bind.mp h
      obtain ⟨rfl, -⟩ := yields_attempt.mp htime
      obtain ⟨rfl, -⟩ := yields_pure.mp hpure
      left
      rfl
  · obtain ⟨rfl, -⟩ := yields_pure.mp h
    left
    rfl

/-- The one timer that fires in a poll, with all that is done and the connection then. -/
inductive Fires (c : Connection η) (now : Instant) : List (Act η) → Connection η → Prop where
  /-- Silence has lasted too long. The transport is closed, handlers hear of it, and the next
  transport may be opened at once. -/
  | watchdog {deadline : Instant} {marks : List (Moment η)} {retrying : Bool}
      {last : List (Act η)} {c' : Connection η} (hdeadline : c.watchdog.deadline = some deadline)
      (hdue : deadline ≤ now) (hunplanned : c.retryAt = none)
      (hretry : Retry c.bereft now marks retrying c') (hlast : last = [] ∨ last = c.reopening) :
      Fires c now ([.closed c.generation, .entered .unhealthy,
        .calledDisconnect c.noReconnectHandlers.callbacks false] ++ last) c'
  | retry {time : Instant} (htime : c.retryAt = some time) (hdue : time ≤ now)
      (hunwatched : c.watchdog.deadline = none) : Fires c now c.reopening c.opened

theorem acts_onFailure (hphase : c.phase ≠ .unhealthy) (h : (c.onFailure now).Yields moments c') :
    ∃ marks retrying last, Retry c.bereft now marks retrying c' ∧
      (last = [] ∨ last = c.reopening) ∧ acts moments =
        [.entered .unhealthy, .calledDisconnect c.noReconnectHandlers.callbacks false] ++ last := by
  obtain ⟨marks, retrying, hretry, -⟩ := onFailure_yields h
  simp only [onFailure, yields_bind, yields_pure] at h
  obtain ⟨_, _, _, hlost, ⟨_, _, _, hcall, ⟨last, ⟨_, _⟩, _, hschedule, ⟨rfl, rfl⟩, rfl⟩, rfl⟩,
    rfl⟩ := h
  have hfirst := (acts_enter hlost).trans (if_neg hphase)
  obtain ⟨-, rfl⟩ := withoutTransport_yields hlost
  obtain rfl := yields_perform.mp hcall
  refine ⟨marks, retrying, acts last, hretry, ?_, ?_⟩
  · exact acts_scheduleRetry (c := c.bereft) rfl (by simp [bereft]) hschedule
  · rw [acts_append, hfirst, acts_append, acts_append]
    simp [acts, bereft]

/-- What a poll does that has anything to do. -/
theorem fires_of_poll (hc : c.Coupled) (hdue : c.isDue now = true)
    (h : (c.poll now).Yields moments c') : Fires c now (acts moments) c' := by
  simp only [poll, yields_bind] at h
  obtain ⟨_, _, _, hwatchdog, hpoll, rfl⟩ := h
  unfold pollWatchdog at hwatchdog
  split at hwatchdog
  · case isTrue hexpired =>
    have hheld := hc.held_of_isExpired hexpired
    have hunplanned := hc.retryAt_eq_none hheld
    obtain ⟨deadline, hdeadline, hpassed⟩ : ∃ deadline, c.watchdog.deadline = some deadline ∧
        deadline ≤ now := by
      simpa [Watchdog.isExpired, Option.any_eq_true] using hexpired
    -- The session was ready, so the phase changes, and this is seen.
    have hready := (hc.ready_of_deadline (Option.isSome_of_eq_some hdeadline)).1
    obtain ⟨first, _, _, hdrop, hfailure, rfl⟩ := yields_bind.mp hwatchdog
    have hclosed : acts first = [.closed c.generation] := by
      simp only [dropTransport, if_pos hheld, perform, yields_bind, yields_perform,
        yields_pure] at hdrop
      obtain ⟨_, _, _, rfl, ⟨rfl, -⟩, rfl⟩ := hdrop
      rfl
    obtain ⟨-, rfl⟩ := dropTransport_yields hdrop
    obtain ⟨marks, retrying, last, hretry, hlast, hacts⟩ :=
      acts_onFailure (by simp [hready]) hfailure
    -- The retry of this loss is in the future, or already carried out.
    obtain ⟨rfl, rfl⟩ := hretry.pollRetry_yields hunplanned hpoll
    rw [List.append_nil, acts_append, hclosed, hacts]
    exact .watchdog hdeadline hpassed hunplanned hretry hlast
  · case isFalse hexpired =>
    obtain ⟨rfl, hsame⟩ := yields_pure.mp hwatchdog
    rw [isDue_eq, eq_false_of_ne_true hexpired, Bool.false_or] at hdue
    rw [hsame, pollRetry, if_pos hdue] at hpoll
    obtain ⟨time, htime, hpassed⟩ : ∃ time, c.retryAt = some time ∧ time ≤ now := by
      simpa [Option.any_eq_true] using hdue
    obtain ⟨hlost, hfree, -⟩ := hc.lost_of_retryAt (Option.isSome_of_eq_some htime)
    have hacts := acts_start (by exact hfree) (by simp [hlost]) hpoll
    obtain ⟨-, rfl⟩ := start_yields_of_free (by exact hfree) hpoll
    have hunwatched := hc.deadline_or_retryAt.resolve_right (by simp [htime])
    rw [List.nil_append, hacts]
    exact .retry htime hpassed hunwatched

/-- A poll closes one transport at most and opens one at most. -/
theorem Fires.counts {done : List (Act η)} (h : Fires c now done c') :
    done.countP (·.isClosing) ≤ 1 ∧ done.countP (·.isOpening) ≤ 1 := by
  cases h with
  | watchdog _ _ _ _ hlast =>
      rcases hlast with rfl | rfl <;> simp [reopening, Act.isClosing, Act.isOpening]
  | retry => simp [reopening, Act.isClosing, Act.isOpening]

/-! ## What is due next -/

/-- An armed watchdog of the connection bears some silence. -/
def Patient (c : Connection η) : Prop := ∀ timeout ∈ c.watchdog.timeout, 0 < timeout

theorem patient_new (policy : RetryPolicy) (multiplier : Nat) :
    (new policy multiplier : Connection η).Patient := by
  intro timeout htimeout
  cases htimeout

theorem patient_of_clear (hwatchdog : c'.watchdog = c.watchdog.clear) : c'.Patient := by
  intro timeout htimeout
  rw [hwatchdog] at htimeout
  cases htimeout

theorem Patient.fed (hc : c.Patient) {fed : Watchdog} (hfeed : c.watchdog.feed? now = some fed)
    (interval : Option Duration) : { c with interval, watchdog := fed }.Patient := by
  rw [Watchdog.eq_of_feed? hfeed]
  exact hc

/-- A fed watchdog expires later than now, or when it expired before. -/
theorem Patient.deadline_of_feed (hc : c.Patient) {fed : Watchdog}
    (hfeed : c.watchdog.feed? now = some fed) {deadline : Instant}
    (hdeadline : deadline ∈ fed.deadline) : deadline ∈ c.watchdog.deadline ∨ now < deadline := by
  rw [Watchdog.eq_of_feed? hfeed] at hdeadline
  cases htimeout : c.watchdog.timeout with
  | none =>
      rw [htimeout] at hdeadline
      exact .inl hdeadline
  | some timeout =>
      rw [htimeout] at hdeadline
      obtain rfl := Option.some.inj hdeadline
      exact .inr (Nat.lt_add_of_pos_right (hc timeout htimeout))

theorem Patient.armed (hc : c.Patient) {watchdog : Watchdog}
    (harm : c.armedWatchdog? now = some watchdog) :
    { c with phase := .ready, losses := 0, watchdog }.Patient := by
  unfold armedWatchdog? at harm
  split at harm
  · next interval _ =>
    rw [Watchdog.eq_of_arm? harm]
    exact fun timeout => Watchdog.patience?_pos
  · obtain rfl := Option.some.inj harm
    exact hc

/-- An armed watchdog expires later than now, or when it expired before. -/
theorem Patient.deadline_of_arm {watchdog : Watchdog} (harm : c.armedWatchdog? now = some watchdog)
    {deadline : Instant} (hdeadline : deadline ∈ watchdog.deadline) :
    deadline ∈ c.watchdog.deadline ∨ now < deadline := by
  unfold armedWatchdog? at harm
  split at harm
  · rw [Watchdog.eq_of_arm? harm] at hdeadline
    obtain ⟨patience, hpatience, rfl⟩ := Option.map_eq_some_iff.mp hdeadline
    exact .inr (Nat.lt_add_of_pos_right (Watchdog.patience?_pos hpatience))
  · obtain rfl := Option.some.inj harm
    exact .inl hdeadline

theorem Retry.patient {retrying : Bool} (h : Retry c.bereft now moments retrying c') :
    c'.Patient := by
  cases h <;> exact patient_of_clear (c := c) rfl

theorem Transition.patient (h : Transition c world operation moments c') (hc : c.Patient) :
    c'.Patient := by
  cases h with
  | calm _ _ hc' =>
      rw [hc']
      cases operation <;> exact hc
  | heard _ _ hfeed => exact hc.fed hfeed _
  | ready _ _ hfeed harm => exact (hc.fed hfeed _).armed harm
  | started | retried | stopped | ended => exact patient_of_clear (c := c) rfl
  | failed _ _ _ hretry => exact hretry.patient
  | closed _ _ hretry => exact hretry.patient

/-- What a loss leaves to be waited for is in the future. -/
theorem Retry.lt_deadline {retrying : Bool} (h : Retry c.bereft now moments retrying c')
    (hunplanned : c.retryAt = none) {deadline : Instant} (hdeadline : deadline ∈ c'.nextDeadline) :
    now < deadline := by
  cases h with
  | refused => simp [nextDeadline, bereft, hunplanned] at hdeadline
  | immediate => simp [nextDeadline, opened, fresh] at hdeadline
  | delayed _ _ hdelay =>
      obtain rfl : now + _ = deadline := by simpa [nextDeadline, bereft] using hdeadline
      exact Nat.lt_add_of_pos_right hdelay

/-- After a poll that has done something, all that is waited for is in the future. -/
theorem Fires.lt_deadline {done : List (Act η)} (h : Fires c now done c') :
    ∀ deadline ∈ c'.nextDeadline, now < deadline := by
  intro deadline hdeadline
  cases h with
  | watchdog _ _ hunplanned hretry => exact hretry.lt_deadline hunplanned hdeadline
  | retry => simp [nextDeadline, opened, fresh] at hdeadline

/-- No operation sets a timer that is due at once. -/
theorem Transition.mem_nextDeadline_or_lt (h : Transition c world operation moments c')
    (hc : c.Coupled) (hpatient : c.Patient) {deadline : Instant}
    (hdeadline : deadline ∈ c'.nextDeadline) :
    deadline ∈ c.nextDeadline ∨ world.now < deadline := by
  -- While a transport is held there is no timer but the watchdog.
  have hwatched (hheld : c.hasTransport = true) :
      c.nextDeadline = c.watchdog.deadline ∧ deadline ∉ c.retryAt := by
    rw [hc.nextDeadline_eq, hc.retryAt_eq_none hheld]
    simp
  cases h with
  | calm _ _ hc' =>
      -- At most a handler comes or goes, which leaves the timers alone.
      subst hc'
      left
      cases operation <;> exact hdeadline
  | heard hheld _ hfeed =>
      obtain ⟨hsame, hunplanned⟩ := hwatched hheld
      rw [hsame]
      exact hpatient.deadline_of_feed hfeed ((mem_nextDeadline hdeadline).resolve_right hunplanned)
  | ready hheld _ hfeed harm =>
      obtain ⟨hsame, hunplanned⟩ := hwatched hheld
      rw [hsame]
      rcases Patient.deadline_of_arm harm
        ((mem_nextDeadline hdeadline).resolve_right hunplanned) with hfed | hlater
      · exact hpatient.deadline_of_feed hfeed hfed
      · exact .inr hlater
  | started | retried => simp [nextDeadline, opened, fresh] at hdeadline
  | stopped => simp [nextDeadline, Connection.stopped] at hdeadline
  | ended => simp [nextDeadline, bereft] at hdeadline
  | failed hheld _ _ hretry => exact .inr (hretry.lt_deadline (hc.retryAt_eq_none hheld) hdeadline)
  | closed hheld _ hretry => exact .inr (hretry.lt_deadline (hc.retryAt_eq_none hheld) hdeadline)

end GatewayClient.Connection
