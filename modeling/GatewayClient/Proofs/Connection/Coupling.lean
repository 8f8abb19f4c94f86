import GatewayClient.Proofs.Connection.Transition
import GatewayClient.Proofs.Watchdog
/-!
# Coupling

The parts of a connection change one by one, but at the end of every turn they agree: a
transport is held exactly while the session is negotiated or ready, and of the two timers
at most one is waited for. A transport is opened only where none is held.
-/

namespace GatewayClient.Connection

variable {η : Type} {c c' : Connection η} {world : Surroundings} {now : Instant}
  {operation : Operation η} {moments : List (Moment η)}

/-! ## One operation -/

theorem coupled_new (policy : RetryPolicy) (multiplier : Nat) :
    (new policy multiplier : Connection η).Coupled := by
  constructor <;> simp [new]

theorem coupled_opened (c : Connection η) : c.opened.Coupled := by
  constructor <;> simp [opened, fresh]

theorem coupled_stopped (c : Connection η) : c.stopped.Coupled := by
  constructor <;> simp [stopped]

theorem Coupled.registering (hc : c.Coupled) (operation : Operation η) :
    (c.registering operation).Coupled := by
  cases operation <;> exact { hc with }

theorem Coupled.bereft (hc : c.Coupled) (hheld : c.hasTransport = true) (losses : Nat) :
    { c.bereft with losses }.Coupled := by
  constructor <;> simp [Connection.bereft, hc.retryAt_eq_none hheld]

theorem Coupled.heard (hc : c.Coupled) (hheld : c.hasTransport = true) {fed : Watchdog}
    (hfeed : c.watchdog.feed? now = some fed) (announced : Option Duration) :
    { c with interval := announced.or c.interval, watchdog := fed }.Coupled := by
  have htimeout : fed.timeout = c.watchdog.timeout := by rw [Watchdog.eq_of_feed? hfeed]
  -- Feeding arms no watchdog: there is a deadline only where there was one.
  have hdeadline : fed.deadline.isSome ↔ c.watchdog.deadline.isSome := by
    rw [Watchdog.eq_of_feed? hfeed]
    cases htime : c.watchdog.timeout with
    | some timeout => exact iff_of_true rfl (hc.timeout_iff.mp (by simp [htime]))
    | none => rfl
  refine { hc with held_of_interval := fun _ => hheld, timeout_iff := ?_, ready_of_deadline := ?_ }
  · rw [hdeadline, htimeout, hc.timeout_iff]
  · intro h
    obtain ⟨hready, hinterval⟩ := hc.ready_of_deadline (hdeadline.mp h)
    exact ⟨hready, by cases announced <;> simp [hinterval]⟩

theorem Coupled.armed (hc : c.Coupled) (hheld : c.hasTransport = true) {watchdog : Watchdog}
    (harm : c.armedWatchdog? now = some watchdog) :
    { c with phase := .ready, losses := 0, watchdog }.Coupled := by
  -- Without an interval the watchdog stays as it is, which is disarmed.
  have hwatch : (watchdog.timeout.isSome ↔ watchdog.deadline.isSome) ∧
      (watchdog.deadline.isSome → c.interval.isSome) := by
    unfold armedWatchdog? at harm
    cases hinterval : c.interval with
    | some interval =>
        rw [hinterval] at harm
        refine ⟨?_, fun _ => rfl⟩
        rw [Watchdog.eq_of_arm? harm, Option.isSome_map]
    | none =>
        rw [hinterval] at harm
        obtain rfl := Option.some.inj harm
        exact ⟨hc.timeout_iff, fun h => hinterval ▸ (hc.ready_of_deadline h).2⟩
  refine { hc with
    held_iff := by simp [hheld], timeout_iff := hwatch.1,
    ready_of_deadline := fun h => ⟨rfl, hwatch.2 h⟩, losses_eq_zero := fun _ => rfl,
    lost_of_retryAt := ?_ }
  simp [hc.retryAt_eq_none hheld]

theorem Retry.coupled {retrying : Bool} (hc : c.Coupled) (hheld : c.hasTransport = true)
    (h : Retry c.bereft now moments retrying c') : c'.Coupled := by
  cases h with
  | refused => exact hc.bereft hheld _
  | immediate => exact coupled_opened _
  | @delayed n hn hallows hdelay =>
      -- The first loss in a row is answered at once.
      have hn : 2 ≤ n := by
        by_contra hfirst
        rw [RetryPolicy.delay_of_le_one _ (by omega)] at hdelay
        exact absurd hdelay (Nat.lt_irrefl 0)
      refine { hc.bereft hheld n with lost_of_retryAt := fun _ => ⟨rfl, rfl, hn, hallows⟩ }

theorem Transition.coupled (h : Transition c world operation moments c') (hc : c.Coupled) :
    c'.Coupled := by
  cases h with
  | calm _ _ hc' => exact hc' ▸ hc.registering operation
  | heard hheld _ hfeed => exact hc.heard hheld hfeed _
  | ready hheld _ hfeed harm => exact (hc.heard hheld hfeed none).armed hheld harm
  | started => exact coupled_opened c
  | retried => exact coupled_opened c
  | stopped => exact coupled_stopped c
  | failed hheld _ _ hretry => exact hretry.coupled hc hheld
  | closed hheld _ hretry => exact hretry.coupled hc hheld
  | ended hheld => exact { hc.bereft hheld 0 with lost_of_retryAt := by simp }

/-- A transport is opened only where none is held. -/
theorem Transition.free_of_opened (h : Transition c world operation moments c')
    {moment : Moment η} (hmoment : moment ∈ moments) {generation : Nat}
    (hopened : moment.act = .opened generation) : moment.connection.hasTransport = false := by
  cases h with
  | started hfree | retried hfree =>
      obtain rfl := List.mem_singleton.mp hmoment
      exact hfree
  | failed _ _ _ hretry =>
      rcases List.mem_cons.mp hmoment with rfl | hmoment
      · cases hopened
      · exact (hretry.opened_of_mem hmoment).2
  | closed _ _ hretry =>
      rcases List.mem_append.mp hmoment with hmoment | hmoment
      · exact (hretry.opened_of_mem hmoment).2
      · obtain rfl := List.mem_singleton.mp hmoment
        cases hopened
  | ready | ended =>
      obtain rfl := List.mem_singleton.mp hmoment
      cases hopened
  | _ => simp at hmoment

/-! ## Runs -/

variable {policy : RetryPolicy} {multiplier : Nat} {visits earlier later : List (Visit η)}
  {visit : Visit η}

namespace Run

theorem coupled (run : Run (new policy multiplier) visits c) : c.Coupled :=
  run.preserves Coupled (fun hc turn => (apply_yields hc turn).coupled hc)
    (coupled_new policy multiplier)

/-- Every visit of a run is a transition from a coupled connection. -/
theorem transition (run : Run (new policy multiplier) visits c)
    (hvisits : visits = earlier ++ visit :: later) :
    visit.before.Coupled ∧ ∃ after,
      Transition visit.before visit.world visit.operation (landmarks visit.moments) after := by
  obtain ⟨hbefore, after, turn⟩ := run.visit hvisits
  exact ⟨hbefore.coupled, after, apply_yields hbefore.coupled turn⟩

end Run

/-- After every run the parts of the connection agree, at most one timer is waited for, and
every transport was opened at a moment at which none was held. -/
theorem coupled_after_every_run (run : Run (new policy multiplier) visits c) :
    c.Coupled ∧ (c.watchdog.deadline = none ∨ c.retryAt = none) ∧
      ∀ moment ∈ history visits, ∀ generation, moment.act = .opened generation →
        moment.connection.hasTransport = false := by
  refine ⟨run.coupled, run.coupled.deadline_or_retryAt, ?_⟩
  intro moment hmoment generation hopened
  obtain ⟨visit, hvisit, hmoment⟩ := List.mem_flatMap.mp hmoment
  obtain ⟨earlier, later, hvisits⟩ := List.append_of_mem hvisit
  obtain ⟨-, after, htransition⟩ := run.transition hvisits
  refine htransition.free_of_opened ?_ hopened
  exact List.mem_filter.mpr ⟨hmoment, by simp [hopened, Act.isLandmark]⟩

/-- The session was ready once, then two transports failed in a row. -/
theorem coupled_with_retry_pending :
    ∃ (visits : List (Visit String)) (c : Connection String),
      visits.map Visit.step =
        [(.plain 0, .start), (.plain 1, .receive 1 (.frame (Payload.accepted 1000).encode)),
         (.plain 2, .receive 1 (.frame (Payload.ready [] []).encode)),
         (.plain 3, .receive 1 (.failed "reset")), (.plain 4, .receive 2 (.failed "refused"))] ∧
      Run (new {} 3) visits c ∧ c.retryAt = some 250000004 ∧
      (c.Coupled ∧ (c.watchdog.deadline = none ∨ c.retryAt = none) ∧
        ∀ moment ∈ history visits, ∀ generation, moment.act = .opened generation →
          moment.connection.hasTransport = false) :=
  Run.exists_of_play (·.retryAt) (by decide +kernel) fun _ _ _ => coupled_after_every_run

end GatewayClient.Connection
