import GatewayClient.Proofs.Connection.Coupling
import GatewayClient.Proofs.Watchdog
import GatewayClient.Settings
/-!
# Deadlines that the clock can tell

An operation has no result if the clock cannot tell a time that it asks for. Retries never
ask for such a time. The watchdog does if its multiplier is large and the server announces
a long interval, so that it depends on the multiplier alone whether every run has a result
(`result_iff_multiplier_le`).
-/

namespace GatewayClient

namespace Connection

open Turn

variable {η μ α β : Type}

/-! ## Turns that end -/

/-- The turn has a result. -/
def Turn.Ends (turn : Turn μ α) : Prop := turn.result.isSome

namespace Turn

@[simp] theorem ends_pure (a : α) : (pure a : Turn μ α).Ends := rfl

@[simp] theorem ends_perform (moment : μ) : (perform moment).Ends := rfl

@[simp] theorem ends_attempt {time : Option α} :
    (attempt time : Turn μ α).Ends ↔ time.isSome := .rfl

theorem ends_of_yields {turn : Turn μ α} {moments : List μ} {a : α} (h : turn.Yields moments a) :
    turn.Ends :=
  Option.isSome_iff_exists.mpr ⟨a, h.2⟩

/-- A turn of two parts ends where both do. -/
theorem ends_bind {turn : Turn μ α} {next : α → Turn μ β} :
    (turn >>= next).Ends ↔ ∃ moments a, turn.Yields moments a ∧ (next a).Ends := by
  obtain ⟨first, result⟩ := turn
  cases result with
  | none => simp [Ends, Yields, bind]
  | some a => simp [Ends, Yields, bind]

theorem Ends.bind {turn : Turn μ α} {next : α → Turn μ β} (h : turn.Ends)
    (hnext : ∀ moments a, turn.Yields moments a → (next a).Ends) : (turn >>= next).Ends := by
  obtain ⟨a, ha⟩ := Option.isSome_iff_exists.mp h
  exact ends_bind.mpr ⟨turn.moments, a, ⟨rfl, ha⟩, hnext _ _ ⟨rfl, ha⟩⟩

end Turn

/-! ## Operations -/

variable {c c' : Connection η} {world : Surroundings} {now : Instant}

theorem ends_enter (c : Connection η) (phase : Phase) : (c.enter phase).Ends := by
  unfold enter
  split
  · exact ends_pure c
  · exact .bind (ends_perform _) fun _ _ _ => ends_pure _

theorem ends_start (c : Connection η) : c.start.Ends := by
  unfold start
  split
  · exact ends_pure c
  · exact .bind (ends_enter ..) fun _ _ _ => .bind (ends_perform _) fun _ _ _ => ends_pure _

theorem ends_dropTransport (c : Connection η) : c.dropTransport.Ends := by
  unfold dropTransport
  split
  · exact .bind (ends_perform _) fun _ _ _ => ends_pure _
  · exact ends_pure c

theorem ends_shutdown (c : Connection η) : c.shutdown.Ends :=
  .bind c.ends_dropTransport fun _ _ _ => ends_enter ..

theorem ends_transmit (c : Connection η) (world : Surroundings) (frame : List UInt8) :
    (c.transmit world frame).Ends := by
  unfold transmit
  split
  · refine .bind (ends_perform _) fun _ _ _ => ?_
    split <;> exact ends_pure _
  · exact ends_pure _

theorem ends_joinGuild (c : Connection η) (world : Surroundings)
    (hostname inviteCode replyId : String) :
    (c.joinGuild world hostname inviteCode replyId).Ends := by
  refine .bind (ends_transmit ..) fun _ answer _ => ?_
  cases answer <;> exact ends_pure _

theorem ends_scheduleRetry (hdelay : now + c.policy.maxDelay < Instant.limit) :
    (c.scheduleRetry now).Ends := by
  simp only [scheduleRetry]
  split
  · split
    · exact .bind (ends_start _) fun _ _ _ => ends_pure _
    · have hle := Nat.add_le_add_left (c.policy.delay_le (RetryPolicy.countLoss c.losses)) now
      have htime := Instant.after?_eq_some_iff.mpr ⟨Nat.lt_of_le_of_lt hle hdelay, rfl⟩
      exact .bind (by simp [htime]) fun _ _ _ => ends_pure _
  · exact ends_pure _

theorem ends_giveUp (c : Connection η) : c.giveUp.Ends :=
  .bind (ends_perform _) fun _ _ _ => ends_pure _

theorem scheduleRetry_of_not_allowed
    (h : c.policy.allows (RetryPolicy.countLoss c.losses) = false) :
    c.scheduleRetry now = pure (false, { c with losses := RetryPolicy.countLoss c.losses }) := by
  simp [scheduleRetry, h]

/-- After a failure only the retry can ask for a time beyond the clock. -/
theorem ends_onFailure (hschedule : (c.bereft.scheduleRetry now).Ends) :
    (c.onFailure now).Ends := by
  refine .bind (ends_enter ..) fun _ lost hlost => ?_
  obtain ⟨-, rfl⟩ := withoutTransport_yields hlost
  exact .bind (ends_perform _) fun _ _ _ => .bind hschedule fun _ _ _ => ends_pure _

theorem ends_onClose {text : String} (hschedule : (c.bereft.scheduleRetry now).Ends) :
    (c.onClose text now).Ends := by
  refine .bind (ends_enter ..) fun _ lost hlost => ?_
  obtain ⟨-, rfl⟩ := withoutTransport_yields hlost
  split
  · refine .bind hschedule fun _ answer _ => ?_
    obtain ⟨retrying, last⟩ := answer
    cases retrying with
    | true => exact .bind (ends_perform _) fun _ _ _ => ends_pure _
    | false => exact ends_giveUp _
  · exact ends_giveUp _

theorem ends_onReady (h : (c.armedWatchdog? now).isSome) : (c.onReady now).Ends := by
  refine .bind (ends_enter ..) fun _ entered henter => ?_
  obtain ⟨-, rfl⟩ := enter_yields henter
  refine .bind (ends_attempt.mpr h) fun _ _ _ => ?_
  exact .bind (ends_perform _) fun _ _ _ => ends_pure _

theorem ends_poll (hschedule : (c.bereft.scheduleRetry now).Ends) : (c.poll now).Ends := by
  refine .bind ?_ fun _ _ _ => ?_
  · unfold pollWatchdog
    split
    · refine .bind c.ends_dropTransport fun _ dropped hdrop => ?_
      obtain ⟨-, rfl⟩ := dropTransport_yields hdrop
      exact ends_onFailure hschedule
    · exact ends_pure c
  · unfold pollRetry
    split
    · exact ends_start _
    · exact ends_pure _

theorem ends_apply_of_schedule {operation : Operation η}
    (hschedule : (c.bereft.scheduleRetry world.now).Ends)
    (hframe : ∀ bytes, operation = .receive c.generation (.frame bytes) → c.hasTransport = true →
      (c.onFrame world bytes).Ends) : (c.apply world operation).Ends := by
  cases operation with
  | start => exact .bind c.ends_start fun _ _ _ => ends_pure _
  | shutdown => exact .bind c.ends_shutdown fun _ _ _ => ends_pure _
  | send payload => exact .bind (ends_transmit ..) fun _ _ _ => ends_pure _
  | joinGuild hostname inviteCode replyId => exact .bind (ends_joinGuild ..) fun _ _ _ => ends_pure _
  | addReady | removeReady | addDisconnect | removeDisconnect | askInterval => exact ends_pure _
  | poll => exact .bind (ends_poll hschedule) fun _ _ _ => ends_pure _
  | receive generation event =>
      refine .bind ?_ fun _ _ _ => ends_pure _
      unfold receive
      split
      · case isTrue hholds =>
        obtain ⟨hheld, rfl⟩ := holds_eq_true.mp hholds
        cases event with
        | opened => exact .bind (ends_transmit ..) fun _ _ _ => ends_pure _
        | frame bytes => exact hframe bytes rfl hheld
        | failed text => exact ends_onFailure hschedule
        | closed text => exact ends_onClose hschedule
      · exact ends_pure _

/-- Only a frame on the transport that is held can ask for a time beyond the clock. -/
theorem ends_apply {operation : Operation η} (hdelay : world.now + c.policy.maxDelay < Instant.limit)
    (hframe : ∀ bytes, operation = .receive c.generation (.frame bytes) → c.hasTransport = true →
      (c.onFrame world bytes).Ends) : (c.apply world operation).Ends :=
  ends_apply_of_schedule (ends_scheduleRetry hdelay) hframe

/-! ## Bounded waits -/

/-- The longest interval that a server can announce: its milliseconds have 64 bits. -/
def longestInterval : Duration := .ofMilliseconds 0xffffffffffffffff

/-- The watchdog of a connection bears silence for at most a multiple of the longest
interval. -/
structure Bounded (policy : RetryPolicy) (multiplier : Nat) (c : Connection η) : Prop where
  policy_eq : c.policy = policy
  multiplier_eq : c.watchdog.multiplier = multiplier
  interval_le : ∀ interval ∈ c.interval, interval ≤ longestInterval
  timeout_le : ∀ timeout ∈ c.watchdog.timeout, timeout ≤ longestInterval * multiplier

variable {policy : RetryPolicy} {multiplier : Nat}

theorem announced_le {bytes : List UInt8} :
    ∀ interval ∈ announced? bytes, interval ≤ longestInterval := by
  intro interval h
  unfold announced? at h
  split at h
  · case h_1 n _ =>
    cases h
    exact Nat.mul_le_mul_right _ (Nat.le_of_lt_succ n.toNat_lt)
  · cases h

namespace Bounded

theorem heard (hc : Bounded policy multiplier c) {fed : Watchdog} {announced : Option Duration}
    (hfeed : c.watchdog.feed? now = some fed)
    (hannounced : ∀ interval ∈ announced, interval ≤ longestInterval) :
    Bounded policy multiplier { c with interval := announced.or c.interval, watchdog := fed } where
  policy_eq := hc.policy_eq
  multiplier_eq := (Watchdog.multiplier_of_feed? hfeed).trans hc.multiplier_eq
  interval_le := by
    cases announced with
    | some interval => exact hannounced
    | none => exact hc.interval_le
  timeout_le := by
    rw [Watchdog.eq_of_feed? hfeed]
    exact hc.timeout_le

theorem armed (hc : Bounded policy multiplier c) {watchdog : Watchdog}
    (harm : c.armedWatchdog? now = some watchdog) :
    Bounded policy multiplier { c with phase := .ready, losses := 0, watchdog } := by
  unfold armedWatchdog? at harm
  split at harm
  · case h_1 interval hinterval =>
    obtain ⟨hmultiplier, htimeout⟩ := Watchdog.timeout_le_of_arm? harm
    refine { hc with multiplier_eq := hmultiplier.trans hc.multiplier_eq, timeout_le := ?_ }
    intro timeout h
    refine Nat.le_trans (htimeout timeout h) ?_
    rw [hc.multiplier_eq]
    exact Nat.mul_le_mul_right _ (hc.interval_le interval hinterval)
  · obtain rfl := Option.some.inj harm
    exact { hc with }

theorem cleared (hc : Bounded policy multiplier c) (hpolicy : c'.policy = c.policy)
    (hinterval : c'.interval = none) (hwatchdog : c'.watchdog = c.watchdog.clear) :
    Bounded policy multiplier c' where
  policy_eq := hpolicy.trans hc.policy_eq
  multiplier_eq := by rw [hwatchdog, ← hc.multiplier_eq]; rfl
  interval_le := by simp [hinterval]
  timeout_le := by simp [hwatchdog]

theorem ends_onFrame (hc : Bounded policy multiplier c) {bytes : List UInt8}
    (hnow : world.now + longestInterval * multiplier < Instant.limit) :
    (c.onFrame world bytes).Ends := by
  have hfeed : (c.watchdog.feed? world.now).isSome := Watchdog.isSome_feed? fun timeout h =>
    Nat.lt_of_le_of_lt (Nat.add_le_add_left (hc.timeout_le timeout h) _) hnow
  refine .bind (ends_attempt.mpr hfeed) fun _ fed hyields => ?_
  have hfed := (yields_attempt.mp hyields).2
  split
  · exact ends_pure _
  · exact .bind (ends_transmit ..) fun _ _ _ => ends_pure _
  · refine ends_onReady ?_
    unfold armedWatchdog?
    split
    · case h_1 interval hinterval =>
      refine Watchdog.isSome_arm? (Nat.lt_of_le_of_lt (Nat.add_le_add_left ?_ _) hnow)
      rw [Watchdog.multiplier_of_feed? hfed, hc.multiplier_eq]
      exact Nat.mul_le_mul_right _ (hc.interval_le interval hinterval)
    · rfl
  · exact ends_pure _

end Bounded

theorem bounded_new (policy : RetryPolicy) (multiplier : Nat) :
    Bounded policy multiplier (new policy multiplier : Connection η) := by
  constructor <;> simp [new]

theorem Retry.bounded {moments : List (Moment η)} {retrying : Bool}
    (hc : Bounded policy multiplier c) (h : Retry c.bereft now moments retrying c') :
    Bounded policy multiplier c' := by
  cases h <;> exact hc.cleared rfl rfl rfl

theorem Transition.bounded {operation : Operation η} {moments : List (Moment η)}
    (h : Transition c world operation moments c') (hc : Bounded policy multiplier c) :
    Bounded policy multiplier c' := by
  cases h with
  | calm _ _ hc' =>
      rw [hc']
      cases operation <;> exact { hc with }
  | heard _ _ hfeed => exact hc.heard hfeed announced_le
  | ready _ _ hfeed harm =>
      have hannounced : ∀ interval ∈ none, interval ≤ longestInterval := nofun
      exact (hc.heard hfeed hannounced).armed harm
  | started | retried | stopped | ended => exact hc.cleared rfl rfl rfl
  | failed _ _ _ hretry => exact hretry.bounded hc
  | closed _ _ hretry => exact hretry.bounded hc

/-! ## Runs -/

theorem Run.bounded {visits : List (Visit η)} (run : Run (new policy multiplier) visits c) :
    Bounded policy multiplier c := by
  -- Transitions are known of coupled connections only, so the two are carried along together.
  have hboth : c.Coupled ∧ Bounded policy multiplier c := by
    refine run.preserves (fun c => c.Coupled ∧ Bounded policy multiplier c) ?_
      ⟨coupled_new policy multiplier, bounded_new policy multiplier⟩
    intro c c' world operation moments answer hc turn
    have htransition := apply_yields hc.1 turn
    exact ⟨htransition.coupled hc.1, htransition.bounded hc.2⟩
  exact hboth.2

/-- A run goes on as long as each of its operations has a result. -/
theorem Run.ends_play {start : Connection η} {visits : List (Visit η)} {steps : List (Step η)}
    (run : Run start visits c)
    (hstep : ∀ visits c, Run start visits c → ∀ step ∈ steps, (c.apply step.1 step.2).Ends) :
    (c.play steps).Ends := by
  induction steps generalizing c visits with
  | nil => exact ends_pure c
  | cons step steps ih =>
      obtain ⟨world, operation⟩ := step
      refine .bind (hstep visits c run _ (.head _)) fun _ result hyields => ?_
      refine ih (.snoc run hyields) fun visits c run step hmem => ?_
      exact hstep visits c run step (.tail _ hmem)

theorem onFrame_yields_of_accepted {bytes : List UInt8} {interval : UInt64}
    {moments : List (Moment η)} (hdecode : Payload.decode bytes = .ok (.accepted interval))
    (h : (c.onFrame world bytes).Yields moments c') :
    ∃ fed, c.watchdog.feed? world.now = some fed ∧
      c' = { c with interval := some (.ofMilliseconds interval.toNat), watchdog := fed } := by
  simp only [onFrame, hdecode] at h
  obtain ⟨_, fed, _, hfed, h, -⟩ := yields_bind.mp h
  exact ⟨fed, (yields_attempt.mp hfed).2, (yields_pure.mp h).2⟩

theorem armedWatchdog?_of_ends {bytes : List UInt8} {available unavailable : List Guild}
    (hdecode : Payload.decode bytes = .ok (.ready available unavailable))
    (h : (c.onFrame world bytes).Ends) :
    ∃ fed, c.watchdog.feed? world.now = some fed ∧
      ({ c with watchdog := fed }.armedWatchdog? world.now).isSome := by
  simp only [onFrame, hdecode] at h
  obtain ⟨_, fed, hfed, h⟩ := ends_bind.mp h
  obtain ⟨_, entered, henter, h⟩ := ends_bind.mp h
  obtain ⟨-, rfl⟩ := enter_yields henter
  obtain ⟨_, armed, harmed, -⟩ := ends_bind.mp h
  refine ⟨fed, (yields_attempt.mp hfed).2, Option.isSome_iff_exists.mpr ⟨armed, ?_⟩⟩
  exact (yields_attempt.mp harmed).2

/-- A server that announces a long interval stops a connection when the session is ready. -/
theorem not_ends_of_long_interval {accepted ready : List UInt8} {interval : UInt64}
    {available unavailable : List Guild}
    (haccepted : Payload.decode accepted = .ok (.accepted interval))
    (hready : Payload.decode ready = .ok (.ready available unavailable)) (hnow : now < Instant.limit)
    (hlong : Instant.limit ≤
      now + (Duration.ofMilliseconds interval.toNat).saturatingMul multiplier) :
    ¬ ((new policy multiplier : Connection η).play [(.plain now, .start),
      (.plain now, .receive 1 (.frame accepted)), (.plain now, .receive 1 (.frame ready))]).Ends := by
  intro hends
  obtain ⟨_, _, hturn, hends⟩ := ends_bind.mp hends
  obtain ⟨_, hstart, rfl⟩ := yields_bind_pure.mp hturn
  obtain ⟨-, rfl⟩ := start_yields_of_free rfl hstart
  obtain ⟨_, _, hturn, hends⟩ := ends_bind.mp hends
  obtain ⟨_, hframe, rfl⟩ := yields_bind_pure.mp hturn
  obtain ⟨fed, hfed, rfl⟩ := onFrame_yields_of_accepted haccepted hframe
  obtain ⟨_, _, hturn, -⟩ := ends_bind.mp hends
  obtain ⟨_, hframe, -⟩ := yields_bind_pure.mp hturn
  obtain ⟨fed', hfed', harm⟩ := armedWatchdog?_of_ends hready (ends_of_yields hframe)
  replace harm : (fed'.arm? (.ofMilliseconds interval.toNat) now).isSome := harm
  have hmultiplier : fed'.multiplier = multiplier :=
    (Watchdog.multiplier_of_feed? hfed').trans (Watchdog.multiplier_of_feed? hfed)
  have htimeout : (Duration.ofMilliseconds interval.toNat).saturatingMul fed'.multiplier ≠ 0 := by
    intro hzero
    rw [hmultiplier] at hzero
    rw [hzero] at hlong
    exact Nat.not_lt.mpr hlong hnow
  have hlt := Watchdog.add_lt_of_isSome_arm? htimeout harm
  rw [hmultiplier] at hlt
  exact Nat.not_lt.mpr hlong hlt

/-! ## Settings -/

theorem retry_lt_limit {s : Settings} (hdelay : s.retry.maxDelay < 1 <<< 64)
    (hnow : now < Duration.ofSeconds (1 <<< 62)) : now + s.retryPolicy.maxDelay < Instant.limit := by
  have hmax : s.retryPolicy.maxDelay < Duration.ofMilliseconds (1 <<< 64) :=
    Nat.mul_lt_mul_of_pos_right hdelay (by decide)
  exact Nat.lt_trans (Nat.add_lt_add hnow hmax) (by decide)

theorem timeout_lt_limit (h : multiplier ≤ 250) (hnow : now < Duration.ofSeconds (1 <<< 62)) :
    now + longestInterval * multiplier < Instant.limit := by
  have hle : longestInterval * multiplier ≤ longestInterval * 250 := Nat.mul_le_mul_left _ h
  exact Nat.lt_trans (Nat.add_lt_add_of_lt_of_le hnow hle) (by decide)

/-- At the end of the first half, 251 of the longest intervals reach the end of the range. -/
theorem limit_le_of_large (h : 250 < multiplier) :
    Instant.limit ≤ Duration.ofSeconds (1 <<< 62) - 1 + longestInterval.saturatingMul multiplier := by
  have hle : longestInterval * 251 ≤ longestInterval * multiplier := Nat.mul_le_mul_left _ h
  have hmin : Instant.limit - (Duration.ofSeconds (1 <<< 62) - 1) ≤
      longestInterval.saturatingMul multiplier :=
    Nat.le_min.mpr ⟨by decide, Nat.le_trans (by decide) hle⟩
  exact Nat.sub_le_iff_le_add'.mp hmin

/-- With settings whose delays have 64 bits, every run within the first half of the clock's
range has a result exactly if the watchdog's multiplier is at most 250. An operation without a
result is always a frame that is handled on the transport that is held; the time of a retry
can be told whatever the settings are. -/
theorem result_iff_multiplier_le (s : Settings) (hdelay : s.retry.maxDelay < 1 <<< 64) :
    ((∀ steps : List (Step η), (∀ step ∈ steps, step.1.now < Duration.ofSeconds (1 <<< 62)) →
      ((new s.retryPolicy s.timeoutMultiplier).play steps).result.isSome) ↔
        s.timeoutMultiplier ≤ 250) ∧
    ∀ visits (c : Connection η), Run (new s.retryPolicy s.timeoutMultiplier) visits c →
      ∀ (world : Surroundings) (operation : Operation η), world.now < Duration.ofSeconds (1 <<< 62) →
        (c.apply world operation).result = none →
          c.hasTransport = true ∧ ∃ bytes, operation = .receive c.generation (.frame bytes) := by
  have hretry {visits : List (Visit η)} {c : Connection η} {now : Instant}
      (run : Run (new s.retryPolicy s.timeoutMultiplier) visits c)
      (hnow : now < Duration.ofSeconds (1 <<< 62)) : now + c.policy.maxDelay < Instant.limit := by
    rw [run.bounded.policy_eq]
    exact retry_lt_limit hdelay hnow
  refine ⟨⟨fun h => ?_, fun h steps hnow => ?_⟩, fun visits c run world operation hnow hnone => ?_⟩
  · -- A session that is ready at the end of the first half, with the longest interval.
    by_contra hlarge
    have haccepted : Payload.decode [0, 1, 0x91, 0xcf, 255, 255, 255, 255, 255, 255, 255, 255] =
        .ok (.accepted 0xffffffffffffffff) := by decide +kernel
    have hready : Payload.decode [0, 4, 0x90] = .ok (.ready [] []) := by decide +kernel
    have hlast : Duration.ofSeconds (1 <<< 62) - 1 < Duration.ofSeconds (1 <<< 62) := by decide
    refine not_ends_of_long_interval haccepted hready (by decide)
      (limit_le_of_large (Nat.lt_of_not_le hlarge)) (h _ ?_)
    simpa only [List.forall_mem_cons] using ⟨hlast, hlast, hlast, nofun⟩
  · refine Run.nil.ends_play fun visits c run step hstep => ?_
    -- Frames set the only times with no bound in the settings, and the interval has one.
    refine ends_apply (hretry run (hnow step hstep)) fun bytes _ _ => ?_
    exact run.bounded.ends_onFrame (timeout_lt_limit h (hnow step hstep))
  · by_contra hframe
    have hends : (c.apply world operation).Ends := by
      refine ends_apply (hretry run hnow) fun bytes hoperation hheld => ?_
      exact absurd ⟨hheld, bytes, hoperation⟩ hframe
    rw [Ends, hnone] at hends
    cases hends

/-- With the default settings the clock can tell every time. -/
theorem result_with_default_settings :
    ({ baseUrl := "http://localhost" } : Settings).retry.maxDelay < 1 <<< 64 ∧
      ∀ steps : List (Step String), (∀ step ∈ steps, step.1.now < Duration.ofSeconds (1 <<< 62)) →
        ((new ({ baseUrl := "http://localhost" } : Settings).retryPolicy 3).play steps).result.isSome :=
  ⟨by decide, (result_iff_multiplier_le _ (by decide)).1.mpr (by decide)⟩

attribute [local instance] Idna.ascii

/-- Valid settings and a server that stop a connection with their third step. -/
theorem no_result_with_valid_settings :
    ({ baseUrl := "http://localhost", timeoutMultiplier := 0xffffffff } : Settings).validate = .ok () ∧
      ((new ({ baseUrl := "http://localhost" } : Settings).retryPolicy 0xffffffff :
        Connection String).play
          [(.plain 0, .start),
            (.plain 0, .receive 1 (.frame (Payload.accepted 0xffffffffffffffff).encode)),
            (.plain 0, .receive 1 (.frame (Payload.ready [] []).encode))]).result = none := by
  decide +kernel

end Connection

end GatewayClient
