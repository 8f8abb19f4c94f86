import GatewayClient.Proofs.Connection.Deadlines
/-!
# Out of retries

A loss that the policy does not answer leaves a connection without a transport and without a timer,
whatever the loss was (`spent`). Only the count of losses differs: a close by the server sets it
back, a failure and silence leave it beyond the policy's bound. So a connection that is started
again has all of its retries after a close, and none after a failure, until a session is ready.

Main statement: `out_of_retries`.
-/

namespace GatewayClient.Connection

open Turn

variable {η : Type} {c c' : Connection η} {world : Surroundings} {now : Instant}
  {operation : Operation η} {moments : List (Moment η)} {answer : Answer}

/-! ## Losses -/

/-- Whether the server closed the transport. -/
def Operation.isClose : Operation η → Bool
  | .receive _ (.closed _) => true
  | _ => false

/-- Whether a loss is to be answered. Only a server that closes a transport may not want it. -/
def Operation.asksRetry : Operation η → Bool
  | .receive _ (.closed text) => (CloseReason.ofCloseText text).reconnect
  | _ => true

/-- A connection after a loss that is not answered. -/
def spent (c : Connection η) (operation : Operation η) : Connection η :=
  { c.bereft with losses := if operation.isClose then 0 else RetryPolicy.countLoss c.losses }

/-- A close that the policy does not answer is final, so that the loss was none. -/
theorem isClose_eq_false_of_not_resets
    (hallows : c.policy.allows (RetryPolicy.countLoss c.losses) = false)
    (hloses : c.loses world operation = true) (hresets : c.resets operation = false) :
    operation.isClose = false := by
  cases operation with
  | receive generation event =>
      cases event with
      | closed text =>
          have hholds : c.holds generation = true := hloses
          simp [resets, hholds, isFinal, hallows] at hresets
      | _ => rfl
  | _ => rfl

/-- All losses that are not answered are alike, but for the count. -/
theorem Transition.spent (h : Transition c world operation moments c') (hc : c.Coupled)
    (hallows : c.policy.allows (RetryPolicy.countLoss c.losses) = false)
    (hloses : c.loses world operation = true) :
    moments.map (·.act) = [.calledDisconnect c.noReconnectHandlers.callbacks false] ∧
      c' = c.spent operation := by
  cases h with
  | calm hcalm | retried _ hcalm =>
      rw [hcalm] at hloses
      cases hloses
  | failed _ _ hresets hretry =>
      cases hretry with
      | refused hn =>
          subst hn
          rw [Connection.spent, isClose_eq_false_of_not_resets hallows hloses hresets]
          exact ⟨rfl, rfl⟩
      | immediate hn hallows' | delayed hn hallows' =>
          subst hn
          exact absurd (hallows.symm.trans hallows') nofun
  | closed _ hfinal => simp [isFinal, hallows] at hfinal
  | ended hheld =>
      -- That a retry is cancelled says nothing, as none was planned while the transport was held.
      have hnone : c.bereft.retryAt = none := hc.retryAt_eq_none hheld
      refine ⟨rfl, ?_⟩
      rw [Connection.spent, ← hnone]
      rfl
  | _ => cases hloses

theorem Retry.losses_eq {retrying : Bool} (h : Retry c now moments retrying c') :
    c'.policy = c.policy ∧ c'.losses = RetryPolicy.countLoss c.losses := by
  cases h with
  | refused hn | immediate hn | delayed hn => exact ⟨rfl, hn⟩

/-- An operation after which the row of losses goes on counts the loss that it finds, if any. -/
theorem Transition.losses_eq (h : Transition c world operation moments c')
    (hresets : c.resets operation = false) :
    c'.policy = c.policy ∧
      c'.losses = if c.loses world operation then RetryPolicy.countLoss c.losses else c.losses := by
  cases h with
  | calm hloses _ hc' =>
      rw [hc', hloses]
      cases operation <;> exact ⟨rfl, rfl⟩
  | heard | started => exact ⟨rfl, rfl⟩
  | retried _ hloses =>
      rw [hloses]
      exact ⟨rfl, rfl⟩
  | failed _ hloses _ hretry =>
      rw [hloses]
      exact hretry.losses_eq
  | closed hheld _ hretry =>
      simp only [loses, holds, hheld, beq_self_eq_true, Bool.and_self, if_true]
      exact hretry.losses_eq
  | ready hheld hready => simp [resets, holds, hheld, hready] at hresets
  | stopped => cases hresets
  | ended hheld hfinal => simp [resets, holds, hheld, hfinal] at hresets

/-- A loss that is to be answered is answered exactly if the policy allows it. -/
theorem Transition.retries_iff (h : Transition c world operation moments c') (hc : c.Coupled)
    (hloses : c.loses world operation = true) (hasks : operation.asksRetry = true) :
    (c'.hasTransport = true ∨ c'.retryAt.isSome = true) ↔
      c.policy.allows (RetryPolicy.countLoss c.losses) = true := by
  cases h with
  | calm hcalm | retried _ hcalm =>
      rw [hcalm] at hloses
      cases hloses
  | failed hheld _ _ hretry =>
      have hnone : c.bereft.retryAt = none := hc.retryAt_eq_none hheld
      have hallows : c.policy.allows (RetryPolicy.countLoss c.losses) = _ := hretry.allows_eq
      rw [hallows]
      cases hretry with
      | refused => simp [bereft, hc.retryAt_eq_none hheld]
      | immediate => simp [opened]
      | delayed => simp
  | closed _ _ hretry =>
      have hallows : c.policy.allows (RetryPolicy.countLoss c.losses) = true := hretry.allows_eq
      rw [hallows]
      cases hretry with
      | immediate => simp [opened]
      | delayed => simp
  | ended hheld hfinal =>
      have hwish : (CloseReason.ofCloseText _).reconnect = true := hasks
      have hallows : c.policy.allows (RetryPolicy.countLoss c.losses) = false := by
        simpa [isFinal, hwish] using hfinal
      simp [hallows, bereft]
  | _ => cases hloses

/-! ## Runs -/

def Visit.loses (visit : Visit η) : Bool := visit.before.loses visit.world visit.operation

variable {start : Connection η} {policy : RetryPolicy} {multiplier : Nat}
  {visits : List (Visit η)}

theorem countLoss_le (losses : Nat) : RetryPolicy.countLoss losses ≤ RetryPolicy.attemptLimit :=
  Nat.min_le_right ..

/-- While the row of losses goes on, they are counted one by one. -/
theorem Run.losses_eq (run : Run start visits c) (hstart : start.Coupled)
    (hlimit : start.losses ≤ RetryPolicy.attemptLimit)
    (hresets : ∀ visit ∈ visits, visit.before.resets visit.operation = false) :
    c.Coupled ∧ c.policy = start.policy ∧
      c.losses = min (start.losses + visits.countP Visit.loses) RetryPolicy.attemptLimit := by
  induction run with
  | nil => exact ⟨hstart, rfl, (Nat.min_eq_left hlimit).symm⟩
  | @snoc visits c c' world operation moments answer run turn ih =>
      rw [List.forall_mem_append, List.forall_mem_singleton] at hresets
      obtain ⟨hc, hpolicy, hlosses⟩ := ih hresets.1
      have htransition := apply_yields hc turn
      obtain ⟨hsame, hcount⟩ := htransition.losses_eq hresets.2
      refine ⟨htransition.coupled hc, hsame.trans hpolicy, ?_⟩
      rw [hcount, List.countP_append, List.countP_singleton, Visit.loses]
      split
      · rw [RetryPolicy.countLoss, hlosses]
        omega
      · exact hlosses

/-- The transport of a connection that is out of retries is lost. -/
theorem Run.spent (run : Run (new policy multiplier) visits c)
    (hallows : c.policy.allows (RetryPolicy.countLoss c.losses) = false)
    (hloses : c.loses world operation = true) :
    ∃ moments answer, (c.apply world operation).Yields moments (answer, c.spent operation) ∧
      (landmarks moments).map (·.act) =
        [.calledDisconnect c.noReconnectHandlers.callbacks false] := by
  -- The retry that is not made is the only part of a loss that could fail.
  have hends : (c.apply world operation).Ends := by
    refine ends_apply_of_schedule ?_ ?_
    · rw [scheduleRetry_of_not_allowed (c := c.bereft) hallows]
      exact ends_pure _
    · rintro bytes rfl
      cases hloses
  obtain ⟨⟨answer, c'⟩, hresult⟩ := Option.isSome_iff_exists.mp hends
  have turn : (c.apply world operation).Yields _ (answer, c') := ⟨rfl, hresult⟩
  obtain ⟨hacts, rfl⟩ := (apply_yields run.coupled turn).spent run.coupled hallows hloses
  exact ⟨_, answer, turn, hacts⟩

/-- When one more loss is beyond the bound of the policy, every loss is final: there is no transport
then, no interval and no timer, and disconnect handlers are called once, with `false`. A connection
that is started again answers as many losses in a row as the policy allows if the server had closed
the transport, and none otherwise. -/
theorem out_of_retries (run : Run (new policy multiplier) visits c) (hheld : c.hasTransport = true)
    {most : Nat} (hmost : policy.maxAttempts = some most)
    (hexhausted : most < RetryPolicy.countLoss c.losses) (hloses : c.loses world operation = true) :
    (∃ moments answer, (c.apply world operation).Yields moments (answer, c.spent operation) ∧
      (landmarks moments).map (·.act) =
        [.calledDisconnect c.noReconnectHandlers.callbacks false]) ∧
    ((c.spent operation).phase = .unhealthy ∧ (c.spent operation).hasTransport = false ∧
      (c.spent operation).interval = none ∧ (c.spent operation).nextDeadline = none ∧
      (c.spent operation).losses =
        if operation.isClose then 0 else RetryPolicy.countLoss c.losses) ∧
    ∀ later d, Run (c.spent operation) later d →
      (∀ visit ∈ later, visit.before.resets visit.operation = false) →
      ∀ world' operation' moments' answer' d',
        (d.apply world' operation').Yields moments' (answer', d') →
        d.loses world' operation' = true → operation'.asksRetry = true →
          ((d'.hasTransport = true ∨ d'.retryAt.isSome = true) ↔
            operation.isClose = true ∧ later.countP Visit.loses < most) := by
  have hpolicy : c.policy = policy := run.bounded.policy_eq
  have hallows : c.policy.allows (RetryPolicy.countLoss c.losses) = false := by
    simpa [RetryPolicy.allows, hpolicy, hmost] using hexhausted
  have hnone := run.coupled.retryAt_eq_none hheld
  have hspent := run.spent hallows hloses
  refine ⟨hspent, ⟨rfl, rfl, rfl, hnone, rfl⟩, ?_⟩
  -- The count after the later losses decides on the retry, and it starts where the loss left it.
  intro later d run' hresets world' operation' moments' answer' d' turn' hloses' hasks'
  obtain ⟨moments, answer, turn, -⟩ := hspent
  have hcoupled := (apply_yields run.coupled turn).coupled run.coupled
  have hlimit : (c.spent operation).losses ≤ RetryPolicy.attemptLimit := by
    unfold Connection.spent
    split
    · exact Nat.zero_le _
    · exact countLoss_le _
  obtain ⟨hd, hpolicy', hlosses⟩ := run'.losses_eq hcoupled hlimit hresets
  have hbound (losses : Nat) : (c.spent operation).policy.allows losses = true ↔ losses ≤ most := by
    have hsame : (c.spent operation).policy.maxAttempts = some most := by
      rw [← hmost, ← hpolicy]
      rfl
    simp [RetryPolicy.allows, hsame]
  rw [(apply_yields hd turn').retries_iff hd hloses' hasks', hpolicy', hbound, hlosses]
  unfold RetryPolicy.countLoss at hexhausted ⊢
  cases hclose : operation.isClose with
  | true =>
      have hzero : (c.spent operation).losses = 0 := by rw [Connection.spent, hclose]; rfl
      rw [hzero]
      simp only [true_and]
      omega
  | false =>
      -- The count is beyond the bound, and no loss of a row sets it back.
      have hbeyond : most < (c.spent operation).losses := by
        rw [Connection.spent, hclose]
        exact hexhausted
      simp only [Bool.false_eq_true, false_and, iff_false]
      omega

/-- One retry is allowed, and it was made: the next failure is final, and so is the one after
another start. -/
theorem out_of_retries_after_failure :
    ∃ (visits : List (Visit String)) (c : Connection String),
      visits.map Visit.step = [(.plain 0, .start), (.plain 1, .receive 1 (.failed "refused"))] ∧
      Run (new { maxAttempts := some 1 } 3) visits c ∧
      (c.hasTransport, c.generation, c.losses) = (true, 2, 1) ∧
      ∃ moments answer c', (c.apply (.plain 2) (.receive 2 (.failed "refused"))).Yields moments
          (answer, c') ∧ c'.losses = 2 ∧ c'.nextDeadline = none ∧
        ∀ later d, Run c' later d →
          (∀ visit ∈ later, visit.before.resets visit.operation = false) →
          ∀ moments' answer' d',
            (d.apply (.plain 4) (.receive 3 (.failed "refused"))).Yields moments' (answer', d') →
            d.holds 3 = true → ¬ (d'.hasTransport = true ∨ d'.retryAt.isSome = true) := by
  have hplay : ((new { maxAttempts := some 1 } 3 : Connection String).play
      [(.plain 0, .start), (.plain 1, .receive 1 (.failed "refused"))]).result.map
        (fun c => (c.hasTransport, c.generation, c.losses)) = some (true, 2, 1) := by
    decide +kernel
  obtain ⟨c, hresult, hfeature⟩ := Option.map_eq_some_iff.mp hplay
  obtain ⟨visits, hsteps, -, run⟩ := Run.of_play ⟨rfl, hresult⟩
  obtain ⟨hheld, hgeneration, hlosses⟩ :
      c.hasTransport = true ∧ c.generation = 2 ∧ c.losses = 1 := by
    simpa using hfeature
  have hloses : c.loses (.plain 2) (.receive 2 (.failed "refused")) = true :=
    holds_eq_true.mpr ⟨hheld, hgeneration.symm⟩
  have hexhausted : 1 < RetryPolicy.countLoss c.losses := by
    rw [hlosses]
    decide
  obtain ⟨⟨moments, answer, turn, -⟩, ⟨-, -, -, hnone, hcount⟩, hbudget⟩ :=
    out_of_retries run hheld rfl hexhausted hloses
  refine ⟨visits, c, hsteps, run, hfeature, moments, answer, _, turn, ?_, hnone, ?_⟩
  · rw [hcount, hlosses]
    rfl
  · intro later d run' hresets moments' answer' d' turn' hholds hretry
    have hclose := ((hbudget later d run' hresets _ _ _ _ _ turn' hholds rfl).mp hretry).1
    cases hclose

/-- The last failure is kept in the count, and a close in its place is not. Of two connections that
are started again after them only the second answers the next failure. -/
theorem count_kept_after_failure :
    ([.failed "refused", .closed "\x7b\"reason\": \"restart\", \"reconnect\": true\x7d"].map
      fun event => ((new { maxAttempts := some 1 } 3 : Connection String).play
        [(.plain 0, .start), (.plain 1, .receive 1 (.failed "refused")),
         (.plain 2, .receive 2 event)]).result.map fun c => (c.phase, c.losses)) =
      [some (.unhealthy, 2), some (.unhealthy, 0)] ∧
    ([.failed "refused", .closed "\x7b\"reason\": \"restart\", \"reconnect\": true\x7d"].map
      fun event => ((new { maxAttempts := some 1 } 3 : Connection String).play
        [(.plain 0, .start), (.plain 1, .receive 1 (.failed "refused")),
         (.plain 2, .receive 2 event), (.plain 3, .start),
         (.plain 4, .receive 3 (.failed "refused"))]).result.map (·.hasTransport)) =
      [some false, some true] := by
  decide +kernel

end GatewayClient.Connection
