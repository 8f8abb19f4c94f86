import GatewayClient.Proofs.Connection.Polling
import GatewayClient.Proofs.Gateway.Ledger
import GatewayClient.Proofs.Gateway.Course
/-!
# Waking up

The driver sleeps until something is due, unless something is queued. It wakes up with a poll, and
after that nothing is due at the time of the poll any more, whatever is queued and handled in the
meantime. So it never wakes up twice for the same instant.

Main statement: `polling_neither_misses_nor_spins`.
-/

namespace GatewayClient.Connection

variable {η : Type}

/-- Handlers were removed at most. -/
structure ThinsTo (c c' : Connection η) : Prop where
  same : ∃ readyHandlers noReconnectHandlers reconnectHandlers,
    c' = { c with readyHandlers, noReconnectHandlers, reconnectHandlers }
  callbacks : ∀ slot : Slot, (slot.registry c').callbacks ⊆ (slot.registry c).callbacks

theorem ThinsTo.refl (c : Connection η) : c.ThinsTo c :=
  ⟨⟨_, _, _, rfl⟩, fun _ => List.Subset.refl _⟩

theorem callbacks_unregister (registry : Registry η) (handle : Handle) :
    (registry.unregister handle).callbacks ⊆ registry.callbacks :=
  List.map_subset _ List.filter_sublist.subset

end GatewayClient.Connection

namespace GatewayClient.Gateway

open Connection (Answer Fires Run Surroundings Visit acts)
open Connection.Turn (yields_bind_pure)

/-- The time at which the driver moves. -/
def Move.time? : Move → Option Instant
  | .drive world => some world.now
  | .call _ | .panic => none

namespace Actor

variable {a b z : Actor} {move : Move} {moves : List Move} {seen : List Happening}
  {c c' : Connection Ticket} {world : Surroundings} {now time : Instant}

/-- The next thing that the driver does is a poll, which it takes up by itself. -/
def Wakes (a : Actor) (now : Instant) : Prop :=
  a.turn = none ∧ ∃ c, a.gateway.connection = some c ∧
    a.gateway.nextWork? c now = some (.ofOperation .poll, a.gateway)

/-- The driver wakes up exactly if there is nothing else to do and something is due. -/
theorem wakes_iff : a.Wakes now ↔ a.turn = none ∧ a.gateway.events = [] ∧
    a.gateway.commands = [] ∧ a.gateway.abandoned = false ∧
    ∃ c, a.gateway.connection = some c ∧ c.isDue now = true := by
  constructor
  · rintro ⟨hturn, c, hconnection, hwork⟩
    unfold nextWork? at hwork
    split at hwork
    · -- An event is never a poll.
      cases hwork
    · next command commands hevents hcommands =>
      -- A command leaves the queue when it is taken up.
      have hsame := congrArg (·.commands) (Prod.mk.inj (Option.some.inj hwork)).2
      simp [hcommands] at hsame
    · next hevents hcommands =>
      split at hwork
      · cases hwork
      · next habandoned =>
        split at hwork
        · next hdue =>
          exact ⟨hturn, hevents, hcommands, eq_false_of_ne_true habandoned, c, hconnection, hdue⟩
        · cases hwork
  · rintro ⟨hturn, hevents, hcommands, habandoned, c, hconnection, hdue⟩
    refine ⟨hturn, c, hconnection, ?_⟩
    have hdue : c.nextDeadline.any (· ≤ now) = true := hdue
    simp [nextWork?, hevents, hcommands, habandoned, hdue]

instance (a : Actor) (now : Instant) : Decidable (a.Wakes now) :=
  decidable_of_iff (a.turn.isNone ∧ a.gateway.events.isEmpty ∧ a.gateway.commands.isEmpty ∧
      a.gateway.abandoned = false ∧ a.gateway.connection.any (·.isDue now)) <| by
    rw [wakes_iff]
    simp only [Option.isNone_iff_eq_none, List.isEmpty_iff, Option.any_eq_true]

/-! ## What is waited for -/

theorem thinsTo_withdraw (c : Connection Ticket) (operation : Connection.Operation Ticket)
    (answer : Answer) : c.ThinsTo (withdraw c operation answer) := by
  unfold withdraw
  split
  · refine ⟨⟨_, _, _, rfl⟩, fun slot => ?_⟩
    cases slot with
    | ready => exact Connection.callbacks_unregister _ _
    | noReconnect | reconnect => exact List.Subset.refl _
  · refine ⟨⟨_, _, _, rfl⟩, fun slot => ?_⟩
    cases slot with
    | ready => exact List.Subset.refl _
    | noReconnect | reconnect => exact Connection.callbacks_unregister _ _
  · exact .refl c

theorem called_of_step {call : Call} (hstep : a.step? (.call call) = some (seen, b)) :
    seen = [] ∧ a.after? call = some b := by
  obtain ⟨_, hcall, hb⟩ := Option.bind_eq_some_iff.mp hstep
  obtain ⟨rfl, rfl⟩ := Prod.mk.inj (Option.some.inj hb)
  exact ⟨rfl, hcall⟩

theorem drives_of_step (hstep : a.step? move = some (seen, b)) (hmove : move.isOfDriver = true) :
    Drives a seen b := by
  rcases step_cases hstep with ⟨call, rfl, -⟩ | hdrives
  · cases hmove
  · exact hdrives

/-- The driver panics only in the middle of a turn. -/
theorem isSome_turn_of_panic (hstep : a.step? .panic = some (seen, b)) : a.turn.isSome := by
  cases hturn : a.turn with
  | some progress => rfl
  | none => simp [step?, hturn] at hstep

/-- A driver that is between turns takes up the next work. -/
theorem begin_of_step (hturn : a.turn = none) (hstep : a.step? (.drive world) = some (seen, b)) :
    ∃ c work gateway, a.gateway.connection = some c ∧
      a.gateway.nextWork? c world.now = some (work, gateway) ∧ b = { a with
        gateway, turn := some (.ofTurn work (c.apply world work.command.operation)) } := by
  simp only [step?, hturn, begin?, Option.bind_eq_bind, Option.bind_eq_some_iff, Prod.exists,
    Option.some.injEq, Prod.mk.injEq] at hstep
  obtain ⟨_, ⟨c, hconnection, work, gateway, hwork, rfl⟩, -, rfl⟩ := hstep
  exact ⟨c, work, gateway, hconnection, hwork, rfl⟩

/-- A turn that goes on ends as was settled when it began, but for handlers whose callers are
gone. -/
theorem Drives.coming_eq (h : Drives a seen b) (hturn : a.turn.isSome) (hc' : b.coming = some c') :
    ∃ c, a.coming = some c ∧ c.ThinsTo c' := by
  cases h with
  | begun hidle => simp [hidle] at hturn
  | did hprogress =>
      refine ⟨c', ?_, .refl c'⟩
      rw [coming, hprogress]
      exact hc'
  | @finished progress answer c c'' replies hprogress hrest hresult hreply =>
      cases hlast : progress.work.last with
      | true =>
          rw [hlast] at hc'
          cases hc'
      | false =>
          rw [hlast] at hc'
          obtain rfl := Option.some.inj hc'
          refine ⟨c, by simp [coming, hprogress, hlast, hresult], ?_⟩
          rcases reply_cases hreply with ⟨_, -, -, rfl⟩ | ⟨-, rfl⟩ | ⟨-, -, rfl⟩
          · exact .refl _
          · exact thinsTo_withdraw c _ _
          · exact .refl _
  -- A driver that has come to an end has no connection any more.
  | halted => cases hc'

/-- The connection that is coming changes, but for its handlers, only when the driver takes up
work. -/
theorem coming_of_step (hstep : a.step? move = some (seen, b)) (hc' : b.coming = some c') :
    (∃ c, a.coming = some c ∧ c.ThinsTo c') ∨
      ∃ c world work gateway moments answer, move = .drive world ∧ a.turn = none ∧
        a.gateway.connection = some c ∧ a.gateway.nextWork? c world.now = some (work, gateway) ∧
        (c.apply world work.command.operation).Yields moments (answer, c') := by
  cases move with
  | call call =>
      rw [(calls_of_after (called_of_step hstep).2).course.2] at hc'
      exact .inl ⟨c', hc', .refl c'⟩
  | panic =>
      have hdrives := drives_of_step hstep rfl
      exact .inl (hdrives.coming_eq (isSome_turn_of_panic hstep) hc')
  | drive world =>
      cases hturn : a.turn with
      | some progress =>
          have hdrives := drives_of_step hstep rfl
          exact .inl (hdrives.coming_eq (Option.isSome_of_eq_some hturn) hc')
      | none =>
          obtain ⟨c, work, gateway, hconnection, hwork, rfl⟩ := begin_of_step hturn hstep
          simp only [coming, Option.ite_none_left_eq_some] at hc'
          obtain ⟨⟨answer, _⟩, hresult, rfl⟩ := Option.map_eq_some_iff.mp hc'.2
          exact .inr ⟨c, world, work, gateway, _, answer, rfl, rfl, hconnection, hwork, rfl,
            hresult⟩

/-- The watchdog of the connection that is coming bears some silence. -/
def Patient (a : Actor) : Prop := ∀ c, a.coming = some c → c.Patient

/-- Whatever is waited for is later than a time. -/
def Ahead (time : Instant) (a : Actor) : Prop :=
  ∀ c, a.coming = some c → ∀ deadline ∈ c.nextDeadline, time < deadline

theorem coming_of_idle (hturn : a.turn = none) (hconnection : a.gateway.connection = some c) :
    a.coming = some c := by
  rw [coming, hturn, hconnection]

theorem Patient.step (h : a.Patient) (hsound : a.Sound) (hstep : a.step? move = some (seen, b)) :
    b.Patient := by
  intro c' hc'
  rcases coming_of_step hstep hc' with ⟨c, hc, ⟨_, _, _, rfl⟩, -⟩ |
    ⟨c, world, work, gateway, moments, answer, -, hturn, hconnection, -, turn⟩
  · exact h c hc
  · have htransition := Connection.apply_yields (hsound.kept c hconnection).coupled turn
    exact htransition.patient (h c (coming_of_idle hturn hconnection))

/-- As long as the clock goes on, no timer is set to a time that has passed. -/
theorem Ahead.step (h : a.Ahead time) (hsound : a.Sound) (hpatient : a.Patient)
    (htime : ∀ now ∈ move.time?, time ≤ now) (hstep : a.step? move = some (seen, b)) :
    b.Ahead time := by
  intro c' hc' deadline hdeadline
  rcases coming_of_step hstep hc' with ⟨c, hc, ⟨_, _, _, rfl⟩, -⟩ |
    ⟨c, world, work, gateway, moments, answer, rfl, hturn, hconnection, -, turn⟩
  · exact h c hc deadline hdeadline
  · have hcoming := coming_of_idle hturn hconnection
    have hcoupled := (hsound.kept c hconnection).coupled
    rcases (Connection.apply_yields hcoupled turn).mem_nextDeadline_or_lt hcoupled
      (hpatient c hcoming) hdeadline with hold | hlater
    · exact h c hcoming deadline hold
    · exact Nat.lt_of_le_of_lt (htime world.now rfl) hlater

/-- After the driver has woken up, nothing is due any more. -/
theorem Wakes.ahead (h : a.Wakes world.now) (hsound : a.Sound)
    (hstep : a.step? (.drive world) = some (seen, b)) : b.Ahead world.now := by
  obtain ⟨hturn, c, hconnection, hpoll⟩ := h
  obtain ⟨-, -, -, -, _, hsame, hdue⟩ := wakes_iff.mp ⟨hturn, c, hconnection, hpoll⟩
  obtain rfl := Option.some.inj (hconnection.symm.trans hsame)
  intro c' hc'
  obtain ⟨_, _, _, hsame', hwork, rfl⟩ := begin_of_step hturn hstep
  obtain rfl := Option.some.inj (hconnection.symm.trans hsame')
  obtain ⟨rfl, -⟩ := Prod.mk.inj (Option.some.inj (hpoll.symm.trans hwork))
  obtain ⟨⟨answer, _⟩, hresult, rfl⟩ := Option.map_eq_some_iff.mp hc'
  obtain ⟨_, hyields, hsame''⟩ := yields_bind_pure.mp ⟨rfl, hresult⟩
  obtain ⟨-, rfl⟩ := Prod.mk.inj hsame''
  exact (Connection.fires_of_poll (hsound.kept c hconnection).coupled hdue hyields).lt_deadline

theorem Ahead.lt_of_wakes (h : a.Ahead time) (hwakes : a.Wakes now) : time < now := by
  obtain ⟨hturn, -, -, -, c, hconnection, hdue⟩ := wakes_iff.mp hwakes
  rw [Connection.isDue, Option.any_eq_true] at hdue
  obtain ⟨deadline, hdeadline, hpassed⟩ := hdue
  exact Nat.lt_of_lt_of_le (h c (coming_of_idle hturn hconnection) deadline hdeadline)
    (of_decide_eq_true hpassed)

theorem Reachable.patient {policy : RetryPolicy} {multiplier : Nat}
    (h : Reachable policy multiplier a) : a.Patient := by
  -- A turn is known only of connections that fit together, so soundness is carried along.
  obtain ⟨moves, seen, hplay⟩ := h
  refine (play_preserves (fun _ a => a.Sound ∧ a.Patient) [] ?_ ⟨.new policy multiplier, ?_⟩
    hplay).2
  · rintro before a move seen b - ⟨hsound, hpatient⟩ hstep
    exact ⟨hsound.step hstep, hpatient.step hsound hstep⟩
  · intro c hc
    obtain rfl := Option.some.inj hc
    exact Connection.patient_new policy multiplier

/-- The driver wakes up later each time, as long as the clock does not go back. -/
theorem Reachable.lt_of_wakes {policy : RetryPolicy} {multiplier : Nat}
    (h : Reachable policy multiplier a) (hwakes : a.Wakes world.now)
    (hplay : a.play (.drive world :: moves) = some (seen, z))
    (hclock : ∀ move ∈ moves, ∀ now ∈ move.time?, world.now ≤ now) (hagain : z.Wakes time) :
    world.now < time := by
  obtain ⟨first, b, rest, hstep, hrest, -⟩ := play_cons.mp hplay
  have hb := h.step hstep
  have hends : z.Sound ∧ z.Patient ∧ z.Ahead world.now := by
    refine play_preserves (fun _ a => a.Sound ∧ a.Patient ∧ a.Ahead world.now) [] ?_
      ⟨hb.sound, hb.patient, hwakes.ahead h.sound hstep⟩ hrest
    intro before a move seen b hmove ⟨hsound, hpatient, hahead⟩ hstep
    exact ⟨hsound.step hstep, hpatient.step hsound hstep,
      hahead.step hsound hpatient (hclock move hmove) hstep⟩
  exact hends.2.2.lt_of_wakes hagain

/-- A poll that finds nothing due does nothing. Any other fires the one timer that is due, closes
one transport at most and opens one at most, and leaves nothing that is due at the same time; it
has a result unless the clock cannot tell the time of the next retry. So the driver, which wakes up
exactly when it has nothing else to do and something is due, does not wake up twice for the same
instant. -/
theorem polling_neither_misses_nor_spins :
    (∀ (η : Type) (policy : RetryPolicy) (multiplier : Nat) (visits : List (Visit η))
      (c : Connection η) (world : Surroundings), Run (.new policy multiplier) visits c →
      (c.isDue world.now = false → c.apply world .poll = pure (.none, c)) ∧
      (c.isDue world.now = true →
        (world.now + policy.maxDelay < Instant.limit → (c.apply world .poll).result.isSome) ∧
        ∀ moments answer c', (c.apply world .poll).Yields moments (answer, c') →
          Fires c world.now (acts moments) c' ∧
          (acts moments).countP (·.isClosing) ≤ 1 ∧ (acts moments).countP (·.isOpening) ≤ 1 ∧
          ∀ deadline ∈ c'.nextDeadline, world.now < deadline)) ∧
    ∀ (policy : RetryPolicy) (multiplier : Nat) (a z : Actor) (moves : List Move)
      (seen : List Happening) (world : Surroundings) (time : Instant),
      a.Reachable policy multiplier →
      (a.Wakes time ↔ a.turn = none ∧ a.gateway.events = [] ∧ a.gateway.commands = [] ∧
        a.gateway.abandoned = false ∧ ∃ c, a.gateway.connection = some c ∧ c.isDue time = true) ∧
      (a.Wakes world.now → a.play (.drive world :: moves) = some (seen, z) →
        (∀ move ∈ moves, ∀ now ∈ move.time?, world.now ≤ now) → z.Wakes time →
          world.now < time) := by
  refine ⟨?_, ?_⟩
  · intro η policy multiplier visits c world run
    refine ⟨fun hdue => ?_, fun hdue => ⟨fun hlimit => ?_, fun moments answer c' turn => ?_⟩⟩
    · rw [Connection.apply, Connection.poll_of_not_due hdue]
      rfl
    · rw [← run.bounded.policy_eq] at hlimit
      exact Connection.ends_apply hlimit (by simp)
    · obtain ⟨_, hpoll, hresult⟩ := yields_bind_pure.mp turn
      obtain ⟨-, rfl⟩ := Prod.mk.inj hresult
      have hfires := Connection.fires_of_poll run.coupled hdue hpoll
      exact ⟨hfires, hfires.counts.1, hfires.counts.2, hfires.lt_deadline⟩
  · intro policy multiplier a z moves seen world time hreachable
    exact ⟨wakes_iff, fun hwakes hplay hclock => hreachable.lt_of_wakes hwakes hplay hclock⟩

/-- A session is silent for three seconds. The next transport, which is opened at once, fails a
second later, and the driver wakes up again after 250 ms. -/
theorem wakes_again_after_silence :
    (∃ (visits : List (Visit String)) (c : Connection String), visits.map Visit.step =
        [(.plain 0, .start), (.plain 0, .receive 1 (.frame (Payload.accepted 1000).encode)),
         (.plain 0, .receive 1 (.frame (Payload.ready [] []).encode))] ∧
      Run (.new {} 3) visits c ∧ (c.isDue 2999999999, c.isDue 3000000000) = (false, true) ∧
      c.apply (.plain 2999999999) .poll = pure (.none, c) ∧
      (c.apply (.plain 3000000000) .poll).result.isSome) ∧
    ∃ seen a others z, (new {} 3).play
        ([.call .start] ++ List.replicate 4 (.drive (.plain 0)) ++
          [.call (.report 1 (.frame (Payload.accepted 1000).encode))] ++
          List.replicate 2 (.drive (.plain 0)) ++
          [.call (.report 1 (.frame (Payload.ready [] []).encode))] ++
          List.replicate 3 (.drive (.plain 0))) = some (seen, a) ∧
      a.Wakes 3000000000 ∧ a.play (.drive (.plain 3000000000) ::
        (List.replicate 5 (.drive (.plain 3000000000)) ++ [.call (.report 2 (.failed "reset"))] ++
          List.replicate 3 (.drive (.plain 4000000000)))) = some (others, z) ∧
      z.Wakes 4250000000 ∧ (3000000000 : Instant) < 4250000000 := by
  constructor
  · have hplay : ((.new {} 3 : Connection String).play
        [(.plain 0, .start), (.plain 0, .receive 1 (.frame (Payload.accepted 1000).encode)),
         (.plain 0, .receive 1 (.frame (Payload.ready [] []).encode))]).result.map
          (fun c => (c.isDue 2999999999, c.isDue 3000000000)) = some (false, true) := by
      decide +kernel
    obtain ⟨visits, c, hsteps, run, hdue, -⟩ := Run.exists_of_play _ hplay fun _ _ _ _ => trivial
    obtain ⟨hearly, hlate⟩ := Prod.mk.inj hdue
    have hpoll (world : Surroundings) :=
      polling_neither_misses_nor_spins.1 String {} 3 visits c world run
    refine ⟨visits, c, hsteps, run, hdue, ?_, ?_⟩
    · exact (hpoll (.plain 2999999999)).1 hearly
    · exact ((hpoll (.plain 3000000000)).2 hlate).1 (by decide)
  · generalize hearlier : ([.call .start] ++ List.replicate 4 (.drive (.plain 0)) ++
      [.call (.report 1 (.frame (Payload.accepted 1000).encode))] ++
      List.replicate 2 (.drive (.plain 0)) ++
      [.call (.report 1 (.frame (Payload.ready [] []).encode))] ++
      List.replicate 3 (.drive (.plain 0)) : List Move) = earlier
    generalize hlater : (List.replicate 5 (.drive (.plain 3000000000)) ++
      [.call (.report 2 (.failed "reset"))] ++
      List.replicate 3 (.drive (.plain 4000000000)) : List Move) = later
    have hplay : (((new {} 3).play earlier).bind fun asleep =>
        (asleep.2.play (.drive (.plain 3000000000) :: later)).map fun last =>
          (decide (asleep.2.Wakes 3000000000), decide (last.2.Wakes 4250000000))) =
        some (true, true) := by
      subst hearlier hlater
      decide +kernel
    obtain ⟨⟨seen, a⟩, hfirst, hrest⟩ := Option.bind_eq_some_iff.mp hplay
    obtain ⟨⟨others, z⟩, hsecond, hwakes⟩ := Option.map_eq_some_iff.mp hrest
    obtain ⟨ha, hz⟩ : a.Wakes 3000000000 ∧ z.Wakes 4250000000 := by simpa using hwakes
    refine ⟨seen, a, others, z, hfirst, ha, hsecond, hz, ?_⟩
    refine (polling_neither_misses_nor_spins.2 {} 3 a z later others (.plain 3000000000) 4250000000
      ⟨earlier, seen, hfirst⟩).2 ha hsecond ?_ hz
    subst hlater
    decide

end Actor

end GatewayClient.Gateway
