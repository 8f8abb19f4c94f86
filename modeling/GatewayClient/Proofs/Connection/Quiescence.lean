import GatewayClient.Proofs.Connection.Deadlines
import GatewayClient.Proofs.Connection.Generations
/-!
# Quiescence

A connection that holds no transport and waits for no retry is at rest: it was never started, or
was shut down, or lost its last transport for good. Whatever happens to it then, it stays at rest
until it is started. A transport that the server closes without asking for a reconnect leaves its
connection at rest.

Main statement: `dormant_until_start`.
-/

namespace GatewayClient.Connection

open Turn

variable {η : Type} {c c' : Connection η} {world : Surroundings} {operation : Operation η}
  {moments : List (Moment η)} {answer : Answer}

/-- The connection has nothing and waits for nothing. -/
structure Quiescent (c : Connection η) : Prop where
  free : c.hasTransport = false
  unplanned : c.retryAt = none

/-! ## One operation -/

/-- What an operation does to a connection that it leaves at rest. -/
structure Undisturbed (c : Connection η) (operation : Operation η) (moments : List (Moment η))
    (answer : Answer) (c' : Connection η) : Prop where
  quiescent : c'.Quiescent
  /-- No transport is opened or handed a frame, and no handler is called. -/
  acts : ∀ moment ∈ moments, moment.act = .entered .closed
  send_refused : ∀ payload, operation = .send payload →
    answer = .sent (.error .notConnected)
  join_refused : ∀ hostname inviteCode replyId,
    operation = .joinGuild hostname inviteCode replyId → answer = .joined (.error .notConnected)
  same : operation ≠ .shutdown → moments = [] ∧ c'.phase = c.phase ∧
    c'.generation = c.generation ∧ c'.losses = c.losses

theorem undisturbed_registering (h : c.Quiescent) (operation : Operation η)
    (hsend : ∀ payload, operation = .send payload → answer = .sent (.error .notConnected))
    (hjoin : ∀ hostname inviteCode replyId,
      operation = .joinGuild hostname inviteCode replyId →
        answer = .joined (.error .notConnected)) :
    Undisturbed c operation [] answer (c.registering operation) where
  quiescent := by cases operation <;> exact ⟨h.free, h.unplanned⟩
  acts := List.forall_mem_nil _
  send_refused := hsend
  join_refused := hjoin
  same _ := ⟨rfl, by cases operation <;> exact ⟨rfl, rfl, rfl⟩⟩

theorem acts_of_enter {phase : Phase} (h : (c.enter phase).Yields moments c') :
    ∀ moment ∈ moments, moment.act = .entered phase := by
  unfold enter at h
  split at h
  · obtain ⟨rfl, -⟩ := yields_pure.mp h
    exact List.forall_mem_nil _
  · simp only [perform, yields_bind, yields_perform, yields_pure] at h
    obtain ⟨_, _, _, rfl, ⟨rfl, -⟩, rfl⟩ := h
    simp

namespace Quiescent

theorem new (policy : RetryPolicy) (multiplier : Nat) :
    (new policy multiplier : Connection η).Quiescent := ⟨rfl, rfl⟩

theorem stopped (c : Connection η) : c.stopped.Quiescent := ⟨rfl, rfl⟩

theorem deadline_eq_none (h : c.Quiescent) (hc : c.Coupled) : c.watchdog.deadline = none := by
  by_contra hdeadline
  have hheld := hc.held_of_deadline (Option.isSome_iff_ne_none.mpr hdeadline)
  rw [h.free] at hheld
  cases hheld

theorem nextDeadline_eq_none (h : c.Quiescent) (hc : c.Coupled) : c.nextDeadline = none := by
  simp [nextDeadline, h.deadline_eq_none hc, h.unplanned]

theorem holds_eq_false (h : c.Quiescent) (generation : Nat) : c.holds generation = false := by
  simp [holds, h.free]

theorem transmit_eq (h : c.Quiescent) (world : Surroundings) (frame : List UInt8) :
    c.transmit world frame = pure (.error .notConnected) := by
  simp [transmit, h.free]

theorem poll_eq (h : c.Quiescent) (hc : c.Coupled) (now : Instant) : c.poll now = pure c := by
  have hwatchdog : c.pollWatchdog now = pure c := by
    simp [pollWatchdog, Watchdog.isExpired, h.deadline_eq_none hc]
  have hretry : c.pollRetry now = pure c := by simp [pollRetry, h.unplanned]
  rw [poll, hwatchdog]
  exact hretry

theorem shutdown (h : c.Quiescent) (hyields : c.shutdown.Yields moments c') :
    c' = c.stopped ∧ ∀ moment ∈ moments, moment.act = .entered .closed := by
  refine ⟨(shutdown_yields hyields).2, ?_⟩
  simp only [Connection.shutdown, dropTransport, h.free, Bool.false_eq_true, if_false, yields_bind,
    yields_pure] at hyields
  obtain ⟨_, _, _, ⟨rfl, rfl⟩, henter, rfl⟩ := hyields
  exact acts_of_enter henter

/-- What is done to a connection at rest has a result and leaves it at rest, but for a start. -/
theorem apply (h : c.Quiescent) (hc : c.Coupled) (world : Surroundings)
    (hstart : operation ≠ .start) :
    ∃ moments answer c', (c.apply world operation).Yields moments (answer, c') ∧
      Undisturbed c operation moments answer c' := by
  cases operation with
  | start => exact absurd rfl hstart
  | shutdown =>
      obtain ⟨_, hresult⟩ := Option.isSome_iff_exists.mp c.ends_shutdown
      obtain ⟨rfl, hacts⟩ := h.shutdown ⟨rfl, hresult⟩
      refine ⟨_, .none, c.stopped, yields_bind_pure.mpr ⟨_, ⟨rfl, hresult⟩, rfl⟩, ?_⟩
      exact { quiescent := .stopped c
              acts := hacts
              send_refused := by rintro _ ⟨⟩
              join_refused := by rintro _ _ _ ⟨⟩
              same := fun h => absurd rfl h }
  | send payload =>
      refine ⟨[], .sent (.error .notConnected), c, ?_,
        undisturbed_registering h _ (fun _ _ => rfl) (by rintro _ _ _ ⟨⟩)⟩
      simp [Connection.apply, send, h.transmit_eq]
  | joinGuild hostname inviteCode replyId =>
      refine ⟨[], .joined (.error .notConnected), c, ?_,
        undisturbed_registering h _ (by rintro _ ⟨⟩) fun _ _ _ _ => rfl⟩
      simp [Connection.apply, joinGuild, send, h.transmit_eq]
  | addReady | removeReady | addDisconnect | removeDisconnect | askInterval =>
      exact ⟨[], _, _, ⟨rfl, rfl⟩,
        undisturbed_registering h _ (by rintro _ ⟨⟩) (by rintro _ _ _ ⟨⟩)⟩
  | poll =>
      refine ⟨[], .none, c, ?_,
        undisturbed_registering h _ (by rintro _ ⟨⟩) (by rintro _ _ _ ⟨⟩)⟩
      simp [Connection.apply, h.poll_eq hc]
  | receive generation event =>
      refine ⟨[], .none, c, ?_,
        undisturbed_registering h _ (by rintro _ ⟨⟩) (by rintro _ _ _ ⟨⟩)⟩
      rw [apply_receive_of_not_holds (h.holds_eq_false generation)]
      exact ⟨rfl, rfl⟩

/-- The same of an operation that is known to have a result. -/
theorem undisturbed (h : c.Quiescent) (hc : c.Coupled) (hstart : operation ≠ .start)
    (turn : (c.apply world operation).Yields moments (answer, c')) :
    Undisturbed c operation moments answer c' := by
  obtain ⟨_, _, _, ⟨hmoments, hresult⟩, hundisturbed⟩ := h.apply hc world hstart
  obtain ⟨rfl, rfl⟩ := Prod.mk.inj (Option.some.inj (turn.2.symm.trans hresult))
  obtain rfl := turn.1.symm.trans hmoments
  exact hundisturbed

/-- Any operations but starts have results. -/
theorem ends_play (h : c.Quiescent) (hc : c.Coupled) {steps : List (Step η)}
    (hsteps : ∀ step ∈ steps, step.2 ≠ .start) : (c.play steps).Ends := by
  induction steps generalizing c with
  | nil => exact ends_pure c
  | cons step steps ih =>
      obtain ⟨hstart, hrest⟩ := List.forall_mem_cons.mp hsteps
      obtain ⟨moments, answer, c', turn, hundisturbed⟩ := h.apply hc step.1 hstart
      refine ends_bind.mpr ⟨moments, _, turn, ?_⟩
      exact ih hundisturbed.quiescent ((apply_yields hc turn).coupled hc) hrest

end Quiescent

/-! ## Runs -/

/-- What is asked of a connection in a visit is refused because there is no transport. -/
structure Visit.Refused (visit : Visit η) : Prop where
  send : ∀ payload, visit.operation = .send payload → visit.answer = .sent (.error .notConnected)
  join : ∀ hostname inviteCode replyId,
    visit.operation = .joinGuild hostname inviteCode replyId →
      visit.answer = .joined (.error .notConnected)

/-- What a run does to a connection that it leaves at rest all the way. -/
structure Dormant (start : Connection η) (visits : List (Visit η)) (c : Connection η) : Prop where
  quiescent : c.Quiescent
  /-- No transport is opened or handed a frame, and no handler is called. -/
  acts : ∀ moment ∈ history visits, moment.act = .entered .closed
  unplanned : ∀ visit ∈ visits, visit.before.nextDeadline = none
  refused : ∀ visit ∈ visits, visit.Refused
  same : (∀ visit ∈ visits, visit.operation ≠ .shutdown) → history visits = [] ∧
    c.phase = start.phase ∧ c.generation = start.generation ∧ c.losses = start.losses

theorem Run.dormant {start : Connection η} {visits : List (Visit η)} (run : Run start visits c)
    (h : start.Quiescent) (hstart : start.Coupled)
    (hvisits : ∀ visit ∈ visits, visit.operation ≠ .start) : Dormant start visits c ∧ c.Coupled := by
  induction run with
  | nil =>
      exact ⟨{ quiescent := h, acts := List.forall_mem_nil _, unplanned := List.forall_mem_nil _,
               refused := List.forall_mem_nil _, same := fun _ => ⟨rfl, rfl, rfl, rfl⟩ }, hstart⟩
  | @snoc visits c c' world operation moments answer run turn ih =>
      obtain ⟨hrest, hlast⟩ := List.forall_mem_append.mp hvisits
      obtain ⟨hdormant, hc⟩ := ih hrest
      have hnext := hdormant.quiescent.undisturbed hc (hlast _ List.mem_cons_self) turn
      refine ⟨⟨hnext.quiescent, ?_, ?_, ?_, fun hvisits => ?_⟩, (apply_yields hc turn).coupled hc⟩
      · rw [history_concat]
        exact List.forall_mem_append.mpr ⟨hdormant.acts, hnext.acts⟩
      · refine List.forall_mem_append.mpr ⟨hdormant.unplanned, List.forall_mem_singleton.mpr ?_⟩
        exact hdormant.quiescent.nextDeadline_eq_none hc
      · refine List.forall_mem_append.mpr ⟨hdormant.refused, List.forall_mem_singleton.mpr ?_⟩
        exact ⟨hnext.send_refused, hnext.join_refused⟩
      · obtain ⟨hrest, hlast⟩ := List.forall_mem_append.mp hvisits
        obtain ⟨hhistory, hphase, hgeneration, hlosses⟩ := hdormant.same hrest
        obtain ⟨rfl, hphase', hgeneration', hlosses'⟩ := hnext.same (hlast _ List.mem_cons_self)
        refine ⟨by rw [history_concat, hhistory, List.append_nil], hphase'.trans hphase, ?_, ?_⟩
        · exact hgeneration'.trans hgeneration
        · exact hlosses'.trans hlosses

/-! ## Final closes -/

/-- The text of a close does not ask for a reconnect. -/
theorem reconnect_eq_false {text : String}
    (h : ∀ reason, CloseReason.parse? text = some reason → reason.reconnect = false) :
    (CloseReason.ofCloseText text).reconnect = false := by
  unfold CloseReason.ofCloseText
  cases hparse : CloseReason.parse? text with
  | none => rfl
  | some reason => exact h reason hparse

theorem receive_closed (hheld : c.hasTransport = true) {text : String} :
    c.receive world c.generation (.closed text) = c.onClose text world.now :=
  if_pos (holds_eq_true.mpr ⟨hheld, rfl⟩)

theorem quiescent_of_closed (hheld : c.hasTransport = true) {text : String}
    (htext : (CloseReason.ofCloseText text).reconnect = false) (world : Surroundings) :
    ∃ moments c', (c.apply world (.receive c.generation (.closed text))).Yields moments (.none, c') ∧
      c'.Quiescent := by
  -- first that the close has a result, since nothing is known of one that has none
  have hends : (c.onClose text world.now).Ends := by
    refine .bind (ends_enter ..) fun _ lost _ => ?_
    rw [htext]
    exact ends_giveUp lost
  obtain ⟨c', hresult⟩ := Option.isSome_iff_exists.mp hends
  have hclose : (c.onClose text world.now).Yields _ c' := ⟨rfl, hresult⟩
  have hquiescent : c'.Quiescent := by
    simp only [onClose, htext, Bool.false_eq_true, if_false, yields_bind] at hclose
    obtain ⟨_, _, _, hlost, hgiveUp, -⟩ := hclose
    obtain ⟨-, rfl⟩ := withoutTransport_yields hlost
    obtain ⟨rfl, -⟩ := giveUp_yields hgiveUp
    exact ⟨rfl, rfl⟩
  rw [← receive_closed hheld] at hclose
  exact ⟨_, c', yields_bind_pure.mpr ⟨c', hclose, rfl⟩, hquiescent⟩

variable {policy : RetryPolicy} {multiplier : Nat} {visits : List (Visit η)}

/-- Once a connection is at rest, only a start makes it do anything: whatever else is done to it
has a result, and it opens no transport, hands over no frame, calls no handler and waits for
nothing. A close that does not ask for a reconnect brings it to rest. -/
theorem dormant_until_start (run : Run (new policy multiplier) visits c) :
    (c.Quiescent →
      (∀ steps : List (Step η), (∀ step ∈ steps, step.2 ≠ .start) → (c.play steps).Ends) ∧
      ∀ later c', Run c later c' → (∀ visit ∈ later, visit.operation ≠ .start) →
        Dormant c later c' ∧ c'.nextDeadline = none) ∧
    ∀ text, c.hasTransport = true →
      (∀ reason, CloseReason.parse? text = some reason → reason.reconnect = false) →
      ∀ world, ∃ moments c',
        (c.apply world (.receive c.generation (.closed text))).Yields moments (.none, c') ∧
          c'.Quiescent := by
  refine ⟨fun h => ⟨fun steps hsteps => h.ends_play run.coupled hsteps, ?_⟩, ?_⟩
  · intro later c' run' hlater
    obtain ⟨hdormant, hc'⟩ := run'.dormant h run.coupled hlater
    exact ⟨hdormant, hdormant.quiescent.nextDeadline_eq_none hc'⟩
  · intro text hheld htext world
    exact quiescent_of_closed hheld (reconnect_eq_false htext) world

/-- A transport is closed with a text that is no reason. Then time passes, and a payload, an event
of the old transport, a handler and a shutdown come in. -/
theorem dormant_after_unparseable_close :
    ∃ (visits later : List (Visit String)) (c c' c'' : Connection String),
      visits.map Visit.step = [(.plain 0, .addDisconnect "first"), (.plain 0, .start)] ∧
      Run (new {} 3) visits c ∧ c.hasTransport = true ∧
      (∃ moments, (c.apply (.plain 1) (.receive c.generation (.closed "bye"))).Yields moments
        (.none, c')) ∧ c'.Quiescent ∧
      later.map Visit.step = [(.plain 9000000000, .poll), (.plain 9000000000, .send (.heartbeat "x")),
        (.plain 9000000000, .receive 1 (.failed "late")), (.plain 9000000000, .addReady "second"),
        (.plain 9000000001, .shutdown)] ∧
      Run c' later c'' ∧ Dormant c' later c'' ∧ c''.nextDeadline = none := by
  have hplay : ((new {} 3 : Connection String).play
      [(.plain 0, .addDisconnect "first"), (.plain 0, .start)]).result.map (·.hasTransport) =
        some true := by decide +kernel
  obtain ⟨visits, c, hvisits, run, hheld, -, hclose⟩ :=
    Run.exists_of_play (·.hasTransport) hplay fun _ _ _ run => dormant_until_start run
  have hparse : CloseReason.parse? "bye" = none := by decide +kernel
  obtain ⟨moments, c', turn, hquiescent⟩ := hclose "bye" hheld (by simp [hparse]) (.plain 1)
  obtain ⟨hends, hdormant⟩ := (dormant_until_start (run.snoc turn)).1 hquiescent
  obtain ⟨c'', hresult⟩ := Option.isSome_iff_exists.mp (hends
    [(.plain 9000000000, .poll), (.plain 9000000000, .send (.heartbeat "x")),
      (.plain 9000000000, .receive 1 (.failed "late")), (.plain 9000000000, .addReady "second"),
      (.plain 9000000001, .shutdown)] (by simp))
  obtain ⟨later, hlater, -, run'⟩ := Run.of_play ⟨rfl, hresult⟩
  have hstarts : ∀ visit ∈ later, visit.operation ≠ .start := by
    intro visit hvisit hstart
    have hstep := List.mem_map_of_mem (f := Visit.step) hvisit
    simp [hlater, Visit.step, hstart] at hstep
  obtain ⟨hlast, hdeadline⟩ := hdormant later c'' run' hstarts
  exact ⟨visits, later, c, c', c'', hvisits, run, hheld, ⟨moments, turn⟩, hquiescent, hlater, run',
    hlast, hdeadline⟩

end GatewayClient.Connection
