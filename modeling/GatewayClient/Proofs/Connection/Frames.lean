import GatewayClient.Proofs.Connection.Polling
import GatewayClient.Proofs.Connection.Traffic
/-!
# Frames

What frames do to the session that they belong to, whatever bytes they are. A frame can make the
session ready; no frame ends it, and most change nothing but the time until which silence is borne.

Main statement: `frames_never_end_session`.
-/

namespace GatewayClient.Connection

open Turn

variable {η : Type} {c c' : Connection η} {world : Surroundings} {now : Instant}
  {bytes : List UInt8} {moments : List (Moment η)} {answer : Answer}

/-- Nobody acts upon the frame: it has no payload, or one that only clients send, or news of a
guild. -/
def isIgnored (bytes : List UInt8) : Bool :=
  match Payload.decode bytes with
  | .error _ | .ok (.hello _ _) | .ok (.joinGuild _ _ _) | .ok (.guildUpdate _) => true
  | .ok (.accepted _) | .ok (.heartbeat _) | .ok (.ready _ _) => false

/-- What a connection does about a frame on the transport that it holds. -/
def reaction (c : Connection η) (bytes : List UInt8) : List (Act η) :=
  match Payload.decode bytes with
  | .ok (.heartbeat _) => [.sent c.generation bytes]
  | .ok (.ready _ _) =>
    (if c.phase = .ready then [] else [.entered .ready]) ++ [.calledReady c.readyHandlers.callbacks]
  | _ => []

/-- The phase that an act enters. -/
def Act.entered? : Act η → Option Phase
  | .entered phase => some phase
  | .opened _ | .sent _ _ | .closed _ | .calledReady _ | .calledDisconnect _ _ => none

/-! ## One frame -/

theorem apply_frame_yields (hheld : c.hasTransport = true) :
    (c.apply world (.receive c.generation (.frame bytes))).Yields moments (answer, c') ↔
      answer = .none ∧ (c.onFrame world bytes).Yields moments c' := by
  rw [apply, yields_bind_pure, receive, if_pos (holds_eq_true.mpr ⟨hheld, rfl⟩)]
  constructor
  · rintro ⟨_, hframe, hresult⟩
    obtain ⟨rfl, rfl⟩ := Prod.mk.inj hresult
    exact ⟨rfl, hframe⟩
  · rintro ⟨rfl, hframe⟩
    exact ⟨c', hframe, rfl⟩

theorem acts_onReady (h : (c.onReady now).Yields moments c') :
    acts moments = (if c.phase = .ready then [] else [.entered .ready]) ++
      [.calledReady c.readyHandlers.callbacks] := by
  simp only [onReady, perform, yields_bind, yields_attempt, yields_perform, yields_pure] at h
  obtain ⟨_, _, _, henter, ⟨_, _, _, ⟨rfl, -⟩, ⟨_, _, _, rfl, ⟨rfl, -⟩, rfl⟩, rfl⟩, rfl⟩ := h
  rw [acts_append, acts_enter henter]
  obtain ⟨-, rfl⟩ := enter_yields henter
  rfl

theorem acts_onFrame (hheld : c.hasTransport = true)
    (h : (c.onFrame world bytes).Yields moments c') : acts moments = c.reaction bytes := by
  simp only [onFrame, yields_bind, yields_attempt] at h
  obtain ⟨_, fed, rest, ⟨rfl, -⟩, h, rfl⟩ := h
  unfold reaction
  split at h
  · next hdecode =>
    obtain ⟨rfl, -⟩ := yields_pure.mp h
    simp [hdecode, acts]
  · next hdecode =>
    obtain ⟨_, hsend, -⟩ := yields_bind_pure.mp h
    obtain ⟨rfl, -⟩ := transmit_yields_iff.mp hsend
    simp [hdecode, acts, handover, hheld]
  · next hdecode =>
    rw [hdecode]
    have hacts := acts_onReady h
    exact hacts
  · next hheartbeat hready =>
    obtain ⟨rfl, -⟩ := yields_pure.mp h
    split
    · next hdecode => exact absurd hdecode (hheartbeat _)
    · next hdecode => exact absurd hdecode (hready _ _)
    · rfl

theorem mem_reaction {act : Act η} (h : act ∈ c.reaction bytes) :
    act = .entered .ready ∨ act = .calledReady c.readyHandlers.callbacks ∨
      act = .sent c.generation bytes := by
  unfold reaction at h
  split at h
  · exact .inr (.inr (List.mem_singleton.mp h))
  · rcases List.mem_append.mp h with hentered | hcalled
    · split at hentered
      · cases hentered
      · exact .inl (List.mem_singleton.mp hentered)
    · exact .inr (.inl (List.mem_singleton.mp hcalled))
  · cases h

theorem entered_reaction (c : Connection η) (bytes : List UInt8) :
    (c.reaction bytes).filterMap Act.entered? =
      if c.phase ≠ .ready ∧ isReady bytes then [.ready] else [] := by
  unfold reaction isReady
  split
  · next hdecode => simp [hdecode, Act.entered?]
  · next hdecode =>
    rw [hdecode]
    by_cases hphase : c.phase = .ready <;> simp [hphase, Act.entered?]
  · next hother =>
    split
    · next hdecode => exact absurd hdecode (hother _ _)
    · simp

/-! ## The session goes on -/

/-- It is the same session, with the same handlers, and no retry was planned or cancelled. -/
structure SameSession (c c' : Connection η) : Prop where
  policy_eq : c'.policy = c.policy
  hasTransport_eq : c'.hasTransport = c.hasTransport
  generation_eq : c'.generation = c.generation
  retryAt_eq : c'.retryAt = c.retryAt
  readyHandlers_eq : c'.readyHandlers = c.readyHandlers
  noReconnectHandlers_eq : c'.noReconnectHandlers = c.noReconnectHandlers
  reconnectHandlers_eq : c'.reconnectHandlers = c.reconnectHandlers

theorem SameSession.refl (c : Connection η) : c.SameSession c := by
  constructor <;> rfl

theorem SameSession.trans {c'' : Connection η} (h : c.SameSession c') (h' : c'.SameSession c'') :
    c.SameSession c'' where
  policy_eq := h'.policy_eq.trans h.policy_eq
  hasTransport_eq := h'.hasTransport_eq.trans h.hasTransport_eq
  generation_eq := h'.generation_eq.trans h.generation_eq
  retryAt_eq := h'.retryAt_eq.trans h.retryAt_eq
  readyHandlers_eq := h'.readyHandlers_eq.trans h.readyHandlers_eq
  noReconnectHandlers_eq := h'.noReconnectHandlers_eq.trans h.noReconnectHandlers_eq
  reconnectHandlers_eq := h'.reconnectHandlers_eq.trans h.reconnectHandlers_eq

theorem Hearing.sameSession (h : Hearing c now bytes moments c') : c.SameSession c' := by
  cases h <;> constructor <;> rfl

theorem Hearing.phase_eq (h : Hearing c now bytes moments c') :
    c'.phase = if isReady bytes then .ready else c.phase := by
  cases h with
  | noted hready => simp [hready]
  | readied hready => simp [hready]

/-! ## Frames that are ignored -/

/-- All that an ignored frame does is to feed the watchdog. -/
theorem onFrame_of_ignored (hignored : isIgnored bytes = true) :
    c.onFrame world bytes =
      .attempt (c.watchdog.feed? world.now) >>= fun watchdog => pure { c with watchdog } := by
  unfold onFrame
  unfold isIgnored at hignored
  refine congrArg _ (funext fun watchdog => ?_)
  split at hignored <;> simp_all

theorem apply_yields_of_ignored (hheld : c.hasTransport = true)
    (hignored : isIgnored bytes = true) :
    (c.apply world (.receive c.generation (.frame bytes))).Yields moments (answer, c') ↔
      answer = .none ∧ moments = [] ∧
        ∃ fed, c.watchdog.feed? world.now = some fed ∧ c' = { c with watchdog := fed } := by
  rw [apply_frame_yields hheld, onFrame_of_ignored hignored, yields_bind_pure]
  simp only [yields_attempt, and_assoc, exists_and_left]

/-- The watchdog of a coupled connection bears silence exactly if it has a deadline. -/
theorem Coupled.fed_eq (hc : c.Coupled) {fed : Watchdog} (hfeed : c.watchdog.feed? now = some fed) :
    fed = { c.watchdog with deadline := c.watchdog.timeout.map (now + ·) } := by
  rw [Watchdog.eq_of_feed? hfeed]
  cases htimeout : c.watchdog.timeout with
  | some timeout => simp [htimeout]
  | none =>
      -- Feeding leaves the deadline as it is, which is none as well.
      have hunarmed := mt hc.timeout_iff.mpr (by simp [htimeout])
      simp [htimeout, Option.not_isSome_iff_eq_none.mp hunarmed]

theorem Coupled.fed_eq_self (hc : c.Coupled) {fed : Watchdog}
    (hfeed : c.watchdog.feed? now = some fed) (hunarmed : c.watchdog.deadline = none) :
    fed = c.watchdog := by
  have htimeout := mt hc.timeout_iff.mp (by simp [hunarmed])
  rw [Watchdog.feed?, Option.not_isSome_iff_eq_none.mp htimeout] at hfeed
  exact (Option.some.inj hfeed).symm

/-! ## Many frames -/

/-- Frames on the transport of a generation, each in surroundings of its own. -/
def frameSteps (generation : Nat) (frames : List (Surroundings × List UInt8)) : List (Step η) :=
  frames.map fun frame => (frame.1, .receive generation (.frame frame.2))

/-- Whether one of the frames makes the session ready. -/
def makesReady (frames : List (Surroundings × List UInt8)) : Bool := frames.any (isReady ·.2)

@[simp] theorem makesReady_append (first rest : List (Surroundings × List UInt8)) :
    makesReady (first ++ rest) = (makesReady first || makesReady rest) :=
  List.any_append

/-- What frames do, one after another, to a connection that holds their transport. -/
structure Outlasts (c : Connection η) (frames : List (Surroundings × List UInt8))
    (moments : List (Moment η)) (c' : Connection η) : Prop where
  sameSession : c.SameSession c'
  phase_eq : c'.phase = if makesReady frames then .ready else c.phase
  /-- No transport is opened or closed, and no disconnect handler is called. -/
  acts_subset : ∀ act ∈ acts moments, act = .entered .ready ∨
    act = .calledReady c.readyHandlers.callbacks ∨
      ∃ frame ∈ frames, act = .sent c.generation frame.2
  entered_eq : (acts moments).filterMap Act.entered? =
    if c.phase ≠ .ready ∧ makesReady frames then [.ready] else []

namespace Outlasts

variable {first rest : List (Surroundings × List UInt8)} {earlier later : List (Moment η)}
  {c'' : Connection η}

theorem nil (c : Connection η) : c.Outlasts [] [] c := by
  refine ⟨.refl c, rfl, nofun, ?_⟩
  simp [makesReady, acts]

theorem append (hfirst : c.Outlasts first earlier c') (hrest : c'.Outlasts rest later c'') :
    c.Outlasts (first ++ rest) (earlier ++ later) c'' := by
  refine ⟨hfirst.sameSession.trans hrest.sameSession, ?_, ?_, ?_⟩
  · -- Once the session is ready it stays so.
    rw [hrest.phase_eq, hfirst.phase_eq, makesReady_append]
    cases makesReady first <;> cases makesReady rest <;> rfl
  · intro act hact
    rw [acts_append] at hact
    rcases List.mem_append.mp hact with hact | hact
    · rcases hfirst.acts_subset act hact with hentered | hcalled | ⟨frame, hframe, hsent⟩
      · exact .inl hentered
      · exact .inr (.inl hcalled)
      · exact .inr (.inr ⟨frame, List.mem_append_left _ hframe, hsent⟩)
    · have hsame := hfirst.sameSession
      rcases hrest.acts_subset act hact with hentered | hcalled | ⟨frame, hframe, hsent⟩
      · exact .inl hentered
      · exact .inr (.inl (hsame.readyHandlers_eq ▸ hcalled))
      · exact .inr (.inr ⟨frame, List.mem_append_right _ hframe, hsame.generation_eq ▸ hsent⟩)
  · -- The phase is entered with the first frame that makes the session ready.
    rw [acts_append, List.filterMap_append, hfirst.entered_eq, hrest.entered_eq, hfirst.phase_eq,
      makesReady_append]
    by_cases hready : c.phase = .ready <;> cases makesReady first <;> simp [hready]

end Outlasts

theorem outlasts_of_apply (hheld : c.hasTransport = true)
    (h : (c.apply world (.receive c.generation (.frame bytes))).Yields moments (answer, c')) :
    c.Outlasts [(world, bytes)] moments c' := by
  have hacts := acts_onFrame hheld ((apply_frame_yields hheld).mp h).2
  have hhears := apply_frame_hears hheld h
  have hready : makesReady [(world, bytes)] = isReady bytes := Bool.or_false _
  refine ⟨hhears.sameSession, ?_, ?_, ?_⟩
  · rw [hready]
    exact hhears.phase_eq
  · intro act hact
    rw [hacts] at hact
    rcases mem_reaction hact with hentered | hcalled | hsent
    · exact .inl hentered
    · exact .inr (.inl hcalled)
    · exact .inr (.inr ⟨_, List.mem_singleton_self _, hsent⟩)
  · rw [hacts, hready, entered_reaction]

theorem outlasts_of_play {frames : List (Surroundings × List UInt8)}
    (hheld : c.hasTransport = true)
    (h : (c.play (frameSteps c.generation frames)).Yields moments c') :
    c.Outlasts frames moments c' := by
  induction frames generalizing c moments with
  | nil =>
      obtain ⟨rfl, rfl⟩ := yields_pure.mp h
      exact .nil _
  | cons frame frames ih =>
      obtain ⟨first, ⟨answer, mid⟩, rest, hfirst, hrest, rfl⟩ := yields_bind.mp h
      have houtlasts := outlasts_of_apply hheld hfirst
      -- The other frames are on the same transport.
      have hsame := houtlasts.sameSession
      rw [← hsame.generation_eq] at hrest
      exact houtlasts.append (ih (hsame.hasTransport_eq.trans hheld) hrest)

variable {policy : RetryPolicy} {multiplier : Nat} {visits : List (Visit η)}

/-- Frames alone never end or restart the session that they belong to, whatever bytes they are.
Transport, generation, retry and handlers stay, and the session goes from negotiating to ready with
the first frame that says so. A frame that is ignored does nothing but put off the deadline of a
watchdog that is armed, and only if the clock cannot tell the new deadline there is no result. -/
theorem frames_never_end_session (run : Run (.new policy multiplier) visits c)
    (hheld : c.hasTransport = true) :
    (c.phase = .negotiating ∨ c.phase = .ready) ∧
    (∀ frames moments c', (c.play (frameSteps c.generation frames)).Yields moments c' →
      c.Outlasts frames moments c') ∧
    ∀ world bytes, isIgnored bytes = true →
      ((c.apply world (.receive c.generation (.frame bytes))).result.isSome ↔
        ∀ timeout ∈ c.watchdog.timeout, world.now + timeout < Instant.limit) ∧
      ∀ moments answer c',
        (c.apply world (.receive c.generation (.frame bytes))).Yields moments (answer, c') →
          moments = [] ∧ answer = .none ∧
          c' = { c with watchdog :=
            { c.watchdog with deadline := c.watchdog.timeout.map (world.now + ·) } } ∧
          (c.watchdog.deadline = none → c' = c) := by
  refine ⟨run.coupled.held_iff.mp hheld, fun frames moments c' => outlasts_of_play hheld, ?_⟩
  intro world bytes hignored
  refine ⟨⟨?_, ?_⟩, ?_⟩
  · intro hends
    obtain ⟨⟨answer, c'⟩, hresult⟩ := Option.isSome_iff_exists.mp hends
    obtain ⟨-, -, fed, hfeed, -⟩ := (apply_yields_of_ignored hheld hignored).mp ⟨rfl, hresult⟩
    exact Watchdog.add_lt_of_isSome_feed? (Option.isSome_of_eq_some hfeed)
  · intro hlimit
    obtain ⟨fed, hfeed⟩ := Option.isSome_iff_exists.mp (Watchdog.isSome_feed? hlimit)
    exact ends_of_yields ((apply_yields_of_ignored hheld hignored).mpr ⟨rfl, rfl, fed, hfeed, rfl⟩)
  · intro moments answer c' turn
    obtain ⟨rfl, rfl, fed, hfeed, rfl⟩ := (apply_yields_of_ignored hheld hignored).mp turn
    refine ⟨rfl, rfl, ?_, ?_⟩
    · rw [run.coupled.fed_eq hfeed]
    · intro hunarmed
      rw [run.coupled.fed_eq_self hfeed hunarmed]

/-- A session that is negotiating gets a frame that is no payload, a heartbeat, and the news that it
is ready. The first of them changes nothing. -/
theorem ready_after_undecodable_frame :
    ∃ (visits : List (Visit String)) (c : Connection String), visits.map Visit.step =
        [(.plain 0, .addReady "view"), (.plain 0, .start)] ∧
      Run (.new {} 3) visits c ∧ c.phase = .negotiating ∧
      (∃ moments c', (c.play (frameSteps c.generation [(.plain 1, [255]),
          (.plain 2, (Payload.heartbeat "beat").encode),
          (.plain 3, (Payload.ready [] []).encode)])).Yields moments c' ∧
        c'.phase = .ready ∧ c'.hasTransport = c.hasTransport ∧
        (acts moments).filterMap Act.entered? = [.ready]) ∧
      ∀ moments answer c',
        (c.apply (.plain 1) (.receive c.generation (.frame [255]))).Yields moments (answer, c') →
          moments = [] ∧ c' = c := by
  have hplay : ((new {} 3 : Connection String).play
      [(.plain 0, .addReady "view"), (.plain 0, .start)]).result.map
        (fun c => (c.hasTransport, c.watchdog.deadline, c.phase, (c.play (frameSteps c.generation
          [(.plain 1, [255]), (.plain 2, (Payload.heartbeat "beat").encode),
            (.plain 3, (Payload.ready [] []).encode)])).result.map (·.phase))) =
      some (true, none, .negotiating, some .ready) := by decide +kernel
  obtain ⟨visits, c, hsteps, run, hfeature, hframes⟩ :=
    Run.exists_of_play _ hplay fun _ _ _ run => frames_never_end_session run
  simp only [Prod.mk.injEq] at hfeature
  obtain ⟨hheld, hunarmed, hphase, hlast⟩ := hfeature
  obtain ⟨c', hresult, hready⟩ := Option.map_eq_some_iff.mp hlast
  obtain ⟨-, hmany, hignored⟩ := hframes hheld
  refine ⟨visits, c, hsteps, run, hphase, ⟨_, c', ⟨rfl, hresult⟩, hready, ?_⟩, ?_⟩
  · have houtlasts := hmany _ _ c' ⟨rfl, hresult⟩
    refine ⟨houtlasts.sameSession.hasTransport_eq, ?_⟩
    rw [houtlasts.entered_eq, hphase, if_pos ⟨by decide, by decide +kernel⟩]
  · intro moments answer c' turn
    obtain ⟨hnothing, -, -, hsame⟩ := (hignored _ _ (by decide +kernel)).2 moments answer c' turn
    exact ⟨hnothing, hsame hunarmed⟩

end GatewayClient.Connection
