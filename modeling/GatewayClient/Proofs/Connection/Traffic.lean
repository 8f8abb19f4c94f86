import GatewayClient.Proofs.Connection.Deadlines
import GatewayClient.Proofs.Connection.Sending
/-!
# Traffic

All that is ever handed to a transport, in order: a hello for each report that it is open,
each heartbeat as it came, and each request, made while the transport was held. Whether the
transport takes the frames makes no difference to the connection.
-/

namespace GatewayClient.Connection

open Turn

variable {η : Type} {c c' : Connection η} {world : Surroundings} {now : Instant}
  {operation : Operation η} {moments : List (Moment η)} {visits : List (Visit η)}
  {visit : Visit η} {generation : Nat}

/-! ## How frames fare -/

/-- How a frame fares that is handed over. -/
def outcome (c : Connection η) (world : Surroundings) : Except SendError Unit :=
  if c.hasTransport then
    match world.refusal c.generation with
    | some reason => .error (.refused reason)
    | none => .ok ()
  else .error .notConnected

/-- The moment at which a frame is handed over, if a transport is held. -/
def handover (c : Connection η) (frame : List UInt8) : List (Moment η) :=
  if c.hasTransport then [⟨.sent c.generation frame, c⟩] else []

theorem transmit_yields_iff {frame : List UInt8} {result : Except SendError Unit} :
    (c.transmit world frame).Yields moments result ↔
      moments = c.handover frame ∧ result = c.outcome world := by
  unfold transmit handover outcome
  split
  · case isTrue =>
    rw [perform, yields_bind]
    cases world.refusal c.generation <;> simp [and_comm]
  · case isFalse => exact yields_pure

theorem joinGuild_yields_iff {hostname inviteCode replyId : String}
    {result : Except SendError String} :
    (c.joinGuild world hostname inviteCode replyId).Yields moments result ↔
      moments = c.handover (Payload.joinGuild hostname inviteCode replyId).encode ∧
        result = (c.outcome world).map fun _ => replyId := by
  simp only [joinGuild, send, yields_bind, transmit_yields_iff]
  cases c.outcome world <;> simp [Except.map, and_comm]

/-- A frame goes to the transport that is held. -/
theorem of_mem_handover {moment : Moment η} {frame : List UInt8}
    (h : moment ∈ c.handover frame) :
    moment.connection = c ∧ moment.act = .sent c.generation frame ∧ c.hasTransport = true := by
  unfold handover at h
  split at h
  · case isTrue hheld =>
    obtain rfl := List.mem_singleton.mp h
    exact ⟨rfl, rfl, hheld⟩
  · case isFalse => cases h

/-! ## Moments of sending -/

/-- Nothing of a connection changes at the moment at which it hands over a frame, or after it
in the same turn. -/
def SendsLast (moments : List (Moment η)) (c : Connection η) : Prop :=
  ∀ moment ∈ moments, ∀ generation frame, moment.act = .sent generation frame →
    moment.connection = c ∧ c.holds generation = true

theorem sendsLast_handover (c : Connection η) (frame : List UInt8) :
    SendsLast (c.handover frame) c := by
  intro moment hmoment generation sent hact
  obtain ⟨hconnection, hsent, hheld⟩ := of_mem_handover hmoment
  cases hact.symm.trans hsent
  exact ⟨hconnection, holds_eq_true.mpr ⟨hheld, rfl⟩⟩

theorem Turn.Quiet.sendsLast {α : Type} {turn : Turn (Moment η) α} {a : α} (h : turn.Quiet)
    (hturn : turn.Yields moments a) (c : Connection η) : SendsLast moments c := by
  intro moment hmoment generation frame hact
  have hquiet := h moment (hturn.1 ▸ hmoment)
  simp [hact, Act.isSending] at hquiet

theorem sendsLast_onFrame {bytes : List UInt8} (h : (c.onFrame world bytes).Yields moments c') :
    SendsLast moments c' := by
  simp only [onFrame, yields_bind, yields_attempt] at h
  obtain ⟨_, fed, rest, ⟨rfl, -⟩, h, rfl⟩ := h
  split at h
  · exact (quiet_pure _).sendsLast h c'
  · obtain ⟨result, hsend, rfl⟩ := yields_bind_pure.mp h
    obtain ⟨rfl, -⟩ := transmit_yields_iff.mp hsend
    exact sendsLast_handover _ bytes
  · exact (quiet_onReady _ _).sendsLast h c'
  · exact (quiet_pure _).sendsLast h c'

theorem sendsLast_of_apply {answer : Answer}
    (h : (c.apply world operation).Yields moments (answer, c')) : SendsLast moments c' := by
  cases operation with
  | start =>
      obtain ⟨_, hstart, -⟩ := yields_bind_pure.mp h
      exact (quiet_start c).sendsLast hstart c'
  | shutdown =>
      obtain ⟨_, hshutdown, -⟩ := yields_bind_pure.mp h
      exact (quiet_shutdown c).sendsLast hshutdown c'
  | send payload =>
      obtain ⟨_, hsend, hresult⟩ := yields_bind_pure.mp h
      obtain ⟨-, rfl⟩ := Prod.mk.inj hresult
      exact (transmit_yields_iff.mp hsend).1 ▸ sendsLast_handover _ _
  | joinGuild hostname inviteCode replyId =>
      obtain ⟨_, hjoin, hresult⟩ := yields_bind_pure.mp h
      obtain ⟨-, rfl⟩ := Prod.mk.inj hresult
      exact (joinGuild_yields_iff.mp hjoin).1 ▸ sendsLast_handover _ _
  | addReady | addDisconnect | removeReady | removeDisconnect | askInterval =>
      exact (quiet_pure _).sendsLast h c'
  | poll =>
      obtain ⟨_, hpoll, -⟩ := yields_bind_pure.mp h
      exact (quiet_poll c _).sendsLast hpoll c'
  | receive g event =>
      obtain ⟨_, hreceive, hresult⟩ := yields_bind_pure.mp h
      obtain ⟨-, rfl⟩ := Prod.mk.inj hresult
      unfold receive at hreceive
      split at hreceive
      · cases event with
        | opened =>
            obtain ⟨_, hsend, rfl⟩ := yields_bind_pure.mp hreceive
            exact (transmit_yields_iff.mp hsend).1 ▸ sendsLast_handover _ _
        | frame bytes => exact sendsLast_onFrame hreceive
        | failed text => exact (quiet_onFailure c _).sendsLast hreceive _
        | closed text => exact (quiet_onClose c _ _).sendsLast hreceive _
      · exact (quiet_pure _).sendsLast hreceive _

/-! ## Refusals -/

/-- The same surroundings, with transports that take every frame. -/
def Surroundings.obliging (world : Surroundings) : Surroundings :=
  { world with refusal := fun _ => none }

theorem receive_obliging {g : Nat} {event : Event}
    (h : (c.receive world g event).Yields moments c') :
    (c.receive world.obliging g event).Yields moments c' := by
  unfold receive at h ⊢
  split at h
  · case isTrue hholds =>
    rw [if_pos hholds]
    cases event with
    | opened =>
        obtain ⟨_, hsend, rfl⟩ := yields_bind_pure.mp h
        exact yields_bind_pure.mpr
          ⟨_, transmit_yields_iff.mpr ⟨(transmit_yields_iff.mp hsend).1, rfl⟩, rfl⟩
    | frame bytes =>
        simp only [onFrame, yields_bind, yields_attempt] at h ⊢
        obtain ⟨_, fed, rest, hfeed, h, rfl⟩ := h
        refine ⟨_, fed, rest, hfeed, ?_, rfl⟩
        split at h
        · exact h
        · obtain ⟨_, hsend, rfl⟩ := yields_bind_pure.mp h
          exact yields_bind_pure.mpr
            ⟨_, transmit_yields_iff.mpr ⟨(transmit_yields_iff.mp hsend).1, rfl⟩, rfl⟩
        · exact h
        · exact h
    | failed | closed => exact h
  · case isFalse hholds => rwa [if_neg hholds]

/-- A frame that is refused makes no difference but to the answer. -/
theorem apply_obliging {answer : Answer}
    (h : (c.apply world operation).Yields moments (answer, c')) :
    ∃ answer', (c.apply world.obliging operation).Yields moments (answer', c') := by
  cases operation with
  | send payload =>
      obtain ⟨_, hsend, hresult⟩ := yields_bind_pure.mp h
      obtain ⟨-, rfl⟩ := Prod.mk.inj hresult
      exact ⟨_, yields_bind_pure.mpr
        ⟨_, transmit_yields_iff.mpr ⟨(transmit_yields_iff.mp hsend).1, rfl⟩, rfl⟩⟩
  | joinGuild hostname inviteCode replyId =>
      obtain ⟨_, hjoin, hresult⟩ := yields_bind_pure.mp h
      obtain ⟨-, rfl⟩ := Prod.mk.inj hresult
      exact ⟨_, yields_bind_pure.mpr
        ⟨_, joinGuild_yields_iff.mpr ⟨(joinGuild_yields_iff.mp hjoin).1, rfl⟩, rfl⟩⟩
  | receive g event =>
      obtain ⟨_, hreceive, hresult⟩ := yields_bind_pure.mp h
      exact ⟨answer, yields_bind_pure.mpr ⟨_, receive_obliging hreceive, hresult⟩⟩
  | _ => exact ⟨answer, h⟩

/-- A run ends as it does if every frame is taken, and the moments are the same. -/
theorem Run.yields_play_obliging {start : Connection η} (run : Run start visits c) :
    (start.play (visits.map fun visit => (visit.world.obliging, visit.operation))).Yields
      (history visits) c := by
  induction run with
  | nil => exact ⟨rfl, rfl⟩
  | @snoc visits c c' world operation moments answer run turn ih =>
      obtain ⟨answer', turn'⟩ := apply_obliging turn
      rw [List.map_append, history_concat]
      let visit : Visit η := ⟨c, world.obliging, operation, moments, answer'⟩
      exact yields_play_concat ih (show (visit.before.apply _ _).Yields _ _ from turn')

/-! ## Turns without a result -/

theorem attempt_some_bind {μ α β : Type} {a : α} {next : α → Turn μ β} :
    (attempt (some a) >>= next) = next a := rfl

theorem quiet_of_no_result {α : Type} {turn : Turn (Moment η) α} (hends : turn.Ends)
    (hnone : turn.result = none) : turn.Quiet := by
  rw [Ends, hnone] at hends
  cases hends

theorem quiet_onFrame_of_no_result {bytes : List UInt8}
    (hnone : (c.onFrame world bytes).result = none) : (c.onFrame world bytes).Quiet := by
  unfold onFrame at hnone ⊢
  cases hfeed : c.watchdog.feed? world.now with
  | none => exact List.forall_mem_nil _
  | some fed =>
      rw [hfeed, attempt_some_bind] at hnone
      rw [attempt_some_bind]
      split at hnone
      · exact quiet_pure _
      · exact quiet_of_no_result (.bind (ends_transmit ..) fun _ _ _ => ends_pure _) hnone
      · exact quiet_onReady _ _
      · exact quiet_pure _

/-- An operation that asks for a time beyond the clock hands over nothing. -/
theorem quiet_apply_of_no_result (hnone : (c.apply world operation).result = none) :
    (c.apply world operation).Quiet := by
  cases operation with
  | start => exact .bind (quiet_start c) fun _ => quiet_pure _
  | shutdown => exact .bind (quiet_shutdown c) fun _ => quiet_pure _
  | send payload =>
      exact quiet_of_no_result (.bind (ends_transmit ..) fun _ _ _ => ends_pure _) hnone
  | joinGuild hostname inviteCode replyId =>
      exact quiet_of_no_result (.bind (ends_joinGuild ..) fun _ _ _ => ends_pure _) hnone
  | addReady | addDisconnect | removeReady | removeDisconnect | askInterval => exact quiet_pure _
  | poll => exact .bind (quiet_poll c _) fun _ => quiet_pure _
  | receive g event =>
      refine .bind ?_ fun _ => quiet_pure _
      have hnone : (c.receive world g event).result = none := by
        cases hresult : (c.receive world g event).result with
        | none => rfl
        | some c' => simp [apply, bind, hresult] at hnone
      unfold receive at hnone ⊢
      split
      · case isTrue hholds =>
        rw [if_pos hholds] at hnone
        cases event with
        | opened =>
            exact quiet_of_no_result (.bind (ends_transmit ..) fun _ _ _ => ends_pure _) hnone
        | frame bytes => exact quiet_onFrame_of_no_result hnone
        | failed text => exact quiet_onFailure c _
        | closed text => exact quiet_onClose c _ _
      · exact quiet_pure c

/-! ## Runs -/

/-- The frame that a visit hands to the transport of a generation. -/
def Visit.frameTo? (generation : Nat) (visit : Visit η) : Option (List UInt8) :=
  if visit.before.holds generation then frameOf? visit.world generation visit.operation else none

theorem framesTo_visit (visit : Visit η)
    (turn : (visit.before.apply visit.world visit.operation).Yields visit.moments
      (visit.answer, c')) :
    framesTo generation visit.moments = (visit.frameTo? generation).toList := by
  rw [framesTo_of_apply turn, Visit.frameTo?]
  split <;> rfl

variable {policy : RetryPolicy} {multiplier : Nat}

/-- What is handed to a transport is what its visits hand to it. -/
theorem Run.framesTo_history {start : Connection η} (run : Run start visits c)
    (generation : Nat) :
    framesTo generation (history visits) = visits.filterMap (Visit.frameTo? generation) := by
  induction run with
  | nil => rfl
  | @snoc visits c c' world operation moments answer run turn ih =>
      rw [history_concat, framesTo_append, ih, List.filterMap_append]
      refine congrArg _ ((framesTo_visit ⟨c, world, operation, moments, answer⟩ turn).trans ?_)
      cases hframe : Visit.frameTo? generation ⟨c, world, operation, moments, answer⟩ <;>
        simp [hframe]

theorem Retry.held_opened {retrying : Bool} (h : Retry c.bereft now moments retrying c')
    (hheld : c'.hasTransport = true) : Connection.openings moments = [c'.generation] := by
  cases h with
  | immediate => rfl
  | _ => cases hheld

/-- A transport that is held was held before or is opened. -/
theorem Transition.held_opened (h : Transition c world operation moments c')
    (hheld : c'.hasTransport = true) :
    (c.hasTransport = true ∧ c'.generation = c.generation) ∨
      openings moments = [c'.generation] := by
  cases h with
  | calm _ _ hc' =>
      refine .inl ?_
      rw [hc'] at hheld ⊢
      cases operation <;> exact ⟨hheld, rfl⟩
  | heard hbefore | ready hbefore => exact .inl ⟨hbefore, rfl⟩
  | started | retried => exact .inr rfl
  | stopped | ended => cases hheld
  | failed _ _ _ hretry => exact .inr (hretry.held_opened hheld)
  | closed _ _ hretry =>
      refine .inr ?_
      rw [openings_append, hretry.held_opened hheld]
      rfl

/-- The transport that is held was opened in the run. -/
theorem Run.held_opened (run : Run (new policy multiplier) visits c)
    (hheld : c.hasTransport = true) : c.generation ∈ Connection.openings (history visits) := by
  induction run with
  | nil => cases hheld
  | @snoc visits c c' world operation moments answer run turn ih =>
      rw [history_concat, openings_append]
      rcases (apply_yields run.coupled turn).held_opened hheld with ⟨hbefore, hsame⟩ | hopened
      · exact List.mem_append_left _ (hsame ▸ ih hbefore)
      · rw [Connection.openings, filterMap_landmarks isLandmark_of_openedGeneration?] at hopened
        exact List.mem_append_right _ (by rw [Connection.openings, hopened]; exact .head _)

/-- What one visit of a run hands over and answers. -/
structure Delivers (earlier : List (Visit η)) (visit : Visit η) (after : Connection η) : Prop where
  /-- Frames go to the transport that is held, and at that moment the connection is what it is
  after the visit. -/
  sent : ∀ moment ∈ visit.moments, ∀ generation frame, moment.act = .sent generation frame →
    generation ∈ openings (history earlier) ∧ visit.before.holds generation = true ∧
      moment.connection.holds generation = true ∧ moment.connection = after
  send : ∀ payload, visit.operation = .send payload →
    visit.answer = .sent (visit.before.outcome visit.world) ∧ after = visit.before
  join : ∀ hostname inviteCode replyId,
    visit.operation = .joinGuild hostname inviteCode replyId →
      visit.answer = .joined ((visit.before.outcome visit.world).map fun _ => replyId) ∧
        after = visit.before
  greet : ∀ generation, visit.operation = .receive generation .opened → after = visit.before

/-- A transport that is handed a frame in a turn was held before the turn. -/
theorem holds_of_framesTo {answer : Answer}
    (turn : (c.apply world operation).Yields moments (answer, c')) {moment : Moment η}
    (hmoment : moment ∈ moments) {frame : List UInt8} (hact : moment.act = .sent generation frame) :
    c.holds generation = true := by
  have hmem : frame ∈ framesTo generation moments :=
    List.mem_filterMap.mpr ⟨moment, hmoment, by simp [hact, Act.frameTo?]⟩
  rw [framesTo_of_apply turn] at hmem
  by_contra hfree
  simp [hfree] at hmem

theorem Run.delivers {earlier later : List (Visit η)} (run : Run (new policy multiplier) visits c)
    (hvisits : visits = earlier ++ visit :: later) :
    ∃ after, Run (new policy multiplier) (earlier ++ [visit]) after ∧
      Delivers earlier visit after := by
  obtain ⟨hbefore, after, turn⟩ := run.visit hvisits
  refine ⟨after, run_concat.mpr ⟨hbefore, turn⟩, ?_, ?_, ?_, ?_⟩
  · intro moment hmoment generation frame hact
    have hholds := holds_of_framesTo turn hmoment hact
    obtain ⟨hheld, rfl⟩ := holds_eq_true.mp hholds
    obtain ⟨hconnection, hholds'⟩ := sendsLast_of_apply turn moment hmoment _ frame hact
    exact ⟨hbefore.held_opened hheld, hholds, hconnection ▸ hholds', hconnection⟩
  · intro payload hoperation
    rw [hoperation] at turn
    obtain ⟨_, hsend, hresult⟩ := yields_bind_pure.mp turn
    obtain ⟨hanswer, hafter⟩ := Prod.mk.inj hresult
    exact ⟨hanswer.trans (congrArg _ (transmit_yields_iff.mp hsend).2), hafter⟩
  · intro hostname inviteCode replyId hoperation
    rw [hoperation] at turn
    obtain ⟨_, hjoin, hresult⟩ := yields_bind_pure.mp turn
    obtain ⟨hanswer, hafter⟩ := Prod.mk.inj hresult
    exact ⟨hanswer.trans (congrArg _ (joinGuild_yields_iff.mp hjoin).2), hafter⟩
  · intro g hoperation
    rw [hoperation] at turn
    obtain ⟨_, hreceive, hresult⟩ := yields_bind_pure.mp turn
    obtain ⟨-, rfl⟩ := Prod.mk.inj hresult
    unfold receive at hreceive
    split at hreceive
    · obtain ⟨_, -, hafter⟩ := yields_bind_pure.mp hreceive
      exact hafter
    · exact (yields_pure.mp hreceive).2

/-- The frames that a run hands to a transport are those of its visits while the transport was
held, in order: a hello with the token that was stored then for each report that it was open,
each heartbeat as it came, and each request, which is answered with how it fared. The run ends
as it does if no frame is refused, and an operation without a result hands over nothing. -/
theorem frames_by_visits (run : Run (new policy multiplier) visits c) :
    (∀ generation,
      framesTo generation (history visits) = visits.filterMap (Visit.frameTo? generation)) ∧
    (∀ earlier visit later, visits = earlier ++ visit :: later →
      ∃ after, Run (new policy multiplier) (earlier ++ [visit]) after ∧
        Delivers earlier visit after) ∧
    ((new policy multiplier).play
      (visits.map fun visit => (visit.world.obliging, visit.operation))).Yields
        (history visits) c ∧
    ∀ world operation, (c.apply world operation).result = none →
      (c.apply world operation).Quiet :=
  ⟨run.framesTo_history, fun _ _ _ hvisits => run.delivers hvisits, run.yields_play_obliging,
    fun _ _ => quiet_apply_of_no_result⟩

/-- The first transport is greeted with a token, gets a heartbeat back that has another form
than its encoding and a byte after it, and refuses a request to join; its heartbeat after the
loss is for nobody. -/
theorem frames_to_two_transports :
    ∃ (visits : List (Visit String)) (c : Connection String),
      visits.map Visit.step =
        [(.plain 0, .start), ({ Surroundings.plain 1 with token := some "t" }, .receive 1 .opened),
         (.plain 2, .receive 1 (.frame [0, 2, 0x91, 0xc4, 1, 0x78, 0xff])),
         ({ Surroundings.plain 3 with refusal := fun _ => some "broken pipe" },
           .joinGuild "node" "code" "r"),
         (.plain 4, .receive 1 (.failed "reset")),
         (.plain 5, .receive 1 (.frame [0, 2, 0x91, 0xc4, 1, 0x78, 0xff])),
         (.plain 6, .send (.heartbeat "y"))] ∧
      Run (new {} 3) visits c ∧
      (framesTo 1 (history visits) = [(Payload.hello (some "t") false).encode,
        [0, 2, 0x91, 0xc4, 1, 0x78, 0xff], (Payload.joinGuild "node" "code" "r").encode] ∧
      framesTo 2 (history visits) = [(Payload.heartbeat "y").encode]) ∧
      (∀ generation,
        framesTo generation (history visits) = visits.filterMap (Visit.frameTo? generation)) ∧
      ((new {} 3).play
        (visits.map fun visit => (visit.world.obliging, visit.operation))).Yields
          (history visits) c := by
  let refused : Surroundings :=
    { Surroundings.plain 3 with refusal := fun _ => some "broken pipe" }
  let steps : List (Step String) :=
    [(.plain 0, .start), ({ Surroundings.plain 1 with token := some "t" }, .receive 1 .opened),
     (.plain 2, .receive 1 (.frame [0, 2, 0x91, 0xc4, 1, 0x78, 0xff])),
     (refused, .joinGuild "node" "code" "r"),
     (.plain 4, .receive 1 (.failed "reset")),
     (.plain 5, .receive 1 (.frame [0, 2, 0x91, 0xc4, 1, 0x78, 0xff])),
     (.plain 6, .send (.heartbeat "y"))]
  have hends : ((new {} 3 : Connection String).play steps).result.isSome := by decide +kernel
  obtain ⟨c, hresult⟩ := Option.isSome_iff_exists.mp hends
  obtain ⟨visits, hsteps, hhistory, run⟩ := Run.of_play ⟨rfl, hresult⟩
  obtain ⟨hframes, -, hobliging, -⟩ := frames_by_visits run
  refine ⟨visits, c, hsteps, run, ?_, hframes, hobliging⟩
  rw [hhistory]
  decide +kernel

end GatewayClient.Connection
