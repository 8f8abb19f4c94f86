import GatewayClient.Proofs.Connection.Generations
/-!
# What is sent

The frames that a turn hands to transports. Only four operations send: a request to send or
to join, the news that the transport is open, and a heartbeat. Each sends one frame, to the
transport that is held (`framesTo_of_apply`).
-/

namespace GatewayClient.Connection

open Turn

variable {η α β : Type} {c c' : Connection η} {world : Surroundings} {now : Instant}
  {operation : Operation η} {moments : List (Moment η)} {generation : Nat}

/-! ## Frames -/

/-- The frame that an act hands to the transport of a generation. -/
def Act.frameTo? (generation : Nat) : Act η → Option (List UInt8)
  | .sent g frame => if g = generation then some frame else none
  | .entered _ | .opened _ | .closed _ | .calledReady _ | .calledDisconnect _ _ => none

/-- The frames that are handed to the transport of a generation, in order. -/
def framesTo (generation : Nat) (moments : List (Moment η)) : List (List UInt8) :=
  moments.filterMap (·.act.frameTo? generation)

@[simp] theorem framesTo_nil : framesTo generation ([] : List (Moment η)) = [] := rfl

@[simp] theorem framesTo_append (first rest : List (Moment η)) :
    framesTo generation (first ++ rest) = framesTo generation first ++ framesTo generation rest :=
  List.filterMap_append

/-- The act hands a frame to a transport. -/
def Act.isSending : Act η → Bool
  | .sent _ _ => true
  | .entered _ | .opened _ | .closed _ | .calledReady _ | .calledDisconnect _ _ => false

/-! ## Quiet turns -/

/-- The turn sends nothing. -/
def Turn.Quiet (turn : Turn (Moment η) α) : Prop :=
  ∀ moment ∈ turn.moments, moment.act.isSending = false

namespace Turn

theorem quiet_pure (a : α) : (pure a : Turn (Moment η) α).Quiet :=
  List.forall_mem_nil _

theorem quiet_attempt (time : Option α) : (attempt time : Turn (Moment η) α).Quiet :=
  List.forall_mem_nil _

theorem quiet_perform {moment : Moment η} (h : moment.act.isSending = false) :
    (Turn.perform moment).Quiet := by
  simpa [Quiet, Turn.perform] using h

theorem Quiet.bind {turn : Turn (Moment η) α} {next : α → Turn (Moment η) β} (h : turn.Quiet)
    (hnext : ∀ a, (next a).Quiet) : (turn >>= next).Quiet := by
  obtain ⟨first, result⟩ := turn
  cases result with
  | none => exact h
  | some a => exact List.forall_mem_append.mpr ⟨h, hnext a⟩

theorem Quiet.framesTo_eq {turn : Turn (Moment η) α} {a : α} (h : turn.Quiet)
    (hturn : turn.Yields moments a) (generation : Nat) : framesTo generation moments = [] := by
  obtain ⟨rfl, -⟩ := hturn
  refine List.filterMap_eq_nil_iff.mpr fun moment hmoment => ?_
  have hquiet := h moment hmoment
  cases hact : moment.act with
  | sent => simp [hact, Act.isSending] at hquiet
  | _ => rfl

end Turn

theorem quiet_enter (c : Connection η) (phase : Phase) : (c.enter phase).Quiet := by
  unfold enter
  split
  · exact quiet_pure c
  · exact .bind (quiet_perform rfl) fun _ => quiet_pure _

theorem quiet_start (c : Connection η) : c.start.Quiet := by
  unfold start
  split
  · exact quiet_pure c
  · exact .bind (quiet_enter _ _) fun _ => .bind (quiet_perform rfl) fun _ => quiet_pure _

theorem quiet_dropTransport (c : Connection η) : c.dropTransport.Quiet := by
  unfold dropTransport
  split
  · exact .bind (quiet_perform rfl) fun _ => quiet_pure _
  · exact quiet_pure c

theorem quiet_shutdown (c : Connection η) : c.shutdown.Quiet :=
  .bind c.quiet_dropTransport fun _ => quiet_enter _ _

theorem quiet_scheduleRetry (c : Connection η) (now : Instant) : (c.scheduleRetry now).Quiet := by
  simp only [scheduleRetry]
  split
  · split
    · exact .bind (quiet_start _) fun _ => quiet_pure _
    · exact .bind (quiet_attempt _) fun _ => quiet_pure _
  · exact quiet_pure _

theorem quiet_giveUp (c : Connection η) : c.giveUp.Quiet :=
  .bind (quiet_perform rfl) fun _ => quiet_pure _

theorem quiet_onFailure (c : Connection η) (now : Instant) : (c.onFailure now).Quiet :=
  .bind (quiet_enter _ _) fun _ => .bind (quiet_perform rfl) fun _ =>
    .bind (quiet_scheduleRetry _ _) fun _ => quiet_pure _

theorem quiet_onClose (c : Connection η) (text : String) (now : Instant) :
    (c.onClose text now).Quiet := by
  refine .bind (quiet_enter _ _) fun _ => ?_
  split
  · refine .bind (quiet_scheduleRetry _ _) fun answer => ?_
    obtain ⟨retrying, last⟩ := answer
    cases retrying with
    | true => exact .bind (quiet_perform rfl) fun _ => quiet_pure _
    | false => exact quiet_giveUp _
  · exact quiet_giveUp _

theorem quiet_onReady (c : Connection η) (now : Instant) : (c.onReady now).Quiet :=
  .bind (quiet_enter _ _) fun _ => .bind (quiet_attempt _) fun _ =>
    .bind (quiet_perform rfl) fun _ => quiet_pure _

theorem quiet_poll (c : Connection η) (now : Instant) : (c.poll now).Quiet := by
  refine .bind ?_ fun _ => ?_
  · unfold pollWatchdog
    split
    · exact .bind c.quiet_dropTransport fun _ => quiet_onFailure _ _
    · exact quiet_pure c
  · unfold pollRetry
    split
    · exact quiet_start _
    · exact quiet_pure _

/-! ## Operations -/

/-- The frame that a request to send or to join asks for. -/
def Operation.request? : Operation η → Option (List UInt8)
  | .send payload => some payload.encode
  | .joinGuild hostname inviteCode replyId =>
    some (Payload.joinGuild hostname inviteCode replyId).encode
  | _ => none

/-- A frame with a heartbeat, which is sent back as it came. -/
def echo? (bytes : List UInt8) : Option (List UInt8) :=
  match Payload.decode bytes with
  | .ok (.heartbeat _) => some bytes
  | _ => none

/-- The frame that an operation sends if the transport of a generation is held. -/
def frameOf? (world : Surroundings) (generation : Nat) : Operation η → Option (List UInt8)
  | .receive g .opened =>
    if g = generation then some (Payload.hello world.token false).encode else none
  | .receive g (.frame bytes) => if g = generation then echo? bytes else none
  | operation => operation.request?

theorem framesTo_transmit {frame : List UInt8} {answer : Except SendError Unit}
    (h : (c.transmit world frame).Yields moments answer) (generation : Nat) :
    framesTo generation moments = if c.holds generation then [frame] else [] := by
  unfold transmit at h
  split at h
  · case isTrue hheld =>
    obtain ⟨_, _, rest, hsent, hanswer, rfl⟩ := yields_bind.mp h
    obtain rfl := yields_perform.mp hsent
    have hrest : rest = [] := by
      split at hanswer <;> exact (yields_pure.mp hanswer).1
    by_cases hsame : generation = c.generation
    · simp [hrest, framesTo, Act.frameTo?, holds, hheld, hsame]
    · simp [hrest, framesTo, Act.frameTo?, holds, hsame, Ne.symm hsame]
  · case isFalse hfree =>
    obtain ⟨rfl, -⟩ := yields_pure.mp h
    simp [holds, hfree]

theorem framesTo_joinGuild {hostname inviteCode replyId : String}
    {answer : Except SendError String}
    (h : (c.joinGuild world hostname inviteCode replyId).Yields moments answer) (generation : Nat) :
    framesTo generation moments =
      if c.holds generation then [(Payload.joinGuild hostname inviteCode replyId).encode]
      else [] := by
  obtain ⟨_, sent, rest, hsend, hanswer, rfl⟩ := yields_bind.mp h
  have hrest : rest = [] := by
    cases sent <;> exact (yields_pure.mp hanswer).1
  rw [hrest, List.append_nil]
  exact framesTo_transmit hsend generation

theorem framesTo_onFrame {bytes : List UInt8} (h : (c.onFrame world bytes).Yields moments c')
    (generation : Nat) :
    framesTo generation moments = if c.holds generation then (echo? bytes).toList else [] := by
  simp only [onFrame, yields_bind, yields_attempt] at h
  obtain ⟨_, fed, _, ⟨rfl, -⟩, h, rfl⟩ := h
  split at h
  · case h_1 hdecode =>
    obtain ⟨rfl, -⟩ := yields_pure.mp h
    simp [echo?, hdecode]
  · case h_2 hdecode =>
    obtain ⟨_, hsend, -⟩ := yields_bind_pure.mp h
    simp only [echo?, hdecode]
    exact framesTo_transmit hsend generation
  · case h_3 hdecode =>
    rw [(quiet_onReady _ _).framesTo_eq h]
    simp [echo?, hdecode]
  · case h_4 _ hheartbeat _ =>
    obtain ⟨rfl, -⟩ := yields_pure.mp h
    have hnone : echo? bytes = none := by
      unfold echo?
      split
      · case h_1 hdecode => exact absurd hdecode (hheartbeat _)
      · rfl
    simp [hnone]

theorem framesTo_receive {g : Nat} {event : Event}
    (h : (c.receive world g event).Yields moments c') (generation : Nat) :
    framesTo generation moments =
      if c.holds generation then (frameOf? world generation (.receive g event : Operation η)).toList
      else [] := by
  unfold receive at h
  split at h
  · case isTrue hholds =>
    obtain ⟨hheld, rfl⟩ := holds_eq_true.mp hholds
    -- The transport that reports the event is the one that takes the frame.
    have hsame : c.holds generation = true → c.generation = generation :=
      fun h => (holds_eq_true.mp h).2.symm
    cases event with
    | opened =>
        obtain ⟨_, hsend, -⟩ := yields_bind_pure.mp h
        rw [framesTo_transmit hsend]
        split
        · case isTrue hholds => simp [frameOf?, hsame hholds]
        · rfl
    | frame bytes =>
        rw [framesTo_onFrame h]
        split
        · case isTrue hholds => simp [frameOf?, hsame hholds]
        · rfl
    | failed text => simp [(quiet_onFailure c _).framesTo_eq h, frameOf?, Operation.request?]
    | closed text => simp [(quiet_onClose c _ _).framesTo_eq h, frameOf?, Operation.request?]
  · case isFalse hholds =>
    obtain ⟨rfl, -⟩ := yields_pure.mp h
    split
    · case isTrue hother =>
      have hne : g ≠ generation := fun hsame => hholds (hsame ▸ hother)
      cases event <;> simp [frameOf?, hne, Operation.request?]
    · rfl

/-- An operation hands its frame to the transport that is held, and to no other. -/
theorem framesTo_of_apply {answer : Answer}
    (h : (c.apply world operation).Yields moments (answer, c')) (generation : Nat) :
    framesTo generation moments =
      if c.holds generation then (frameOf? world generation operation).toList else [] := by
  cases operation with
  | start =>
      obtain ⟨_, hstart, -⟩ := yields_bind_pure.mp h
      simp [(quiet_start c).framesTo_eq hstart, frameOf?, Operation.request?]
  | shutdown =>
      obtain ⟨_, hshutdown, -⟩ := yields_bind_pure.mp h
      simp [(quiet_shutdown c).framesTo_eq hshutdown, frameOf?, Operation.request?]
  | send payload =>
      obtain ⟨_, hsend, -⟩ := yields_bind_pure.mp h
      exact framesTo_transmit hsend generation
  | joinGuild hostname inviteCode replyId =>
      obtain ⟨_, hjoin, -⟩ := yields_bind_pure.mp h
      exact framesTo_joinGuild hjoin generation
  | addReady | addDisconnect | removeReady | removeDisconnect | askInterval =>
      obtain ⟨rfl, -⟩ := yields_pure.mp h
      simp [frameOf?, Operation.request?]
  | poll =>
      obtain ⟨_, hpoll, -⟩ := yields_bind_pure.mp h
      simp [(quiet_poll c _).framesTo_eq hpoll, frameOf?, Operation.request?]
  | receive g event =>
      obtain ⟨_, hreceive, -⟩ := yields_bind_pure.mp h
      exact framesTo_receive hreceive generation

end GatewayClient.Connection
