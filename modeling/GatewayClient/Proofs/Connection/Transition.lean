import GatewayClient.Proofs.Connection.Run
/-!
# Transitions

What one operation can do to a coupled connection, as far as transports and handlers are
concerned. Every invariant of runs is a case analysis of the transitions; nothing else
looks into the operations.
-/

namespace GatewayClient.Connection

open Turn

variable {η : Type}

/-- What holds between the parts of a connection at the end of every turn. -/
structure Coupled (c : Connection η) : Prop where
  held_iff : c.hasTransport = true ↔ c.phase = .negotiating ∨ c.phase = .ready
  held_of_interval : c.interval.isSome → c.hasTransport = true
  timeout_iff : c.watchdog.timeout.isSome ↔ c.watchdog.deadline.isSome
  ready_of_deadline : c.watchdog.deadline.isSome → c.phase = .ready ∧ c.interval.isSome
  lost_of_retryAt : c.retryAt.isSome → c.phase = .unhealthy ∧ c.hasTransport = false ∧
    2 ≤ c.losses ∧ c.policy.allows c.losses = true
  losses_eq_zero : c.phase = .ready ∨ c.phase = .closed → c.losses = 0

namespace Coupled

variable {c : Connection η}

theorem held_of_deadline (hc : c.Coupled) (h : c.watchdog.deadline.isSome) :
    c.hasTransport = true :=
  hc.held_iff.mpr (.inr (hc.ready_of_deadline h).1)

theorem held_of_isExpired (hc : c.Coupled) {now : Instant} (h : c.watchdog.isExpired now = true) :
    c.hasTransport = true := by
  apply hc.held_of_deadline
  rw [Watchdog.isExpired, Option.any_eq_true] at h
  obtain ⟨deadline, hdeadline, -⟩ := h
  simp [hdeadline]

theorem retryAt_eq_none (hc : c.Coupled) (h : c.hasTransport = true) : c.retryAt = none := by
  cases hretry : c.retryAt with
  | none => rfl
  | some time =>
      have hfree := (hc.lost_of_retryAt (by simp [hretry])).2.1
      simp [h] at hfree

/-- The watchdog and the retry are never waited for together. -/
theorem deadline_or_retryAt (hc : c.Coupled) : c.watchdog.deadline = none ∨ c.retryAt = none := by
  cases hdeadline : c.watchdog.deadline with
  | none => exact .inl rfl
  | some deadline =>
      exact .inr (hc.retryAt_eq_none (hc.held_of_deadline (by simp [hdeadline])))

end Coupled

/-! ## Landmarks -/

/-- The acts that begin a transport or call handlers. -/
def Act.isLandmark : Act η → Bool
  | .opened _ | .calledReady _ | .calledDisconnect _ _ => true
  | .entered _ | .sent _ _ | .closed _ => false

def Act.isOpening : Act η → Bool
  | .opened _ => true
  | .entered _ | .sent _ _ | .closed _ | .calledReady _ | .calledDisconnect _ _ => false

def landmarks (moments : List (Moment η)) : List (Moment η) :=
  moments.filter (·.act.isLandmark)

@[simp] theorem landmarks_nil : landmarks ([] : List (Moment η)) = [] := rfl

@[simp] theorem landmarks_append (first rest : List (Moment η)) :
    landmarks (first ++ rest) = landmarks first ++ landmarks rest :=
  List.filter_append ..

@[simp] theorem landmarks_singleton (moment : Moment η) :
    landmarks [moment] = if moment.act.isLandmark then [moment] else [] := by
  simp [landmarks, List.filter_cons]

theorem isLandmark_of_isOpening (act : Act η) (h : act.isOpening) : act.isLandmark := by
  cases act <;> first | rfl | cases h

theorem countP_landmarks {moments : List (Moment η)} {counts : Act η → Bool}
    (h : ∀ act, counts act → act.isLandmark) :
    (landmarks moments).countP (counts ·.act) = moments.countP (counts ·.act) := by
  rw [landmarks, List.countP_filter]
  refine List.countP_congr fun moment _ => ?_
  simpa using h moment.act

theorem filterMap_landmarks {β : Type} {moments : List (Moment η)} {select : Act η → Option β}
    (h : ∀ act, (select act).isSome → act.isLandmark) :
    (landmarks moments).filterMap (select ·.act) = moments.filterMap (select ·.act) := by
  rw [landmarks, List.filterMap_filter]
  refine congrArg (List.filterMap · moments) (funext fun moment => ?_)
  cases hselect : select moment.act with
  | none => simp
  | some b => simp [h moment.act (by simp [hselect])]

/-! ## Connections on the way -/

/-- A connection right before its next transport is opened. -/
def fresh (c : Connection η) : Connection η :=
  { c with generation := c.generation + 1, interval := none, watchdog := c.watchdog.clear,
           retryAt := none, phase := .negotiating }

def opened (c : Connection η) : Connection η := { c.fresh with hasTransport := true }

/-- A connection right after the loss of its transport. -/
def bereft (c : Connection η) : Connection η :=
  { c with hasTransport := false, interval := none, watchdog := c.watchdog.clear,
           phase := .unhealthy }

def stopped (c : Connection η) : Connection η :=
  { c with generation := c.generation + 1, hasTransport := false, interval := none,
           watchdog := c.watchdog.clear, retryAt := none, losses := 0, phase := .closed }

/-- Handlers are registered and removed by the operations that ask for it. -/
def registering (c : Connection η) : Operation η → Connection η
  | .addReady handler => (c.addReady handler).2
  | .removeReady handle => c.removeReady handle
  | .addDisconnect handler => (c.addDisconnect handler).2
  | .removeDisconnect handle => c.removeDisconnect handle
  | _ => c

def isReady (bytes : List UInt8) : Bool :=
  match Payload.decode bytes with
  | .ok (.ready _ _) => true
  | _ => false

/-- The interval of heartbeats that a frame announces. -/
def announced? (bytes : List UInt8) : Option Duration :=
  match Payload.decode bytes with
  | .ok (.accepted interval) => some (.ofMilliseconds interval.toNat)
  | _ => none

/-- Whether an operation finds that the transport is lost. -/
def loses (c : Connection η) (world : Surroundings) : Operation η → Bool
  | .receive generation (.failed _) | .receive generation (.closed _) => c.holds generation
  | .poll => c.watchdog.isExpired world.now
  | _ => false

/-- Whether a close of the transport is final: the server does not ask for a reconnect, or
the policy does not allow one more. -/
def isFinal (c : Connection η) (text : String) : Bool :=
  !(CloseReason.ofCloseText text).reconnect ||
    !c.policy.allows (RetryPolicy.countLoss c.losses)

/-- Whether the next loss after an operation is the first in a row. -/
def resets (c : Connection η) : Operation η → Bool
  | .shutdown => true
  | .receive generation (.frame bytes) => c.holds generation && isReady bytes
  | .receive generation (.closed text) => c.holds generation && c.isFinal text
  | _ => false

/-! ## Transitions -/

/-- What becomes of a connection after a loss: its landmarks, whether there is a retry, and
the connection then. -/
inductive Retry (c : Connection η) (now : Instant) : List (Moment η) → Bool → Connection η → Prop
  where
  | refused {n : Nat} (hn : n = RetryPolicy.countLoss c.losses)
      (hallows : c.policy.allows n = false) :
      Retry c now [] false { c with losses := n }
  | immediate {n : Nat} (hn : n = RetryPolicy.countLoss c.losses)
      (hallows : c.policy.allows n = true) (hdelay : c.policy.delay n = 0) :
      Retry c now [⟨.opened (c.generation + 1), { c with losses := n }.fresh⟩] true
        { c with losses := n }.opened
  | delayed {n : Nat} (hn : n = RetryPolicy.countLoss c.losses)
      (hallows : c.policy.allows n = true) (hdelay : 0 < c.policy.delay n) :
      Retry c now [] true { c with losses := n, retryAt := some (now + c.policy.delay n) }

/-- What an operation can do to a coupled connection: its landmarks, and the connection
then. -/
inductive Transition (c : Connection η) (world : Surroundings) :
    Operation η → List (Moment η) → Connection η → Prop where
  /-- No transport comes or goes. -/
  | calm {operation : Operation η} {c' : Connection η}
      (hloses : c.loses world operation = false) (hresets : c.resets operation = false)
      (hc' : c' = c.registering operation) : Transition c world operation [] c'
  /-- A frame that does not make the session ready. -/
  | heard {bytes : List UInt8} {watchdog : Watchdog}
      (hheld : c.hasTransport = true) (hready : isReady bytes = false)
      (hfeed : c.watchdog.feed? world.now = some watchdog) :
      Transition c world (.receive c.generation (.frame bytes)) []
        { c with interval := (announced? bytes).or c.interval, watchdog }
  | ready {bytes : List UInt8} {fed watchdog : Watchdog}
      (hheld : c.hasTransport = true) (hready : isReady bytes = true)
      (hfeed : c.watchdog.feed? world.now = some fed)
      (harm : { c with watchdog := fed }.armedWatchdog? world.now = some watchdog) :
      Transition c world (.receive c.generation (.frame bytes))
        [⟨.calledReady c.readyHandlers.callbacks,
          { c with phase := .ready, losses := 0, watchdog }⟩]
        { c with phase := .ready, losses := 0, watchdog }
  /-- A transport is opened on demand. -/
  | started (hfree : c.hasTransport = false) :
      Transition c world .start [⟨.opened (c.generation + 1), c.fresh⟩] c.opened
  /-- A transport is opened because a retry is due. -/
  | retried {time : Instant} (hfree : c.hasTransport = false)
      (hloses : c.loses world .poll = false)
      (hretry : c.retryAt = some time) (hdue : time ≤ world.now) :
      Transition c world .poll [⟨.opened (c.generation + 1), c.fresh⟩] c.opened
  | stopped : Transition c world .shutdown [] c.stopped
  /-- The transport failed or was silent for too long. -/
  | failed {operation : Operation η} {moments : List (Moment η)} {retrying : Bool}
      {c' : Connection η} (hheld : c.hasTransport = true)
      (hloses : c.loses world operation = true) (hresets : c.resets operation = false)
      (hretry : Retry c.bereft world.now moments retrying c') :
      Transition c world operation
        (⟨.calledDisconnect c.noReconnectHandlers.callbacks false, c.bereft⟩ :: moments) c'
  /-- The server closed the transport, and there is a retry. -/
  | closed {text : String} {moments : List (Moment η)} {c' : Connection η}
      (hheld : c.hasTransport = true) (hfinal : c.isFinal text = false)
      (hretry : Retry c.bereft world.now moments true c') :
      Transition c world (.receive c.generation (.closed text))
        (moments ++ [⟨.calledDisconnect c.reconnectHandlers.callbacks true, c'⟩]) c'
  /-- The server closed the transport for good. -/
  | ended {text : String} (hheld : c.hasTransport = true) (hfinal : c.isFinal text = true) :
      Transition c world (.receive c.generation (.closed text))
        [⟨.calledDisconnect c.noReconnectHandlers.callbacks false,
          { c.bereft with retryAt := none, losses := 0 }⟩]
        { c.bereft with retryAt := none, losses := 0 }

variable {c c' : Connection η} {world : Surroundings} {now : Instant}
  {moments : List (Moment η)}

theorem enter_yields {phase : Phase} (h : (c.enter phase).Yields moments c') :
    landmarks moments = [] ∧ c' = { c with phase } := by
  unfold enter at h
  split at h
  · case isTrue hphase =>
    obtain ⟨rfl, rfl⟩ := yields_pure.mp h
    exact ⟨rfl, by rw [← hphase]⟩
  · case isFalse =>
    simp only [perform, yields_bind, yields_perform, yields_pure] at h
    obtain ⟨_, _, _, rfl, ⟨rfl, rfl⟩, rfl⟩ := h
    exact ⟨rfl, rfl⟩

theorem start_yields_of_held (hheld : c.hasTransport = true) (h : c.start.Yields moments c') :
    moments = [] ∧ c' = c := by
  simpa [start, hheld] using h

theorem start_yields_of_free (hfree : c.hasTransport = false) (h : c.start.Yields moments c') :
    landmarks moments = [⟨.opened (c.generation + 1), c.fresh⟩] ∧ c' = c.opened := by
  simp only [start, hfree, Bool.false_eq_true, if_false, perform, yields_bind, yields_perform,
    yields_pure] at h
  obtain ⟨_, _, _, henter, ⟨_, _, _, rfl, ⟨rfl, rfl⟩, rfl⟩, rfl⟩ := h
  obtain ⟨hlandmarks, rfl⟩ := enter_yields henter
  simp [hlandmarks, hfree, Act.isLandmark, fresh, opened]

theorem dropTransport_yields (h : c.dropTransport.Yields moments c') :
    landmarks moments = [] ∧ c' = { c with hasTransport := false } := by
  unfold dropTransport at h
  split at h
  · case isTrue =>
    simp only [perform, yields_bind, yields_perform, yields_pure] at h
    obtain ⟨_, _, _, rfl, ⟨rfl, rfl⟩, rfl⟩ := h
    exact ⟨rfl, rfl⟩
  · case isFalse hfree =>
    obtain ⟨rfl, rfl⟩ := yields_pure.mp h
    exact ⟨rfl, by rw [← eq_false_of_ne_true hfree]⟩

theorem shutdown_yields (h : c.shutdown.Yields moments c') :
    landmarks moments = [] ∧ c' = c.stopped := by
  simp only [shutdown, yields_bind] at h
  obtain ⟨_, _, _, hdrop, henter, rfl⟩ := h
  obtain ⟨hfirst, rfl⟩ := dropTransport_yields hdrop
  obtain ⟨hrest, rfl⟩ := enter_yields henter
  simp [hfirst, hrest, stopped]

theorem transmit_yields {frame : List UInt8} {answer : Except SendError Unit}
    (h : (c.transmit world frame).Yields moments answer) : landmarks moments = [] := by
  unfold transmit at h
  split at h
  · case isTrue =>
    simp only [perform, yields_bind, yields_perform] at h
    obtain ⟨_, _, rest, rfl, hanswer, rfl⟩ := h
    split at hanswer <;> simp only [yields_pure] at hanswer <;> simp [hanswer, Act.isLandmark]
  · case isFalse => simp [(yields_pure.mp h).1]

theorem joinGuild_yields {hostname inviteCode replyId : String}
    {answer : Except SendError String}
    (h : (c.joinGuild world hostname inviteCode replyId).Yields moments answer) :
    landmarks moments = [] := by
  simp only [joinGuild, send, yields_bind] at h
  obtain ⟨_, sent, rest, hsend, hanswer, rfl⟩ := h
  have hrest : rest = [] := by cases sent <;> exact (yields_pure.mp hanswer).1
  simp [transmit_yields hsend, hrest]

theorem scheduleRetry_yields {retrying : Bool} (hfree : c.hasTransport = false)
    (h : (c.scheduleRetry now).Yields moments (retrying, c')) :
    Retry c now (landmarks moments) retrying c' := by
  simp only [scheduleRetry] at h
  split at h
  · case isTrue hallows =>
    split at h
    · case isTrue hdelay =>
      simp only [yields_bind, yields_pure, Prod.mk.injEq] at h
      obtain ⟨_, _, _, hstart, ⟨rfl, rfl, rfl⟩, rfl⟩ := h
      obtain ⟨hlandmarks, rfl⟩ := start_yields_of_free (by exact hfree) hstart
      simpa [hlandmarks] using Retry.immediate rfl hallows hdelay
    · case isFalse hdelay =>
      simp only [yields_bind, yields_attempt, yields_pure, Prod.mk.injEq] at h
      obtain ⟨_, time, _, ⟨rfl, htime⟩, ⟨rfl, rfl, rfl⟩, rfl⟩ := h
      obtain ⟨-, rfl⟩ := Instant.after?_eq_some_iff.mp htime
      exact .delayed rfl hallows (Nat.pos_of_ne_zero hdelay)
  · case isFalse hallows =>
    obtain ⟨rfl, hresult⟩ := yields_pure.mp h
    obtain ⟨rfl, rfl⟩ := Prod.mk.inj hresult
    exact .refused rfl (by simpa using hallows)

theorem withoutTransport_yields (h : c.withoutTransport.Yields moments c') :
    landmarks moments = [] ∧ c' = c.bereft := by
  obtain ⟨hlandmarks, rfl⟩ := enter_yields h
  exact ⟨hlandmarks, rfl⟩

/-- The handlers that hear of a loss. -/
theorem callDisconnectHandlers_yields {reconnect : Bool} {u : Unit}
    (h : (c.callDisconnectHandlers reconnect).Yields moments u) :
    landmarks moments =
      [⟨.calledDisconnect (if reconnect then c.reconnectHandlers
        else c.noReconnectHandlers).callbacks reconnect, c⟩] := by
  obtain rfl := yields_perform.mp h
  simp [Act.isLandmark]

theorem onFailure_yields (h : (c.onFailure now).Yields moments c') :
    ∃ rest retrying, Retry c.bereft now rest retrying c' ∧ landmarks moments =
      ⟨.calledDisconnect c.noReconnectHandlers.callbacks false, c.bereft⟩ :: rest := by
  simp only [onFailure, yields_bind, yields_pure] at h
  obtain ⟨_, _, _, hlost, ⟨_, _, _, hcall, ⟨last, ⟨retrying, _⟩, _, hretry, ⟨rfl, rfl⟩, rfl⟩, rfl⟩,
    rfl⟩ := h
  obtain ⟨hfirst, rfl⟩ := withoutTransport_yields hlost
  refine ⟨landmarks last, retrying, scheduleRetry_yields rfl hretry, ?_⟩
  simp [hfirst, callDisconnectHandlers_yields hcall, bereft]

theorem giveUp_yields (h : c.giveUp.Yields moments c') :
    c' = { c with retryAt := none, losses := 0 } ∧ landmarks moments =
      [⟨.calledDisconnect c.noReconnectHandlers.callbacks false, c'⟩] := by
  simp only [giveUp, yields_bind, yields_pure] at h
  obtain ⟨_, _, _, hcall, ⟨rfl, rfl⟩, rfl⟩ := h
  simp [callDisconnectHandlers_yields hcall]

theorem Retry.allows_eq {rest : List (Moment η)} {retrying : Bool}
    (h : Retry c now rest retrying c') :
    c.policy.allows (RetryPolicy.countLoss c.losses) = retrying := by
  cases h with
  | refused hn hallows => exact hn ▸ hallows
  | immediate hn hallows _ => exact hn ▸ hallows
  | delayed hn hallows _ => exact hn ▸ hallows

theorem Retry.of_not_retrying {rest : List (Moment η)} (h : Retry c now rest false c') :
    rest = [] ∧ c' = { c with losses := RetryPolicy.countLoss c.losses } := by
  cases h with
  | refused hn _ => exact ⟨rfl, by rw [hn]⟩

/-- All that a retry does at once is to open a transport. -/
theorem Retry.opened_of_mem {retrying : Bool} (h : Retry c now moments retrying c')
    {moment : Moment η} (hmoment : moment ∈ moments) :
    moment.act = .opened (c.generation + 1) ∧
      moment.connection.hasTransport = c.hasTransport := by
  cases h with
  | immediate =>
      obtain rfl := List.mem_singleton.mp hmoment
      exact ⟨rfl, rfl⟩
  | _ => simp at hmoment

/-- A retry leaves the handlers alone. -/
theorem Retry.handlers_eq {rest : List (Moment η)} {retrying : Bool}
    (h : Retry c now rest retrying c') :
    c'.readyHandlers = c.readyHandlers ∧ c'.noReconnectHandlers = c.noReconnectHandlers ∧
      c'.reconnectHandlers = c.reconnectHandlers := by
  cases h <;> exact ⟨rfl, rfl, rfl⟩

theorem onClose_yields {text : String} (hheld : c.hasTransport = true)
    (h : (c.onClose text world.now).Yields moments c') :
    Transition c world (.receive c.generation (.closed text)) (landmarks moments) c' := by
  simp only [onClose, yields_bind] at h
  obtain ⟨_, _, _, hlost, h, rfl⟩ := h
  obtain ⟨hfirst, rfl⟩ := withoutTransport_yields hlost
  split at h
  · case isTrue hwish =>
    simp only [yields_bind] at h
    obtain ⟨middle, ⟨retrying, _⟩, _, hschedule, h, rfl⟩ := h
    have hretry := scheduleRetry_yields (c := c.bereft) rfl hschedule
    cases retrying with
    | true =>
        simp only [if_true, yields_bind, yields_pure] at h
        obtain ⟨_, _, _, hcall, ⟨rfl, rfl⟩, rfl⟩ := h
        have hallows : c.policy.allows (RetryPolicy.countLoss c.losses) = true := hretry.allows_eq
        -- Handlers are called after the retry is arranged, by the connection that came of it.
        have hhandlers : c'.reconnectHandlers = c.reconnectHandlers := hretry.handlers_eq.2.2
        simp only [landmarks_append, hfirst, callDisconnectHandlers_yields hcall, if_true,
          hhandlers, List.nil_append, List.append_nil]
        exact .closed hheld (by simp [isFinal, hwish, hallows]) hretry
    | false =>
        have hallows : c.policy.allows (RetryPolicy.countLoss c.losses) = false := hretry.allows_eq
        obtain ⟨hmiddle, rfl⟩ := hretry.of_not_retrying
        obtain ⟨rfl, hrest⟩ := giveUp_yields h
        simp only [landmarks_append, hfirst, hmiddle, hrest, List.nil_append]
        exact .ended hheld (by simp [isFinal, hallows])
  · case isFalse hwish =>
    obtain ⟨rfl, hrest⟩ := giveUp_yields h
    simp only [landmarks_append, hfirst, hrest, List.nil_append]
    exact .ended hheld (by simp [isFinal, hwish])

theorem onReady_yields (h : (c.onReady now).Yields moments c') :
    ∃ watchdog, c.armedWatchdog? now = some watchdog ∧
      c' = { c with phase := .ready, losses := 0, watchdog } ∧
      landmarks moments = [⟨.calledReady c.readyHandlers.callbacks, c'⟩] := by
  simp only [onReady, perform, yields_bind, yields_attempt, yields_perform, yields_pure] at h
  obtain ⟨_, _, _, henter, ⟨_, watchdog, _, ⟨rfl, harm⟩, ⟨_, _, _, rfl, ⟨rfl, rfl⟩, rfl⟩, rfl⟩,
    rfl⟩ := h
  obtain ⟨hfirst, rfl⟩ := enter_yields henter
  exact ⟨watchdog, harm, rfl, by simp [hfirst, Act.isLandmark]⟩

/-- What a frame on the transport that is held does to a connection: its landmarks, and the
connection then. -/
inductive Hearing (c : Connection η) (now : Instant) (bytes : List UInt8) :
    List (Moment η) → Connection η → Prop where
  | noted {watchdog : Watchdog} (hready : isReady bytes = false)
      (hfeed : c.watchdog.feed? now = some watchdog) :
      Hearing c now bytes [] { c with interval := (announced? bytes).or c.interval, watchdog }
  | readied {fed watchdog : Watchdog} (hready : isReady bytes = true)
      (hfeed : c.watchdog.feed? now = some fed)
      (harm : { c with watchdog := fed }.armedWatchdog? now = some watchdog) :
      Hearing c now bytes
        [⟨.calledReady c.readyHandlers.callbacks,
          { c with phase := .ready, losses := 0, watchdog }⟩]
        { c with phase := .ready, losses := 0, watchdog }

theorem onFrame_hears {bytes : List UInt8} (h : (c.onFrame world bytes).Yields moments c') :
    Hearing c world.now bytes (landmarks moments) c' := by
  simp only [onFrame, yields_bind, yields_attempt] at h
  obtain ⟨_, watchdog, _, ⟨rfl, hfeed⟩, h, rfl⟩ := h
  have hnoted (hready : isReady bytes = false) := Hearing.noted hready hfeed
  split at h
  · case h_1 interval hdecode =>
    obtain ⟨rfl, rfl⟩ := yields_pure.mp h
    simpa [announced?, hdecode] using hnoted (by simp [isReady, hdecode])
  · case h_2 id hdecode =>
    obtain ⟨_, htransmit, rfl⟩ := yields_bind_pure.mp h
    rw [transmit_yields htransmit]
    simpa [announced?, hdecode] using hnoted (by simp [isReady, hdecode])
  · case h_3 available unavailable hdecode =>
    obtain ⟨armed, harm, rfl, hlandmarks⟩ := onReady_yields h
    rw [hlandmarks]
    exact .readied (by simp [isReady, hdecode]) hfeed harm
  · case h_4 haccepted hheartbeat hready =>
    obtain ⟨rfl, rfl⟩ := yields_pure.mp h
    -- The frame carries another payload or none, so the three that matter are refuted.
    have hannounced : announced? bytes = none := by
      unfold announced?
      split
      · exact absurd ‹_› (haccepted _)
      · rfl
    have hquiet : isReady bytes = false := by
      unfold isReady
      split
      · exact absurd ‹_› (hready _ _)
      · rfl
    simpa [hannounced] using hnoted hquiet

theorem onFrame_yields {bytes : List UInt8} (hheld : c.hasTransport = true)
    (h : (c.onFrame world bytes).Yields moments c') :
    Transition c world (.receive c.generation (.frame bytes)) (landmarks moments) c' := by
  have hhearing := onFrame_hears h
  generalize landmarks moments = marks at hhearing ⊢
  cases hhearing with
  | noted hready hfeed => exact .heard hheld hready hfeed
  | readied hready hfeed harm => exact .ready hheld hready hfeed harm

theorem holds_eq_true {generation : Nat} :
    c.holds generation = true ↔ c.hasTransport = true ∧ generation = c.generation := by
  simp [holds]

theorem receive_yields {generation : Nat} {event : Event}
    (h : (c.receive world generation event).Yields moments c') :
    Transition c world (.receive generation event) (landmarks moments) c' := by
  unfold receive at h
  split at h
  · case isTrue hholds =>
    obtain ⟨hheld, rfl⟩ := holds_eq_true.mp hholds
    cases event with
    | opened =>
        obtain ⟨_, hsend, rfl⟩ := yields_bind_pure.mp h
        exact transmit_yields hsend ▸ .calm rfl rfl rfl
    | frame bytes => exact onFrame_yields hheld h
    | failed text =>
        obtain ⟨_, _, hretry, hlandmarks⟩ := onFailure_yields h
        rw [hlandmarks]
        exact .failed hheld hholds rfl hretry
    | closed text => exact onClose_yields hheld h
  · case isFalse hholds =>
    -- The transport is gone, and so no event of it loses it or makes the session ready.
    obtain ⟨rfl, rfl⟩ := yields_pure.mp h
    have hholds := eq_false_of_ne_true hholds
    refine .calm ?_ ?_ rfl
    · cases event <;> first | rfl | exact hholds
    · cases event <;> first | rfl | simp [resets, hholds]

/-- Of a frame that is received on the transport that is held, all is known. -/
theorem apply_frame_hears {bytes : List UInt8} {answer : Answer} (hheld : c.hasTransport = true)
    (h : (c.apply world (.receive c.generation (.frame bytes))).Yields moments (answer, c')) :
    Hearing c world.now bytes (landmarks moments) c' := by
  obtain ⟨_, hreceive, hresult⟩ := yields_bind_pure.mp h
  obtain ⟨-, rfl⟩ := Prod.mk.inj hresult
  rw [receive, if_pos (holds_eq_true.mpr ⟨hheld, rfl⟩)] at hreceive
  exact onFrame_hears hreceive

/-- After a loss no retry is due at once. -/
theorem Retry.pollRetry_yields {rest : List (Moment η)} {retrying : Bool} {last : Connection η}
    (hretry : Retry c now rest retrying c') (hnone : c.retryAt = none)
    (h : (c'.pollRetry now).Yields moments last) : moments = [] ∧ last = c' := by
  have hdue : c'.retryAt.any (· ≤ now) = false := by
    cases hretry with
    | refused => simp [hnone]
    | immediate => rfl
    | delayed _ _ hdelay =>
        exact decide_eq_false (Nat.not_le_of_lt (Nat.lt_add_of_pos_right hdelay))
  simpa [pollRetry, hdue] using h

theorem poll_yields (hc : c.Coupled) (h : (c.poll world.now).Yields moments c') :
    Transition c world .poll (landmarks moments) c' := by
  simp only [poll, yields_bind] at h
  obtain ⟨_, _, _, hwatchdog, hpoll, rfl⟩ := h
  unfold pollWatchdog at hwatchdog
  split at hwatchdog
  · case isTrue hexpired =>
    have hheld := hc.held_of_isExpired hexpired
    -- The retry of the loss found here is in the future, or already carried out.
    simp only [yields_bind] at hwatchdog
    obtain ⟨_, _, _, hdrop, hfailure, rfl⟩ := hwatchdog
    obtain ⟨hfirst, rfl⟩ := dropTransport_yields hdrop
    obtain ⟨_, _, hretry, hlandmarks⟩ := onFailure_yields hfailure
    obtain ⟨rfl, rfl⟩ := hretry.pollRetry_yields (hc.retryAt_eq_none hheld) hpoll
    simp only [landmarks_append, hfirst, hlandmarks, List.nil_append, List.append_nil]
    exact .failed hheld hexpired rfl hretry
  · case isFalse hexpired =>
    have hloses : c.loses world .poll = false := eq_false_of_ne_true hexpired
    obtain ⟨rfl, rfl⟩ := yields_pure.mp hwatchdog
    unfold pollRetry at hpoll
    split at hpoll
    · case isTrue hdue =>
      rw [Option.any_eq_true] at hdue
      obtain ⟨time, hretry, hdue⟩ := hdue
      have hfree := (hc.lost_of_retryAt (by simp [hretry])).2.1
      obtain ⟨hlandmarks, rfl⟩ := start_yields_of_free (by exact hfree) hpoll
      rw [List.nil_append, hlandmarks]
      exact .retried hfree hloses hretry (by simpa using hdue)
    · case isFalse hdue =>
      obtain ⟨rfl, rfl⟩ := yields_pure.mp hpoll
      exact .calm hloses rfl rfl

/-- What an operation does to a coupled connection is a transition. -/
theorem apply_yields {operation : Operation η} {answer : Answer} (hc : c.Coupled)
    (h : (c.apply world operation).Yields moments (answer, c')) :
    Transition c world operation (landmarks moments) c' := by
  cases operation with
  | start =>
      obtain ⟨_, hstart, hresult⟩ := yields_bind_pure.mp h
      obtain ⟨-, rfl⟩ := Prod.mk.inj hresult
      cases hheld : c.hasTransport with
      | true =>
          obtain ⟨rfl, rfl⟩ := start_yields_of_held hheld hstart
          exact .calm rfl rfl rfl
      | false =>
          obtain ⟨hlandmarks, rfl⟩ := start_yields_of_free hheld hstart
          exact hlandmarks ▸ .started hheld
  | shutdown =>
      obtain ⟨_, hshutdown, hresult⟩ := yields_bind_pure.mp h
      obtain ⟨-, rfl⟩ := Prod.mk.inj hresult
      obtain ⟨hlandmarks, rfl⟩ := shutdown_yields hshutdown
      exact hlandmarks ▸ .stopped
  | send payload =>
      obtain ⟨_, hsend, hresult⟩ := yields_bind_pure.mp h
      obtain ⟨-, rfl⟩ := Prod.mk.inj hresult
      exact transmit_yields hsend ▸ .calm rfl rfl rfl
  | joinGuild hostname inviteCode replyId =>
      obtain ⟨_, hjoin, hresult⟩ := yields_bind_pure.mp h
      obtain ⟨-, rfl⟩ := Prod.mk.inj hresult
      exact joinGuild_yields hjoin ▸ .calm rfl rfl rfl
  | addReady handler | addDisconnect handler | removeReady handle | removeDisconnect handle
  | askInterval =>
      obtain ⟨rfl, hresult⟩ := yields_pure.mp h
      exact .calm rfl rfl (Prod.mk.inj hresult).2
  | poll =>
      obtain ⟨_, hpoll, hresult⟩ := yields_bind_pure.mp h
      obtain ⟨-, rfl⟩ := Prod.mk.inj hresult
      exact poll_yields hc hpoll
  | receive generation event =>
      obtain ⟨_, hreceive, hresult⟩ := yields_bind_pure.mp h
      obtain ⟨-, rfl⟩ := Prod.mk.inj hresult
      exact receive_yields hreceive

end GatewayClient.Connection
