import GatewayClient.Connection.Operation
/-!
# Likenesses

Two connections act alike if they differ only in that the generations of one are later by a
constant, and that it lacks some handlers: every operation of the one is a turn of the other,
with the generations shifted and the handlers left out (`Likeness.apply_eq`).
-/

namespace GatewayClient.Connection

open Turn

variable {η μ ν α α' β β' : Type}

/-! ## Turns -/

/-- The same turn with other moments and another result. -/
def Turn.map (f : μ → ν) (g : α → β) (turn : Turn μ α) : Turn ν β :=
  ⟨turn.moments.map f, turn.result.map g⟩

@[simp] theorem Turn.map_pure (f : μ → ν) (g : α → β) (a : α) :
    (pure a : Turn μ α).map f g = pure (g a) := rfl

@[simp] theorem Turn.map_attempt (f : μ → ν) (time : Option α) :
    (attempt time : Turn μ α).map f id = attempt time := by
  simp [Turn.map, attempt]

/-- A turn of two parts is mapped part by part. -/
theorem Turn.bind_eq_map {f : μ → ν} {g : α → α'} {k : β → β'} {turn : Turn μ α}
    {turn' : Turn ν α'} {next : α → Turn μ β} {next' : α' → Turn ν β'}
    (hturn : turn' = turn.map f g) (hnext : ∀ a, next' (g a) = (next a).map f k) :
    turn' >>= next' = (turn >>= next).map f k := by
  obtain ⟨moments, result⟩ := turn
  cases result with
  | none => rw [hturn]; rfl
  | some a =>
      rw [hturn]
      simp [Turn.map, bind, hnext]

/-! ## Likenesses -/

/-- By how much generations are later, and which handlers are not left out. -/
structure Likeness (η : Type) where
  shift : Nat := 0
  keeps : η → Bool := fun _ => true

namespace Likeness

variable (l : Likeness η)

/-- A registry without the handlers that are left out. Handles are given out as before. -/
def registry (registry : Registry η) : Registry η :=
  { registry with entries := registry.entries.filter (l.keeps ·.2) }

def connection (c : Connection η) : Connection η :=
  { c with generation := l.shift + c.generation, readyHandlers := l.registry c.readyHandlers,
           noReconnectHandlers := l.registry c.noReconnectHandlers,
           reconnectHandlers := l.registry c.reconnectHandlers }

def act : Act η → Act η
  | .entered phase => .entered phase
  | .opened generation => .opened (l.shift + generation)
  | .sent generation frame => .sent (l.shift + generation) frame
  | .closed generation => .closed (l.shift + generation)
  | .calledReady handlers => .calledReady (handlers.filter l.keeps)
  | .calledDisconnect handlers reconnect => .calledDisconnect (handlers.filter l.keeps) reconnect

def moment (moment : Moment η) : Moment η := ⟨l.act moment.act, l.connection moment.connection⟩

/-- An operation is the same, but for the generation of the transport that it is about. -/
def operation : Operation η → Operation η
  | .receive generation event => .receive (l.shift + generation) event
  | operation => operation

/-- The surroundings of the one connection, as the other finds them. -/
def world (world : Surroundings) : Surroundings :=
  { world with refusal := fun generation => world.refusal (l.shift + generation) }

def outcome (outcome : Answer × Connection η) : Answer × Connection η :=
  (outcome.1, l.connection outcome.2)

variable {l} {c d : Connection η} {world : Surroundings} {now : Instant}

@[simp] theorem callbacks_registry (registry : Registry η) :
    (l.registry registry).callbacks = registry.callbacks.filter l.keeps := by
  simp [Likeness.registry, Registry.callbacks, List.filter_map, Function.comp_def]

theorem unregister_registry (registry : Registry η) (handle : Handle) :
    (l.registry registry).unregister handle = l.registry (registry.unregister handle) := by
  simp [Likeness.registry, Registry.unregister, List.filter_filter, Bool.and_comm]

theorem register_registry (registry : Registry η) {handler : η} (hkeeps : l.keeps handler = true) :
    (l.registry registry).register handler =
      ((registry.register handler).1, l.registry (registry.register handler).2) := by
  simp [Likeness.registry, Registry.register, List.filter_append, hkeeps]

theorem holds_connection (generation : Nat) :
    (l.connection c).holds (l.shift + generation) = c.holds generation := by
  simp [holds, connection, Bool.beq_eq_decide_eq]

/-! ## Parts of turns -/

theorem enter_eq (h : d = l.connection c) (phase : Phase) :
    d.enter phase = (c.enter phase).map l.moment l.connection := by
  have hphase : d.phase = c.phase := by rw [h]; rfl
  unfold enter
  rw [hphase, h]
  split <;> rfl

theorem start_eq (h : d = l.connection c) : d.start = c.start.map l.moment l.connection := by
  have hheld : d.hasTransport = c.hasTransport := by rw [h]; rfl
  unfold start
  rw [hheld, h]
  split
  · rfl
  · refine bind_eq_map (g := l.connection) (enter_eq (by rfl) _) fun c => ?_
    exact bind_eq_map (g := id) rfl fun _ => rfl

theorem dropTransport_eq (h : d = l.connection c) :
    d.dropTransport = c.dropTransport.map l.moment l.connection := by
  have hheld : d.hasTransport = c.hasTransport := by rw [h]; rfl
  unfold dropTransport
  rw [hheld, h]
  split <;> rfl

theorem shutdown_eq (h : d = l.connection c) :
    d.shutdown = c.shutdown.map l.moment l.connection :=
  bind_eq_map (g := l.connection) (dropTransport_eq h) fun _ => enter_eq (by rfl) _

theorem transmit_eq (h : d = l.connection c) (frame : List UInt8) :
    d.transmit world frame = (c.transmit (l.world world) frame).map l.moment id := by
  have hheld : d.hasTransport = c.hasTransport := by rw [h]; rfl
  have hrefusal : world.refusal d.generation = (l.world world).refusal c.generation := by
    rw [h]; rfl
  unfold transmit
  rw [hheld, hrefusal, h]
  split
  · refine bind_eq_map (g := id) rfl fun _ => ?_
    cases (l.world world).refusal c.generation <;> rfl
  · rfl

theorem joinGuild_eq (h : d = l.connection c) (hostname inviteCode replyId : String) :
    d.joinGuild world hostname inviteCode replyId =
      (c.joinGuild (l.world world) hostname inviteCode replyId).map l.moment id := by
  refine bind_eq_map (g := id) (transmit_eq h _) fun answer => ?_
  cases answer <;> rfl

/-! ## Losses -/

theorem scheduleRetry_eq (h : d = l.connection c) :
    d.scheduleRetry now =
      (c.scheduleRetry now).map l.moment fun answer => (answer.1, l.connection answer.2) := by
  have hpolicy : d.policy = c.policy := by rw [h]; rfl
  have hlosses : d.losses = c.losses := by rw [h]; rfl
  simp only [scheduleRetry, hpolicy, hlosses]
  split
  · split
    · refine bind_eq_map (g := l.connection) (start_eq ?_) fun _ => rfl
      rw [h]; rfl
    · refine bind_eq_map (g := id) (map_attempt ..).symm fun _ => ?_
      rw [h]; rfl
  · rw [h]; rfl

theorem callDisconnectHandlers_eq (h : d = l.connection c) (reconnect : Bool) :
    d.callDisconnectHandlers reconnect =
      (c.callDisconnectHandlers reconnect).map l.moment id := by
  cases reconnect <;>
    simp [h, callDisconnectHandlers, Connection.perform, Turn.perform, Turn.map, moment, act,
      connection]

theorem onFailure_eq (h : d = l.connection c) :
    d.onFailure now = (c.onFailure now).map l.moment l.connection := by
  refine bind_eq_map (g := l.connection) (enter_eq ?_ _) fun c => ?_
  · rw [h]; rfl
  · refine bind_eq_map (g := id) (callDisconnectHandlers_eq rfl false) fun _ => ?_
    exact bind_eq_map (scheduleRetry_eq rfl) fun _ => rfl

theorem giveUp_eq (h : d = l.connection c) :
    d.giveUp = c.giveUp.map l.moment l.connection := by
  refine bind_eq_map (g := id) (callDisconnectHandlers_eq ?_ false) fun _ => ?_
  · rw [h]; rfl
  · rw [h]; rfl

theorem onClose_eq (h : d = l.connection c) (text : String) :
    d.onClose text now = (c.onClose text now).map l.moment l.connection := by
  refine bind_eq_map (g := l.connection) (enter_eq ?_ _) fun c => ?_
  · rw [h]; rfl
  · split
    · refine bind_eq_map (scheduleRetry_eq rfl) fun answer => ?_
      obtain ⟨retrying, c⟩ := answer
      cases retrying with
      | true => exact bind_eq_map (g := id) (callDisconnectHandlers_eq rfl true) fun _ => rfl
      | false => exact giveUp_eq rfl
    · exact giveUp_eq rfl

/-! ## Events -/

theorem onReady_eq (h : d = l.connection c) :
    d.onReady now = (c.onReady now).map l.moment l.connection := by
  refine bind_eq_map (g := l.connection) (enter_eq h _) fun c => ?_
  refine bind_eq_map (g := id) (map_attempt ..).symm fun watchdog => ?_
  refine bind_eq_map (g := id) ?_ fun _ => rfl
  simp [Connection.perform, Turn.perform, Turn.map, moment, act, connection]

theorem onFrame_eq (h : d = l.connection c) (bytes : List UInt8) :
    d.onFrame world bytes = (c.onFrame (l.world world) bytes).map l.moment l.connection := by
  subst h
  refine bind_eq_map (g := id) (map_attempt ..).symm fun watchdog => ?_
  dsimp only [id]
  split
  · rfl
  · exact bind_eq_map (g := id) (transmit_eq (by rfl) bytes) fun _ => rfl
  · exact onReady_eq rfl
  · rfl

theorem receive_eq (h : d = l.connection c) (generation : Nat) (event : Event) :
    d.receive world (l.shift + generation) event =
      (c.receive (l.world world) generation event).map l.moment l.connection := by
  unfold receive
  rw [h, holds_connection]
  split
  · cases event with
    | opened => exact bind_eq_map (g := id) (transmit_eq rfl _) fun _ => rfl
    | frame bytes => exact onFrame_eq rfl bytes
    | failed text => exact onFailure_eq rfl
    | closed text => exact onClose_eq rfl text
  · rfl

/-! ## Time -/

theorem pollWatchdog_eq (h : d = l.connection c) :
    d.pollWatchdog now = (c.pollWatchdog now).map l.moment l.connection := by
  have hwatchdog : d.watchdog = c.watchdog := by rw [h]; rfl
  unfold pollWatchdog
  rw [hwatchdog]
  split
  · exact bind_eq_map (g := l.connection) (dropTransport_eq h) fun _ => onFailure_eq rfl
  · rw [h]; rfl

theorem pollRetry_eq (h : d = l.connection c) :
    d.pollRetry now = (c.pollRetry now).map l.moment l.connection := by
  have hretry : d.retryAt = c.retryAt := by rw [h]; rfl
  unfold pollRetry
  rw [hretry]
  split
  · exact start_eq (by rw [h]; rfl)
  · rw [h]; rfl

theorem poll_eq (h : d = l.connection c) :
    d.poll now = (c.poll now).map l.moment l.connection :=
  bind_eq_map (g := l.connection) (pollWatchdog_eq h) fun _ => pollRetry_eq rfl

/-! ## Operations -/

/-- Whether the handler that an operation adds, if it adds one, is not left out. -/
def Allows (l : Likeness η) : Operation η → Prop
  | .addReady handler | .addDisconnect handler => l.keeps handler = true
  | _ => True

/-- What an operation does to a likeness is a likeness of what it does. -/
theorem apply_eq (c : Connection η) (world : Surroundings) (operation : Operation η)
    (h : l.Allows operation) : (l.connection c).apply world (l.operation operation) =
      (c.apply (l.world world) operation).map l.moment l.outcome := by
  cases operation with
  | start => exact bind_eq_map (g := l.connection) (start_eq rfl) fun _ => rfl
  | shutdown => exact bind_eq_map (g := l.connection) (shutdown_eq rfl) fun _ => rfl
  | send payload => exact bind_eq_map (g := id) (transmit_eq rfl _) fun _ => rfl
  | joinGuild hostname inviteCode replyId =>
      exact bind_eq_map (g := id) (joinGuild_eq rfl hostname inviteCode replyId) fun _ => rfl
  | addReady handler =>
      simp [apply, Likeness.operation, addReady, connection, register_registry _ h, outcome]
  | removeReady handle =>
      simp [apply, Likeness.operation, removeReady, connection, unregister_registry, outcome]
  | addDisconnect handler =>
      simp [apply, Likeness.operation, addDisconnect, connection, register_registry _ h, outcome]
  | removeDisconnect handle =>
      simp [apply, Likeness.operation, removeDisconnect, connection, unregister_registry, outcome]
  | askInterval => rfl
  | poll => exact bind_eq_map (g := l.connection) (poll_eq rfl) fun _ => rfl
  | receive generation event =>
      exact bind_eq_map (g := l.connection) (receive_eq rfl generation event) fun _ => rfl

end Likeness

end GatewayClient.Connection
