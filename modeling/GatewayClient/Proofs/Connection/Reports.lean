import Mathlib.Data.List.Nodup
import GatewayClient.Proofs.Connection.Coupling
import GatewayClient.Proofs.Registry
/-!
# Reports

Whoever added a disconnect handler hears of every transport that is lost, and hears of it
once. Whoever added a ready handler hears of every session that is ready. The reports of a
run are counted against the transports that it opened.
-/

namespace GatewayClient.Connection

open Turn

variable {η : Type} {c c' : Connection η} {world : Surroundings} {now : Instant}
  {operation : Operation η} {moments : List (Moment η)} {answer : Answer}

/-! ## Counting -/

/-- Whether disconnect handlers are called, with either answer to whether there is a
reconnect. -/
def Act.isReport : Act η → Bool
  | .calledDisconnect _ _ => true
  | .entered _ | .opened _ | .sent _ _ | .closed _ | .calledReady _ => false

/-- Whether an operation is a shutdown that finds a transport. -/
def shutsDown (c : Connection η) : Operation η → Bool
  | .shutdown => c.hasTransport
  | _ => false

theorem isLandmark_of_isReport (act : Act η) (h : act.isReport) : act.isLandmark := by
  cases act <;> first | rfl | cases h

theorem Retry.counts {retrying : Bool} (h : Retry c now moments retrying c')
    (hfree : c.hasTransport = false) :
    moments.countP (·.act.isOpening) = (if c'.hasTransport then 1 else 0) ∧
      moments.countP (·.act.isReport) = 0 := by
  cases h with
  | immediate => exact ⟨rfl, rfl⟩
  | _ => simp [hfree]

/-- There is one report of each loss. -/
theorem Transition.reports (h : Transition c world operation moments c') :
    moments.countP (·.act.isReport) = if c.loses world operation then 1 else 0 := by
  cases h with
  | calm hloses => simp [hloses]
  | retried _ hloses => simp [hloses, Act.isReport]
  | failed _ hloses _ hretry =>
      rw [List.countP_cons, (hretry.counts rfl).2, hloses]
      rfl
  | closed hheld _ hretry =>
      rw [List.countP_append, (hretry.counts rfl).2]
      simp [loses, holds, hheld, Act.isReport]
  | ended hheld => simp [loses, holds, hheld, Act.isReport]
  | _ => rfl

theorem shutsDown_eq_false_of_calm (hresets : c.resets operation = false) :
    c.shutsDown operation = false := by
  cases operation <;> first | rfl | simp [resets] at hresets

theorem shutsDown_eq_false_of_loses (hloses : c.loses world operation = true) :
    c.shutsDown operation = false := by
  cases operation <;> first | rfl | simp [loses] at hloses

/-- Every transport that was held or is opened is lost, shut down, or held afterwards. -/
theorem Transition.balance (h : Transition c world operation moments c') :
    moments.countP (·.act.isOpening) + (if c.hasTransport then 1 else 0) =
      moments.countP (·.act.isReport) + (if c.shutsDown operation then 1 else 0) +
        (if c'.hasTransport then 1 else 0) := by
  cases h with
  | calm _ hresets hc' =>
      have hheld : c'.hasTransport = c.hasTransport := by
        rw [hc']
        cases operation <;> rfl
      simp [shutsDown_eq_false_of_calm hresets, hheld]
  | heard => simp [shutsDown]
  | ready => simp [shutsDown, Act.isOpening, Act.isReport]
  | started hfree | retried hfree =>
      simp [hfree, opened, shutsDown, Act.isOpening, Act.isReport]
  | stopped => cases hheld : c.hasTransport <;> simp [shutsDown, Connection.stopped, hheld]
  | failed hheld hloses _ hretry =>
      -- The transport held before makes up for the report, the next one for its opening.
      obtain ⟨hopenings, hreports⟩ := hretry.counts rfl
      rw [List.countP_cons, List.countP_cons, hopenings, hreports]
      simp only [Act.isOpening, Act.isReport, hheld, shutsDown_eq_false_of_loses hloses]
      simp [Nat.add_comm]
  | closed hheld _ hretry =>
      obtain ⟨hopenings, hreports⟩ := hretry.counts rfl
      rw [List.countP_append, List.countP_append, hopenings, hreports]
      simp [Act.isOpening, Act.isReport, hheld, shutsDown, Nat.add_comm]
  | ended hheld => simp [hheld, shutsDown, bereft, Act.isOpening, Act.isReport]

/-! ## Who is registered -/

/-- The ready handlers that are registered after a visit, if those before it are known. -/
def Visit.noteReady (known : List (Handle × η)) (visit : Visit η) : List (Handle × η) :=
  match visit.operation, visit.answer with
  | .addReady handler, .registered handle => known ++ [(handle, handler)]
  | .removeReady handle, _ => known.filter (·.1 != handle)
  | _, _ => known

/-- The ready handlers that were added and are not removed yet, in the order in which they
were added. -/
def knownReady (visits : List (Visit η)) : List (Handle × η) := visits.foldl Visit.noteReady []

/-- The disconnect handlers that are registered after a visit, if those before it are known. -/
def Visit.noteDisconnect (known : List (DisconnectHandle × η)) (visit : Visit η) :
    List (DisconnectHandle × η) :=
  match visit.operation, visit.answer with
  | .addDisconnect handler, .registeredDisconnect handle => known ++ [(handle, handler)]
  | .removeDisconnect handle, _ => known.filter (·.1 != handle)
  | _, _ => known

/-- The disconnect handlers that were added and are not removed yet, in the order in which
they were added. -/
def knownDisconnect (visits : List (Visit η)) : List (DisconnectHandle × η) :=
  visits.foldl Visit.noteDisconnect []

/-- A disconnect handle that some connection has given out. Nobody can make up another. -/
def Issued (η : Type) (handle : DisconnectHandle) : Prop :=
  ∃ policy multiplier visits c, Run (new policy multiplier : Connection η) visits c ∧
    ∃ visit ∈ visits, visit.answer = .registeredDisconnect handle

theorem registering_of_loses (hloses : c.loses world operation = true) :
    c.registering operation = c := by
  cases operation <;> first | rfl | simp [loses] at hloses

/-- Nothing but the operations for it changes who is registered. -/
theorem Transition.handlers_eq (h : Transition c world operation moments c') :
    c'.readyHandlers = (c.registering operation).readyHandlers ∧
      c'.noReconnectHandlers = (c.registering operation).noReconnectHandlers ∧
      c'.reconnectHandlers = (c.registering operation).reconnectHandlers := by
  cases h with
  | calm _ _ hc' => simp [hc']
  | failed _ hloses _ hretry =>
      rw [registering_of_loses hloses]
      exact hretry.handlers_eq
  | closed _ _ hretry => exact hretry.handlers_eq
  | _ => exact ⟨rfl, rfl, rfl⟩

/-- A disconnect handle is given out for a handler that is added. -/
theorem apply_registeredDisconnect {handle : DisconnectHandle}
    (h : (c.apply world operation).Yields moments (.registeredDisconnect handle, c')) :
    handle = ⟨⟨c.noReconnectHandlers.next⟩, ⟨c.reconnectHandlers.next⟩⟩ := by
  cases operation with
  | addDisconnect handler =>
      obtain ⟨-, hresult⟩ := yields_pure.mp h
      exact Answer.registeredDisconnect.inj (Prod.mk.inj hresult).1
  | _ => simp [apply] at h

variable {policy : RetryPolicy} {multiplier : Nat} {visits earlier later : List (Visit η)}
  {visit : Visit η}

/-- Handles are given out in order, and in lockstep by the two registries of disconnect
handlers. -/
structure Orderly (c : Connection η) : Prop where
  ready : c.readyHandlers.Sorted
  noReconnect : c.noReconnectHandlers.Sorted
  reconnect : c.reconnectHandlers.Sorted
  next_eq : c.reconnectHandlers.next = c.noReconnectHandlers.next

theorem orderly_new (policy : RetryPolicy) (multiplier : Nat) :
    (new policy multiplier : Connection η).Orderly :=
  ⟨Registry.Sorted.empty, Registry.Sorted.empty, Registry.Sorted.empty, rfl⟩

theorem Orderly.registering (h : c.Orderly) (operation : Operation η) :
    (c.registering operation).Orderly := by
  cases operation with
  | addReady handler => exact { h with ready := h.ready.register handler }
  | removeReady handle => exact { h with ready := h.ready.unregister handle }
  | addDisconnect handler =>
      exact ⟨h.ready, h.noReconnect.register handler, h.reconnect.register handler,
        congrArg (· + 1) h.next_eq⟩
  | removeDisconnect handle =>
      exact { h with
        noReconnect := h.noReconnect.unregister handle.noReconnect,
        reconnect := h.reconnect.unregister handle.reconnect }
  | _ => exact h

theorem Transition.orderly (h : Transition c world operation moments c') (hc : c.Orderly) :
    c'.Orderly := by
  obtain ⟨hready, hno, hyes⟩ := h.handlers_eq
  obtain ⟨hready', hno', hyes', hnext⟩ := hc.registering operation
  exact ⟨hready ▸ hready', hno ▸ hno', hyes ▸ hyes', by rw [hno, hyes, hnext]⟩

theorem Run.orderly (run : Run (new policy multiplier) visits c) : c.Orderly := by
  refine (run.preserves (fun c => c.Coupled ∧ c.Orderly) ?_ ?_).2
  · intro c c' world operation moments answer hc turn
    have htransition := apply_yields hc.1 turn
    exact ⟨htransition.coupled hc.1, htransition.orderly hc.2⟩
  · exact ⟨coupled_new policy multiplier, orderly_new policy multiplier⟩

theorem Issued.uniform {handle : DisconnectHandle} (h : Issued η handle) :
    handle.reconnect = handle.noReconnect := by
  obtain ⟨policy, multiplier, visits, c, run, visit, hvisit, hanswer⟩ := h
  obtain ⟨earlier, later, hvisits⟩ := List.append_of_mem hvisit
  obtain ⟨hbefore, after, turn⟩ := run.visit hvisits
  rw [hanswer] at turn
  rw [apply_registeredDisconnect turn]
  exact congrArg Handle.mk hbefore.orderly.next_eq

/-- The registries hold those who are registered by the history. -/
structure Registered (visits : List (Visit η)) (c : Connection η) : Prop where
  ready : c.readyHandlers.entries = knownReady visits
  noReconnect : c.noReconnectHandlers.entries =
    (knownDisconnect visits).map fun entry => (entry.1.noReconnect, entry.2)
  reconnect : c.reconnectHandlers.entries =
    (knownDisconnect visits).map fun entry => (entry.1.reconnect, entry.2)
  uniform : ∀ entry ∈ knownDisconnect visits, entry.1.reconnect = entry.1.noReconnect

@[simp] theorem knownReady_concat (visits : List (Visit η)) (visit : Visit η) :
    knownReady (visits ++ [visit]) = visit.noteReady (knownReady visits) := by
  simp [knownReady]

@[simp] theorem knownDisconnect_concat (visits : List (Visit η)) (visit : Visit η) :
    knownDisconnect (visits ++ [visit]) = visit.noteDisconnect (knownDisconnect visits) := by
  simp [knownDisconnect]

/-- The registry of ready handlers follows an operation as the history does. -/
theorem registering_ready (turn : (c.apply world operation).Yields moments (answer, c')) :
    (c.registering operation).readyHandlers.entries =
      Visit.noteReady c.readyHandlers.entries ⟨c, world, operation, moments, answer⟩ := by
  cases operation with
  | addReady handler =>
      obtain ⟨-, hresult⟩ := yields_pure.mp turn
      obtain ⟨rfl, -⟩ := Prod.mk.inj hresult
      rfl
  | _ => rfl

theorem eq_of_uniform {a b : DisconnectHandle} (ha : a.reconnect = a.noReconnect)
    (hb : b.reconnect = b.noReconnect) (h : a.noReconnect = b.noReconnect) : a = b := by
  cases a
  cases b
  simp_all

/-- The entries that stay when a handle is removed, in either registry. -/
theorem filter_entries {known : List (DisconnectHandle × η)} {project : DisconnectHandle → Handle}
    {handle : DisconnectHandle}
    (hproject : ∀ entry ∈ known, project entry.1 = project handle → entry.1 = handle) :
    (known.map fun entry => (project entry.1, entry.2)).filter (·.1 != project handle) =
      (known.filter (·.1 != handle)).map fun entry => (project entry.1, entry.2) := by
  rw [List.filter_map]
  congr 1
  refine List.filter_congr fun entry hentry => ?_
  rw [Bool.eq_iff_iff]
  simpa using not_congr ⟨hproject entry hentry, fun h => h ▸ rfl⟩

/-- The registries keep up with the history. -/
theorem Registered.step (hregistered : Registered visits c) (hc : c.Coupled) (horderly : c.Orderly)
    (turn : (c.apply world operation).Yields moments (answer, c'))
    (hissued : ∀ handle, operation = .removeDisconnect handle →
      handle.reconnect = handle.noReconnect) :
    Registered (visits ++ [⟨c, world, operation, moments, answer⟩]) c' := by
  obtain ⟨hready, hno, hyes, huniform⟩ := hregistered
  obtain ⟨hready', hno', hyes'⟩ := (apply_yields hc turn).handlers_eq
  have hready' := hready' ▸ registering_ready turn
  rw [hready, ← knownReady_concat] at hready'
  have hknown := knownDisconnect_concat visits ⟨c, world, operation, moments, answer⟩
  cases operation with
  | addDisconnect handler =>
      obtain ⟨-, hresult⟩ := yields_pure.mp turn
      obtain ⟨rfl, -⟩ := Prod.mk.inj hresult
      refine ⟨hready', ?_, ?_, ?_⟩ <;> rw [hknown]
      · simp [hno', registering, addDisconnect, Registry.register, hno, Visit.noteDisconnect]
      · simp [hyes', registering, addDisconnect, Registry.register, hyes, Visit.noteDisconnect]
      · intro entry hentry
        rcases List.mem_append.mp hentry with hentry | hentry
        · exact huniform entry hentry
        · obtain rfl := List.mem_singleton.mp hentry
          exact congrArg Handle.mk horderly.next_eq
  | removeDisconnect handle =>
      -- Handles are equal if either of their parts is, as both parts are of one number.
      have hsame := hissued handle rfl
      refine ⟨hready', ?_, ?_, ?_⟩ <;> rw [hknown]
      · refine (congrArg Registry.entries hno').trans ?_
        refine (congrArg (List.filter _) hno).trans (filter_entries fun entry hentry h => ?_)
        exact eq_of_uniform (huniform entry hentry) hsame h
      · refine (congrArg Registry.entries hyes').trans ?_
        refine (congrArg (List.filter _) hyes).trans (filter_entries fun entry hentry h => ?_)
        have hentry := huniform entry hentry
        exact eq_of_uniform hentry hsame (hentry.symm.trans (h.trans hsame))
      · intro entry hentry
        exact huniform entry (List.mem_filter.mp hentry).1
  | _ =>
      refine ⟨hready', ?_, ?_, ?_⟩ <;> rw [hknown]
      · rw [hno']
        exact hno
      · rw [hyes']
        exact hyes
      · exact huniform

theorem Run.registered (run : Run (new policy multiplier) visits c)
    (issued : ∀ visit ∈ visits, ∀ handle, visit.operation = .removeDisconnect handle →
      Issued η handle) : Registered visits c := by
  induction run with
  | nil => exact ⟨rfl, rfl, rfl, by simp [knownDisconnect]⟩
  | snoc run turn ih =>
      have hregistered := ih fun visit hvisit => issued visit (List.mem_append_left _ hvisit)
      have hlast := issued _ (List.mem_append_right _ (List.mem_singleton_self _))
      exact hregistered.step run.coupled run.orderly turn fun handle hoperation =>
        (hlast handle hoperation).uniform

theorem Registered.distinct (h : Registered visits c) (hc : c.Orderly) :
    ((knownDisconnect visits).map (·.1)).Nodup ∧ ((knownReady visits).map (·.1)).Nodup := by
  refine ⟨?_, h.ready ▸ hc.ready.nodup⟩
  have hnodup := hc.noReconnect.nodup
  rw [h.noReconnect, List.map_map] at hnodup
  refine List.Nodup.of_map DisconnectHandle.noReconnect ?_
  rwa [List.map_map]

/-! ## What handlers hear -/

def Act.readyCall? : Act η → Option (List η)
  | .calledReady handlers => some handlers
  | .entered _ | .opened _ | .sent _ _ | .closed _ | .calledDisconnect _ _ => none

/-- Whether an operation finds that the session is ready. -/
def greets (c : Connection η) : Operation η → Bool
  | .receive generation (.frame bytes) => c.holds generation && isReady bytes
  | _ => false

/-- What a connection is when it tells of a loss, if the transport that was lost is of a
given generation. Without a reconnect there is nothing to wait for. With one there is a new
transport, or its time is known. -/
def Tells (c : Connection η) (lost : Nat) : Bool → Prop
  | false => c.phase = .unhealthy ∧ c.hasTransport = false ∧ c.nextDeadline = none
  | true => c.phase = .negotiating ∧ c.hasTransport = true ∧ lost < c.generation ∨
      c.phase = .unhealthy ∧ c.retryAt.isSome

theorem greets_eq_false_of_calm (hresets : c.resets operation = false) :
    c.greets operation = false := by
  cases operation with
  | receive generation event => cases event <;> first | rfl | exact hresets
  | _ => rfl

theorem greets_eq_false_of_loses (hloses : c.loses world operation = true) :
    c.greets operation = false := by
  cases operation with
  | receive generation event => cases event <;> first | rfl | simp [loses] at hloses
  | _ => rfl

theorem Retry.tells (h : Retry c.bereft now moments true c') : c'.Tells c.generation true := by
  cases h with
  | immediate => exact .inl ⟨rfl, rfl, Nat.lt_succ_self _⟩
  | delayed => exact .inr ⟨rfl, rfl⟩

theorem Transition.calledDisconnect (h : Transition c world operation moments c') (hc : c.Coupled)
    {moment : Moment η} (hmoment : moment ∈ moments) {handlers : List η} {reconnect : Bool}
    (hact : moment.act = .calledDisconnect handlers reconnect) :
    handlers = (if reconnect then c.reconnectHandlers else c.noReconnectHandlers).callbacks ∧
      moment.connection.Tells c.generation reconnect := by
  cases h with
  | failed hheld _ _ hretry =>
      rcases List.mem_cons.mp hmoment with rfl | hmoment
      · cases hact
        exact ⟨rfl, rfl, rfl, hc.retryAt_eq_none hheld⟩
      · cases hact.symm.trans (hretry.opened_of_mem hmoment).1
  | closed _ _ hretry =>
      rcases List.mem_append.mp hmoment with hmoment | hmoment
      · cases hact.symm.trans (hretry.opened_of_mem hmoment).1
      · obtain rfl := List.mem_singleton.mp hmoment
        cases hact
        exact ⟨rfl, hretry.tells⟩
  | ended =>
      obtain rfl := List.mem_singleton.mp hmoment
      cases hact
      exact ⟨rfl, rfl, rfl, rfl⟩
  | ready | started | retried =>
      obtain rfl := List.mem_singleton.mp hmoment
      cases hact
  | _ => simp at hmoment

theorem Retry.readyCalls {retrying : Bool} (h : Retry c now moments retrying c') :
    moments.filterMap (·.act.readyCall?) = [] := by
  cases h <;> rfl

theorem Transition.readyCalls (h : Transition c world operation moments c') :
    moments.filterMap (·.act.readyCall?) =
      if c.greets operation then [c.readyHandlers.callbacks] else [] := by
  cases h with
  | calm _ hresets => simp [greets_eq_false_of_calm hresets]
  | heard _ hready => simp [greets, hready]
  | ready hheld hready => simp [greets, holds, hheld, hready, Act.readyCall?]
  | failed _ hloses _ hretry =>
      rw [List.filterMap_cons, hretry.readyCalls, greets_eq_false_of_loses hloses]
      rfl
  | closed _ _ hretry =>
      rw [List.filterMap_append, hretry.readyCalls]
      rfl
  | _ => rfl

theorem isLandmark_of_readyCall? (act : Act η) (h : act.readyCall?.isSome) : act.isLandmark := by
  cases act <;> first | rfl | cases h

/-- What handlers hear at one visit of a run. -/
structure Hears (earlier : List (Visit η)) (visit : Visit η) : Prop where
  /-- A loss is reported once, and nothing else is reported. -/
  reports : visit.moments.countP (·.act.isReport) =
    if visit.before.loses visit.world visit.operation then 1 else 0
  /-- All who are registered are called, once each and in order. -/
  disconnect : ∀ moment ∈ visit.moments, ∀ handlers reconnect,
    moment.act = .calledDisconnect handlers reconnect →
      handlers = (knownDisconnect earlier).map (·.2) ∧
        moment.connection.Tells visit.before.generation reconnect
  ready : visit.moments.filterMap (·.act.readyCall?) =
    if visit.before.greets visit.operation then [(knownReady earlier).map (·.2)] else []
  /-- A handle names one handler. -/
  distinct : ((knownDisconnect earlier).map (·.1)).Nodup ∧ ((knownReady earlier).map (·.1)).Nodup

theorem Run.hears (run : Run (new policy multiplier) visits c)
    (issued : ∀ visit ∈ visits, ∀ handle, visit.operation = .removeDisconnect handle →
      Issued η handle) (hvisits : visits = earlier ++ visit :: later) : Hears earlier visit := by
  obtain ⟨hbefore, after, turn⟩ := run.visit hvisits
  have hc := hbefore.coupled
  have htransition := apply_yields hc turn
  have hregistered := hbefore.registered fun visit hvisit =>
    issued visit (hvisits ▸ List.mem_append_left _ hvisit)
  refine ⟨?_, ?_, ?_, hregistered.distinct hbefore.orderly⟩
  · rw [← countP_landmarks isLandmark_of_isReport]
    exact htransition.reports
  · intro moment hmoment handlers reconnect hact
    have hlandmark : moment ∈ landmarks visit.moments :=
      List.mem_filter.mpr ⟨hmoment, by simp [hact, Act.isLandmark]⟩
    obtain ⟨hhandlers, htells⟩ := htransition.calledDisconnect hc hlandmark hact
    refine ⟨?_, htells⟩
    rw [hhandlers]
    cases reconnect with
    | false => simp [Registry.callbacks, hregistered.noReconnect]
    | true => simp [Registry.callbacks, hregistered.reconnect]
  · rw [← filterMap_landmarks isLandmark_of_readyCall?, htransition.readyCalls,
      Registry.callbacks, hregistered.ready]

/-- Each transport of a run was lost, shut down, or is held. -/
theorem Run.balance (run : Run (new policy multiplier) visits c) :
    (history visits).countP (·.act.isOpening) =
      (history visits).countP (·.act.isReport) +
        visits.countP (fun visit => visit.before.shutsDown visit.operation) +
        (if c.hasTransport then 1 else 0) := by
  induction run with
  | nil => rfl
  | @snoc visits c c' world operation moments answer run turn ih =>
      have hbalance := (apply_yields run.coupled turn).balance
      rw [countP_landmarks isLandmark_of_isOpening, countP_landmarks isLandmark_of_isReport]
        at hbalance
      simp only [history_concat, List.countP_append, List.countP_singleton]
      omega

/-- Each transport that a run opened was reported as lost exactly once, was shut down, or is
held. All who are registered hear of every loss once, in the order in which they were added
and after the loss is dealt with; and of every session that is ready. -/
theorem every_loss_reported_once (run : Run (new policy multiplier) visits c)
    (issued : ∀ visit ∈ visits, ∀ handle, visit.operation = .removeDisconnect handle →
      Issued η handle) :
    (history visits).countP (·.act.isOpening) =
      (history visits).countP (·.act.isReport) +
        visits.countP (fun visit => visit.before.shutsDown visit.operation) +
        (if c.hasTransport then 1 else 0) ∧
    ∀ earlier visit later, visits = earlier ++ visit :: later → Hears earlier visit :=
  ⟨run.balance, fun _ _ _ hvisits => run.hears issued hvisits⟩

theorem issued_first (handler : η) : Issued η ⟨⟨0⟩, ⟨0⟩⟩ := by
  have turn : ((new {} 3 : Connection η).apply (.plain 0) (.addDisconnect handler)).Yields []
      (.registeredDisconnect ⟨⟨0⟩, ⟨0⟩⟩, ((new {} 3).addDisconnect handler).2) := ⟨rfl, rfl⟩
  exact ⟨{}, 3, _, _, .snoc .nil turn, _, List.mem_singleton_self _, rfl⟩

/-- One of two handlers is removed between two losses, the second of which the server asks
for. -/
theorem losses_reported_with_handler_removed :
    ∃ (visits : List (Visit String)) (c : Connection String),
      visits.map Visit.step =
        [(.plain 0, .addDisconnect "first"), (.plain 0, .addDisconnect "second"),
         (.plain 1, .start), (.plain 2, .receive 1 (.failed "reset")),
         (.plain 3, .removeDisconnect ⟨⟨0⟩, ⟨0⟩⟩),
         (.plain 4, .receive 2 (.closed "[\"restart\",true]"))] ∧
      Run (new {} 3) visits c ∧ c.retryAt = some 250000004 ∧
      ((history visits).countP (·.act.isOpening) =
        (history visits).countP (·.act.isReport) +
          visits.countP (fun visit => visit.before.shutsDown visit.operation) +
          (if c.hasTransport then 1 else 0) ∧
      ∀ earlier visit later, visits = earlier ++ visit :: later → Hears earlier visit) := by
  refine Run.exists_of_play (·.retryAt) (by decide +kernel) fun visits c hsteps run => ?_
  refine every_loss_reported_once run fun visit hvisit handle hoperation => ?_
  have hstep := List.mem_map_of_mem (f := Visit.step) hvisit
  rw [hsteps] at hstep
  simp [Visit.step, hoperation] at hstep
  obtain ⟨-, rfl⟩ := hstep
  exact issued_first "first"

end GatewayClient.Connection
