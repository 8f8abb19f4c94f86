import Mathlib.Data.List.Induction
import GatewayClient.Socket.Basic
/-!
# Events of a socket

A task and the transport that gives it orders go on side by side, in any order. What the task
reports is told here by what happened to it, without its state: nothing before it is connected, or
that it could not be connected, or that it opened, then the frames that came in, and at most one
event at the end. What carries this over a run is that the orders still waiting in the socket are
those given and not yet written (`Told`).

Main statement: `events_of_every_run`.
-/

namespace GatewayClient.Socket

open Connection (Event)

/-! ## Runs -/

/-- The transport is used, or the task takes a step while somebody listens or nobody does. -/
inductive Move where
  | send (frame : List UInt8)
  | close
  | drop
  | task (listening : Bool) (step : Step)
  deriving DecidableEq, Repr

/-- Whether a step can happen to a task. -/
def Awaits (s : Socket) : Step → Prop
  | .connected | .refused _ => s.phase = .connecting
  | .wrote _ => s.phase = .connected ∧ s.nextOrder?.isSome
  | .received _ | .readFailed _ | .finished => s.phase = .connected

/-- What a move does: its effects, and the socket then. Nobody uses a transport that is gone. -/
inductive Moves (s : Socket) : Move → List Effect → Socket → Prop where
  | sent {frame : List UInt8} (hheld : s.held = true) :
      Moves s (.send frame) [] ((s.send frame).toOption.getD s)
  | closed (hheld : s.held = true) : Moves s .close [] s.close
  | dropped (hheld : s.held = true) : Moves s .drop [] s.drop
  | stepped {listening : Bool} {step : Step} (hawaits : s.Awaits step) :
      Moves s (.task listening step) (s.step listening step).1 (s.step listening step).2

/-- The runs from a socket: their moves, their effects, and the socket that they end in. -/
inductive Run (start : Socket) : List Move → List Effect → Socket → Prop where
  | nil : Run start [] [] start
  | snoc {moves : List Move} {effects more : List Effect} {s s' : Socket} {move : Move}
      (run : Run start moves effects s) (h : s.Moves move more s') :
      Run start (moves ++ [move]) (effects ++ more) s'

/-! ## What happened -/

/-- The events that are reported. -/
def events (effects : List Effect) : List Event :=
  effects.filterMap fun effect => match effect with
    | .reported event => some event
    | .wrote _ => none

/-- The orders that the transport gave. That it is gone is an order to close. -/
def given (moves : List Move) : List Order :=
  moves.filterMap fun move => match move with
    | .send frame => some (.frame frame)
    | .close | .drop => some .close
    | .task _ _ => none

def steps (moves : List Move) : List Step :=
  moves.filterMap fun move => match move with
    | .task _ step => some step
    | .send _ | .close | .drop => none

def Step.isWrite : Step → Bool
  | .wrote _ => true
  | _ => false

def writes (moves : List Move) : Nat := (steps moves).countP Step.isWrite

/-- The order that the last write was about. Orders are carried out as they were given. -/
def lastOrder? (moves : List Move) : Option Order := ((given moves).take (writes moves)).getLast?

/-- What is reported of a message. -/
def frame? : Step → Option Event
  | .received (.binary bytes) => some (.frame bytes)
  | _ => none

/-- The event at the end of a connected task, if there is one. A task that was told to close
reports nothing, even if it cannot write that. -/
def verdict? (moves : List Move) : Option Event :=
  match (steps moves).getLast? with
  | some (.received (.close reason)) => some (.closed ((reason.map (·.2)).getD ""))
  | some .finished => some (.closed "")
  | some (.readFailed reason) => some (.failed reason)
  | some (.wrote (some reason)) =>
    if lastOrder? moves = some .close then none else some (.failed ("send failed: " ++ reason))
  | _ => none

/-- What a task reports, by what happened to it. -/
def expected (moves : List Move) : List Event :=
  match steps moves with
  | .refused reason :: _ => [.failed ("failed to connect: " ++ reason)]
  | .connected :: others => .opened :: others.filterMap frame? ++ (verdict? moves).toList
  | _ => []

variable {s s' : Socket} {moves : List Move} {effects more : List Effect} {move : Move}
  {listening : Bool} {step : Step}

@[simp] theorem events_append (first rest : List Effect) :
    events (first ++ rest) = events first ++ events rest := List.filterMap_append

@[simp] theorem given_append (first rest : List Move) :
    given (first ++ rest) = given first ++ given rest := List.filterMap_append

@[simp] theorem steps_append (first rest : List Move) :
    steps (first ++ rest) = steps first ++ steps rest := List.filterMap_append

@[simp] theorem given_task : given [.task listening step] = [] := rfl

@[simp] theorem steps_task : steps [.task listening step] = [step] := rfl

/-! ## Orders -/

/-- The orders that are still to be carried out. -/
def waiting (s : Socket) : List Order := s.orders ++ if s.held then [] else [.close]

theorem nextOrder_eq (s : Socket) : s.nextOrder? = s.waiting.head? := by
  unfold nextOrder? waiting
  cases s.orders with
  | nil => cases s.held <;> rfl
  | cons => rfl

/-- What was told about a task agrees with what became of it. -/
structure Told (moves : List Move) (effects : List Effect) (s : Socket) : Prop where
  events_eq : events effects = expected moves
  writes_le : writes moves ≤ (given moves).length
  waiting_eq : s.phase ≠ .ended → (given moves).drop (writes moves) = s.waiting
  connecting : s.phase = .connecting → steps moves = []
  connected : s.phase = .connected →
    verdict? moves = none ∧ ∃ others, steps moves = .connected :: others

namespace Told

theorem new : Told [] [] {} := ⟨rfl, Nat.le_refl _, fun _ => rfl, fun _ => rfl, nofun⟩

/-- Orders change nothing of what a task has reported. -/
theorem ordered (h : Told moves effects s) (hsteps : steps [move] = [])
    (hphase : s'.phase = s.phase)
    (hwaiting : s.phase ≠ .ended → s'.waiting = s.waiting ++ given [move]) :
    Told (moves ++ [move]) effects s' := by
  have hsame : steps (moves ++ [move]) = steps moves := by simp [hsteps]
  have hwrites : writes (moves ++ [move]) = writes moves := by rw [writes, writes, hsame]
  -- a new order comes after those that were written, so the last one written is the same
  have hverdict : verdict? (moves ++ [move]) = verdict? moves := by
    have hlast : lastOrder? (moves ++ [move]) = lastOrder? moves := by
      rw [lastOrder?, lastOrder?, hwrites, given_append, List.take_append_of_le_length h.writes_le]
    rw [verdict?, verdict?, hsame, hlast]
  refine ⟨?_, ?_, fun hended => ?_, fun hphase' => ?_, fun hphase' => ?_⟩
  · rw [h.events_eq, expected, expected, hsame, hverdict]
  · rw [hwrites, given_append, List.length_append]
    exact Nat.le_add_right_of_le h.writes_le
  · rw [hphase] at hended
    rw [hwrites, given_append, List.drop_append_of_le_length h.writes_le, h.waiting_eq hended,
      hwaiting hended]
  · exact hsame.trans (h.connecting (hphase.symm.trans hphase'))
  · rw [hverdict, hsame]
    exact h.connected (hphase.symm.trans hphase')

theorem sent (h : Told moves effects s) (hheld : s.held = true) (frame : List UInt8) :
    Told (moves ++ [.send frame]) effects ((s.send frame).toOption.getD s) := by
  by_cases hended : s.phase = .ended
  · have hsend : (s.send frame).toOption.getD s = s := by simp [send, order?, hended, Except.toOption]
    rw [hsend]
    exact h.ordered rfl rfl (absurd hended)
  · have hsend : (s.send frame).toOption.getD s = { s with orders := s.orders ++ [.frame frame] } := by
      simp [send, order?, hended, Except.toOption]
    rw [hsend]
    exact h.ordered rfl rfl fun _ => by simp [waiting, hheld, given]

theorem closed (h : Told moves effects s) (hheld : s.held = true) :
    Told (moves ++ [.close]) effects s.close := by
  by_cases hended : s.phase = .ended
  · have hclose : s.close = s := by simp [close, order?, hended]
    rw [hclose]
    exact h.ordered rfl rfl (absurd hended)
  · have hclose : s.close = { s with orders := s.orders ++ [.close] } := by
      simp [close, order?, hended]
    rw [hclose]
    exact h.ordered rfl rfl fun _ => by simp [waiting, hheld, given]

theorem dropped (h : Told moves effects s) (hheld : s.held = true) :
    Told (moves ++ [.drop]) effects s.drop :=
  h.ordered rfl rfl fun _ => by simp [waiting, drop, hheld, given]

/-! ### Steps of the task -/

theorem of_ended (hphase : s.phase = .ended) (hevents : events effects = expected moves)
    (hwrites : writes moves ≤ (given moves).length) : Told moves effects s where
  events_eq := hevents
  writes_le := hwrites
  waiting_eq hended := absurd hphase hended
  connecting hconnecting := by cases hphase.symm.trans hconnecting
  connected hconnected := by cases hphase.symm.trans hconnected

section

variable (h : Told moves effects s) (hphase : s.phase = .connecting)

include h hphase

/-- What is told of a task that has taken its first step. -/
theorem first (listening : Bool) (step : Step) (hstep : step.isWrite = false) :
    steps (moves ++ [.task listening step]) = [step] ∧ events effects = [] ∧
      writes (moves ++ [.task listening step]) = 0 ∧
      given (moves ++ [.task listening step]) = s.waiting := by
  have hsteps := h.connecting hphase
  have hall : steps (moves ++ [.task listening step]) = [step] := by simp [hsteps]
  have hwrites : writes moves = 0 := by rw [writes, hsteps]; rfl
  have hevents : events effects = [] := by rw [h.events_eq, expected, hsteps]
  refine ⟨hall, hevents, by simp [writes, hall, hstep], ?_⟩
  have hwaiting := h.waiting_eq (by simp [hphase])
  rw [hwrites, List.drop_zero] at hwaiting
  simpa using hwaiting

theorem opened (listening : Bool) : Told (moves ++ [.task listening .connected])
    (effects ++ (s.step listening .connected).1) (s.step listening .connected).2 := by
  obtain ⟨hsteps, hevents, hwrites, hgiven⟩ := h.first hphase listening .connected rfl
  have hverdict : verdict? (moves ++ [.task listening .connected]) = none := by
    simp [verdict?, hsteps]
  have hexpected : expected (moves ++ [.task listening .connected]) = [.opened] := by
    simp [expected, hsteps, hverdict]
  cases listening with
  | true =>
      simp only [Socket.step, hphase, if_true]
      refine ⟨by rw [events_append, hevents, hexpected]; rfl, by simp [hwrites], fun _ => ?_, nofun,
        fun _ => ⟨hverdict, [], hsteps⟩⟩
      rw [hwrites, hgiven]
      rfl
  | false =>
      simp only [Socket.step, hphase, Bool.false_eq_true, if_false]
      exact of_ended rfl (by rw [events_append, hevents, hexpected]; rfl) (by simp [hwrites])

theorem refused (listening : Bool) (reason : String) :
    Told (moves ++ [.task listening (.refused reason)])
      (effects ++ (s.step listening (.refused reason)).1) (s.step listening (.refused reason)).2 := by
  obtain ⟨hsteps, hevents, hwrites, -⟩ := h.first hphase listening (.refused reason) rfl
  simp only [Socket.step, hphase]
  refine of_ended rfl ?_ (by simp [hwrites])
  rw [events_append, hevents, expected, hsteps]
  rfl

end

/-- A task that has opened reports what its next step brings. -/
theorem expected_concat (h : Told moves effects s) (hphase : s.phase = .connected)
    (listening : Bool) (step : Step) : expected (moves ++ [.task listening step]) =
      events effects ++ (frame? step).toList ++
        (verdict? (moves ++ [.task listening step])).toList := by
  obtain ⟨hverdict, others, hsteps⟩ := h.connected hphase
  have hall : steps (moves ++ [.task listening step]) = .connected :: (others ++ [step]) := by
    simp [hsteps]
  rw [h.events_eq, expected, expected, hall, hsteps, hverdict]
  cases hframe : frame? step <;> simp [hframe]

/-- A step other than a write leaves the orders alone. -/
theorem kept (h : Told moves effects s) (hphase : s.phase = .connected) (hstep : step.isWrite = false)
    (hevents : events more =
      (frame? step).toList ++ (verdict? (moves ++ [.task listening step])).toList)
    (hverdict : verdict? (moves ++ [.task listening step]) = none) :
    Told (moves ++ [.task listening step]) (effects ++ more) s := by
  have hwrites : writes (moves ++ [.task listening step]) = writes moves := by
    simp [writes, hstep]
  obtain ⟨-, others, hsteps⟩ := h.connected hphase
  refine ⟨?_, ?_, fun hended => ?_, fun hconnecting => ?_, fun _ => ⟨hverdict, ?_⟩⟩
  · rw [h.expected_concat hphase, events_append, hevents, List.append_assoc]
  · simpa [hwrites] using h.writes_le
  · simpa [hwrites] using h.waiting_eq hended
  · cases hphase.symm.trans hconnecting
  · exact ⟨others ++ [step], by simp [hsteps]⟩

theorem ended (h : Told moves effects s) (hphase : s.phase = .connected)
    (hframe : frame? step = none)
    (hevents : events more = (verdict? (moves ++ [.task listening step])).toList)
    (hwrites : writes (moves ++ [.task listening step]) ≤ (given moves).length) :
    Told (moves ++ [.task listening step]) (effects ++ more) { s with phase := .ended } := by
  refine of_ended rfl ?_ (by simpa using hwrites)
  rw [h.expected_concat hphase, events_append, hevents, hframe]
  simp

theorem received (h : Told moves effects s) (hphase : s.phase = .connected) (listening : Bool)
    (message : Message) : Told (moves ++ [.task listening (.received message)])
      (effects ++ (s.onMessage message).1) (s.onMessage message).2 := by
  have hwrites : writes (moves ++ [.task listening (.received message)]) = writes moves := by
    simp [writes, Step.isWrite]
  cases message with
  | close reason =>
      refine h.ended hphase rfl ?_ (hwrites ▸ h.writes_le)
      simp [verdict?, events, onMessage, endWith]
  | binary | text | ping | pong =>
      exact h.kept hphase rfl (by simp [verdict?, events, onMessage, frame?]) (by simp [verdict?])

/-- The next order is the last one that was written when a write is done. -/
theorem writing (h : Told moves effects s) (hphase : s.phase = .connected) (listening : Bool)
    {order : Order} (hnext : s.nextOrder? = some order) (failure : Option String) :
    writes (moves ++ [.task listening (.wrote failure)]) = writes moves + 1 ∧
      writes moves + 1 ≤ (given moves).length ∧
      lastOrder? (moves ++ [.task listening (.wrote failure)]) = some order ∧
      (given moves).drop (writes moves + 1) = s.waiting.tail := by
  have hwaiting := h.waiting_eq (by simp [hphase])
  rw [nextOrder_eq, ← hwaiting, List.head?_drop] at hnext
  have hwrites : writes (moves ++ [.task listening (.wrote failure)]) = writes moves + 1 := by
    simp [writes, Step.isWrite]
  refine ⟨hwrites, (List.getElem?_eq_some_iff.mp hnext).1, ?_, ?_⟩
  · rw [lastOrder?, hwrites, given_append, given_task, List.append_nil, List.take_add_one, hnext]
    simp
  · rw [← List.drop_drop, hwaiting, List.drop_one]

theorem wrote (h : Told moves effects s) (hphase : s.phase = .connected) (listening : Bool)
    {order : Order} (hnext : s.nextOrder? = some order) (failure : Option String) :
    Told (moves ++ [.task listening (.wrote failure)])
      (effects ++ (s.carryOut failure).1) (s.carryOut failure).2 := by
  obtain ⟨hwrites, hle, hlast, hrest⟩ := h.writing hphase listening hnext failure
  unfold carryOut
  cases order with
  | close =>
      -- Whether the close frame is written or not, nothing is reported.
      have hverdict : verdict? (moves ++ [.task listening (.wrote failure)]) = none := by
        cases failure <;> simp [verdict?, hlast]
      rw [hnext]
      cases failure <;> exact h.ended hphase rfl (by rw [hverdict]; rfl) (hwrites ▸ hle)
  | frame bytes =>
      rw [hnext]
      cases failure with
      | none =>
          have hverdict : verdict? (moves ++ [.task listening (.wrote none)]) = none := by
            simp [verdict?]
          -- the order was a frame, so it stood in the queue and was not the one of a lost transport
          have hwaiting : s.waiting.tail = waiting { s with orders := s.orders.drop 1 } := by
            unfold nextOrder? at hnext
            cases horders : s.orders with
            | nil => cases hheld : s.held <;> simp [horders, hheld] at hnext
            | cons => simp [waiting, horders]
          obtain ⟨-, others, hsteps⟩ := h.connected hphase
          refine ⟨?_, ?_, fun _ => ?_, fun hconnecting => ?_, fun _ => ⟨hverdict, ?_⟩⟩
          · simp [h.expected_concat hphase, hverdict, frame?, events]
          · simpa [hwrites] using hle
          · simpa [hwrites, hrest] using hwaiting
          · cases hphase.symm.trans hconnecting
          · exact ⟨others ++ [.wrote none], by simp [hsteps]⟩
      | some reason =>
          refine h.ended hphase rfl ?_ (hwrites ▸ hle)
          simp [verdict?, hlast, events, endWith]

theorem moved (h : Told moves effects s) (hmoves : s.Moves move more s') :
    Told (moves ++ [move]) (effects ++ more) s' := by
  cases hmoves with
  | sent hheld => exact (List.append_nil effects).symm ▸ h.sent hheld _
  | closed hheld => exact (List.append_nil effects).symm ▸ h.closed hheld
  | dropped hheld => exact (List.append_nil effects).symm ▸ h.dropped hheld
  | @stepped listening step hawaits =>
      cases step with
      | connected => exact h.opened hawaits listening
      | refused reason => exact h.refused hawaits listening reason
      | wrote failure =>
          obtain ⟨hphase, hnext⟩ := hawaits
          obtain ⟨order, hnext⟩ := Option.isSome_iff_exists.mp hnext
          simpa only [Socket.step, hphase] using h.wrote hphase listening hnext failure
      | received message =>
          have hphase : s.phase = .connected := hawaits
          simpa only [Socket.step, hphase] using h.received hphase listening message
      | readFailed reason | finished =>
          have hphase : s.phase = .connected := hawaits
          simp only [Socket.step, hphase]
          refine h.ended hphase rfl (by simp [verdict?, events, endWith]) ?_
          simpa [writes, Step.isWrite] using h.writes_le

/-- A task that has reported a failure or a close has ended. -/
theorem phase_eq_ended (h : Told moves effects s)
    (hlast : ∃ text, .failed text ∈ events effects ∨ .closed text ∈ events effects) :
    s.phase = .ended := by
  obtain ⟨text, hlast⟩ := hlast
  rw [h.events_eq] at hlast
  cases hphase : s.phase with
  | ended => rfl
  | connecting => simp [expected, h.connecting hphase] at hlast
  | connected =>
      obtain ⟨hverdict, others, hsteps⟩ := h.connected hphase
      have hframes : ∀ event ∈ others.filterMap frame?, ∃ bytes, event = .frame bytes := by
        intro event hevent
        obtain ⟨step, -, hframe⟩ := List.mem_filterMap.mp hevent
        unfold frame? at hframe
        split at hframe
        · exact ⟨_, (Option.some.inj hframe).symm⟩
        · cases hframe
      rw [expected, hsteps, hverdict] at hlast
      rcases hlast with hlast | hlast <;>
        · obtain ⟨_, hsame⟩ := hframes _ (by simpa using hlast)
          cases hsame

end Told

theorem Run.told (run : Run {} moves effects s) : Told moves effects s := by
  generalize hstart : ({} : Socket) = start at run
  induction run with
  | nil => exact hstart ▸ .new
  | snoc _ hmoves ih => exact ih.moved hmoves

/-- A task that has ended stays so, and does nothing. -/
theorem Moves.ended (h : s.Moves move more s') (hphase : s.phase = .ended) :
    s'.phase = .ended ∧ more = [] := by
  cases h with
  | sent => simp [send, order?, hphase, Except.toOption]
  | closed => simp [close, order?, hphase]
  | dropped => exact ⟨hphase, rfl⟩
  | @stepped listening step hawaits => cases step <;> simp [Awaits, hphase] at hawaits

theorem Run.ended {start : Socket} (run : Run start moves effects s) (hphase : start.phase = .ended) :
    s.phase = .ended ∧ effects = [] := by
  induction run with
  | nil => exact ⟨hphase, rfl⟩
  | snoc _ hmoves ih =>
      obtain ⟨hended, rfl⟩ := ih
      obtain ⟨hended', rfl⟩ := hmoves.ended hended
      exact ⟨hended', rfl⟩

/-- Whatever happens to a socket, and in whatever order, its task reports what is expected by what
happened. A failure or a close is the end of the task, and nothing is reported after the end. -/
theorem events_of_every_run (run : Run {} moves effects s) :
    events effects = expected moves ∧
      ((∃ text, .failed text ∈ events effects ∨ .closed text ∈ events effects) →
        s.phase = .ended) ∧
      (s.phase = .ended → ∀ later more s', Run s later more s' → more = []) :=
  ⟨run.told.events_eq, run.told.phase_eq_ended, fun hended _ _ _ later => (later.ended hended).2⟩

/-- A frame is sent before the socket is open, and the server closes it before the transport's own
close is carried out. -/
theorem events_closed_by_server :
    ∃ effects s,
      Run {} [.send [1], .task true .connected, .task true (.wrote none),
        .task true (.received (.binary [7])), .close, .task true (.received (.text "ignored")),
        .task true (.received (.close (some (1000, "bye")))), .drop] effects s ∧
      (events effects = [.opened, .frame [7], .closed "bye"] ∧ s.phase = .ended ∧
        ∀ later more s', Run s later more s' → more = []) := by
  have run := ((((((((@Run.nil {}).snoc (@Moves.sent _ [1] rfl)).snoc
    (@Moves.stepped _ true .connected rfl)).snoc (@Moves.stepped _ true (.wrote none) ⟨rfl, rfl⟩)).snoc
    (@Moves.stepped _ true (.received (.binary [7])) rfl)).snoc (.closed rfl)).snoc
    (@Moves.stepped _ true (.received (.text "ignored")) rfl)).snoc
    (@Moves.stepped _ true (.received (.close (some (1000, "bye")))) rfl)).snoc (.dropped rfl)
  obtain ⟨hevents, hended, hsilent⟩ := events_of_every_run run
  have hphase := hended ⟨"bye", .inr (by rw [hevents]; simp [expected, steps, verdict?, frame?])⟩
  exact ⟨_, _, run, hevents, hphase, hsilent hphase⟩

end GatewayClient.Socket
