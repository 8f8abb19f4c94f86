import GatewayClient.Proofs.Socket.Events
/-!
# Delivery of frames

A socket takes frames until its task has ended, and the task writes them while other things come
in. As long as it goes on, the orders that were given are the frames that were written and then
those that wait, in this order; so whatever ends the task, the frames written are the first ones
that were taken. An order to close ends it after all frames given before, and with a close frame.

Main statement: `frames_written_in_order`.
-/

namespace GatewayClient.Socket

/-! ## What was taken and what was written -/

/-- What a move makes of a socket. -/
def after (s : Socket) : Move → Socket
  | .send frame => (s.send frame).toOption.getD s
  | .close => s.close
  | .drop => s.drop
  | .task listening step => (s.step listening step).2

/-- The frame that a move hands over. A frame that is refused is not taken. -/
def taken? (s : Socket) : Move → Option (List UInt8)
  | .send frame => if (s.send frame).isOk then some frame else none
  | .close | .drop | .task _ _ => none

/-- The frames that a socket takes, in the order in which they are sent. -/
def taken (s : Socket) : List Move → List (List UInt8)
  | [] => []
  | move :: moves => (s.taken? move).toList ++ (s.after move).taken moves

/-- The messages that are written. -/
def written (effects : List Effect) : List Message :=
  effects.filterMap fun effect => match effect with
    | .wrote message => some message
    | .reported _ => none

def frameOf? : Message → Option (List UInt8)
  | .binary bytes => some bytes
  | .text _ | .ping _ | .pong _ | .close _ => none

/-- The frames that are written. -/
def frames (effects : List Effect) : List (List UInt8) := (written effects).filterMap frameOf?

def isClose : Message → Bool
  | .close _ => true
  | .binary _ | .text _ | .ping _ | .pong _ => false

def Move.closes : Move → Bool
  | .close | .drop => true
  | .send _ | .task _ _ => false

/-- What was done before the transport gave the order to close, or went. -/
def untilClose (moves : List Move) : List Move := moves.takeWhile fun move => !move.closes

/-- The task's last step was an order that it could carry out. -/
def lastWasWrite (moves : List Move) : Prop := (steps moves).getLast? = some (.wrote none)

variable {s s' start : Socket} {moves : List Move} {effects more : List Effect} {move : Move}

@[simp] theorem written_append (first rest : List Effect) :
    written (first ++ rest) = written first ++ written rest := List.filterMap_append

@[simp] theorem written_nil : written [] = [] := rfl

@[simp] theorem written_cons_wrote (message : Message) (rest : List Effect) :
    written (.wrote message :: rest) = message :: written rest := rfl

@[simp] theorem written_cons_reported (event : Connection.Event) (rest : List Effect) :
    written (.reported event :: rest) = written rest := rfl

@[simp] theorem frames_append (first rest : List Effect) :
    frames (first ++ rest) = frames first ++ frames rest := by
  simp [frames]

theorem Moves.eq_after (h : s.Moves move more s') : s' = s.after move := by
  cases h <;> rfl

theorem Run.eq_foldl (run : Run start moves effects s) : s = moves.foldl after start := by
  induction run with
  | nil => rfl
  | snoc _ hmoves ih =>
      rw [List.foldl_append, ← ih]
      exact hmoves.eq_after

theorem taken_append (s : Socket) (first rest : List Move) :
    s.taken (first ++ rest) = s.taken first ++ (first.foldl after s).taken rest := by
  induction first generalizing s with
  | nil => rfl
  | cons move first ih => simp [taken, ih, List.append_assoc]

section

variable (hnone : (moves.foldl after s).taken? move = none)

include hnone

theorem taken_concat_of_none : s.taken (moves ++ [move]) = s.taken moves := by
  rw [taken_append, taken, hnone]
  exact List.append_nil _

theorem taken_untilClose_concat_of_none :
    s.taken (untilClose (moves ++ [move])) = s.taken (untilClose moves) := by
  unfold untilClose
  rw [List.takeWhile_append]
  split
  case isFalse => rfl
  case isTrue hall =>
    have hall := (List.takeWhile_prefix fun move => !Move.closes move).eq_of_length hall
    rw [hall]
    cases hcloses : move.closes with
    | true => simp [hcloses]
    | false => simpa [hcloses] using taken_concat_of_none hnone

end

/-! ## A task that has ended -/

theorem send_of_ended (hphase : s.phase = .ended) (frame : List UInt8) :
    s.send frame = .error (.refused "socket task has exited") := by
  simp [send, order?, hphase]

theorem after_of_ended (hphase : s.phase = .ended) : (s.after move).phase = .ended := by
  cases move with
  | send frame => simp [after, send_of_ended hphase, Except.toOption, hphase]
  | close => simp [after, close, order?, hphase]
  | drop => exact hphase
  | task listening step => simp [after, Socket.step, hphase]

theorem foldl_after_of_ended (hphase : s.phase = .ended) : (moves.foldl after s).phase = .ended := by
  induction moves generalizing s with
  | nil => exact hphase
  | cons move moves ih => exact ih (after_of_ended hphase)

theorem taken?_of_ended (hphase : s.phase = .ended) : s.taken? move = none := by
  cases move with
  | send frame => simp [taken?, send_of_ended hphase, Except.isOk, Except.toBool]
  | close | drop | task => rfl

/-! ## A task that goes on -/

def Order.frame? : Order → Option (List UInt8)
  | .frame bytes => some bytes
  | .close => none

theorem given_cons (move : Move) (moves : List Move) :
    given (move :: moves) = given [move] ++ given moves := given_append [move] moves

theorem filterMap_map_frame (frames : List (List UInt8)) :
    (frames.map Order.frame).filterMap Order.frame? = frames := by
  simp [List.filterMap_map, Function.comp_def, Order.frame?]

@[simp] theorem given_send (frame : List UInt8) : given [.send frame] = [.frame frame] := rfl

@[simp] theorem given_close : given [.close] = [.close] := rfl

@[simp] theorem given_drop : given [.drop] = [.close] := rfl

/-- All frames that are sent to a task that goes on are taken. -/
theorem taken_eq_given (hphase : (moves.foldl after s).phase ≠ .ended) :
    s.taken moves = (given moves).filterMap Order.frame? := by
  induction moves generalizing s with
  | nil => rfl
  | cons move moves ih =>
      have hgoing : s.phase ≠ .ended := fun hended => hphase (foldl_after_of_ended hended)
      have hrest : (s.after move).taken moves = (given moves).filterMap Order.frame? := ih hphase
      rw [taken, hrest, given_cons]
      cases move with
      | send frame => simp [taken?, send, order?, hgoing, Order.frame?, Except.isOk, Except.toBool]
      | close | drop | task => rfl

theorem given_untilClose (moves : List Move) :
    given (untilClose moves) = (given moves).takeWhile fun order => order.frame?.isSome := by
  induction moves with
  | nil => rfl
  | cons move moves ih =>
      unfold untilClose at ih ⊢
      rw [given_cons move moves]
      cases move with
      | send frame =>
          rw [List.takeWhile_cons_of_pos rfl, given_cons, ih]
          rfl
      | close | drop => rfl
      | task listening step =>
          rw [List.takeWhile_cons_of_pos rfl, given_cons, ih]
          rfl

/-- What was given before the order to close was taken, even if the task ended later. -/
theorem taken_untilClose (hphase : (moves.foldl after s).phase ≠ .ended) :
    s.taken (untilClose moves) =
      ((given moves).takeWhile fun order => order.frame?.isSome).filterMap Order.frame? := by
  rw [← given_untilClose]
  apply taken_eq_given
  intro hended
  -- a task that has ended before the order to close has also ended after it
  obtain ⟨rest, hrest⟩ : untilClose moves <+: moves := List.takeWhile_prefix _
  rw [← hrest, List.foldl_append] at hphase
  exact hphase (foldl_after_of_ended hended)

/-- The orders were carried out up to those that wait, and none of them was to close. -/
structure Ordered (moves : List Move) (effects : List Effect) (s : Socket) : Prop where
  given_eq : given moves = (frames effects).map .frame ++ s.waiting
  unclosed : (written effects).any isClose = false

namespace Ordered

theorem new : Ordered [] [] {} := ⟨rfl, rfl⟩

/-- A step that is not about an order writes no frames. -/
theorem kept (h : Ordered moves effects s) (hgiven : given [move] = [])
    (hwaiting : s'.waiting = s.waiting) (hframes : frames more = [])
    (hunclosed : (written more).any isClose = false) :
    Ordered (moves ++ [move]) (effects ++ more) s' where
  given_eq := by simp [hgiven, hwaiting, hframes, h.given_eq]
  unclosed := by simp only [written_append, List.any_append, h.unclosed, hunclosed, Bool.or_false]

/-- A new order waits behind all others. -/
theorem ordered (h : Ordered moves effects s)
    (hwaiting : s'.waiting = s.waiting ++ given [move]) :
    Ordered (moves ++ [move]) (effects ++ []) s' where
  given_eq := by simp [hwaiting, h.given_eq]
  unclosed := by rw [List.append_nil, h.unclosed]

theorem wrote (h : Ordered moves effects s) (listening : Bool) {order : Order}
    (hnext : s.nextOrder? = some order) (failure : Option String)
    (hphase : (s.carryOut failure).2.phase ≠ .ended) :
    Ordered (moves ++ [.task listening (.wrote failure)]) (effects ++ (s.carryOut failure).1)
      (s.carryOut failure).2 := by
  unfold carryOut at hphase ⊢
  rw [hnext] at hphase ⊢
  cases order with
  | close => cases failure <;> exact absurd rfl hphase
  | frame bytes =>
      cases failure with
      | some reason => exact absurd rfl hphase
      | none =>
          -- the order was a frame, so it stood in the queue and was not the one of a lost transport
          have hwaiting : s.waiting = .frame bytes :: waiting { s with orders := s.orders.drop 1 } := by
            unfold nextOrder? at hnext
            cases horders : s.orders with
            | nil => cases hheld : s.held <;> simp [horders, hheld] at hnext
            | cons first rest =>
                obtain rfl : first = .frame bytes := by simpa [horders] using hnext
                simp [waiting, horders]
          refine ⟨by simp [h.given_eq, hwaiting, frames, frameOf?], ?_⟩
          simp only [written_append, List.any_append, h.unclosed]
          rfl

theorem moved (h : Ordered moves effects s) (hmoves : s.Moves move more s')
    (hphase : s'.phase ≠ .ended) : Ordered (moves ++ [move]) (effects ++ more) s' := by
  have hgoing : s.phase ≠ .ended := fun hended => hphase (hmoves.ended hended).1
  cases hmoves with
  | sent hheld => exact h.ordered (by simp [send, order?, hgoing, waiting, hheld, Except.toOption])
  | closed hheld => exact h.ordered (by simp [close, order?, hgoing, waiting, hheld])
  | dropped hheld => exact h.ordered (by simp [drop, waiting, hheld])
  | @stepped listening step hawaits =>
      cases step with
      | connected =>
          have hconnecting : s.phase = .connecting := hawaits
          cases listening with
          | true => exact h.kept rfl (by simp [Socket.step, hconnecting, waiting]) (by
              simp [Socket.step, hconnecting, frames]) (by simp [Socket.step, hconnecting])
          | false => simp [Socket.step, hconnecting, endWith] at hphase
      | refused reason =>
          have hconnecting : s.phase = .connecting := hawaits
          simp [Socket.step, hconnecting, endWith] at hphase
      | wrote failure =>
          obtain ⟨hconnected, hnext⟩ := hawaits
          obtain ⟨order, hnext⟩ := Option.isSome_iff_exists.mp hnext
          simp only [Socket.step, hconnected] at hphase ⊢
          exact h.wrote listening hnext failure hphase
      | received message =>
          have hconnected : s.phase = .connected := hawaits
          simp only [Socket.step, hconnected] at hphase ⊢
          cases message with
          | close reason => exact absurd rfl hphase
          | binary | text | ping | pong =>
              exact h.kept rfl rfl (by simp [onMessage, frames, frameOf?])
                (by simp [onMessage, isClose])
      | readFailed reason | finished =>
          have hconnected : s.phase = .connected := hawaits
          simp [Socket.step, hconnected, endWith] at hphase

theorem taken_eq (h : Ordered moves effects s) (hphase : (moves.foldl after {}).phase ≠ .ended) :
    taken {} moves = frames effects ++ s.waiting.filterMap Order.frame? := by
  rw [taken_eq_given hphase, h.given_eq, List.filterMap_append, filterMap_map_frame]

/-- If the order to close is the next one, all frames that were given before it are written. -/
theorem taken_untilClose_eq (h : Ordered moves effects s)
    (hphase : (moves.foldl after {}).phase ≠ .ended) (hnext : s.nextOrder? = some .close) :
    taken {} (untilClose moves) = frames effects := by
  obtain ⟨rest, hrest⟩ : ∃ rest, s.waiting = .close :: rest := by
    rw [nextOrder_eq] at hnext
    exact List.head?_eq_some_iff.mp hnext
  have hframes : ∀ order ∈ (frames effects).map Order.frame, order.frame?.isSome := by
    intro order hmem
    obtain ⟨bytes, -, rfl⟩ := List.mem_map.mp hmem
    rfl
  rw [taken_untilClose hphase, h.given_eq, hrest, List.takeWhile_append_of_pos hframes,
    List.takeWhile_cons_of_neg (by simp [Order.frame?]), List.append_nil, filterMap_map_frame]

end Ordered

/-! ## The end of a task -/

/-- How a task ends: without a frame, and after an order only if that was to close. -/
theorem Moves.ends (h : s.Moves move more s') (hgoing : s.phase ≠ .ended)
    (hended : s'.phase = .ended) : frames more = [] ∧ ∃ listening step,
      move = .task listening step ∧
        (step = .wrote none → s.nextOrder? = some .close ∧ written more = [.close none]) := by
  cases h with
  | sent => simp [send, order?, hgoing, Except.toOption] at hended
  | closed => simp [close, order?, hgoing] at hended
  | dropped => exact absurd hended hgoing
  | @stepped listening step hawaits =>
      cases step with
      | connected =>
          have hconnecting : s.phase = .connecting := hawaits
          cases listening with
          | true => simp [Socket.step, hconnecting] at hended
          | false => exact ⟨by simp [Socket.step, hconnecting, endWith, frames], _, _, rfl, by rintro ⟨⟩⟩
      | refused reason =>
          have hconnecting : s.phase = .connecting := hawaits
          exact ⟨by simp [Socket.step, hconnecting, endWith, frames], _, _, rfl, by rintro ⟨⟩⟩
      | wrote failure =>
          obtain ⟨hconnected, hnext⟩ := hawaits
          obtain ⟨order, hnext⟩ := Option.isSome_iff_exists.mp hnext
          simp only [Socket.step, hconnected, carryOut, hnext] at hended ⊢
          cases order with
          | close => cases failure <;> exact ⟨rfl, _, _, rfl, by rintro ⟨⟩ <;> exact ⟨rfl, rfl⟩⟩
          | frame bytes =>
              cases failure with
              | none => cases hended
              | some reason => exact ⟨rfl, _, _, rfl, by rintro ⟨⟩⟩
      | received message =>
          have hconnected : s.phase = .connected := hawaits
          simp only [Socket.step, hconnected] at hended ⊢
          cases message with
          | close reason => exact ⟨by simp [onMessage, endWith, frames, frameOf?], _, _, rfl, by rintro ⟨⟩⟩
          | binary | text | ping | pong => cases hconnected.symm.trans hended
      | readFailed reason | finished =>
          have hconnected : s.phase = .connected := hawaits
          exact ⟨by simp [Socket.step, hconnected, endWith, frames], _, _, rfl, by rintro ⟨⟩⟩

/-- What an ended task has written. -/
structure Delivered (moves : List Move) (effects : List Effect) : Prop where
  written_first : frames effects <+: taken {} moves
  closed : lastWasWrite moves → frames effects = taken {} (untilClose moves) ∧
    ∃ before, written effects = before ++ [.close none] ∧ before.any isClose = false

theorem Run.ordered (run : Run {} moves effects s) (hphase : s.phase ≠ .ended) :
    Ordered moves effects s := by
  generalize hstart : ({} : Socket) = start at run
  induction run with
  | nil => exact hstart ▸ .new
  | snoc _ hmoves ih =>
      exact (ih fun hended => hphase (hmoves.ended hended).1).moved hmoves hphase

/-- Nothing is taken from a transport whose task has ended, and it writes nothing. -/
theorem Delivered.later (h : Delivered moves effects)
    (hended : (moves.foldl after {}).phase = .ended) (hsteps : steps [move] = []) :
    Delivered (moves ++ [move]) effects := by
  have hnone : (moves.foldl after {}).taken? move = none := taken?_of_ended hended
  refine ⟨by rw [taken_concat_of_none hnone]; exact h.written_first, fun hlast => ?_⟩
  rw [taken_untilClose_concat_of_none hnone]
  apply h.closed
  rw [lastWasWrite, steps_append, hsteps, List.append_nil] at hlast
  exact hlast

/-- The step that ends a task. -/
theorem Ordered.delivered (h : Ordered moves effects s)
    (hgoing : (moves.foldl after {}).phase ≠ .ended) (hmoves : s.Moves move more s')
    (hearlier : s.phase ≠ .ended) (hended : s'.phase = .ended) :
    Delivered (moves ++ [move]) (effects ++ more) := by
  obtain ⟨hframes, listening, step, rfl, hwrote⟩ := hmoves.ends hearlier hended
  have hnone : (moves.foldl after {}).taken? (.task listening step) = none := rfl
  refine ⟨?_, fun hlast => ?_⟩
  · rw [frames_append, hframes, List.append_nil, taken_concat_of_none hnone, h.taken_eq hgoing]
    exact List.prefix_append _ _
  · obtain rfl : step = .wrote none := by simpa [lastWasWrite] using hlast
    obtain ⟨hnext, hmore⟩ := hwrote rfl
    rw [taken_untilClose_concat_of_none hnone, h.taken_untilClose_eq hgoing hnext, frames_append,
      hframes, List.append_nil, written_append, hmore]
    exact ⟨rfl, _, rfl, h.unclosed⟩

theorem Run.delivered (run : Run {} moves effects s) (hended : s.phase = .ended) :
    Delivered moves effects := by
  generalize hstart : ({} : Socket) = start at run
  induction run with
  | nil => exact absurd (hstart ▸ hended) nofun
  | @snoc moves effects more s s' move run hmoves ih =>
      subst hstart
      by_cases hearlier : s.phase = .ended
      · rw [(hmoves.ended hearlier).2, List.append_nil]
        refine (ih hearlier).later (run.eq_foldl ▸ hearlier) ?_
        cases hmoves with
        | sent | closed | dropped => rfl
        | @stepped listening step hawaits => cases step <;> simp [Awaits, hearlier] at hawaits
      · exact (run.ordered hearlier).delivered (run.eq_foldl ▸ hearlier) hmoves hearlier hended

theorem Run.written_first (run : Run {} moves effects s) : frames effects <+: taken {} moves := by
  by_cases hended : s.phase = .ended
  · exact (run.delivered hended).written_first
  · rw [(run.ordered hended).taken_eq (run.eq_foldl ▸ hended)]
    exact List.prefix_append _ _

/-! ## Closing -/

theorem Run.cons {middle : Socket} (h : s.Moves move more middle)
    (run : Run middle moves effects s') : Run s (move :: moves) (more ++ effects) s' := by
  induction run with
  | nil => exact (List.append_nil more).symm ▸ Run.nil.snoc h
  | snoc _ hmoves ih => exact (List.append_assoc more _ _) ▸ ih.snoc hmoves

/-- A connected task with an order to close never has to wait, and gets there by writing alone. -/
theorem exists_closing_run (hphase : s.phase = .connected) (hclose : .close ∈ s.waiting) :
    ∃ count effects s', Run s (List.replicate count (.task true (.wrote none))) effects s' ∧
      s'.phase = .ended := by
  induction horders : s.orders generalizing s with
  | nil =>
      have hheld : s.held = false := by simpa [waiting, horders] using hclose
      have hmoves : s.Moves (.task true (.wrote none)) _ _ :=
        .stepped ⟨hphase, by simp [nextOrder?, horders, hheld]⟩
      exact ⟨1, _, _, .cons hmoves .nil, by simp [Socket.step, hphase, carryOut, nextOrder?, horders,
        hheld, endWith]⟩
  | cons order orders ih =>
      have hmoves : s.Moves (.task true (.wrote none)) _ _ :=
        .stepped ⟨hphase, by simp [nextOrder?, horders]⟩
      cases order with
      | close =>
          exact ⟨1, _, _, .cons hmoves .nil, by simp [Socket.step, hphase, carryOut, nextOrder?, horders,
            endWith]⟩
      | frame bytes =>
          have hstep : (s.step true (.wrote none)).2 = { s with orders := orders } := by
            simp [Socket.step, hphase, carryOut, nextOrder?, horders]
          rw [hstep] at hmoves
          have hrest : .close ∈ waiting { s with orders := orders } := by
            simpa [waiting, horders] using hclose
          obtain ⟨count, effects, s', run, hended⟩ := @ih { s with orders := orders } hphase hrest rfl
          exact ⟨count + 1, _, s', run.cons hmoves, hended⟩

theorem close_mem_given (hcloses : ∃ move ∈ moves, move.closes) : .close ∈ given moves := by
  obtain ⟨move, hmem, hcloses⟩ := hcloses
  refine List.mem_filterMap.mpr ⟨move, hmem, ?_⟩
  cases move with
  | close | drop => rfl
  | send | task => cases hcloses

theorem Ordered.close_mem_waiting (h : Ordered moves effects s)
    (hcloses : ∃ move ∈ moves, move.closes) : .close ∈ s.waiting := by
  have hgiven := close_mem_given hcloses
  rw [h.given_eq] at hgiven
  exact (List.mem_append.mp hgiven).resolve_left (by simp)

/-- However sends, an order to close and what comes in follow on each other, the frames written are
the first of those that were taken. If an order ends the task, it was to close, all frames taken
before it are written, and then a close frame, once. A connected task can get there by its orders
alone as soon as it is told to close. After its end nothing is written and nothing is taken. -/
theorem frames_written_in_order (run : Run {} moves effects s) :
    frames effects <+: taken {} moves ∧
      (s.phase = .ended → lastWasWrite moves →
        frames effects = taken {} (untilClose moves) ∧
          ∃ before, written effects = before ++ [.close none] ∧ before.any isClose = false) ∧
      (s.phase = .connected → (∃ move ∈ moves, move.closes) →
        ∃ count more s', Run s (List.replicate count (.task true (.wrote none))) more s' ∧
          s'.phase = .ended) ∧
      (s.phase = .ended → ∀ later more s', Run s later more s' →
        more = [] ∧ ∀ frame, s'.send frame = .error (.refused "socket task has exited")) := by
  refine ⟨run.written_first, fun hended => (run.delivered hended).closed, fun hphase hcloses => ?_,
    fun hended later more s' hlater => ?_⟩
  · have hordered := run.ordered (by simp [hphase])
    exact exists_closing_run hphase (hordered.close_mem_waiting hcloses)
  · obtain ⟨hphase, hsilent⟩ := hlater.ended hended
    exact ⟨hsilent, send_of_ended hphase⟩

/-- A frame is sent before the socket is open, another one behind the order to close, and a ping and
a message come in between. -/
theorem frames_written_until_close :
    ∃ effects s, Run {} [.send [1], .task true .connected, .send [2],
        .task true (.received (.ping [9])), .task true (.wrote none), .close, .send [3],
        .task true (.wrote none), .task true (.received (.binary [7])), .task true (.wrote none)]
        effects s ∧
      s.phase = .ended ∧ frames effects = [[1], [2]] ∧ (frames effects <+: [[1], [2], [3]]) ∧
      (∃ before, written effects = before ++ [.close none] ∧ before.any isClose = false) ∧
      s.send [4] = .error (.refused "socket task has exited") := by
  have run := (((((((((((@Run.nil {}).snoc (@Moves.sent _ [1] rfl)).snoc
    (@Moves.stepped _ true .connected rfl)).snoc (@Moves.sent _ [2] rfl)).snoc
    (@Moves.stepped _ true (.received (.ping [9])) rfl)).snoc
    (@Moves.stepped _ true (.wrote none) ⟨rfl, rfl⟩)).snoc (.closed rfl)).snoc
    (@Moves.sent _ [3] rfl)).snoc (@Moves.stepped _ true (.wrote none) ⟨rfl, rfl⟩)).snoc
    (@Moves.stepped _ true (.received (.binary [7])) rfl)).snoc
    (@Moves.stepped _ true (.wrote none) ⟨rfl, rfl⟩))
  obtain ⟨hfirst, hclosed, -, hlater⟩ := frames_written_in_order run
  obtain ⟨hframes, hclose⟩ := hclosed rfl rfl
  exact ⟨_, _, run, rfl, hframes, hfirst, hclose, (hlater rfl [] [] _ .nil).2 [4]⟩

end GatewayClient.Socket
