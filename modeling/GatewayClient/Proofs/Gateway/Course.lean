import GatewayClient.Proofs.Gateway.Ledger
/-!
# The course of a turn

In the middle of a turn its outcome is settled already: what is still due, and the connection
that comes of it. As the driver goes on, what is due happens, but for calls of handlers that were
removed meanwhile.
-/

namespace GatewayClient.Gateway.Actor

open Connection (Effect Surroundings)
open Connection.Turn (Yields)

variable {a b : Actor} {call : Call} {move : Move} {seen : List Happening}
  {c c' : Connection Ticket} {world : Surroundings}

/-- What is still to happen in the turn that the driver is in the middle of. -/
def due (a : Actor) : List Happening :=
  match a.turn with
  | some progress => progress.rest.map .did
  | none => []

/-- The connection at the end of the turn, if the driver goes on then. -/
def coming (a : Actor) : Option (Connection Ticket) :=
  match a.turn with
  | some progress => if progress.work.last then none else progress.result.map (·.2)
  | none => a.gateway.connection

/-- A call does not touch the turn. -/
theorem Calls.course (h : Calls a call b) : b.due = a.due ∧ b.coming = a.coming := by
  obtain ⟨hturn, hconnection, -⟩ := h.frame
  exact ⟨by rw [due, due, hturn], by rw [coming, coming, hturn, hconnection]⟩

/-- The driver has taken up work, and with it all is settled that comes of it. -/
structure Begins (a b : Actor) (c : Connection Ticket) (work : Work) (world : Surroundings) : Prop
    where
  idle : a.turn = none
  connection : a.gateway.connection = some c
  takes : Takes a.gateway work b.gateway
  outcome : ∀ c', b.coming = some c' → work.last = false ∧ ∃ moments answer,
    (c.apply world work.command.operation).Yields moments (answer, c') ∧
      b.due = happenings moments

/-- The driver has gone on with a turn, has ended it, or has stopped. -/
structure Continues (a : Actor) (seen : List Happening) (b : Actor) : Prop where
  commands : b.gateway.commands <:+ a.gateway.commands
  /-- Nothing happens that was not due, but for answers. -/
  origin : ∀ happening ∈ seen ++ b.due,
    happening ∈ a.due ∨ ∃ ticket answer, happening = .replied ticket answer
  /-- What was due has happened or is due still. Not so with calls of removed handlers, which are
  not made, and not so if the driver stops. -/
  outcome : ∀ c', b.coming = some c' → b.gateway.commands = a.gateway.commands ∧
    (∃ c, a.coming = some c ∧ c'.phase = c.phase ∧ c'.hasTransport = c.hasTransport ∧
      c'.retryAt = c.retryAt) ∧
    ∀ relevant : Happening → Bool,
      (∀ happening, relevant happening = true →
        ∃ effect, happening = .did effect ∧ a.gateway.admits effect = true) →
      (seen ++ b.due).filter relevant = a.due.filter relevant

section

variable {relevant : Happening → Bool} {replies : List Happening}

theorem filter_due (effects : List (Effect Ticket))
    (hrelevant : ∀ happening, relevant happening = true →
      ∃ effect, happening = .did effect ∧ a.gateway.admits effect = true) :
    ((effects.dropWhile (!a.gateway.admits ·)).map Happening.did).filter relevant =
      (effects.map Happening.did).filter relevant := by
  induction effects with
  | nil => rfl
  | cons effect effects ih =>
      cases hadmits : a.gateway.admits effect with
      | true => rw [List.dropWhile_cons_of_neg (by simp [hadmits])]
      | false =>
          have hother : relevant (.did effect) = false := by
            by_contra hmem
            obtain ⟨_, hsame, htrue⟩ := hrelevant _ (eq_true_of_ne_false hmem)
            simp [← Happening.did.inj hsame, hadmits] at htrue
          rw [List.dropWhile_cons_of_pos (by simp [hadmits]), List.map_cons,
            List.filter_cons_of_neg (by simp [hother]), ih]

theorem eq_replied_of_mem {command : Command} {answer : Connection.Answer} {happening : Happening}
    (hreply : a.gateway.reply command answer c = (replies, c')) (hmem : happening ∈ replies) :
    ∃ ticket answer, happening = .replied ticket answer := by
  rcases reply_cases hreply with ⟨ticket, -, rfl, -⟩ | ⟨rfl, -⟩ | ⟨-, rfl, -⟩
  · exact ⟨ticket, answer, List.mem_singleton.mp hmem⟩
  · simp at hmem
  · simp at hmem

theorem filter_replies {command : Command} {answer : Connection.Answer}
    (hreply : a.gateway.reply command answer c = (replies, c'))
    (hrelevant : ∀ happening, relevant happening = true →
      ∃ effect, happening = .did effect ∧ a.gateway.admits effect = true) :
    replies.filter relevant = [] := by
  refine List.filter_eq_nil_iff.mpr fun happening hmem htrue => ?_
  obtain ⟨_, rfl, -⟩ := hrelevant happening htrue
  obtain ⟨_, _, hsame⟩ := eq_replied_of_mem hreply hmem
  cases hsame

end

theorem withdraw_frame (c : Connection Ticket) (operation : Connection.Operation Ticket)
    (answer : Connection.Answer) : (withdraw c operation answer).phase = c.phase ∧
      (withdraw c operation answer).hasTransport = c.hasTransport ∧
      (withdraw c operation answer).retryAt = c.retryAt := by
  unfold withdraw
  split <;> exact ⟨rfl, rfl, rfl⟩

variable {progress : Progress}

theorem continues_of_did {effect : Effect Ticket} {rest : List (Effect Ticket)}
    (hturn : a.turn = some progress)
    (hrest : progress.rest.dropWhile (!a.gateway.admits ·) = effect :: rest) :
    Continues a [.did effect] { a with
      gateway := a.gateway.afterEffect effect,
      turn := some { progress with rest, calling := (calledTicket? effect).isSome } } := by
  obtain ⟨phase, hframe⟩ := exists_phase_afterEffect a.gateway effect
  have hdue : a.due = progress.rest.map .did := by rw [due, hturn]
  rw [hframe]
  refine ⟨List.suffix_rfl, fun happening hmem => .inl ?_, fun c' hc' => ⟨rfl, ?_, ?_⟩⟩
  · rw [hdue]
    have hsuffix := (List.dropWhile_suffix (l := progress.rest) (!a.gateway.admits ·)).subset
    rw [hrest] at hsuffix
    exact List.map_subset _ hsuffix hmem
  · refine ⟨c', ?_, rfl, rfl, rfl⟩
    rw [coming, hturn]
    exact hc'
  · intro relevant hrelevant
    rw [hdue, ← filter_due progress.rest hrelevant, hrest]
    rfl

theorem continues_of_finished {answer : Connection.Answer} {replies : List Happening}
    (hturn : a.turn = some progress) (hlast : progress.work.last = false)
    (hrest : progress.rest.dropWhile (!a.gateway.admits ·) = [])
    (hresult : progress.result = some (answer, c))
    (hreply : a.gateway.reply progress.work.command answer c = (replies, c')) :
    Continues a replies { gateway := { a.gateway with connection := some c' },
                          receipts := a.receipts ++ replies.filterMap receipt? } := by
  refine ⟨List.suffix_rfl, fun happening hmem => .inr ?_, fun c'' hc'' => ⟨rfl, ?_, ?_⟩⟩
  · exact eq_replied_of_mem hreply (by simpa [due] using hmem)
  · obtain rfl := Option.some.inj hc''
    refine ⟨c, by simp [coming, hturn, hlast, hresult], ?_⟩
    rcases reply_cases hreply with ⟨_, -, -, rfl⟩ | ⟨-, rfl⟩ | ⟨-, -, rfl⟩
    · exact ⟨rfl, rfl, rfl⟩
    · exact withdraw_frame c _ _
    · exact ⟨rfl, rfl, rfl⟩
  · intro relevant hrelevant
    have hdue : a.due = progress.rest.map .did := by rw [due, hturn]
    rw [hdue, ← filter_due progress.rest hrelevant, hrest]
    simpa [due] using filter_replies hreply hrelevant

theorem continues_of_stopped {replies : List Happening} {receipts : List Receipt}
    (hreplies : ∀ happening ∈ replies, ∃ ticket answer, happening = .replied ticket answer) :
    Continues a replies { gateway := a.gateway.stop, receipts } where
  commands := List.nil_suffix
  origin happening hmem := .inr (hreplies happening (by simpa [due] using hmem))
  outcome _ hnone := by cases hnone

theorem begins_of_takes {work : Work} {gateway : Gateway} (hturn : a.turn = none)
    (hconnection : a.gateway.connection = some c) (hwork : Takes a.gateway work gateway) :
    Begins a
      { a with gateway, turn := some (.ofTurn work (c.apply world work.command.operation)) }
      c work world := by
  refine ⟨hturn, hconnection, hwork, fun c' hc' => ?_⟩
  change (if work.last then none
    else (c.apply world work.command.operation).result.map (·.2)) = some c' at hc'
  rw [Option.ite_none_left_eq_some, Bool.not_eq_true] at hc'
  obtain ⟨hlast, hsome⟩ := hc'
  obtain ⟨⟨answer, _⟩, hresult, rfl⟩ := Option.map_eq_some_iff.mp hsome
  exact ⟨hlast, _, answer, ⟨rfl, hresult⟩, rfl⟩

/-- The driver begins a turn, or goes on with one. -/
theorem begins_or_continues (h : Drives a seen b) :
    (seen = [] ∧ ∃ c work world, Begins a b c work world) ∨ Continues a seen b := by
  cases h with
  | @begun world c work gateway hturn hconnection hwork =>
      exact .inl ⟨rfl, c, work, world, begins_of_takes hturn hconnection hwork⟩
  | did hturn hrest => exact .inr (continues_of_did hturn hrest)
  | @finished progress answer c c' replies hturn hrest hresult hreply =>
      cases hlast : progress.work.last with
      | false => exact .inr (continues_of_finished hturn hlast hrest hresult hreply)
      | true => exact .inr (continues_of_stopped fun _ => eq_replied_of_mem hreply)
  | halted hturn => exact .inr (continues_of_stopped (List.forall_mem_nil _))

end GatewayClient.Gateway.Actor
