import GatewayClient.Proofs.Bootstrap.Observation
import GatewayClient.Proofs.Connection.Likeness
import GatewayClient.Proofs.Gateway.Ledger
/-!
# Removals

A handler that was removed is not called again, although the connection may still have it for a
while. To everybody else the actor is one whose connection never had the handler.
-/

namespace GatewayClient.Gateway

open Connection (Act Effect Likeness Operation Answer Surroundings Moment Slot)

variable {ticket : Ticket} {c c' : Connection Ticket} {world : Surroundings}

/-! ## Connections without a handler -/

/-- A connection that lacks one handler. -/
def lacking (ticket : Ticket) : Likeness Ticket := { keeps := (· != ticket) }

/-- Whether an effect is not a call of the handler. -/
def spares (ticket : Ticket) (effect : Effect Ticket) : Bool := calledTicket? effect != some ticket

@[simp] theorem spares_ready (handler : Ticket) :
    spares ticket (.ready handler) = (handler != ticket) := rfl

@[simp] theorem spares_disconnected (handler : Ticket) (reconnect : Bool) :
    spares ticket (.disconnected handler reconnect) = (handler != ticket) := rfl

theorem spares_of_admits {g : Gateway} {effect : Effect Ticket} (hremoved : ticket ∈ g.removed)
    (hadmits : g.admits effect = true) : spares ticket effect = true := by
  rw [spares, bne_iff_ne]
  rintro hcalled
  simp [admits, hcalled, hremoved] at hadmits

theorem effects_act (act : Act Ticket) :
    ((lacking ticket).act act).effects = act.effects.filter (spares ticket) := by
  cases act with
  | calledReady handlers | calledDisconnect handlers reconnect =>
      simp [Likeness.act, Act.effects, List.filter_map, Function.comp_def, lacking]
  | _ => simp [Likeness.act, Act.effects, List.filter_cons, lacking, spares, calledTicket?]

theorem effects_map {α β : Type} (turn : Connection.Turn (Moment Ticket) α) (f : α → β) :
    (turn.map (lacking ticket).moment f).effects = turn.effects.filter (spares ticket) := by
  simp [Connection.Turn.effects, Connection.Turn.map, List.flatMap_map, List.filter_flatMap,
    Likeness.moment, effects_act]

theorem operation_lacking (operation : Operation Ticket) :
    (lacking ticket).operation operation = operation := by
  cases operation <;> simp [Likeness.operation, lacking]

theorem world_lacking (world : Surroundings) :
    (lacking ticket : Likeness Ticket).world world = world := by
  simp [Likeness.world, lacking]

/-- Whatever does not add the handler does the same to a connection without it. -/
theorem apply_lacking {operation : Operation Ticket}
    (hadds : ∀ slot : Slot, slot.adds? operation ≠ some ticket) :
    ((lacking ticket).connection c).apply world operation =
      (c.apply world operation).map (lacking ticket).moment (lacking ticket).outcome := by
  have hallows : (lacking ticket).Allows operation := by
    cases operation with
    | addReady handler => simpa [Likeness.Allows, lacking, Slot.adds?] using hadds .ready
    | addDisconnect handler =>
        simpa [Likeness.Allows, lacking, Slot.adds?] using hadds .reconnect
    | _ => trivial
  have happly := Likeness.apply_eq c world operation hallows
  rwa [operation_lacking, world_lacking] at happly

/-- A handle of the handler is one of nobody else. -/
theorem unregister_lacking {registry : Registry Ticket} {handle : Handle}
    (howns : registry.Owns handle ticket) :
    ((lacking ticket).registry registry).unregister handle =
      (lacking ticket).registry registry := by
  have hall : (registry.entries.filter (·.2 != ticket)).filter (·.1 != handle) =
      registry.entries.filter (·.2 != ticket) := by
    refine List.filter_eq_self.mpr fun entry hentry => ?_
    obtain ⟨hentry, hother⟩ := List.mem_filter.mp hentry
    exact bne_iff_ne.mpr fun hsame => bne_iff_ne.mp hother (howns.owner entry hentry hsame)
  exact congrArg (fun entries => { registry with entries }) hall

theorem withdraw_lacking (operation : Operation Ticket) (answer : Answer) :
    withdraw ((lacking ticket).connection c) operation answer =
      (lacking ticket).connection (withdraw c operation answer) := by
  unfold withdraw
  split
  · simp [Connection.removeReady, Likeness.connection, Likeness.unregister_registry]
  · simp [Connection.removeDisconnect, Likeness.connection, Likeness.unregister_registry]
  · rfl

/-! ## Gateways without a handler -/

/-- The same gateway, but its connection does not have the handler. -/
def without (g : Gateway) (ticket : Ticket) : Gateway :=
  { g with connection := g.connection.map (lacking ticket).connection }

theorem tell_without (g : Gateway) (ticket : Ticket) (operation : Operation Ticket) :
    (g.without ticket).tell? operation = (g.tell? operation).map (·.without ticket) := by
  obtain ⟨connection⟩ := g
  cases connection <;> rfl

theorem request_without (g : Gateway) (ticket : Ticket) (operation : Ticket → Operation Ticket) :
    (g.without ticket).request? operation =
      (g.request? operation).map fun (other, g) => (other, g.without ticket) := by
  obtain ⟨connection⟩ := g
  cases connection <;> rfl

theorem remove_without (g : Gateway) (ticket other : Ticket) (operation : Operation Ticket) :
    (g.without ticket).remove other operation = (g.remove other operation).without ticket := by
  obtain ⟨connection⟩ := g
  cases connection <;> rfl

theorem emit_without (g : Gateway) (ticket : Ticket) (generation : Nat)
    (event : Connection.Event) :
    ((g.without ticket).emit generation event).2 = (g.emit generation event).2.without ticket := by
  obtain ⟨connection⟩ := g
  cases connection <;> rfl

theorem nextWork_without (g : Gateway) (ticket : Ticket) (c : Connection Ticket) (now : Instant) :
    (g.without ticket).nextWork? ((lacking ticket).connection c) now =
      (g.nextWork? c now).map fun (work, g) => (work, g.without ticket) := by
  -- What is due does not depend on handlers.
  have hdue : ((lacking ticket).connection c).nextDeadline = c.nextDeadline := rfl
  unfold nextWork?
  simp only [without, hdue]
  split
  · rfl
  · rfl
  · simp only [apply_ite (Option.map _)]
    rfl

theorem reply_without (g : Gateway) (ticket : Ticket) (command : Command) (answer : Answer)
    (c : Connection Ticket) :
    (g.without ticket).reply command answer ((lacking ticket).connection c) =
      ((g.reply command answer c).1, (lacking ticket).connection (g.reply command answer c).2) := by
  simp only [reply, without, withdraw_lacking]
  split
  · split <;> rfl
  · rfl

/-! ## Actors without a handler -/

def Progress.without (progress : Progress) (ticket : Ticket) : Progress :=
  { progress with rest := progress.rest.filter (spares ticket),
                  result := progress.result.map (lacking ticket).outcome }

theorem Progress.ofTurn_map (work : Work)
    (turn : Connection.Turn (Moment Ticket) (Answer × Connection Ticket)) :
    Progress.ofTurn work (turn.map (lacking ticket).moment (lacking ticket).outcome) =
      (Progress.ofTurn work turn).without ticket := by
  rw [ofTurn, effects_map]
  rfl

namespace Actor

/-- The same actor, but its connection does not have the handler, nor is the handler called in the
turn that the driver is in the middle of. -/
def without (a : Actor) (ticket : Ticket) : Actor :=
  { a with gateway := a.gateway.without ticket, turn := a.turn.map (·.without ticket) }

variable {a b z : Actor} {call : Call} {move : Move} {moves : List Move} {seen : List Happening}

theorem after_without (a : Actor) (ticket : Ticket) (call : Call) :
    (a.without ticket).after? call = (a.after? call).map (·.without ticket) := by
  cases call with
  | start | shutdown =>
      simp only [after?, without, tell_without]
      cases a.gateway.tell? _ <;> rfl
  | ask request =>
      simp only [after?, without, request_without]
      cases a.gateway.request? _ <;> rfl
  | take other =>
      simp only [after?, apply_ite (Option.map _)]
      rfl
  | cancel other =>
      simp only [after?, apply_ite (Option.map _)]
      rfl
  | removeReady subscription | removeDisconnect subscription =>
      simp only [after?, apply_ite (Option.map _), removeReady, removeDisconnect, without,
        remove_without]
      rfl
  | abandon => rfl
  | report generation event =>
      simp only [after?, without, emit_without]
      rfl

theorem begin_without (h : a.Sound) (hremoved : ticket ∈ a.gateway.removed)
    (world : Surroundings) :
    (a.without ticket).begin? world = (a.begin? world).map (·.without ticket) := by
  cases hconnection : a.gateway.connection with
  | none => simp [begin?, without, Gateway.without, hconnection]
  | some c =>
      have hwithout : (a.gateway.without ticket).connection =
          some ((lacking ticket).connection c) := by
        simp [Gateway.without, hconnection]
      cases hwork : a.gateway.nextWork? c world.now with
      | none => simp [begin?, without, hwithout, hconnection, nextWork_without, hwork]
      | some next =>
          obtain ⟨work, gateway⟩ := next
          have hadds := h.not_adds hremoved (takes_of_nextWork hwork)
          simp only [begin?, without, hwithout, hconnection, nextWork_without, hwork,
            Option.bind_eq_bind, Option.bind_some, Option.map_some, apply_lacking hadds,
            Progress.ofTurn_map]

theorem finish_without (a : Actor) (ticket : Ticket) (progress : Progress) :
    (a.without ticket).finish (progress.without ticket) =
      ((a.finish progress).1, (a.finish progress).2.without ticket) := by
  obtain ⟨⟨command, last⟩, rest, result, calling⟩ := progress
  cases result with
  | none => rfl
  | some outcome =>
      obtain ⟨answer, c⟩ := outcome
      simp only [finish, Progress.without, without, Option.map_some, Likeness.outcome,
        reply_without]
      cases last <;> rfl

/-- Effects that do not take place anyway may be left out. -/
theorem dropWhile_filter_spares {g : Gateway} (hremoved : ticket ∈ g.removed)
    (effects : List (Effect Ticket)) :
    (effects.filter (spares ticket)).dropWhile (!g.admits ·) =
      (effects.dropWhile (!g.admits ·)).filter (spares ticket) := by
  induction effects with
  | nil => rfl
  | cons effect effects ih =>
      cases hadmits : g.admits effect with
      | true =>
          have hspares := spares_of_admits hremoved hadmits
          simp [hspares, hadmits]
      | false =>
          cases hspares : spares ticket effect <;> simp [hspares, hadmits, ih]

theorem proceed_without (hremoved : ticket ∈ a.gateway.removed) (progress : Progress) :
    (a.without ticket).proceed (progress.without ticket) =
      ((a.proceed progress).1, (a.proceed progress).2.without ticket) := by
  have hrest : (progress.without ticket).rest.dropWhile (!(a.without ticket).gateway.admits ·) =
      (progress.rest.dropWhile (!a.gateway.admits ·)).filter (spares ticket) :=
    dropWhile_filter_spares hremoved progress.rest
  unfold proceed
  rw [hrest]
  cases hdrop : progress.rest.dropWhile (!a.gateway.admits ·) with
  | nil => exact finish_without a ticket progress
  | cons effect rest =>
      have hspares := spares_of_admits hremoved (admits_of_dropWhile hdrop)
      rw [List.filter_cons_of_pos hspares]
      cases effect <;> rfl

/-- To the others the moves are the same. -/
theorem step_without (h : a.Sound) (hremoved : ticket ∈ a.gateway.removed) (move : Move) :
    (a.without ticket).step? move =
      (a.step? move).map fun (seen, b) => (seen, b.without ticket) := by
  cases move with
  | call call =>
      simp only [step?, after_without]
      cases a.after? call <;> rfl
  | drive world =>
      cases hturn : a.turn with
      | none =>
          have hnone : (a.without ticket).turn = none := by simp [without, hturn]
          simp only [step?, hturn, hnone, begin_without h hremoved]
          cases a.begin? world <;> rfl
      | some progress =>
          have hsome : (a.without ticket).turn = some (progress.without ticket) := by
            simp [without, hturn]
          simp only [step?, hturn, hsome, proceed_without hremoved]
          rfl
  | panic =>
      cases hturn : a.turn with
      | none =>
          have hnone : (a.without ticket).turn = none := by simp [without, hturn]
          simp only [step?, hturn, hnone]
          rfl
      | some progress =>
          have hsome : (a.without ticket).turn = some (progress.without ticket) := by
            simp [without, hturn]
          simp only [step?, hturn, hsome, apply_ite (Option.map _)]
          rfl

/-! ## Plays after a removal -/

theorem removed_step (hremoved : ticket ∈ a.gateway.removed)
    (hstep : a.step? move = some (seen, b)) : ticket ∈ b.gateway.removed := by
  rcases step_cases hstep with ⟨call, -, hcall, -⟩ | hdrives
  · exact (calls_of_after hcall).frame.2.2 hremoved
  · exact hdrives.frame.1 ▸ hremoved

theorem removed_play (hremoved : ticket ∈ a.gateway.removed)
    (hplay : a.play moves = some (seen, z)) : ticket ∈ z.gateway.removed :=
  play_preserves (fun _ a => ticket ∈ a.gateway.removed) [] (fun _ => removed_step) hremoved
    hplay

theorem play_without (h : a.Sound) (hremoved : ticket ∈ a.gateway.removed) (moves : List Move) :
    (a.without ticket).play moves =
      (a.play moves).map fun (seen, z) => (seen, z.without ticket) := by
  induction moves generalizing a with
  | nil => rfl
  | cons move moves ih =>
      simp only [play, step_without h hremoved]
      cases hstep : a.step? move with
      | none => rfl
      | some next =>
          obtain ⟨seen, b⟩ := next
          simp only [Option.map_some, Option.bind_eq_bind, Option.bind_some,
            ih (h.step hstep) (removed_step hremoved hstep)]
          cases b.play moves <;> rfl

theorem silent_step (hremoved : ticket ∈ a.gateway.removed)
    (hstep : a.step? move = some (seen, b)) :
    ∀ happening ∈ seen, callee? happening ≠ some ticket := by
  rcases step_cases hstep with ⟨call, -, -, rfl⟩ | hdrives
  · exact List.forall_mem_nil _
  · cases hdrives with
    | did _ hrest =>
        refine List.forall_mem_singleton.mpr ?_
        exact bne_iff_ne.mp (spares_of_admits hremoved (admits_of_dropWhile hrest))
    | finished _ _ _ hreply =>
        rcases reply_cases hreply with ⟨_, -, rfl, -⟩ | ⟨rfl, -⟩ | ⟨-, rfl, -⟩ <;> simp [callee?]
    | _ => exact List.forall_mem_nil _

theorem silent_play (hremoved : ticket ∈ a.gateway.removed)
    (hplay : a.play moves = some (seen, z)) :
    ∀ happening ∈ seen, callee? happening ≠ some ticket := by
  refine (play_preserves (fun seen a =>
    ticket ∈ a.gateway.removed ∧ ∀ happening ∈ seen, callee? happening ≠ some ticket) []
    (fun _ h hstep => ⟨removed_step h.1 hstep, ?_⟩) ⟨hremoved, List.forall_mem_nil _⟩ hplay).2
  exact List.forall_mem_append.mpr ⟨h.2, silent_step h.1 hstep⟩

/-- The handler with a ticket is not called any more, whatever happens. -/
structure Silenced (ticket : Ticket) (removal : Operation Ticket) (a : Actor) : Prop where
  silent : ∀ moves seen z, a.play moves = some (seen, z) →
    ∀ happening ∈ seen, callee? happening ≠ some ticket
  /-- All others see what they would see without the handler. -/
  absent : ∀ moves, (a.without ticket).play moves =
    (a.play moves).map fun (seen, z) => (seen, z.without ticket)
  /-- Without the handler its removal, which may still be queued, does nothing. -/
  idle : ∀ moves seen z c, a.play moves = some (seen, z) → z.gateway.connection = some c →
    ∀ world, ((lacking ticket).connection c).apply world removal =
      pure (.none, (lacking ticket).connection c)

theorem owns_play (slot : Slot) {handle : Handle} (h : a.Sound)
    (howns : ∀ c, a.gateway.connection = some c → (slot.registry c).Owns handle ticket)
    (hplay : a.play moves = some (seen, z)) :
    ∀ c, z.gateway.connection = some c → (slot.registry c).Owns handle ticket :=
  (play_preserves (fun _ a => a.Sound ∧
    ∀ c, a.gateway.connection = some c → (slot.registry c).Owns handle ticket) []
    (fun _ h hstep => ⟨h.1.step hstep, h.1.owns_step hstep h.2⟩) ⟨h, howns⟩ hplay).2

theorem apply_removeReady {handle : Handle} (howns : c.readyHandlers.Owns handle ticket) :
    ((lacking ticket).connection c).apply world (.removeReady handle) =
      pure (.none, (lacking ticket).connection c) := by
  simp [Connection.apply, Connection.removeReady, Likeness.connection, unregister_lacking howns]

theorem apply_removeDisconnect {handle : Connection.DisconnectHandle}
    (hno : c.noReconnectHandlers.Owns handle.noReconnect ticket)
    (hyes : c.reconnectHandlers.Owns handle.reconnect ticket) :
    ((lacking ticket).connection c).apply world (.removeDisconnect handle) =
      pure (.none, (lacking ticket).connection c) := by
  simp [Connection.apply, Connection.removeDisconnect, Likeness.connection,
    unregister_lacking hno, unregister_lacking hyes]

/-- A ready handler is removed by the caller that has its handle. -/
theorem after_removeReady {subscription : ReadySubscription}
    (hcall : a.after? (.removeReady subscription) = some b) :
    subscription.ticket ∈ b.gateway.removed ∧ ∃ receipt ∈ a.receipts,
      receipt.ticket = subscription.ticket ∧
        receipt.answer.handle? = some subscription.handle := by
  simp only [after?, Option.ite_none_right_eq_some, Option.some.injEq] at hcall
  obtain ⟨hholds, rfl⟩ := hcall
  obtain ⟨receipt, hreceipt, -, hticket, hhandle⟩ := exists_receipt_of_holds hholds
  exact ⟨by simp [forget, removeReady, removed_remove], receipt, hreceipt, hticket, hhandle⟩

/-- A disconnect handler is removed by the caller that has its handles. -/
theorem after_removeDisconnect {subscription : DisconnectSubscription}
    (hcall : a.after? (.removeDisconnect subscription) = some b) :
    subscription.ticket ∈ b.gateway.removed ∧ ∃ receipt ∈ a.receipts,
      receipt.ticket = subscription.ticket ∧
        receipt.answer.disconnectHandle? = some subscription.handle := by
  simp only [after?, Option.ite_none_right_eq_some, Option.some.injEq] at hcall
  obtain ⟨hholds, rfl⟩ := hcall
  obtain ⟨receipt, hreceipt, -, hticket, hhandle⟩ := exists_receipt_of_holds hholds
  exact ⟨by simp [forget, removeDisconnect, removed_remove], receipt, hreceipt, hticket, hhandle⟩

theorem Sound.silenced_removeReady (h : a.Sound) {subscription : ReadySubscription}
    (hcall : a.after? (.removeReady subscription) = some b) :
    Silenced subscription.ticket (.removeReady subscription.handle) b := by
  obtain ⟨hremoved, receipt, hreceipt, hticket, hhandle⟩ := after_removeReady hcall
  have hsound := h.calls (calls_of_after hcall)
  have hconnection := (calls_of_after hcall).frame.2.1
  refine ⟨fun _ _ _ => silent_play hremoved, play_without hsound hremoved, ?_⟩
  intro moves seen z c hplay hc world
  refine apply_removeReady (owns_play .ready hsound (fun c hc => ?_) hplay c hc)
  exact hticket ▸ h.owns .ready hreceipt hhandle (hconnection ▸ hc)

theorem Sound.silenced_removeDisconnect (h : a.Sound) {subscription : DisconnectSubscription}
    (hcall : a.after? (.removeDisconnect subscription) = some b) :
    Silenced subscription.ticket (.removeDisconnect subscription.handle) b := by
  obtain ⟨hremoved, receipt, hreceipt, hticket, hhandle⟩ := after_removeDisconnect hcall
  have hsound := h.calls (calls_of_after hcall)
  have hconnection := (calls_of_after hcall).frame.2.1
  refine ⟨fun _ _ _ => silent_play hremoved, play_without hsound hremoved, ?_⟩
  intro moves seen z c hplay hc world
  -- The handler is in two registries, under a handle in each.
  refine apply_removeDisconnect
    (owns_play .noReconnect hsound (fun c hc => ?_) hplay c hc)
    (owns_play .reconnect hsound (fun c hc => ?_) hplay c hc)
  · exact hticket ▸ h.owns .noReconnect hreceipt
      (congrArg (Option.map Connection.DisconnectHandle.noReconnect) hhandle) (hconnection ▸ hc)
  · exact hticket ▸ h.owns .reconnect hreceipt
      (congrArg (Option.map Connection.DisconnectHandle.reconnect) hhandle) (hconnection ▸ hc)

end Actor

end GatewayClient.Gateway

namespace GatewayClient.Bootstrap

open Gateway (Actor Move Happening)

variable {front : Bootstrap} {a b z : Actor} {seen others : List Happening}
  {moves earlier later : List Move}

/-! ## Bootstraps -/

/-- A bootstrap whose handlers are removed does not change. -/
theorem foldl_observe_of_removed (hremoved : front.tickets ⊆ a.gateway.removed)
    (hplay : a.play moves = some (seen, z)) : seen.foldl observe front = front :=
  foldl_observe_eq_self fun happening hmem _ hticket =>
    Actor.silent_play (hremoved hticket) hplay happening hmem

/-- The calls by which a bootstrap is unmounted. -/
def removals (front : Bootstrap) : List Move :=
  (front.ready.map fun subscription => .call (.removeReady subscription)).toList ++
    (front.disconnect.map fun subscription => .call (.removeDisconnect subscription)).toList

theorem gateway_of_removeReady {subscription : ReadySubscription}
    (h : a.step? (.call (.removeReady subscription)) = some (seen, b)) :
    b.gateway = a.gateway.removeReady subscription := by
  simp only [Actor.step?, Actor.after?, Option.bind_eq_bind, Option.bind_eq_some_iff,
    Option.ite_none_right_eq_some, Option.some.injEq, Prod.mk.injEq] at h
  obtain ⟨_, ⟨-, rfl⟩, -, rfl⟩ := h
  rfl

theorem gateway_of_removeDisconnect {subscription : DisconnectSubscription}
    (h : a.step? (.call (.removeDisconnect subscription)) = some (seen, b)) :
    b.gateway = a.gateway.removeDisconnect subscription := by
  simp only [Actor.step?, Actor.after?, Option.bind_eq_bind, Option.bind_eq_some_iff,
    Option.ite_none_right_eq_some, Option.some.injEq, Prod.mk.injEq] at h
  obtain ⟨_, ⟨-, rfl⟩, -, rfl⟩ := h
  rfl

/-- The removals are those of an unmount, with nothing in between. -/
theorem gateway_of_removals (h : a.play front.removals = some (seen, b)) :
    b.gateway = (front.unmount a.gateway).2 := by
  obtain ⟨_, c, _, hfirst, hrest, -⟩ := Actor.play_append.mp h
  have hready : c.gateway = front.ready.elim a.gateway a.gateway.removeReady := by
    cases hsubscription : front.ready with
    | none =>
        rw [hsubscription] at hfirst
        obtain ⟨-, rfl⟩ := Prod.mk.inj (Option.some.inj hfirst)
        rfl
    | some subscription =>
        rw [hsubscription] at hfirst
        exact gateway_of_removeReady (Actor.play_singleton ▸ hfirst)
  have hdisconnect : b.gateway = front.disconnect.elim c.gateway c.gateway.removeDisconnect := by
    cases hsubscription : front.disconnect with
    | none =>
        rw [hsubscription] at hrest
        obtain ⟨-, rfl⟩ := Prod.mk.inj (Option.some.inj hrest)
        rfl
    | some subscription =>
        rw [hsubscription] at hrest
        exact gateway_of_removeDisconnect (Actor.play_singleton ▸ hrest)
  rw [hdisconnect, hready, unmount]
  cases front.ready <;> cases front.disconnect <;> rfl

end GatewayClient.Bootstrap

namespace GatewayClient.Gateway.Actor

variable {ticket : Ticket} {a b z : Actor} {call : Call} {moves : List Move}
  {seen : List Happening}

/-- A handler that is removed by a call of a play is removed at its end. -/
theorem removed_of_mem (hcall : .call call ∈ moves) (hplay : a.play moves = some (seen, z))
    (hremoves : ∀ {a b : Actor}, a.after? call = some b → ticket ∈ b.gateway.removed) :
    ticket ∈ z.gateway.removed := by
  obtain ⟨earlier, later, rfl⟩ := List.append_of_mem hcall
  obtain ⟨_, _, _, -, hlater, -⟩ := play_append.mp hplay
  obtain ⟨_, _, _, hstep, hrest, -⟩ := play_cons.mp hlater
  obtain ⟨_, hafter, hsome⟩ := Option.bind_eq_some_iff.mp hstep
  obtain ⟨-, rfl⟩ := Prod.mk.inj (Option.some.inj hsome)
  exact removed_play (hremoves hafter) hrest

theorem tickets_subset_of_removals {front : Bootstrap}
    (hready : front.ready.map (·.ticket) = front.onReady)
    (hdisconnect : front.disconnect.map (·.ticket) = front.onDisconnect)
    (hremovals : front.removals ⊆ moves) (hplay : a.play moves = some (seen, z)) :
    front.tickets ⊆ z.gateway.removed := by
  intro ticket hticket
  rw [Bootstrap.tickets, ← hready, ← hdisconnect] at hticket
  rcases List.mem_append.mp hticket with hticket | hticket
  · obtain ⟨subscription, hsubscription, rfl⟩ :=
      Option.map_eq_some_iff.mp (Option.mem_toList.mp hticket)
    refine removed_of_mem (hremovals (List.mem_append_left _ ?_)) hplay
      fun hafter => (after_removeReady hafter).1
    simp [hsubscription]
  · obtain ⟨subscription, hsubscription, rfl⟩ :=
      Option.map_eq_some_iff.mp (Option.mem_toList.mp hticket)
    refine removed_of_mem (hremovals (List.mem_append_right _ ?_)) hplay
      fun hafter => (after_removeDisconnect hafter).1
    simp [hsubscription]

/-- Removals take effect at once. -/
structure RemovesAtOnce (a : Actor) : Prop where
  ready : ∀ subscription b, a.after? (.removeReady subscription) = some b →
    Silenced subscription.ticket (.removeReady subscription.handle) b
  disconnect : ∀ subscription b, a.after? (.removeDisconnect subscription) = some b →
    Silenced subscription.ticket (.removeDisconnect subscription.handle) b
  /-- Once both handlers of a bootstrap were removed, whatever happened meanwhile, the bootstrap
  does not change any more. -/
  bootstrap : ∀ (front : Bootstrap) (earlier later : List Move) (seen others : List Happening)
    (b z : Actor), front.ready.map (·.ticket) = front.onReady →
      front.disconnect.map (·.ticket) = front.onDisconnect → front.removals ⊆ earlier →
      a.play earlier = some (seen, b) → b.play later = some (others, z) →
        others.foldl Bootstrap.observe (seen.foldl Bootstrap.observe front) =
          seen.foldl Bootstrap.observe front

/-- Whenever a handler is removed, also in the middle of a turn or from inside a handler, it is not
called any more, and the others go on as if it were absent. -/
theorem removals_take_effect_at_once {policy : RetryPolicy} {multiplier : Nat}
    (h : Reachable policy multiplier a) : a.RemovesAtOnce where
  ready _ _ := h.sound.silenced_removeReady
  disconnect _ _ := h.sound.silenced_removeDisconnect
  bootstrap front earlier later seen others b z hready hdisconnect hremovals hearlier hlater := by
    refine Bootstrap.foldl_observe_of_removed ?_ hlater
    rw [Bootstrap.tickets_foldl_observe]
    exact tickets_subset_of_removals hready hdisconnect hremovals hearlier

/-- Three callers add disconnect handlers, of which the second adds a ready handler, too. The
transport fails, and the first handler removes those of the second while it runs. -/
theorem second_removed_while_first_runs :
    ∃ seen a, (new {} 3).play
        ([.call (.ask .addDisconnect), .call (.ask .addDisconnect), .call (.ask .addReady),
          .call (.ask .addDisconnect), .call .start] ++
          List.replicate 12 (.drive (.plain 0)) ++
          [.call (.take 1), .call (.take 2), .call (.report 1 (.failed "reset"))] ++
          List.replicate 3 (.drive (.plain 1))) = some (seen, a) ∧
      (a.turn.map (·.calling), (a.play ([.call (.removeReady ⟨2, ⟨0⟩⟩),
          .call (.removeDisconnect ⟨1, ⟨⟨1⟩, ⟨1⟩⟩⟩)] ++
          List.replicate 4 (.drive (.plain 1)))).map (·.1.filterMap callee?)) =
        (some true, some [3]) ∧
      a.RemovesAtOnce :=
  Reachable.exists_of_play (fun a => (a.turn.map (·.calling),
    (a.play ([.call (.removeReady ⟨2, ⟨0⟩⟩), .call (.removeDisconnect ⟨1, ⟨⟨1⟩, ⟨1⟩⟩⟩)] ++
      List.replicate 4 (.drive (.plain 1)))).map (·.1.filterMap callee?)))
    (by decide +kernel) fun _ => removals_take_effect_at_once

end GatewayClient.Gateway.Actor
