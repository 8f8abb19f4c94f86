import GatewayClient.Proofs.Gateway.Ledger
/-!
# Orphans

An orphan is a handler that is registered although nobody has been given what it takes to remove
it. The driver takes a handler back out if the caller is gone by the time it is answered, so an
orphan is left only by a caller that goes between its answer and taking it (`missed`).

Main statements: `missed_of_orphan`, `orphan_of_late_cancel`.
-/

namespace GatewayClient

namespace Registry

variable {σ : Type} {registry : Registry σ} {known known' : List (Handle × σ)}
  {leaving leaving' : List Handle} {lost lost' : List σ} {handle : Handle}

/-- Every entry is known to somebody, or about to be given back, or lost. -/
def Covered (registry : Registry σ) (known : List (Handle × σ)) (leaving : List Handle)
    (lost : List σ) : Prop :=
  ∀ entry ∈ registry.entries, entry ∈ known ∨ entry.1 ∈ leaving ∨ entry.2 ∈ lost

namespace Covered

theorem mono (h : registry.Covered known leaving lost)
    (hknown : ∀ entry ∈ known, entry ∈ known' ∨ entry.1 ∈ leaving' ∨ entry.2 ∈ lost')
    (hleaving : leaving ⊆ leaving') (hlost : lost ⊆ lost') :
    registry.Covered known' leaving' lost' := by
  intro entry hentry
  rcases h entry hentry with hmem | hmem | hmem
  · exact hknown entry hmem
  · exact .inr (.inl (hleaving hmem))
  · exact .inr (.inr (hlost hmem))

theorem register (h : registry.Covered known leaving lost) (callback : σ) :
    (registry.register callback).2.Covered (known ++ [(⟨registry.next⟩, callback)]) leaving lost := by
  intro entry hentry
  rcases List.mem_append.mp hentry with hentry | hentry
  · exact (h entry hentry).imp_left (List.mem_append_left _)
  · exact .inl (List.mem_append_right _ hentry)

theorem unregister (h : registry.Covered known (handle :: leaving) lost) :
    (registry.unregister handle).Covered known leaving lost := by
  intro entry hentry
  obtain ⟨hentry, hne⟩ := List.mem_filter.mp hentry
  exact (h entry hentry).imp_right (Or.imp_left fun hmem =>
    (List.mem_cons.mp hmem).resolve_left (bne_iff_ne.mp hne))

theorem unregister_register (h : registry.Covered known leaving lost) (callback : σ) :
    ((registry.register callback).2.unregister ⟨registry.next⟩).Covered known leaving lost := by
  intro entry hentry
  obtain ⟨hentry, hne⟩ := List.mem_filter.mp hentry
  rcases List.mem_append.mp hentry with hentry | hentry
  · exact h entry hentry
  · obtain rfl := List.mem_singleton.mp hentry
    exact absurd rfl (bne_iff_ne.mp hne)

end Covered

end Registry

namespace Gateway

open Connection (Effect Operation Answer Surroundings Moment Slot)
open Connection.Turn (Yields)

/-! ## Connections -/

/-- The handlers of a connection are accounted for by callers and commands, but for lost ones. -/
structure Accounted (c : Connection Ticket) (receipts : List Receipt) (pending : List Command)
    (lost : List Ticket) : Prop where
  registries : ∀ slot : Slot,
    (slot.registry c).Covered (knownIn slot receipts) (leavingFrom slot pending) lost

namespace Accounted

variable {c c' : Connection Ticket} {receipts : List Receipt} {pending : List Command}
  {lost : List Ticket} {command : Command} {world : Surroundings}
  {moments : List (Moment Ticket)} {answer : Answer} {ticket : Ticket}

/-- Whoever has an answer knows the handler that was added. -/
theorem answered (h : Accounted c receipts (command :: pending) lost) (hc : c.Coupled)
    (turn : (c.apply world command.operation).Yields moments (answer, c'))
    (hadds : ∀ (slot : Slot) (handler : Ticket),
      slot.adds? command.operation = some handler → handler = ticket) :
    Accounted c' (receipts ++ [⟨ticket, answer, false⟩]) pending lost := by
  refine ⟨fun slot => ?_⟩
  have hcovered := h.registries slot
  rw [knownIn_concat]
  have hchange := Slot.change_of_apply hc turn slot
  generalize slot.handle? answer = handle, slot.registry c' = registry at hchange
  cases hchange with
  | @added handler hadded hremoves =>
      obtain rfl := hadds slot handler hadded
      rw [leavingFrom_cons, hremoves] at hcovered
      exact hcovered.register handler
  | removed hadded hremoves =>
      rw [leavingFrom_cons, hremoves] at hcovered
      simpa using hcovered.unregister
  | kept hadded hremoves =>
      rw [leavingFrom_cons, hremoves] at hcovered
      simpa using hcovered

/-- A handler whose caller is gone is taken back out. -/
theorem withdrawn (h : Accounted c receipts (command :: pending) lost) (hc : c.Coupled)
    (turn : (c.apply world command.operation).Yields moments (answer, c')) :
    Accounted (withdraw c' command.operation answer) receipts pending lost := by
  refine ⟨fun slot => ?_⟩
  have hcovered := h.registries slot
  rw [registry_withdraw turn]
  have hchange := Slot.change_of_apply hc turn slot
  generalize slot.handle? answer = handle, slot.registry c' = registry at hchange
  cases hchange with
  | @added handler hadded hremoves =>
      rw [leavingFrom_cons, hremoves] at hcovered
      exact hcovered.unregister_register handler
  | removed hadded hremoves =>
      rw [leavingFrom_cons, hremoves] at hcovered
      exact hcovered.unregister
  | kept hadded hremoves =>
      rw [leavingFrom_cons, hremoves] at hcovered
      exact hcovered

/-- A command that nobody waits for adds no handler. -/
theorem unanswered (h : Accounted c receipts (command :: pending) lost) (hc : c.Coupled)
    (turn : (c.apply world command.operation).Yields moments (answer, c'))
    (hadds : ∀ slot : Slot, slot.adds? command.operation = none) :
    Accounted c' receipts pending lost := by
  have hsame : withdraw c' command.operation answer = c' := by
    unfold withdraw
    split
    · next hoperation => simpa [hoperation, Slot.adds?] using hadds .ready
    · next hoperation => simpa [hoperation, Slot.adds?] using hadds .reconnect
    · rfl
  exact hsame ▸ h.withdrawn hc turn

end Accounted

/-! ## Actors -/

namespace Actor

variable {a b z : Actor} {seen : List Happening} {lost : List Ticket}

/-- Every handler is accounted for as long as there is a connection. -/
def Accounts (a : Actor) (lost : List Ticket) : Prop :=
  ∀ c, a.gateway.connection = some c → Accounted c a.receipts a.pending lost

/-- The caller that goes in a move although it has been answered. It has not taken its answer. -/
def missed? (a : Actor) : Move → Option Ticket
  | .call (.cancel ticket) =>
    if a.receipts.any fun receipt => !receipt.taken && receipt.ticket == ticket then some ticket
    else none
  | _ => none

/-- The callers that go in the course of a play although they have been answered. -/
def missed (a : Actor) : List Move → List Ticket
  | [] => []
  | move :: moves =>
    (a.missed? move).toList ++ ((a.step? move).map fun (_, b) => b.missed moves).getD []

namespace Accounts

theorem new (policy : RetryPolicy) (multiplier : Nat) : (new policy multiplier).Accounts [] := by
  rintro _ ⟨⟩
  refine ⟨fun slot => ?_⟩
  cases slot <;> exact List.forall_mem_nil _

theorem mono {lost' : List Ticket} (h : a.Accounts lost) (hlost : lost ⊆ lost') :
    a.Accounts lost' := fun c hc =>
  ⟨fun slot => ((h c hc).registries slot).mono (fun _ hentry => .inl hentry)
    (List.Subset.refl _) hlost⟩

theorem of_same_connection (h : a.Accounts lost)
    (hconnection : b.gateway.connection = a.gateway.connection)
    (hknown : ∀ slot, ∀ entry ∈ knownIn slot a.receipts, entry ∈ knownIn slot b.receipts)
    (hpending : a.pending ⊆ b.pending) : b.Accounts lost := by
  intro c hc
  rw [hconnection] at hc
  exact ⟨fun slot => ((h c hc).registries slot).mono
    (fun entry hentry => .inl (hknown slot entry hentry)) (List.filterMap_subset _ hpending)
    (List.Subset.refl _)⟩

/-- What is removed is on its way out, and what others know stays. -/
theorem remove (h : a.Accounts lost) (hsound : a.Sound) {receipt : Receipt}
    (hreceipt : receipt ∈ a.receipts) {operation : Operation Ticket}
    (hremoves : ∀ (slot : Slot) (handle : Handle),
      slot.handle? receipt.answer = some handle → slot.removes? operation = some handle) :
    Accounts ({ a with gateway := a.gateway.remove receipt.ticket operation }.forget
      receipt.ticket) lost := by
  intro c hc
  have hconnection : a.gateway.connection = some c := (connection_remove ..).symm.trans hc
  have hpending : pending ({ a with gateway := a.gateway.remove receipt.ticket operation }.forget
      receipt.ticket) = a.pending ++ [⟨operation, none⟩] := by
    rw [Gateway.remove, tell?, if_pos (show isRunning _ = true by simp [isRunning, hconnection])]
    exact pending_push a ⟨operation, none⟩
  rw [hpending]
  refine ⟨fun slot => ((h c hconnection).registries slot).mono (fun entry hentry => ?_)
    ?_ (List.Subset.refl _)⟩
  · obtain ⟨other, hother, hsome⟩ := List.mem_filterMap.mp hentry
    by_cases hsame : other.ticket = receipt.ticket
    · obtain rfl := hsound.eq_of_ticket_eq hother hreceipt hsame
      obtain ⟨handle, hhandle, rfl⟩ := Option.map_eq_some_iff.mp hsome
      refine .inr (.inl ?_)
      simp [leavingFrom, hremoves slot handle hhandle]
    · refine .inl (List.mem_filterMap.mpr ⟨other, List.mem_filter.mpr ⟨hother, ?_⟩, hsome⟩)
      exact bne_iff_ne.mpr hsame
  · simp [leavingFrom]

/-- Calls that neither take nor remove anything at most queue commands. -/
theorem queued {call : Call} (h : a.Accounts lost) (hcalls : Calls a call b)
    (hremoves : call.removes? = none)
    (hreceives : ∀ ticket, call ≠ .take ticket ∧ call ≠ .cancel ticket) : b.Accounts lost := by
  cases hcalls with
  | told | asked =>
      exact h.of_same_connection rfl (fun _ _ => id) (by simp [pending])
  | other => exact h.of_same_connection rfl (fun _ _ => id) (List.Subset.refl _)
  | received hcall =>
      obtain ⟨ticket, hcall | hcall⟩ := hcall
      · exact absurd hcall (hreceives ticket).1
      · exact absurd hcall (hreceives ticket).2
  | removed hcall =>
      rw [hremoves] at hcall
      cases hcall

theorem taken {ticket : Ticket} (h : a.Accounts lost) (hcall : a.after? (.take ticket) = some b) :
    b.Accounts lost := by
  simp only [after?, Option.ite_none_right_eq_some, Option.some.injEq] at hcall
  obtain ⟨-, rfl⟩ := hcall
  refine h.of_same_connection rfl (fun slot entry hentry => ?_) (List.Subset.refl _)
  simpa [knownIn, List.filterMap_map] using hentry

/-- Somebody who goes with an answer untaken leaves an orphan. -/
theorem cancelled {ticket : Ticket} (h : a.Accounts lost)
    (hcall : a.after? (.cancel ticket) = some b) :
    b.Accounts ((a.missed? (.call (.cancel ticket))).toList ++ lost) := by
  simp only [after?, Option.ite_none_right_eq_some, Option.some.injEq] at hcall
  obtain ⟨-, rfl⟩ := hcall
  intro c hc
  refine ⟨fun slot => ((h c hc).registries slot).mono (fun entry hentry => ?_)
    (List.Subset.refl _) (List.subset_append_right ..)⟩
  obtain ⟨receipt, hreceipt, hsome⟩ := List.mem_filterMap.mp hentry
  cases hstays : receipt.taken || receipt.ticket != ticket with
  | true => exact .inl (List.mem_filterMap.mpr ⟨receipt, List.mem_filter.mpr ⟨hreceipt, hstays⟩, hsome⟩)
  | false =>
      obtain ⟨huntaken, rfl⟩ := by simpa using hstays
      have hany : (a.receipts.any fun other => !other.taken && other.ticket == receipt.ticket) = true :=
        List.any_eq_true.mpr ⟨receipt, hreceipt, by simp [huntaken]⟩
      obtain ⟨handle, -, rfl⟩ := Option.map_eq_some_iff.mp hsome
      refine .inr (.inr (List.mem_append_left _ ?_))
      rw [missed?, if_pos hany]
      exact List.mem_singleton_self _

theorem calls {call : Call} (h : a.Accounts lost) (hsound : a.Sound)
    (hcall : a.after? call = some b) : b.Accounts ((a.missed? (.call call)).toList ++ lost) := by
  cases call with
  | start | shutdown | ask | abandon | report =>
      exact h.queued (calls_of_after hcall) rfl fun _ => by simp
  | take ticket => exact h.taken hcall
  | cancel ticket => exact h.cancelled hcall
  | removeReady subscription =>
      simp only [after?, Option.ite_none_right_eq_some, Option.some.injEq] at hcall
      obtain ⟨hholds, rfl⟩ := hcall
      obtain ⟨receipt, hreceipt, -, hticket, hhandle⟩ := exists_receipt_of_holds hholds
      rw [removeReady, ← hticket]
      refine h.remove hsound hreceipt fun slot handle hslot => ?_
      cases hanswer : receipt.answer <;> rw [hanswer] at hhandle hslot <;> cases hhandle
      cases slot <;> cases hslot
      rfl
  | removeDisconnect subscription =>
      simp only [after?, Option.ite_none_right_eq_some, Option.some.injEq] at hcall
      obtain ⟨hholds, rfl⟩ := hcall
      obtain ⟨receipt, hreceipt, -, hticket, hhandle⟩ := exists_receipt_of_holds hholds
      rw [removeDisconnect, ← hticket]
      refine h.remove hsound hreceipt fun slot handle hslot => ?_
      cases hanswer : receipt.answer <;> rw [hanswer] at hhandle hslot <;> cases hhandle
      cases slot <;> cases hslot <;> rfl

theorem finished {progress : Progress} {answer : Answer} {c c' : Connection Ticket}
    {replies : List Happening} (h : a.Accounts lost) (hsound : a.Sound)
    (hturn : a.turn = some progress) (hresult : progress.result = some (answer, c))
    (hreply : a.gateway.reply progress.work.command answer c = (replies, c')) :
    Accounted c' (a.receipts ++ replies.filterMap receipt?) a.gateway.commands lost := by
  have hpending : a.pending = progress.work.command :: a.gateway.commands := by
    simp [pending, hturn]
  obtain ⟨before, world, hbefore, hsame⟩ := hsound.turn progress hturn
  have turn : (before.apply world progress.work.command.operation).Yields _ (answer, c) :=
    ⟨rfl, hsame ▸ hresult⟩
  have haccounted := hpending ▸ h before hbefore
  have hc := (hsound.kept before hbefore).coupled
  -- whoever adds a handler waits for its handle under the handler's own ticket
  have hlabelled := (hpending ▸ hsound.books).labelled _ List.mem_cons_self
  rcases reply_cases hreply with ⟨ticket, hticket, rfl, rfl⟩ | ⟨rfl, rfl⟩ | ⟨hticket, rfl, rfl⟩
  · refine haccounted.answered hc turn fun slot handler hadds => ?_
    exact Option.some.inj ((hlabelled slot handler hadds).symm.trans hticket)
  · rw [List.filterMap_nil, List.append_nil]
    exact haccounted.withdrawn hc turn
  · rw [List.filterMap_nil, List.append_nil]
    refine haccounted.unanswered hc turn fun slot => Option.eq_none_iff_forall_ne_some.mpr ?_
    intro handler hadds
    exact absurd (hticket.symm.trans (hlabelled slot handler hadds)) (by simp)

theorem drives (h : a.Accounts lost) (hsound : a.Sound) (hdrives : Drives a seen b) :
    b.Accounts lost := by
  cases hdrives with
  | @begun world c work gateway hturn hconnection hwork =>
      refine h.of_same_connection hwork.frame.1 (fun _ _ => id) ?_
      cases hwork with
      | command hcommands => simp [pending, hturn, hcommands, Progress.ofTurn]
      -- what the driver does by itself comes before the commands
      | event | shutdown | poll => simp [pending, hturn]
  | @did progress effect rest hturn hrest =>
      obtain ⟨phase, hframe⟩ := exists_phase_afterEffect a.gateway effect
      rw [hframe]
      exact h.of_same_connection rfl (fun _ _ => id) (by simp [pending, hturn])
  | @finished progress answer c c' replies hturn hrest hresult hreply =>
      have haccounted := h.finished hsound hturn hresult hreply
      split
      · intro _ hstopped
        cases hstopped
      · rintro _ ⟨⟩
        exact haccounted
  | halted =>
      intro c hc
      cases hc

theorem step {move : Move} (h : a.Accounts lost) (hsound : a.Sound)
    (hstep : a.step? move = some (seen, b)) : b.Accounts ((a.missed? move).toList ++ lost) := by
  rcases step_cases hstep with ⟨call, rfl, hcall, -⟩ | hdrives
  · exact h.calls hsound hcall
  · exact (h.drives hsound hdrives).mono (List.subset_append_right ..)

theorem play {moves : List Move} (h : a.Accounts lost) (hsound : a.Sound)
    (hplay : a.play moves = some (seen, z)) : z.Accounts (a.missed moves ++ lost) := by
  induction moves generalizing a lost seen with
  | nil =>
      obtain ⟨rfl, rfl⟩ := Prod.mk.inj (Option.some.inj hplay)
      exact h
  | cons move moves ih =>
      obtain ⟨first, b, rest, hstep, hrest, rfl⟩ := play_cons.mp hplay
      refine (ih (h.step hsound hstep) (hsound.step hstep) hrest).mono fun ticket hticket => ?_
      simp only [missed, hstep, Option.map_some, Option.getD_some, List.mem_append] at hticket ⊢
      exact hticket.elim (.inl ∘ .inr) (Or.imp_left .inl)

end Accounts

/-- A handler that is registered while no command is pending belongs to a caller who was given what
it takes to remove it, unless its caller went after the answer and did not take it. In particular
nobody who goes before the answer leaves a handler behind. -/
theorem missed_of_orphan {policy : RetryPolicy} {multiplier : Nat} {moves : List Move}
    {c : Connection Ticket} {slot : Slot} {handle : Handle} {ticket : Ticket}
    (hplay : (new policy multiplier).play moves = some (seen, a)) (hidle : a.pending = [])
    (hconnection : a.gateway.connection = some c)
    (hentry : (handle, ticket) ∈ (slot.registry c).entries)
    (horphan : ∀ receipt ∈ a.receipts, receipt.ticket = ticket →
      slot.handle? receipt.answer ≠ some handle) :
    ticket ∈ (new policy multiplier).missed moves := by
  have haccounts := (Accounts.new policy multiplier).play (.new policy multiplier) hplay
  rcases (haccounts c hconnection).registries slot _ hentry with hknown | hleaving | hlost
  · obtain ⟨receipt, hreceipt, hsome⟩ := List.mem_filterMap.mp hknown
    obtain ⟨_, hhandle, hsame⟩ := Option.map_eq_some_iff.mp hsome
    obtain ⟨rfl, rfl⟩ := Prod.mk.inj hsame
    exact absurd hhandle (horphan receipt hreceipt rfl)
  · rw [hidle] at hleaving
    cases hleaving
  · simpa using hlost

/-- The driver looks at the caller only when it answers. If the caller goes after that, its handler
stays although nobody has been given the handle. -/
theorem orphan_of_late_cancel :
    ∃ seen a c, (new {} 3).play [.call (.ask .addReady), .drive (.plain 0), .drive (.plain 0),
        .call (.cancel 0)] = some (seen, a) ∧ a.pending = [] ∧ a.receipts = [] ∧
      a.gateway.connection = some c ∧ (⟨0⟩, 0) ∈ (Slot.ready.registry c).entries :=
  ⟨_, _, _, rfl, rfl, rfl, rfl, List.mem_singleton_self _⟩

end Actor

end Gateway

end GatewayClient
