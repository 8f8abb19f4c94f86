import GatewayClient.Proofs.Connection.Slots
import GatewayClient.Proofs.Gateway.Actor
/-!
# Ledgers

What an actor knows of its tickets and handles. Tickets are given out in order, and each is
waited for by one caller at most. Handlers whose callers have an answer are registered until
they are removed, and a handle that is on its way back belongs to nobody any more.
-/

namespace GatewayClient.Gateway

open Connection (Effect Operation Answer Surroundings Moment Slot)
open Connection.Turn (Yields yields_pure yields_bind_pure)

/-! ## Tickets -/

/-- The tickets of callers that wait. -/
def awaited (pending : List Command) : List Ticket := pending.filterMap (·.ticket)

/-- Tickets that were given out: the callers that hold one and have their answers, the commands
that are pending, the next ticket, and the tickets of handlers that were removed. -/
structure Books (held : List Ticket) (pending : List Command) (next : Ticket)
    (removed : List Ticket) : Prop where
  /-- Callers are answered in the order in which they came. -/
  ordered : (held ++ awaited pending).Pairwise (· < ·)
  below : ∀ ticket ∈ held ++ awaited pending, ticket < next
  gone : ∀ ticket ∈ removed, ticket < next ∧ ticket ∉ held ++ awaited pending
  /-- A handler is added under the ticket of the caller that waits. -/
  labelled : ∀ command ∈ pending, ∀ (slot : Slot) (ticket : Ticket),
    slot.adds? command.operation = some ticket → command.ticket = some ticket

namespace Books

variable {held held' removed : List Ticket} {pending pending' rest : List Command}
  {next ticket : Ticket} {command : Command}

theorem new : Books [] [] 0 [] := ⟨.nil, by simp [awaited], by simp, by simp⟩

/-- Callers may go, and commands may be lost. -/
theorem sublist (h : Books held pending next removed) (hheld : held'.Sublist held)
    (hpending : pending'.Sublist pending) : Books held' pending' next removed := by
  have hall := hheld.append (hpending.filterMap (·.ticket))
  exact { ordered := h.ordered.sublist hall
          below := fun ticket hticket => h.below ticket (hall.subset hticket)
          gone := fun ticket hticket => ⟨(h.gone ticket hticket).1,
            fun hmem => (h.gone ticket hticket).2 (hall.subset hmem)⟩
          labelled := fun command hcommand => h.labelled command (hpending.subset hcommand) }

/-- Nobody waits for the command. -/
theorem insert (pending : List Command) (h : Books held (pending ++ rest) next removed)
    (hticket : command.ticket = none)
    (hadds : ∀ slot : Slot, slot.adds? command.operation = none) :
    Books held (pending ++ command :: rest) next removed where
  ordered := by simpa [awaited, hticket] using h.ordered
  below := by simpa [awaited, hticket] using h.below
  gone := by simpa [awaited, hticket] using h.gone
  labelled other hother slot ticket hslot := by
    rcases List.mem_append.mp hother with hother | hother
    · exact h.labelled other (List.mem_append_left _ hother) slot ticket hslot
    · rcases List.mem_cons.mp hother with rfl | hother
      · simp [hadds] at hslot
      · exact h.labelled other (List.mem_append_right _ hother) slot ticket hslot

theorem push (h : Books held pending next removed) (hticket : command.ticket = none)
    (hadds : ∀ slot : Slot, slot.adds? command.operation = none) :
    Books held (pending ++ [command]) next removed := by
  rw [← List.append_nil pending] at h
  exact h.insert pending hticket hadds

theorem ask (h : Books held pending next removed) (request : Request) :
    Books held (pending ++ [⟨request.operation next, some next⟩]) (next + 1) removed := by
  have hall : held ++ awaited (pending ++ [⟨request.operation next, some next⟩]) =
      (held ++ awaited pending) ++ [next] := by
    simp [awaited]
  refine { ordered := ?_, below := ?_, gone := fun ticket hticket => ?_, labelled := ?_ }
  · rw [hall]
    refine List.pairwise_append.mpr ⟨h.ordered, List.pairwise_singleton .., ?_⟩
    intro ticket hticket last hlast
    exact List.mem_singleton.mp hlast ▸ h.below ticket hticket
  · rw [hall]
    intro ticket hticket
    rcases List.mem_append.mp hticket with hticket | hticket
    · exact Nat.lt_succ_of_lt (h.below ticket hticket)
    · exact List.mem_singleton.mp hticket ▸ Nat.lt_succ_self _
  · obtain ⟨hlt, hnot⟩ := h.gone ticket hticket
    refine ⟨Nat.lt_succ_of_lt hlt, ?_⟩
    simpa [hall, Nat.ne_of_lt hlt] using hnot
  · intro command hcommand slot ticket hslot
    rcases List.mem_append.mp hcommand with hcommand | hcommand
    · exact h.labelled command hcommand slot ticket hslot
    · obtain rfl := List.mem_singleton.mp hcommand
      cases request <;> cases slot <;> simp_all [Request.operation, Slot.adds?]

/-- The answer goes to the caller that waits. -/
theorem answer (h : Books held (command :: pending) next removed)
    (hticket : command.ticket = some ticket) : Books (held ++ [ticket]) pending next removed where
  ordered := by simpa [awaited, hticket] using h.ordered
  below := by simpa [awaited, hticket] using h.below
  gone := by simpa [awaited, hticket] using h.gone
  labelled other hother := h.labelled other (List.mem_cons_of_mem _ hother)

theorem remove (h : Books held pending next removed) (hheld : ticket ∈ held) :
    Books (held.filter (· != ticket)) pending next (ticket :: removed) := by
  have hrest := h.sublist (List.filter_sublist (p := (· != ticket))) (.refl pending)
  refine { hrest with gone := List.forall_mem_cons.mpr ⟨⟨?_, fun hmem => ?_⟩, hrest.gone⟩ }
  · exact h.below ticket (List.mem_append_left _ hheld)
  · rcases List.mem_append.mp hmem with hmem | hmem
    · simp at hmem
    · -- Whoever waits has a later ticket.
      exact Nat.lt_irrefl _ ((List.pairwise_append.mp h.ordered).2.2 _ hheld _ hmem)

end Books

/-! ## Handles -/

/-- A handler that is withdrawn is out of every registry that it was in. -/
theorem registry_withdraw {c c' : Connection Ticket} {world : Surroundings}
    {operation : Operation Ticket} {moments : List (Moment Ticket)} {answer : Answer}
    (h : (c.apply world operation).Yields moments (answer, c')) (slot : Slot) :
    slot.registry (withdraw c' operation answer) =
      match slot.handle? answer with
      | some handle => (slot.registry c').unregister handle
      | none => slot.registry c' := by
  cases operation with
  | addReady handler | addDisconnect handler =>
      obtain ⟨-, hresult⟩ := yields_pure.mp h
      obtain ⟨rfl, -⟩ := Prod.mk.inj hresult
      cases slot <;> rfl
  | removeReady handle | removeDisconnect handle | askInterval =>
      obtain ⟨-, hresult⟩ := yields_pure.mp h
      obtain ⟨rfl, -⟩ := Prod.mk.inj hresult
      cases slot <;> rfl
  | _ =>
      obtain ⟨_, -, hresult⟩ := yields_bind_pure.mp h
      obtain ⟨rfl, -⟩ := Prod.mk.inj hresult
      cases slot <;> rfl

/-- The caller is answered, or is gone, or there is none. -/
theorem reply_cases {g : Gateway} {command : Command} {answer : Answer}
    {c c' : Connection Ticket} {replies : List Happening}
    (h : g.reply command answer c = (replies, c')) :
    (∃ ticket, command.ticket = some ticket ∧ replies = [.replied ticket answer] ∧ c' = c) ∨
      (replies = [] ∧ c' = withdraw c command.operation answer) ∨
      (command.ticket = none ∧ replies = [] ∧ c' = c) := by
  unfold reply at h
  split at h
  · case h_1 ticket hticket =>
    split at h
    · obtain ⟨rfl, rfl⟩ := Prod.mk.inj h
      exact .inr (.inl ⟨rfl, rfl⟩)
    · obtain ⟨rfl, rfl⟩ := Prod.mk.inj h
      exact .inl ⟨ticket, hticket, rfl, rfl⟩
  · case h_2 hticket =>
    obtain ⟨rfl, rfl⟩ := Prod.mk.inj h
    exact .inr (.inr ⟨hticket, rfl, rfl⟩)

theorem coupled_withdraw {c : Connection Ticket} (hc : c.Coupled) (operation : Operation Ticket)
    (answer : Answer) : (withdraw c operation answer).Coupled := by
  unfold withdraw
  split
  · exact hc.registering (.removeReady _)
  · exact hc.registering (.removeDisconnect _)
  · exact hc

/-- The handlers of callers with answers, as a registry has them. -/
def knownIn (slot : Slot) (receipts : List Receipt) : List (Handle × Ticket) :=
  receipts.filterMap fun receipt => (slot.handle? receipt.answer).map (·, receipt.ticket)

/-- The handles that commands are about to remove from a registry. -/
def leavingFrom (slot : Slot) (pending : List Command) : List Handle :=
  pending.filterMap fun command => slot.removes? command.operation

theorem leavingFrom_cons (slot : Slot) (command : Command) (pending : List Command) :
    leavingFrom slot (command :: pending) =
      (slot.removes? command.operation).toList ++ leavingFrom slot pending := by
  cases hremoves : slot.removes? command.operation <;> simp [leavingFrom, hremoves]

theorem knownIn_concat (slot : Slot) (receipts : List Receipt) (receipt : Receipt) :
    knownIn slot (receipts ++ [receipt]) =
      knownIn slot receipts ++ ((slot.handle? receipt.answer).map (·, receipt.ticket)).toList := by
  cases hhandle : slot.handle? receipt.answer <;> simp [knownIn, hhandle]

/-- What a connection has to do with callers and commands. -/
structure Kept (c : Connection Ticket) (receipts : List Receipt) (pending : List Command) : Prop
  where
  coupled : c.Coupled
  registries : ∀ slot : Slot,
    (slot.registry c).Keeps (knownIn slot receipts) (leavingFrom slot pending)

namespace Kept

variable {c c' : Connection Ticket} {receipts receipts' : List Receipt}
  {pending pending' : List Command} {command : Command} {world : Surroundings}
  {moments : List (Moment Ticket)} {answer : Answer} {ticket : Ticket}

theorem mono (h : Kept c receipts pending)
    (hknown : ∀ slot, knownIn slot receipts' ⊆ knownIn slot receipts)
    (hleaving : ∀ slot, leavingFrom slot pending' ⊆ leavingFrom slot pending) :
    Kept c receipts' pending' :=
  ⟨h.coupled, fun slot => (h.registries slot).mono (hknown slot) (hleaving slot)⟩

theorem coupled_of_apply (h : Kept c receipts (command :: pending))
    (turn : (c.apply world command.operation).Yields moments (answer, c')) : c'.Coupled :=
  (Connection.apply_yields h.coupled turn).coupled h.coupled

/-- The answer is given to a caller. -/
theorem answered (h : Kept c receipts (command :: pending)) (ticket : Ticket)
    (turn : (c.apply world command.operation).Yields moments (answer, c'))
    (hadds : ∀ (slot : Slot) (handler : Ticket),
      slot.adds? command.operation = some handler → handler = ticket) :
    Kept c' (receipts ++ [⟨ticket, answer, false⟩]) pending := by
  refine ⟨h.coupled_of_apply turn, fun slot => ?_⟩
  have hkeeps := h.registries slot
  rw [knownIn_concat]
  have hchange := Slot.change_of_apply h.coupled turn slot
  generalize slot.handle? answer = handle, slot.registry c' = registry at hchange
  cases hchange with
  | @added handler hadded hremoves =>
      obtain rfl := hadds slot handler hadded
      rw [leavingFrom_cons, hremoves] at hkeeps
      exact hkeeps.register handler
  | removed hadded hremoves =>
      rw [leavingFrom_cons, hremoves] at hkeeps
      simpa using hkeeps.unregister
  | kept hadded hremoves =>
      rw [leavingFrom_cons, hremoves] at hkeeps
      simpa using hkeeps

/-- The answer is for nobody. -/
theorem unanswered (h : Kept c receipts (command :: pending))
    (turn : (c.apply world command.operation).Yields moments (answer, c'))
    (hadds : ∀ slot : Slot, slot.adds? command.operation = none) :
    Kept c' receipts pending := by
  refine (h.answered 0 turn (by simp [hadds])).mono (fun slot => ?_)
    fun _ => List.Subset.refl _
  rw [knownIn_concat]
  exact List.subset_append_left ..

/-- The caller is gone. -/
theorem withdrawn (h : Kept c receipts (command :: pending))
    (turn : (c.apply world command.operation).Yields moments (answer, c')) :
    Kept (withdraw c' command.operation answer) receipts pending := by
  refine ⟨coupled_withdraw (h.coupled_of_apply turn) _ _, fun slot => ?_⟩
  have hkeeps := h.registries slot
  rw [registry_withdraw turn]
  have hchange := Slot.change_of_apply h.coupled turn slot
  generalize slot.handle? answer = handle, slot.registry c' = registry at hchange
  cases hchange with
  | @added handler hadded hremoves =>
      rw [leavingFrom_cons, hremoves] at hkeeps
      exact hkeeps.unregister_register handler
  | removed hadded hremoves =>
      rw [leavingFrom_cons, hremoves] at hkeeps
      exact hkeeps.unregister
  | kept hadded hremoves =>
      rw [leavingFrom_cons, hremoves] at hkeeps
      exact hkeeps

/-- A handler is removed by the caller that has its handle. -/
theorem remove (h : Kept c receipts pending) {receipt : Receipt} (hreceipt : receipt ∈ receipts)
    (hremoves : ∀ (slot : Slot) (handle : Handle),
      slot.removes? command.operation = some handle → slot.handle? receipt.answer = some handle) :
    Kept c (receipts.filter (·.ticket != receipt.ticket)) (pending ++ [command]) := by
  refine ⟨h.coupled, fun slot => ?_⟩
  have hknown : ∀ entry ∈ knownIn slot (receipts.filter (·.ticket != receipt.ticket)),
      entry ∈ knownIn slot receipts ∧ entry.2 ≠ receipt.ticket := by
    intro entry hentry
    obtain ⟨other, hother, hsome⟩ := List.mem_filterMap.mp hentry
    obtain ⟨hother, hne⟩ := List.mem_filter.mp hother
    refine ⟨List.mem_filterMap.mpr ⟨other, hother, hsome⟩, ?_⟩
    obtain ⟨handle, -, rfl⟩ := Option.map_eq_some_iff.mp hsome
    simpa using hne
  have hleaving : leavingFrom slot (pending ++ [command]) =
      leavingFrom slot pending ++ (slot.removes? command.operation).toList := by
    cases hhandle : slot.removes? command.operation <;> simp [leavingFrom, hhandle]
  rw [hleaving]
  cases hhandle : slot.removes? command.operation with
  | none =>
      rw [Option.toList_none, List.append_nil]
      exact (h.registries slot).mono (fun entry hentry => (hknown entry hentry).1)
        (List.Subset.refl _)
  | some handle =>
      have hentry : (handle, receipt.ticket) ∈ knownIn slot receipts :=
        List.mem_filterMap.mpr ⟨receipt, hreceipt, by rw [hremoves slot handle hhandle]; rfl⟩
      exact (h.registries slot).dismiss hentry hknown (by simp)

end Kept

/-! ## Actors -/

namespace Actor

/-- The command that the driver is at, and those that are queued. -/
def pending (a : Actor) : List Command :=
  (a.turn.map (·.work.command)).toList ++ a.gateway.commands

/-- The books and the registries of an actor agree, and the turn that the driver is in the middle
of is one of its connection. -/
structure Sound (a : Actor) : Prop where
  books : Books (a.receipts.map (·.ticket)) a.pending a.gateway.nextTicket a.gateway.removed
  kept : ∀ c, a.gateway.connection = some c → Kept c a.receipts a.pending
  turn : ∀ progress, a.turn = some progress → ∃ c world, a.gateway.connection = some c ∧
    progress.result = (c.apply world progress.work.command.operation).result

variable {a b : Actor} {call : Call} {seen : List Happening}

/-- What a caller can do. -/
inductive Calls (a : Actor) : Call → Actor → Prop where
  | told {call : Call} {operation : Operation Ticket}
      (hcall : call = .start ∧ operation = .start ∨ call = .shutdown ∧ operation = .shutdown) :
      Calls a call
        { a with gateway := { a.gateway with commands := a.gateway.commands ++ [{ operation }] } }
  | asked {request : Request} :
      Calls a (.ask request) { a with
        gateway := { a.gateway with
          commands := a.gateway.commands ++
            [⟨request.operation a.gateway.nextTicket, some a.gateway.nextTicket⟩]
          nextTicket := a.gateway.nextTicket + 1 } }
  /-- An answer is taken, or somebody goes who has not taken it. -/
  | received {call : Call} {cancelled : List Ticket} {receipts : List Receipt}
      (hcall : ∃ ticket, call = .take ticket ∨ call = .cancel ticket)
      (htaken : ∀ receipt ∈ a.receipts, receipt.taken = true → receipt ∈ receipts)
      (htickets : (receipts.map (·.ticket)).Sublist (a.receipts.map (·.ticket)))
      (hknown : ∀ slot, knownIn slot receipts ⊆ knownIn slot a.receipts) :
      Calls a call { a with gateway := { a.gateway with cancelled }, receipts }
  /-- A handler is removed by the caller that has its handle. -/
  | removed {call : Call} {receipt : Receipt} {operation : Operation Ticket}
      (hcall : call.removes? = some receipt.ticket) (hreceipt : receipt ∈ a.receipts)
      (hoperation : operation ≠ .shutdown)
      (hadds : ∀ slot : Slot, slot.adds? operation = none)
      (hremoves : ∀ (slot : Slot) (handle : Handle),
        slot.removes? operation = some handle → slot.handle? receipt.answer = some handle) :
      Calls a call ({ a with gateway := a.gateway.remove receipt.ticket operation }.forget
        receipt.ticket)
  /-- Callers go, or a transport reports something. -/
  | other {call : Call} {abandoned : Bool} {events : List (Nat × Connection.Event)}
      (hcall : call = .abandon ∨ ∃ generation event, call = .report generation event) :
      Calls a call { a with gateway := { a.gateway with abandoned, events } }

theorem pending_push (a : Actor) (command : Command) :
    pending { a with
      gateway := { a.gateway with commands := a.gateway.commands ++ [command] } } =
        a.pending ++ [command] :=
  (List.append_assoc ..).symm

theorem exists_receipt_of_holds {κ : Type} [DecidableEq κ] {handle? : Answer → Option κ}
    {subscription : Subscription κ} (h : a.holds handle? subscription = true) :
    ∃ receipt ∈ a.receipts, receipt.taken = true ∧ receipt.ticket = subscription.ticket ∧
      handle? receipt.answer = some subscription.handle := by
  obtain ⟨receipt, hreceipt, h⟩ := List.any_eq_true.mp h
  simp only [Bool.and_eq_true, beq_iff_eq] at h
  exact ⟨receipt, hreceipt, h.1.1, h.1.2, h.2⟩

section

variable {gateway : Gateway}

theorem calls_of_tell {operation : Operation Ticket}
    (hcall : call = .start ∧ operation = .start ∨ call = .shutdown ∧ operation = .shutdown)
    (h : a.gateway.tell? operation = some gateway) : Calls a call { a with gateway } ∧
      gateway.commands = a.gateway.commands ++ [{ operation := operation }] := by
  simp only [tell?, Option.ite_none_right_eq_some, Option.some.injEq] at h
  obtain ⟨-, rfl⟩ := h
  exact ⟨.told hcall, rfl⟩

theorem calls_of_request {request : Request} {ticket : Ticket}
    (h : a.gateway.request? request.operation = some (ticket, gateway)) :
    Calls a (.ask request) { a with gateway } ∧
      gateway.commands = a.gateway.commands ++ [⟨request.operation ticket, some ticket⟩] := by
  simp only [request?, Option.ite_none_right_eq_some, Option.some.injEq, Prod.mk.injEq] at h
  obtain ⟨-, rfl, rfl⟩ := h
  exact ⟨.asked, rfl⟩

end

theorem calls_of_after (h : a.after? call = some b) : Calls a call b := by
  cases call with
  | start | shutdown =>
      obtain ⟨gateway, htell, hb⟩ := Option.bind_eq_some_iff.mp h
      obtain rfl := Option.some.inj hb
      exact (calls_of_tell (by simp) htell).1
  | ask request =>
      obtain ⟨⟨ticket, gateway⟩, hrequest, hb⟩ := Option.bind_eq_some_iff.mp h
      obtain rfl := Option.some.inj hb
      exact (calls_of_request hrequest).1
  | take ticket =>
      simp only [after?, Option.ite_none_right_eq_some, Option.some.injEq] at h
      obtain ⟨-, rfl⟩ := h
      refine .received ⟨ticket, .inl rfl⟩ (fun receipt hreceipt htaken => ?_)
        (by simp [Function.comp_def])
        fun slot => ?_
      · exact List.mem_map.mpr ⟨receipt, hreceipt, receipt.take_of_taken htaken⟩
      · simp [knownIn, List.filterMap_map]
  | cancel ticket =>
      simp only [after?, Option.ite_none_right_eq_some, Option.some.injEq] at h
      obtain ⟨-, rfl⟩ := h
      refine .received ⟨ticket, .inr rfl⟩ (fun receipt hreceipt htaken => ?_)
        (List.filter_sublist.map _)
        fun slot => ?_
      · exact List.mem_filter.mpr ⟨hreceipt, by simp [htaken]⟩
      · exact List.filterMap_subset _ List.filter_sublist.subset
  | removeReady subscription =>
      simp only [after?, Option.ite_none_right_eq_some, Option.some.injEq] at h
      obtain ⟨hholds, rfl⟩ := h
      obtain ⟨receipt, hreceipt, -, hticket, hhandle⟩ := exists_receipt_of_holds hholds
      rw [removeReady, ← hticket]
      refine .removed (congrArg some hticket.symm) hreceipt nofun (fun _ => rfl)
        fun slot handle hremoves => ?_
      cases slot <;> cases hremoves
      exact hhandle
  | removeDisconnect subscription =>
      simp only [after?, Option.ite_none_right_eq_some, Option.some.injEq] at h
      obtain ⟨hholds, rfl⟩ := h
      obtain ⟨receipt, hreceipt, -, hticket, hhandle⟩ := exists_receipt_of_holds hholds
      rw [removeDisconnect, ← hticket]
      refine .removed (congrArg some hticket.symm) hreceipt nofun (fun _ => rfl)
        fun slot handle hremoves => ?_
      cases slot <;> cases hremoves
      · exact congrArg (Option.map (·.noReconnect)) hhandle
      · exact congrArg (Option.map (·.reconnect)) hhandle
  | abandon =>
      obtain rfl := Option.some.inj h
      exact .other (.inl rfl)
  | report generation event =>
      obtain rfl := Option.some.inj h
      unfold emit
      split <;> exact .other (.inr ⟨generation, event, rfl⟩)

theorem removed_remove (g : Gateway) (ticket : Ticket) (operation : Operation Ticket) :
    (g.remove ticket operation).removed = ticket :: g.removed := by
  obtain ⟨connection⟩ := g
  cases connection <;> rfl

theorem connection_remove (g : Gateway) (ticket : Ticket) (operation : Operation Ticket) :
    (g.remove ticket operation).connection = g.connection := by
  obtain ⟨connection⟩ := g
  cases connection <;> rfl

/-- Callers touch neither the connection nor the turn. -/
theorem Calls.frame (h : Calls a call b) : b.turn = a.turn ∧
    b.gateway.connection = a.gateway.connection ∧ a.gateway.removed ⊆ b.gateway.removed := by
  cases h with
  | removed =>
      refine ⟨rfl, connection_remove .., ?_⟩
      simp [forget, removed_remove]
  | _ => exact ⟨rfl, rfl, List.Subset.refl _⟩

/-- Callers queue commands behind all others. -/
theorem Calls.commands_eq (h : Calls a call b) : ∃ added,
    b.gateway.commands = a.gateway.commands ++ added ∧
      ∀ command ∈ added, command.operation = .shutdown → call = .shutdown := by
  cases h with
  | told hcall =>
      refine ⟨_, rfl, List.forall_mem_singleton.mpr fun hoperation => ?_⟩
      rcases hcall with ⟨-, rfl⟩ | ⟨rfl, -⟩
      · cases hoperation
      · rfl
  | @asked request =>
      refine ⟨_, rfl, List.forall_mem_singleton.mpr fun hoperation => ?_⟩
      cases request <;> cases hoperation
  | removed _ _ hoperation =>
      rw [forget, remove, tell?]
      split
      · exact ⟨_, rfl, List.forall_mem_singleton.mpr fun hshutdown => absurd hshutdown hoperation⟩
      · exact ⟨[], (List.append_nil _).symm, List.forall_mem_nil _⟩
  | received | other => exact ⟨[], (List.append_nil _).symm, List.forall_mem_nil _⟩

/-- An answer that was taken is kept until the handler that it is about is removed. -/
theorem mem_receipts_of_step {move : Move} {receipt : Receipt}
    (hstep : a.step? move = some (seen, b)) (hreceipt : receipt ∈ a.receipts)
    (htaken : receipt.taken = true)
    (hkeeps : ∀ call, move = .call call → call.removes? ≠ some receipt.ticket) :
    receipt ∈ b.receipts := by
  rcases step_cases hstep with ⟨call, rfl, hcall, -⟩ | hdrives
  · cases calls_of_after hcall with
    | received _ hkept => exact hkept receipt hreceipt htaken
    | removed hremoves =>
        refine List.mem_filter.mpr ⟨hreceipt, bne_iff_ne.mpr fun hsame => ?_⟩
        exact hkeeps call rfl (hremoves.trans (congrArg some hsame.symm))
    | _ => exact hreceipt
  · cases hdrives with
    | finished => exact List.mem_append_left _ hreceipt
    | _ => exact hreceipt

theorem mem_receipts_of_play {moves : List Move} {receipt : Receipt}
    (hplay : a.play moves = some (seen, b)) (hreceipt : receipt ∈ a.receipts)
    (htaken : receipt.taken = true)
    (hkeeps : ∀ call, .call call ∈ moves → call.removes? ≠ some receipt.ticket) :
    receipt ∈ b.receipts :=
  play_preserves (fun _ a => receipt ∈ a.receipts) []
    (fun hmove h hstep => mem_receipts_of_step hstep h htaken fun call hcall =>
      hkeeps call (hcall ▸ hmove)) hreceipt hplay

/-- The driver neither gives out tickets nor removes handlers. -/
theorem Drives.frame (h : Drives a seen b) : b.gateway.removed = a.gateway.removed ∧
    b.gateway.nextTicket = a.gateway.nextTicket := by
  cases h with
  | begun _ _ hwork => exact hwork.frame.2
  | did =>
      obtain ⟨phase, hframe⟩ := exists_phase_afterEffect a.gateway _
      rw [hframe]
      exact ⟨rfl, rfl⟩
  | finished => split <;> exact ⟨rfl, rfl⟩
  | halted => exact ⟨rfl, rfl⟩

namespace Sound

theorem new (policy : RetryPolicy) (multiplier : Nat) : (new policy multiplier).Sound where
  books := .new
  kept c hc := by
    obtain rfl := Option.some.inj hc
    refine ⟨Connection.coupled_new policy multiplier, fun slot => ?_⟩
    cases slot <;> exact .empty
  turn progress hprogress := by cases hprogress

theorem of_idle {gateway : Gateway} {receipts : List Receipt} {c : Connection Ticket}
    (books : Books (receipts.map (·.ticket)) gateway.commands gateway.nextTicket gateway.removed)
    (kept : Kept c receipts gateway.commands) :
    Sound { gateway := { gateway with connection := some c }, receipts } where
  books := books
  kept _ hc := Option.some.inj hc ▸ kept
  turn progress hprogress := by cases hprogress

theorem stopped (h : a.Sound) : Sound { a with gateway := a.gateway.stop, turn := none } where
  books := h.books.sublist (.refl _) (List.nil_sublist _)
  kept c hc := by cases hc
  turn progress hprogress := by cases hprogress

theorem calls (h : a.Sound) (hcalls : Calls a call b) : b.Sound := by
  cases hcalls with
  | @told _ operation hcall =>
      have hadds (slot : Slot) : slot.adds? operation = none := by
        rcases hcall with ⟨-, rfl⟩ | ⟨-, rfl⟩ <;> rfl
      have hremoves (slot : Slot) : slot.removes? operation = none := by
        rcases hcall with ⟨-, rfl⟩ | ⟨-, rfl⟩ <;> rfl
      refine { h with books := ?_, kept := fun c hc => ?_ }
      · rw [pending_push]
        exact h.books.push rfl hadds
      · refine (h.kept c hc).mono (fun _ => List.Subset.refl _) fun slot => ?_
        simp [leavingFrom, pending, hremoves]
  | @asked request =>
      have hremoves (slot : Slot) :
          slot.removes? (request.operation a.gateway.nextTicket) = none := by
        cases request <;> rfl
      refine { h with books := ?_, kept := fun c hc => ?_ }
      · simpa [pending] using h.books.ask request
      · refine (h.kept c hc).mono (fun _ => List.Subset.refl _) fun slot => ?_
        simp [leavingFrom, pending, hremoves]
  | received _ _ htickets hknown =>
      exact { h with
        books := h.books.sublist htickets (.refl _)
        kept := fun c hc => (h.kept c hc).mono hknown fun _ => List.Subset.refl _ }
  | @removed _ receipt operation _ hreceipt _ hadds hremoves =>
      have hbooks := h.books.remove (List.mem_map_of_mem hreceipt)
      rw [List.filter_map] at hbooks
      rw [remove, tell?]
      split
      · -- The command is queued behind all others.
        refine { h with books := ?_, kept := fun c hc => ?_ }
        · exact pending_push a _ ▸ hbooks.push rfl hadds
        · exact pending_push a _ ▸ (h.kept c hc).remove hreceipt hremoves
      · case isFalse hstopped =>
        -- There is no driver, and so no connection either.
        refine { h with books := hbooks, kept := fun c hc => ?_ }
        exact absurd (Option.isSome_of_eq_some hc) hstopped
  | other => exact { h with }

theorem begun {c : Connection Ticket} {work : Work} {gateway : Gateway} {world : Surroundings}
    (h : a.Sound) (hturn : a.turn = none) (hconnection : a.gateway.connection = some c)
    (hwork : Takes a.gateway work gateway) :
    Sound { a with gateway,
                   turn := some (.ofTurn work (c.apply world work.command.operation)) } := by
  have hpending : a.pending = a.gateway.commands := by simp [pending, hturn]
  have hbooks := hpending ▸ h.books
  have hkept := hpending ▸ h.kept
  cases hwork with
  | command hcommands =>
      rw [hcommands] at hbooks hkept
      refine ⟨hbooks, hkept, fun progress hprogress => ?_⟩
      obtain rfl := Option.some.inj hprogress
      exact ⟨c, world, hconnection, rfl⟩
  | event | shutdown | poll =>
      -- Nobody waits for what the driver does by itself.
      refine ⟨hbooks.insert [] rfl (fun _ => rfl), fun c hc => ?_,
        fun progress hprogress => ?_⟩
      · exact (hkept c hc).mono (fun _ => List.Subset.refl _) fun _ => List.Subset.refl _
      · obtain rfl := Option.some.inj hprogress
        exact ⟨c, world, hconnection, rfl⟩

theorem finished {progress : Progress} {answer : Answer} {c c' : Connection Ticket}
    {replies : List Happening} (h : a.Sound) (hturn : a.turn = some progress)
    (hresult : progress.result = some (answer, c))
    (hreply : a.gateway.reply progress.work.command answer c = (replies, c')) :
    Sound { gateway := { a.gateway with connection := some c' },
            receipts := a.receipts ++ replies.filterMap receipt? } := by
  have hpending : a.pending = progress.work.command :: a.gateway.commands := by
    simp [pending, hturn]
  obtain ⟨before, world, hbefore, hsame⟩ := h.turn progress hturn
  have turn : (before.apply world progress.work.command.operation).Yields _ (answer, c) :=
    ⟨rfl, hsame ▸ hresult⟩
  have hbooks := hpending ▸ h.books
  have hkept := hpending ▸ h.kept before hbefore
  rcases reply_cases hreply with ⟨ticket, hticket, rfl, rfl⟩ | ⟨rfl, rfl⟩ | ⟨hticket, rfl, rfl⟩
  · refine .of_idle ?_ (hkept.answered ticket turn fun slot handler hadds => ?_)
    · rw [List.map_append]
      exact hbooks.answer hticket
    · have hlabel := hbooks.labelled _ List.mem_cons_self slot handler hadds
      exact Option.some.inj (hlabel.symm.trans hticket)
  · rw [List.filterMap_nil, List.append_nil]
    exact .of_idle (hbooks.sublist (.refl _) (List.sublist_cons_self ..)) (hkept.withdrawn turn)
  · have hadds (slot : Slot) : slot.adds? progress.work.command.operation = none := by
      by_contra hsome
      obtain ⟨handler, hadds⟩ := Option.ne_none_iff_exists'.mp hsome
      have hlabel := hbooks.labelled _ List.mem_cons_self slot handler hadds
      simp [hticket] at hlabel
    rw [List.filterMap_nil, List.append_nil]
    exact .of_idle (hbooks.sublist (.refl _) (List.sublist_cons_self ..))
      (hkept.unanswered turn hadds)

theorem drives (h : a.Sound) (hdrives : Drives a seen b) : b.Sound := by
  cases hdrives with
  | begun hturn hconnection hwork => exact h.begun hturn hconnection hwork
  | @did progress effect rest hturn hrest =>
      have hpending : a.pending = progress.work.command :: a.gateway.commands := by
        simp [pending, hturn]
      obtain ⟨phase, hframe⟩ := exists_phase_afterEffect a.gateway effect
      have hbooks := hpending ▸ h.books
      have hkept := hpending ▸ h.kept
      rw [hframe]
      refine ⟨hbooks, hkept, fun other hother => ?_⟩
      obtain rfl := Option.some.inj hother
      exact h.turn progress hturn
  | @finished progress answer c c' replies hturn hrest hresult hreply =>
      have hfinished := h.finished hturn hresult hreply
      split
      · exact hfinished.stopped
      · exact hfinished
  | halted => exact h.stopped

theorem step {move : Move} (h : a.Sound) (hstep : a.step? move = some (seen, b)) :
    b.Sound := by
  rcases step_cases hstep with ⟨call, -, hcall, -⟩ | hdrives
  · exact h.calls (calls_of_after hcall)
  · exact h.drives hdrives

theorem play {moves : List Move} (h : a.Sound) (hplay : a.play moves = some (seen, b)) : b.Sound :=
  play_preserves (fun _ a => a.Sound) [] (fun _ h hstep => h.step hstep) h hplay

/-- A handle stays with the handler that it was given out for. -/
theorem owns_step {move : Move} {slot : Slot} {handle : Handle} {ticket : Ticket} (h : a.Sound)
    (hstep : a.step? move = some (seen, b))
    (howns : ∀ c, a.gateway.connection = some c → (slot.registry c).Owns handle ticket) :
    ∀ c, b.gateway.connection = some c → (slot.registry c).Owns handle ticket := by
  rcases step_cases hstep with ⟨call, -, hcall, -⟩ | hdrives
  · rw [(calls_of_after hcall).frame.2.1]
    exact howns
  · cases hdrives with
    | begun _ _ hwork => exact hwork.frame.1 ▸ howns
    | did =>
        obtain ⟨phase, hframe⟩ := exists_phase_afterEffect a.gateway _
        rw [hframe]
        exact howns
    | @finished progress answer c c' replies hturn hrest hresult hreply =>
        obtain ⟨before, world, hbefore, hsame⟩ := h.turn progress hturn
        -- The connection of the result comes of the one that the turn began with.
        have turn : (before.apply world progress.work.command.operation).Yields _ (answer, c) :=
          ⟨rfl, hsame ▸ hresult⟩
        have hc := (Slot.change_of_apply (h.kept before hbefore).coupled turn slot).owns
          (howns before hbefore)
        have hc' : (slot.registry c').Owns handle ticket := by
          rcases reply_cases hreply with ⟨_, -, -, rfl⟩ | ⟨-, rfl⟩ | ⟨-, -, rfl⟩
          · exact hc
          · rw [registry_withdraw turn]
            split
            · exact hc.unregister _
            · exact hc
          · exact hc
        split
        · intro _ hnone
          cases hnone
        · rintro _ ⟨⟩
          exact hc'
    | halted =>
        intro _ hnone
        cases hnone

section

variable {receipt : Receipt} {handle : Handle} {c : Connection Ticket}

/-- A handler whose caller has an answer is registered. -/
theorem registered (h : a.Sound) (slot : Slot) (hreceipt : receipt ∈ a.receipts)
    (hhandle : slot.handle? receipt.answer = some handle)
    (hconnection : a.gateway.connection = some c) :
    (handle, receipt.ticket) ∈ (slot.registry c).entries := by
  refine ((h.kept c hconnection).registries slot).registered ?_
  exact List.mem_filterMap.mpr ⟨receipt, hreceipt, by rw [hhandle]; rfl⟩

theorem owns (h : a.Sound) (slot : Slot) (hreceipt : receipt ∈ a.receipts)
    (hhandle : slot.handle? receipt.answer = some handle)
    (hconnection : a.gateway.connection = some c) :
    (slot.registry c).Owns handle receipt.ticket :=
  ((h.kept c hconnection).registries slot).sorted.owns
    (h.registered slot hreceipt hhandle hconnection)

end

theorem not_removed (h : a.Sound) {receipt : Receipt} (hreceipt : receipt ∈ a.receipts) :
    receipt.ticket ∉ a.gateway.removed :=
  fun hremoved => (h.books.gone _ hremoved).2
    (List.mem_append_left _ (List.mem_map_of_mem hreceipt))

/-- A ticket has one answer. -/
theorem eq_of_ticket_eq (h : a.Sound) {receipt other : Receipt} (hreceipt : receipt ∈ a.receipts)
    (hother : other ∈ a.receipts) (hsame : receipt.ticket = other.ticket) : receipt = other := by
  have hordered := (List.pairwise_append.mp h.books.ordered).1
  exact List.inj_on_of_nodup_map (hordered.imp Nat.ne_of_lt) hreceipt hother hsame

/-- Once the last caller that queued a command has its answer, no commands are queued. -/
theorem commands_eq_nil (h : a.Sound) {receipt : Receipt} (hreceipt : receipt ∈ a.receipts)
    (hlast : ∀ command ∈ a.gateway.commands.getLast?, command.ticket = some receipt.ticket) :
    a.gateway.commands = [] := by
  by_contra hcommands
  have hcommand := List.getLast_mem hcommands
  have hticket := hlast _ (List.getLast?_eq_some_getLast hcommands)
  have hawaited : receipt.ticket ∈ awaited a.pending :=
    List.mem_filterMap.mpr ⟨_, List.mem_append_right _ hcommand, hticket⟩
  exact Nat.lt_irrefl _ ((List.pairwise_append.mp h.books.ordered).2.2 _
    (List.mem_map_of_mem hreceipt) _ hawaited)

/-- A handler that was removed is not added again. -/
theorem not_adds (h : a.Sound) {ticket : Ticket} (hremoved : ticket ∈ a.gateway.removed)
    {work : Work} {gateway : Gateway} (hwork : Takes a.gateway work gateway) (slot : Slot) :
    slot.adds? work.command.operation ≠ some ticket := by
  cases hwork with
  | @command command commands hcommands =>
      intro hadds
      have hcommand : command ∈ a.pending := by simp [pending, hcommands]
      have hticket := h.books.labelled command hcommand slot ticket hadds
      exact (h.books.gone ticket hremoved).2
        (List.mem_append_right _ (List.mem_filterMap.mpr ⟨command, hcommand, hticket⟩))
  | _ => exact nofun

end Sound

theorem Reachable.sound {policy : RetryPolicy} {multiplier : Nat}
    (h : Reachable policy multiplier a) : a.Sound :=
  h.preserves (.new policy multiplier) fun hsound hstep => hsound.step hstep

end Actor

end GatewayClient.Gateway
