import GatewayClient.Proofs.Gateway.Waking
/-!
# Lulls

As long as transports report nothing, the driver handles only what callers ask for and what is due.
No session gets ready meanwhile, and unless a transport is silent for too long no handler is called
at all, but for those of the turn that the driver is in the middle of. These belong to callers who
had asked before.
-/

namespace GatewayClient

namespace Connection

variable {η : Type} {c₀ c c' : Connection η} {world : Surroundings} {now : Instant}
  {operation : Operation η} {moments : List (Moment η)}

/-- Whether callers can ask for the operation. -/
def Operation.isAsked : Operation η → Bool
  | .poll | .receive _ _ => false
  | _ => true

theorem greets_of_isAsked (c : Connection η) (h : operation.isAsked = true) :
    c.greets operation = false := by
  cases operation <;> first | rfl | cases h

theorem loses_of_isAsked (c : Connection η) (h : operation.isAsked = true) :
    c.loses world operation = false := by
  cases operation <;> first | rfl | cases h

/-- The session that a connection had is what it has still, or it has had another transport since.
No watchdog was armed. -/
structure Lasts (c₀ c : Connection η) : Prop where
  ready_iff : c.phase = .ready ↔ c₀.phase = .ready ∧ c.generation = c₀.generation
  generation_le : c₀.generation ≤ c.generation
  deadline_mem : ∀ deadline ∈ c.watchdog.deadline, deadline ∈ c₀.watchdog.deadline

namespace Lasts

theorem refl (c : Connection η) : c.Lasts c := ⟨by simp, Nat.le_refl _, fun _ => id⟩

theorem thinsTo (h : c₀.Lasts c) (hthins : c.ThinsTo c') : c₀.Lasts c' := by
  obtain ⟨_, _, _, rfl⟩ := hthins.same
  exact ⟨h.ready_iff, h.generation_le, h.deadline_mem⟩

theorem isExpired (h : c₀.Lasts c) (hsilent : c₀.watchdog.isExpired now = false) :
    c.watchdog.isExpired now = false := by
  unfold Watchdog.isExpired at hsilent ⊢
  rw [Option.any_eq_false] at hsilent ⊢
  exact fun deadline hdeadline => hsilent deadline (h.deadline_mem deadline hdeadline)

/-- There is another generation. -/
theorem of_lt (hphase : c'.phase ≠ .ready) (hlt : c₀.generation < c'.generation)
    (hdeadline : c'.watchdog.deadline = none) : c₀.Lasts c' where
  ready_iff := iff_of_false hphase fun h => Nat.ne_of_gt hlt h.2
  generation_le := Nat.le_of_lt hlt
  deadline_mem := by simp [hdeadline]

theorem transition (h : c₀.Lasts c) (hloses : c.loses world operation = false)
    (hevent : ∀ generation event, operation ≠ .receive generation event)
    (htransition : Transition c world operation moments c') : c₀.Lasts c' := by
  have hlt := Nat.lt_succ_of_le h.generation_le
  cases htransition with
  | calm _ _ hc' =>
      subst hc'
      cases operation <;> exact ⟨h.ready_iff, h.generation_le, h.deadline_mem⟩
  | started | retried => exact .of_lt nofun hlt rfl
  | stopped => exact .of_lt nofun hlt rfl
  | failed _ hlost => simp [hloses] at hlost
  | heard | ready | closed | ended => exact absurd rfl (hevent _ _)

end Lasts

end Connection

namespace Gateway

open Connection (Answer Effect Moment Operation Slot Surroundings Transition landmarks)

variable {g : Gateway} {c c' : Connection Ticket} {world : Surroundings}
  {operation : Operation Ticket} {moments : List (Moment Ticket)} {answer : Answer}
  {happening : Happening} {ticket : Ticket}

/-- Whether a transport reports something. -/
def Move.isReport : Move → Bool
  | .call (.report _ _) => true
  | .call _ | .drive _ | .panic => false

/-- The ready handler that is called. -/
def greeted? : Happening → Option Ticket
  | .did (.ready ticket) => some ticket
  | _ => none

theorem greeted_eq_some : greeted? happening = some ticket ↔ happening = .did (.ready ticket) := by
  unfold greeted?
  split <;> simp_all

open Actor (callee?)

/-- Handlers are called because the session is ready or because the transport is lost. -/
theorem called_of_turn (hc : c.Coupled)
    (turn : (c.apply world operation).Yields moments (answer, c'))
    (hmem : happening ∈ happenings moments) (hcallee : callee? happening = some ticket) :
    (c.greets operation = true ∧ happening = .did (.ready ticket) ∧
        ticket ∈ c.readyHandlers.callbacks) ∨
      ∃ reconnect, c.loses world operation = true ∧
        happening = .did (.disconnected ticket reconnect) ∧
        ticket ∈ (if reconnect then c.reconnectHandlers else c.noReconnectHandlers).callbacks := by
  have htransition := Connection.apply_yields hc turn
  obtain ⟨effect, heffect, rfl⟩ := List.mem_map.mp hmem
  obtain ⟨moment, hmoment, heffect⟩ := List.mem_flatMap.mp heffect
  cases hact : moment.act with
  | calledReady handlers =>
      rw [hact] at heffect
      obtain ⟨_, hticket, rfl⟩ := List.mem_map.mp heffect
      obtain rfl := Option.some.inj hcallee
      -- Calls of ready handlers are landmarks, and a turn that greets has no others.
      have hcalls : handlers ∈ (landmarks moments).filterMap (·.act.readyCall?) := by
        refine List.mem_filterMap.mpr ⟨moment, List.mem_filter.mpr ⟨hmoment, ?_⟩, ?_⟩
        · rw [hact]
          rfl
        · rw [hact]
          rfl
      rw [htransition.readyCalls] at hcalls
      split at hcalls
      · next hgreets =>
        obtain rfl := List.mem_singleton.mp hcalls
        exact .inl ⟨hgreets, rfl, hticket⟩
      · cases hcalls
  | calledDisconnect handlers reconnect =>
      rw [hact] at heffect
      obtain ⟨_, hticket, rfl⟩ := List.mem_map.mp heffect
      obtain rfl := Option.some.inj hcallee
      have hlandmark : moment ∈ landmarks moments := by
        refine List.mem_filter.mpr ⟨hmoment, ?_⟩
        rw [hact]
        rfl
      obtain ⟨rfl, -⟩ := htransition.calledDisconnect hc hlandmark hact
      refine .inr ⟨reconnect, ?_, rfl, hticket⟩
      -- A turn that loses no transport reports no loss.
      by_contra hkept
      have hreports := htransition.reports
      rw [if_neg hkept, List.countP_eq_zero] at hreports
      exact hreports moment hlandmark (by rw [hact]; rfl)
  | entered | opened | sent | closed =>
      rw [hact] at heffect
      obtain rfl := List.mem_singleton.mp heffect
      cases hcallee

theorem greeted_eq_none (hc : c.Coupled)
    (turn : (c.apply world operation).Yields moments (answer, c'))
    (hgreets : c.greets operation = false) (hmem : happening ∈ happenings moments) :
    greeted? happening = none := by
  cases hgreeted : greeted? happening with
  | none => rfl
  | some ticket =>
      obtain rfl := greeted_eq_some.mp hgreeted
      rcases called_of_turn hc turn hmem rfl with ⟨hready, -⟩ | ⟨_, -, hlost, -⟩
      · simp [hgreets] at hready
      · cases hlost

theorem callee_eq_none (hc : c.Coupled)
    (turn : (c.apply world operation).Yields moments (answer, c'))
    (hgreets : c.greets operation = false) (hloses : c.loses world operation = false)
    (hmem : happening ∈ happenings moments) : callee? happening = none := by
  cases hcallee : callee? happening with
  | none => rfl
  | some ticket =>
      rcases called_of_turn hc turn hmem hcallee with ⟨hready, -⟩ | ⟨_, hlost, -⟩
      · simp [hgreets] at hready
      · simp [hloses] at hlost

/-! ## Callers -/

namespace Actor

variable {a b z : Actor} {call : Call} {move : Move} {moves : List Move} {seen : List Happening}
  {work : Work}

/-- What a call leaves in the queues. -/
structure Queues (a : Actor) (call : Call) (b : Actor) : Prop where
  commands : ∃ added, b.gateway.commands = a.gateway.commands ++ added ∧
    ∀ command ∈ added, command.operation.isAsked = true
  events : (Move.call call).isReport = false → b.gateway.events = a.gateway.events
  nextTicket : a.gateway.nextTicket ≤ b.gateway.nextTicket

theorem queues_remove (a : Actor) (call : Call) (ticket : Ticket)
    (hasked : operation.isAsked = true) :
    Queues a call ({ a with gateway := a.gateway.remove ticket operation }.forget ticket) := by
  rw [forget, remove, tell?]
  split
  · exact ⟨⟨_, rfl, List.forall_mem_singleton.mpr hasked⟩, fun _ => rfl, Nat.le_refl _⟩
  · exact ⟨⟨[], (List.append_nil _).symm, List.forall_mem_nil _⟩, fun _ => rfl, Nat.le_refl _⟩

theorem queues_of_after (h : a.after? call = some b) : Queues a call b := by
  have hnothing : ∃ added, a.gateway.commands = a.gateway.commands ++ added ∧
      ∀ command ∈ added, command.operation.isAsked = true :=
    ⟨[], (List.append_nil _).symm, List.forall_mem_nil _⟩
  cases call with
  | start | shutdown =>
      obtain ⟨gateway, htell, hb⟩ := Option.bind_eq_some_iff.mp h
      obtain rfl := Option.some.inj hb
      simp only [tell?, Option.ite_none_right_eq_some, Option.some.injEq] at htell
      obtain ⟨-, rfl⟩ := htell
      exact ⟨⟨_, rfl, List.forall_mem_singleton.mpr rfl⟩, fun _ => rfl, Nat.le_refl _⟩
  | ask request =>
      obtain ⟨⟨ticket, gateway⟩, hrequest, hb⟩ := Option.bind_eq_some_iff.mp h
      obtain rfl := Option.some.inj hb
      simp only [request?, Option.ite_none_right_eq_some, Option.some.injEq, Prod.mk.injEq]
        at hrequest
      obtain ⟨-, rfl, rfl⟩ := hrequest
      refine ⟨⟨_, rfl, List.forall_mem_singleton.mpr ?_⟩, fun _ => rfl, Nat.le_succ _⟩
      cases request <;> rfl
  | take | cancel =>
      simp only [after?, Option.ite_none_right_eq_some, Option.some.injEq] at h
      obtain ⟨-, rfl⟩ := h
      exact ⟨hnothing, fun _ => rfl, Nat.le_refl _⟩
  | removeReady | removeDisconnect =>
      simp only [after?, Option.ite_none_right_eq_some, Option.some.injEq] at h
      obtain ⟨-, rfl⟩ := h
      exact queues_remove a _ _ rfl
  | abandon =>
      obtain rfl := Option.some.inj h
      exact ⟨hnothing, fun _ => rfl, Nat.le_refl _⟩
  | report generation event =>
      obtain rfl := Option.some.inj h
      unfold emit
      split <;> exact ⟨hnothing, by simp [Move.isReport], Nat.le_refl _⟩

/-- The driver takes from the queues, and adds nothing. -/
theorem Drives.queues_suffix (h : Drives a seen b) :
    b.gateway.events <:+ a.gateway.events ∧ b.gateway.commands <:+ a.gateway.commands := by
  cases h with
  | begun _ _ hwork =>
      cases hwork with
      | event hevents => exact ⟨hevents ▸ List.suffix_cons .., List.suffix_rfl⟩
      | command hcommands => exact ⟨List.suffix_rfl, hcommands ▸ List.suffix_cons ..⟩
      | shutdown | poll => exact ⟨List.suffix_rfl, List.suffix_rfl⟩
  | @did progress effect =>
      obtain ⟨phase, hframe⟩ := exists_phase_afterEffect a.gateway effect
      rw [hframe]
      exact ⟨List.suffix_rfl, List.suffix_rfl⟩
  | finished =>
      split
      · exact ⟨List.nil_suffix, List.nil_suffix⟩
      · exact ⟨List.suffix_rfl, List.suffix_rfl⟩
  | halted => exact ⟨List.nil_suffix, List.nil_suffix⟩

/-- All handlers that are registered or about to be called are of callers who have asked, and so is
all that is queued. -/
structure Known (a : Actor) : Prop where
  asked : ∀ command ∈ a.gateway.commands, command.operation.isAsked = true
  registered : ∀ c, a.coming = some c → ∀ slot : Slot, ∀ ticket ∈ (slot.registry c).callbacks,
    ticket < a.gateway.nextTicket
  due : ∀ c, a.coming = some c → ∀ happening ∈ a.due, ∀ ticket,
    callee? happening = some ticket → ticket < a.gateway.nextTicket

theorem callbacks_of_apply (hc : c.Coupled)
    (turn : (c.apply world operation).Yields moments (answer, c')) (slot : Slot) {ticket : Ticket}
    (hticket : ticket ∈ (slot.registry c').callbacks) :
    ticket ∈ (slot.registry c).callbacks ∨ slot.adds? operation = some ticket := by
  have hchange := Slot.change_of_apply hc turn slot
  generalize slot.handle? answer = handle, slot.registry c' = registry at hchange hticket
  cases hchange with
  | @added handler hadds =>
      simp only [Registry.callbacks, Registry.register, List.map_append, List.map_cons,
        List.map_nil, List.mem_append, List.mem_singleton] at hticket
      rcases hticket with hticket | rfl
      · exact .inl hticket
      · exact .inr hadds
  | removed => exact .inl (Connection.callbacks_unregister _ _ hticket)
  | kept => exact .inl hticket

namespace Known

theorem new (policy : RetryPolicy) (multiplier : Nat) : (new policy multiplier).Known where
  asked := List.forall_mem_nil _
  registered c hc slot ticket hticket := by
    obtain rfl := Option.some.inj hc
    cases slot <;> cases hticket
  due _ _ _ hmem := by cases hmem

/-- What is added is added under a ticket that was given out. -/
theorem lt_of_adds (hsound : a.Sound) {gateway : Gateway} (hwork : Takes a.gateway work gateway)
    {slot : Slot} (hadds : slot.adds? work.command.operation = some ticket) :
    ticket < a.gateway.nextTicket := by
  cases hwork with
  | @command command commands hcommands =>
      have hpending : command ∈ a.pending :=
        List.mem_append_right _ (hcommands ▸ List.mem_cons_self)
      have hticket := hsound.books.labelled command hpending slot ticket hadds
      exact hsound.books.below ticket
        (List.mem_append_right _ (List.mem_filterMap.mpr ⟨command, hpending, hticket⟩))
  | event | shutdown | poll => cases hadds

theorem called (h : a.Known) (hcall : a.after? call = some b) : b.Known := by
  obtain ⟨hdue, hcoming⟩ := (calls_of_after hcall).course
  obtain ⟨⟨added, hcommands, hadded⟩, -, hle⟩ := queues_of_after hcall
  refine ⟨?_, ?_, ?_⟩
  · rw [hcommands]
    exact List.forall_mem_append.mpr ⟨h.asked, hadded⟩
  · rw [hcoming]
    exact fun c hc slot ticket hticket =>
      Nat.lt_of_lt_of_le (h.registered c hc slot ticket hticket) hle
  · rw [hcoming, hdue]
    exact fun c hc happening hmem ticket hcallee =>
      Nat.lt_of_lt_of_le (h.due c hc happening hmem ticket hcallee) hle

theorem step (h : a.Known) (hsound : a.Sound) (hstep : a.step? move = some (seen, b)) :
    b.Known := by
  rcases step_cases hstep with ⟨call, -, hcall, -⟩ | hdrives
  · exact h.called hcall
  · refine ⟨?_, ?_, ?_⟩
    · exact fun command hcommand => h.asked command (hdrives.queues_suffix.2.subset hcommand)
    · intro c' hc' slot ticket hticket
      rw [hdrives.frame.2]
      rcases coming_of_step hstep hc' with ⟨c, hc, hthins⟩ |
        ⟨c, world, work, gateway, moments, answer, -, hturn, hconnection, hwork, turn⟩
      · exact h.registered c hc slot ticket (hthins.callbacks slot hticket)
      · have hcoupled := (hsound.kept c hconnection).coupled
        -- What a turn registers has the ticket of the command that it carries out.
        rcases callbacks_of_apply hcoupled turn slot hticket with hold | hadds
        · exact h.registered c (coming_of_idle hturn hconnection) slot ticket hold
        · exact lt_of_adds hsound (takes_of_nextWork hwork) hadds
    · intro c' hc' happening hmem ticket hcallee
      rw [hdrives.frame.2]
      rcases begins_or_continues hdrives with ⟨-, c, work, world, hbegins⟩ | hcontinues
      · obtain ⟨-, moments, answer, turn, hdue⟩ := hbegins.outcome c' hc'
        have hcoupled := (hsound.kept c hbegins.connection).coupled
        -- Only handlers that are registered when a turn begins are called in it.
        have hregistered := h.registered c (coming_of_idle hbegins.idle hbegins.connection)
        rcases called_of_turn hcoupled turn (hdue ▸ hmem) hcallee with
          ⟨-, -, hticket⟩ | ⟨reconnect, -, -, hticket⟩
        · exact hregistered .ready ticket hticket
        · cases reconnect with
          | true => exact hregistered .reconnect ticket hticket
          | false => exact hregistered .noReconnect ticket hticket
      · obtain ⟨-, ⟨c, hc, -⟩, -⟩ := hcontinues.outcome c' hc'
        rcases hcontinues.origin happening (List.mem_append_right _ hmem) with
          hdue | ⟨_, _, rfl⟩
        · exact h.due c hc happening hdue ticket hcallee
        · cases hcallee

end Known

theorem Reachable.known {policy : RetryPolicy} {multiplier : Nat}
    (h : Reachable policy multiplier a) : a.Known := by
  obtain ⟨moves, seen, hplay⟩ := h
  refine (play_preserves (fun _ a => a.Sound ∧ a.Known) [] ?_
    ⟨.new policy multiplier, .new policy multiplier⟩ hplay).2
  rintro before a move seen b - ⟨hsound, hknown⟩ hstep
  exact ⟨hsound.step hstep, hknown.step hsound hstep⟩

/-! ## Lulls -/

/-- The driver moves at a time: it takes up work then, or goes on with a turn. -/
theorem drive_cases (hstep : a.step? (.drive world) = some (seen, b)) :
    (seen = [] ∧ ∃ c work, Begins a b c work world) ∨ Continues a seen b := by
  cases hturn : a.turn with
  | none =>
      obtain ⟨c, work, gateway, hconnection, hwork, rfl⟩ := begin_of_step hturn hstep
      refine .inl ⟨?_, c, work, begins_of_takes hturn hconnection (takes_of_nextWork hwork)⟩
      simp only [step?, hturn, Option.bind_eq_bind, Option.bind_eq_some_iff, Option.some.injEq,
        Prod.mk.injEq] at hstep
      obtain ⟨_, -, hnothing, -⟩ := hstep
      exact hnothing.symm
  | some progress =>
      rcases begins_or_continues (drives_of_step hstep rfl) with
        ⟨-, _, _, _, hbegins⟩ | hcontinues
      · cases hturn.symm.trans hbegins.idle
      · exact .inr hcontinues

/-- No event is queued, and since the lull began handlers of later tickets have neither been called,
as far as calls of a kind are concerned, nor are they about to be. -/
structure Lull (calls : Happening → Option Ticket) (first : Ticket) (seen : List Happening)
    (a : Actor) : Prop where
  events : a.gateway.events = []
  asked : ∀ command ∈ a.gateway.commands, command.operation.isAsked = true
  le_next : first ≤ a.gateway.nextTicket
  earlier : ∀ c, a.coming = some c → ∀ happening ∈ seen ++ a.due, ∀ ticket,
    calls happening = some ticket → ticket < first

namespace Lull

variable {calls : Happening → Option Ticket} {first : Ticket} {before : List Happening}

theorem of_known (h : a.Known) (hevents : a.gateway.events = [])
    (hcalls : ∀ happening ticket, calls happening = some ticket → callee? happening = some ticket) :
    Lull calls a.gateway.nextTicket [] a where
  events := hevents
  asked := h.asked
  le_next := Nat.le_refl _
  earlier c hc happening hmem ticket hcalled :=
    h.due c hc happening hmem ticket (hcalls happening ticket hcalled)

theorem called (h : Lull calls first before a) (hreport : (Move.call call).isReport = false)
    (hcall : a.after? call = some b) : Lull calls first before b := by
  obtain ⟨hdue, hcoming⟩ := (calls_of_after hcall).course
  obtain ⟨⟨added, hcommands, hadded⟩, hevents, hle⟩ := queues_of_after hcall
  refine ⟨(hevents hreport).trans h.events, ?_, Nat.le_trans h.le_next hle, ?_⟩
  · rw [hcommands]
    exact List.forall_mem_append.mpr ⟨h.asked, hadded⟩
  · rw [hcoming, hdue]
    exact h.earlier

/-- What the driver can take up in a lull. -/
theorem takes (h : Lull calls first before a) {gateway : Gateway}
    (hwork : Takes a.gateway work gateway) : gateway.events = [] ∧
      (∀ command ∈ gateway.commands, command.operation.isAsked = true) ∧
      (work.command.operation.isAsked = true ∨ work.command.operation = .poll) := by
  cases hwork with
  | event hevents => simp [h.events] at hevents
  | command hcommands =>
      have hasked := h.asked
      rw [hcommands] at hasked
      obtain ⟨hcommand, hrest⟩ := List.forall_mem_cons.mp hasked
      exact ⟨h.events, hrest, .inl hcommand⟩
  | shutdown => exact ⟨h.events, h.asked, .inl rfl⟩
  | poll => exact ⟨h.events, h.asked, .inr rfl⟩

theorem begun (h : Lull calls first before a) (hbegins : Begins a b c work world)
    (hle : first ≤ b.gateway.nextTicket)
    (hquiet : ∀ moments answer c',
      (c.apply world work.command.operation).Yields moments (answer, c') →
        ∀ happening ∈ happenings moments, calls happening = none) :
    Lull calls first before b := by
  obtain ⟨hevents, hasked, -⟩ := h.takes hbegins.takes
  refine ⟨hevents, hasked, hle, ?_⟩
  intro c' hc' happening hmem ticket hcalls
  rcases List.mem_append.mp hmem with hbefore | hdue
  · exact h.earlier c (coming_of_idle hbegins.idle hbegins.connection) happening
      (List.mem_append_left _ hbefore) ticket hcalls
  · obtain ⟨-, moments, answer, turn, hsame⟩ := hbegins.outcome c' hc'
    simp [hquiet moments answer c' turn happening (hsame ▸ hdue)] at hcalls

theorem continued (h : Lull calls first before a) (hcontinues : Continues a seen b)
    (hevents : b.gateway.events <:+ a.gateway.events) (hle : first ≤ b.gateway.nextTicket)
    (hreplies : ∀ ticket answer, calls (.replied ticket answer) = none) :
    Lull calls first (before ++ seen) b := by
  refine ⟨List.eq_nil_of_suffix_nil (h.events ▸ hevents), ?_, hle, ?_⟩
  · exact fun command hcommand => h.asked command (hcontinues.commands.subset hcommand)
  · intro c' hc' happening hmem ticket hcalls
    obtain ⟨-, ⟨c, hc, -⟩, -⟩ := hcontinues.outcome c' hc'
    rw [List.append_assoc] at hmem
    rcases List.mem_append.mp hmem with hbefore | hlater
    · exact h.earlier c hc happening (List.mem_append_left _ hbefore) ticket hcalls
    · rcases hcontinues.origin happening hlater with hdue | ⟨_, _, rfl⟩
      · exact h.earlier c hc happening (List.mem_append_right _ hdue) ticket hcalls
      · simp [hreplies] at hcalls

/-- A lull goes on with every move but a report, if work that is taken up in it makes no calls. -/
theorem step (h : Lull calls first before a) (hreport : move.isReport = false)
    (hreplies : ∀ ticket answer, calls (.replied ticket answer) = none)
    (hquiet : ∀ c work world, move = .drive world → Begins a b c work world →
      ∀ moments answer c', (c.apply world work.command.operation).Yields moments (answer, c') →
        ∀ happening ∈ happenings moments, calls happening = none)
    (hstep : a.step? move = some (seen, b)) : Lull calls first (before ++ seen) b := by
  cases move with
  | call call =>
      obtain ⟨rfl, hcall⟩ := called_of_step hstep
      rw [List.append_nil]
      exact h.called hreport hcall
  | drive world =>
      have hdrives := drives_of_step hstep rfl
      have hle := hdrives.frame.2 ▸ h.le_next
      rcases drive_cases hstep with ⟨rfl, c, work, hbegins⟩ | hcontinues
      · rw [List.append_nil]
        exact h.begun hbegins hle (hquiet c work world rfl hbegins)
      · exact h.continued hcontinues hdrives.queues_suffix.1 hle hreplies
  | panic =>
      have hdrives := drives_of_step hstep rfl
      have hle := hdrives.frame.2 ▸ h.le_next
      have hturn := isSome_turn_of_panic hstep
      rcases begins_or_continues hdrives with ⟨-, _, _, _, hbegins⟩ | hcontinues
      · simp [hbegins.idle] at hturn
      · exact h.continued hcontinues hdrives.queues_suffix.1 hle hreplies

/-- In a lull no session gets ready. -/
theorem step_greeted (h : Lull greeted? first before a) (hsound : a.Sound)
    (hreport : move.isReport = false) (hstep : a.step? move = some (seen, b)) :
    Lull greeted? first (before ++ seen) b := by
  refine h.step hreport (fun _ _ => rfl) ?_ hstep
  intro c work world _ hbegins moments answer c' turn happening hmem
  refine greeted_eq_none (hsound.kept c hbegins.connection).coupled turn ?_ hmem
  rcases (h.takes hbegins.takes).2.2 with hasked | hpoll
  · exact Connection.greets_of_isAsked c hasked
  · rw [hpoll]
    rfl

/-- Unless a transport is silent for too long no handler is called for anything that happens in
a lull. -/
theorem step_called (h : Lull callee? first before a) (hsound : a.Sound)
    (hreport : move.isReport = false)
    (hsilent : ∀ now ∈ move.time?, ∀ c, a.coming = some c → c.watchdog.isExpired now = false)
    (hstep : a.step? move = some (seen, b)) : Lull callee? first (before ++ seen) b := by
  refine h.step hreport (fun _ _ => rfl) ?_ hstep
  rintro c work world rfl hbegins moments answer c' turn happening hmem
  have hcoupled := (hsound.kept c hbegins.connection).coupled
  rcases (h.takes hbegins.takes).2.2 with hasked | hpoll
  · exact callee_eq_none hcoupled turn (Connection.greets_of_isAsked c hasked)
      (Connection.loses_of_isAsked c hasked) hmem
  · rw [hpoll] at turn
    exact callee_eq_none hcoupled turn rfl
      (hsilent world.now rfl c (coming_of_idle hbegins.idle hbegins.connection)) hmem

variable {c₀ : Connection Ticket}

theorem lasts_of_step (h : Lull calls first before a) (hsound : a.Sound)
    (hlasts : ∀ c, a.coming = some c → c₀.Lasts c)
    (hsilent : ∀ now ∈ move.time?, c₀.watchdog.isExpired now = false)
    (hstep : a.step? move = some (seen, b)) : ∀ c, b.coming = some c → c₀.Lasts c := by
  intro c' hc'
  rcases coming_of_step hstep hc' with ⟨c, hc, hthins⟩ |
    ⟨c, world, work, gateway, moments, answer, rfl, hturn, hconnection, hwork, turn⟩
  · exact (hlasts c hc).thinsTo hthins
  · have hlasts := hlasts c (coming_of_idle hturn hconnection)
    have htransition := Connection.apply_yields (hsound.kept c hconnection).coupled turn
    rcases (h.takes (takes_of_nextWork hwork)).2.2 with hasked | hpoll
    · refine hlasts.transition (Connection.loses_of_isAsked c hasked) ?_ htransition
      intro generation event hevent
      simp [hevent, Connection.Operation.isAsked] at hasked
    · rw [hpoll] at htransition
      have hkept : c.loses world .poll = false := hlasts.isExpired (hsilent world.now rfl)
      exact hlasts.transition hkept (fun _ _ => nofun) htransition

theorem play_greeted (h : Lull greeted? first before a) (hsound : a.Sound)
    (hreports : ∀ move ∈ moves, move.isReport = false)
    (hplay : a.play moves = some (seen, z)) : Lull greeted? first (before ++ seen) z := by
  refine (play_preserves (fun seen a => a.Sound ∧ Lull greeted? first seen a) before ?_
    ⟨hsound, h⟩ hplay).2
  rintro before a move seen b hmove ⟨hsound, hlull⟩ hstep
  exact ⟨hsound.step hstep, hlull.step_greeted hsound (hreports move hmove) hstep⟩

theorem play_called (h : Lull callee? first before a) (hsound : a.Sound)
    (hlasts : ∀ c, a.coming = some c → c₀.Lasts c)
    (hreports : ∀ move ∈ moves, move.isReport = false)
    (hsilent : ∀ move ∈ moves, ∀ now ∈ move.time?, c₀.watchdog.isExpired now = false)
    (hplay : a.play moves = some (seen, z)) :
    Lull callee? first (before ++ seen) z ∧ ∀ c, z.coming = some c → c₀.Lasts c := by
  refine (play_preserves (fun seen a => a.Sound ∧ Lull callee? first seen a ∧
    ∀ c, a.coming = some c → c₀.Lasts c) before ?_ ⟨hsound, h, hlasts⟩ hplay).2
  rintro before a move seen b hmove ⟨hsound, hlull, hlasts⟩ hstep
  have hsilent := hsilent move hmove
  refine ⟨hsound.step hstep, ?_, hlull.lasts_of_step hsound hlasts hsilent hstep⟩
  refine hlull.step_called hsound (hreports move hmove) ?_ hstep
  exact fun now hnow c hc => (hlasts c hc).isExpired (hsilent now hnow)

end Lull

/-! ## Answers -/

/-- A command is taken up only when no event is queued. So either the command with a ticket is
queued still, or there is no event. -/
def Attended (ticket : Ticket) (a : Actor) : Prop :=
  a.gateway.events = [] ∨ ∃ command ∈ a.gateway.commands, command.ticket = some ticket

namespace Attended

theorem begun (h : Attended ticket a) (hturn : a.turn = none)
    (hstep : a.step? (.drive world) = some (seen, b)) : Attended ticket b := by
  obtain ⟨c, work, gateway, -, hwork, rfl⟩ := begin_of_step hturn hstep
  -- Events come first, so that commands stay as long as there is one.
  unfold nextWork? at hwork
  split at hwork
  · next hevents =>
    obtain ⟨-, rfl⟩ := Prod.mk.inj (Option.some.inj hwork)
    exact .inr (h.resolve_left (by simp [hevents]))
  · next hevents _ =>
    obtain ⟨-, rfl⟩ := Prod.mk.inj (Option.some.inj hwork)
    exact .inl hevents
  · next hevents _ =>
    refine .inl ?_
    split at hwork
    · obtain ⟨-, rfl⟩ := Prod.mk.inj (Option.some.inj hwork)
      exact hevents
    · split at hwork
      · obtain ⟨-, rfl⟩ := Prod.mk.inj (Option.some.inj hwork)
        exact hevents
      · cases hwork

theorem driven (h : Attended ticket a) (hturn : a.turn ≠ none) (hdrives : Drives a seen b) :
    Attended ticket b := by
  cases hdrives with
  | begun hidle => exact absurd hidle hturn
  | @did progress effect =>
      obtain ⟨phase, hframe⟩ := exists_phase_afterEffect a.gateway effect
      rw [Attended, hframe]
      exact h
  | finished =>
      unfold Attended
      split
      · exact .inl rfl
      · exact h
  | halted => exact .inl rfl

theorem called (h : Attended ticket a) (hreport : (Move.call call).isReport = false)
    (hcall : a.after? call = some b) : Attended ticket b := by
  obtain ⟨⟨added, hcommands, -⟩, hevents, -⟩ := queues_of_after hcall
  rw [Attended, hevents hreport, hcommands]
  exact h.imp_right fun ⟨command, hcommand, hticket⟩ =>
    ⟨command, List.mem_append_left _ hcommand, hticket⟩

theorem step (h : Attended ticket a) (hreport : move.isReport = false)
    (hstep : a.step? move = some (seen, b)) : Attended ticket b := by
  cases move with
  | call call => exact h.called hreport (called_of_step hstep).2
  | drive world =>
      by_cases hturn : a.turn = none
      · exact h.begun hturn hstep
      · exact h.driven hturn (drives_of_step hstep rfl)
  | panic =>
      have hturn := Option.isSome_iff_ne_none.mp (isSome_turn_of_panic hstep)
      exact h.driven hturn (drives_of_step hstep rfl)

theorem play (h : Attended ticket a) (hreports : ∀ move ∈ moves, move.isReport = false)
    (hplay : a.play moves = some (seen, z)) : Attended ticket z :=
  play_preserves (fun _ a => Attended ticket a) []
    (fun hmove h hstep => h.step (hreports _ hmove) hstep) h hplay

/-- Whoever has an answer was attended to. -/
theorem events_eq_nil (h : Attended ticket a) (hsound : a.Sound) {receipt : Receipt}
    (hreceipt : receipt ∈ a.receipts) (hticket : receipt.ticket = ticket) :
    a.gateway.events = [] := by
  refine h.resolve_right ?_
  rintro ⟨command, hcommand, hawaits⟩
  -- Whoever waits has a later ticket than all who have answers.
  have hordered := (List.pairwise_append.mp hsound.books.ordered).2.2
  refine Nat.lt_irrefl ticket (hordered ticket ?_ ticket ?_)
  · exact List.mem_map.mpr ⟨receipt, hreceipt, hticket⟩
  · exact List.mem_filterMap.mpr ⟨command, List.mem_append_right _ hcommand, hawaits⟩

end Attended

end Actor

end Gateway

end GatewayClient
