import GatewayClient.Proofs.Bootstrap.Mounted
import GatewayClient.Stage
/-!
# Mounting

A bootstrap that is mounted on a gateway with a free connection shows at the end of every turn
what becomes of the connection, from the turn of its own start on.
-/

namespace GatewayClient

open Connection (Answer Surroundings Moment landmarks)

namespace Gateway

/-- The driver is between turns, no transport is held or awaited, and nobody has asked for one. -/
structure Actor.Vacant (a : Actor) : Prop where
  turn : a.turn = none
  free : ∃ c, a.gateway.connection = some c ∧ c.Free
  commands : ∀ command ∈ a.gateway.commands, command.operation ≠ .start

/-- A caller waits while others move, and takes its answer. -/
def Actor.await? {κ : Type} (a : Actor) (ticket : Ticket) (handle? : Answer → Option κ)
    (meanwhile : List Move) : Option (List Happening × κ × Actor) := do
  let (seen, a) ← a.play meanwhile
  let a ← a.after? (.take ticket)
  let receipt ← a.receipts.find? (·.ticket == ticket)
  some (seen, ← handle? receipt.answer, a)

/-- Answers that were taken before are kept. -/
theorem Actor.mem_receipts_of_await {κ : Type} {a b : Actor} {ticket : Ticket}
    {handle? : Answer → Option κ} {handle : κ} {moves : List Move} {seen : List Happening}
    {receipt : Receipt} (hmoves : ∀ move ∈ moves, move.isOfCaller = false)
    (hawait : a.await? ticket handle? moves = some (seen, handle, b))
    (hreceipt : receipt ∈ a.receipts) (htaken : receipt.taken = true) :
    receipt ∈ b.receipts := by
  simp only [await?, Option.bind_eq_bind, Option.bind_eq_some_iff, Option.some.injEq,
    Prod.mk.injEq, Prod.exists] at hawait
  obtain ⟨_, between, hplay, after, hcall, -, -, _, -, -, -, rfl⟩ := hawait
  have hbetween := mem_receipts_of_play hplay hreceipt htaken fun call hmove => by
    simp [Call.removes?_of_isOfCaller (hmoves _ hmove)]
  have hstep : between.step? (.call (.take ticket)) = some ([], after) := by
    rw [step?, hcall]
    rfl
  refine mem_receipts_of_step hstep hbetween htaken fun call hcall hremoves => ?_
  obtain rfl := Move.call.inj hcall
  cases hremoves

/-- Mounts a bootstrap while others move, first until the disconnect handler is added and then
until the ready handler is. -/
def Actor.mount? (a : Actor) (path : String) (first second : List Move) :
    Option (Bootstrap × Actor) := do
  let (front, gateway) ← Bootstrap.mount? a.gateway path
  let (seen, handle, a) ← { a with gateway }.await? (← front.onDisconnect)
    Answer.disconnectHandle? first
  let (front, gateway) ← (seen.foldl Bootstrap.observe front).addReady? a.gateway handle
  let (seen, handle, a) ← { a with gateway }.await? (← front.onReady) Answer.handle? second
  let (front, gateway) ← (seen.foldl Bootstrap.observe front).start? a.gateway handle
  some (front, { a with gateway })

end Gateway

open Gateway (Actor Call Happening Move Receipt Request Work happenings)
open Gateway.Actor (Begins Calls Continues begins_or_continues callee? calls_of_after
  calls_of_request calls_of_tell mem_receipts_of_await step_cases)

namespace Bootstrap

variable {path : String} {front : Bootstrap} {seen more : List Happening} {a b z : Actor}
  {call : Call} {move : Move} {moves : List Move} {c c' : Connection Ticket} {work : Work}
  {world : Surroundings} {happening : Happening}

/-! ## On the way -/

theorem quiet_of_landmarks {moments : List (Moment Ticket)} (h : landmarks moments = []) :
    ∀ happening ∈ happenings moments, callee? happening = none ∧ opens happening = false := by
  intro happening hmem
  obtain ⟨effect, heffect, rfl⟩ := List.mem_map.mp hmem
  obtain ⟨moment, hmoment, heffect⟩ := List.mem_flatMap.mp heffect
  have hother : ¬ moment.act.isLandmark := List.filter_eq_nil_iff.mp h moment hmoment
  generalize moment.act = act at heffect hother
  cases act <;> first
    | exact absurd rfl hother
    | obtain rfl := List.mem_singleton.mp heffect; exact ⟨rfl, rfl⟩

/-- There is no transport, no handler is about to be called, and the view shows nothing yet. -/
def Calm (front : Bootstrap) (a : Actor) : Prop :=
  ∀ c, a.coming = some c → c.Free ∧ front.view = .loading ∧
    ∀ happening ∈ a.due, callee? happening = none ∧ opens happening = false

theorem Calm.called (h : Calm front a) (hcalls : Calls a call b) : Calm front b := by
  obtain ⟨hdue, hcoming⟩ := hcalls.course
  rw [Calm, hdue, hcoming]
  exact h

/-- A bootstrap is on its way, and the caller that mounts it waits for an answer. Nobody else
has queued anything since. -/
structure Settling (front : Bootstrap) (ticket : Ticket) (a : Actor) : Prop where
  sound : a.Sound
  commands : ∀ command ∈ a.gateway.commands, command.operation ≠ .start
  last : ∀ command ∈ a.gateway.commands.getLast?, command.ticket = some ticket
  calm : Calm front a

namespace Settling

variable {ticket : Ticket}

theorem of_suffix {front' : Bootstrap} (h : Settling front ticket a) (hsound : b.Sound)
    (hcommands : b.gateway.commands <:+ a.gateway.commands) (hcalm : Calm front' b) :
    Settling front' ticket b where
  sound := hsound
  commands command hcommand := h.commands command (hcommands.subset hcommand)
  last command hcommand := by
    obtain ⟨earlier, hearlier⟩ := hcommands
    exact h.last command (hearlier ▸ List.mem_getLast?_append_of_mem_getLast? hcommand)
  calm := hcalm

theorem begun (h : Settling front ticket a) (hsound : b.Sound)
    (hbegins : Begins a b c work world) : Settling front ticket b := by
  have hcoming : a.coming = some c := by rw [Actor.coming, hbegins.idle, hbegins.connection]
  obtain ⟨hfree, hview, -⟩ := h.calm c hcoming
  have hcases := hbegins.takes.commands_cases
  refine h.of_suffix hsound ?_ fun c' hc' => ?_
  · rcases hcases with hcommands | ⟨hcommands, -⟩
    · exact hcommands ▸ List.suffix_cons ..
    · exact hcommands ▸ List.suffix_rfl
  · obtain ⟨-, moments, answer, turn, hdue⟩ := hbegins.outcome c' hc'
    have hstart : work.command.operation ≠ .start := by
      rcases hcases with hcommands | ⟨-, hstart, -⟩
      · exact h.commands _ (hcommands ▸ List.mem_cons_self)
      · exact hstart
    have hcoupled := (h.sound.kept c hbegins.connection).coupled
    obtain ⟨hlandmarks, hfree'⟩ :=
      hfree.transition hstart (Connection.apply_yields hcoupled turn)
    exact ⟨hfree', hview, hdue ▸ quiet_of_landmarks hlandmarks⟩

theorem continued (h : Settling front ticket a) (hsound : b.Sound)
    (hcontinues : Continues a more b) : Settling (more.foldl observe front) ticket b := by
  refine h.of_suffix hsound hcontinues.commands fun c' hc' => ?_
  obtain ⟨-, ⟨c, hc, -, hheld, hretry⟩, -⟩ := hcontinues.outcome c' hc'
  obtain ⟨hfree, hview, hquiet⟩ := h.calm c hc
  have hquiet' : ∀ happening ∈ more ++ b.due,
      callee? happening = none ∧ opens happening = false := by
    intro happening hmem
    rcases hcontinues.origin happening hmem with hdue | ⟨ticket, answer, rfl⟩
    · exact hquiet happening hdue
    · exact ⟨rfl, rfl⟩
  refine ⟨⟨hheld.trans hfree.held, hretry.trans hfree.retry⟩, ?_, ?_⟩
  · rwa [foldl_observe_of_callee_eq_none fun happening hmem =>
      (hquiet' happening (List.mem_append_left _ hmem)).1]
  · exact fun happening hmem => hquiet' happening (List.mem_append_right _ hmem)

theorem step (h : Settling front ticket a) (hmove : move.isOfCaller = false)
    (hstep : a.step? move = some (more, b)) : Settling (more.foldl observe front) ticket b := by
  have hsound := h.sound.step hstep
  rcases step_cases hstep with ⟨call, rfl, hcall, rfl⟩ | hdrives
  · refine h.of_suffix hsound ?_ (h.calm.called (calls_of_after hcall))
    cases call with
    | report generation event =>
        obtain rfl := Option.some.inj hcall
        unfold Gateway.emit
        split <;> exact List.suffix_rfl
    | _ => cases hmove
  · rcases begins_or_continues hdrives with ⟨rfl, c, work, world, hbegins⟩ | hcontinues
    · exact h.begun hsound hbegins
    · exact h.continued hsound hcontinues

variable {κ : Type} {handle? : Answer → Option κ} {handle : κ}

theorem play (h : Settling front ticket a) (hmoves : ∀ move ∈ moves, move.isOfCaller = false)
    (hplay : a.play moves = some (more, z)) : Settling (more.foldl observe front) ticket z :=
  Actor.play_preserves (fun seen a => Settling (seen.foldl observe front) ticket a) []
    (fun hmove h hstep => List.foldl_append ▸ h.step (hmoves _ hmove) hstep) h hplay

theorem take (h : Settling front ticket a) (hcall : a.after? (.take ticket) = some b) :
    Settling front ticket b := by
  have hcalls := calls_of_after hcall
  simp only [Actor.after?, Option.ite_none_right_eq_some, Option.some.injEq] at hcall
  obtain ⟨-, rfl⟩ := hcall
  exact h.of_suffix (h.sound.calls hcalls) List.suffix_rfl (h.calm.called hcalls)

/-- The answer has come, and nothing is queued any more. -/
theorem await (h : Settling front ticket a) (hmoves : ∀ move ∈ moves, move.isOfCaller = false)
    (hawait : a.await? ticket handle? moves = some (more, handle, b)) :
    Settling (more.foldl observe front) ticket b ∧ b.gateway.commands = [] ∧
      ∃ receipt ∈ b.receipts, receipt.taken = true ∧ receipt.ticket = ticket ∧
        handle? receipt.answer = some handle := by
  simp only [Actor.await?, Option.bind_eq_bind, Option.bind_eq_some_iff, Option.some.injEq,
    Prod.mk.injEq, Prod.exists] at hawait
  obtain ⟨_, between, hplay, _, hcall, receipt, hfind, _, hhandle, rfl, rfl, rfl⟩ := hawait
  have hsettling := (h.play hmoves hplay).take hcall
  have hreceipt := List.mem_of_find?_eq_some hfind
  have hticket : receipt.ticket = ticket := by simpa using List.find?_some hfind
  refine ⟨hsettling, ?_, receipt, hreceipt, ?_, hticket, hhandle⟩
  · exact hsettling.sound.commands_eq_nil hreceipt (hticket ▸ hsettling.last)
  · simp only [Actor.after?, Option.ite_none_right_eq_some, Option.some.injEq] at hcall
    obtain ⟨-, rfl⟩ := hcall
    obtain ⟨other, -, rfl⟩ := List.mem_map.mp hreceipt
    rw [Receipt.take_ticket] at hticket
    simp [Receipt.take, hticket]

end Settling

/-! ## Steps of a mount -/

section

variable {request : Request} {ticket : Ticket} {gateway : Gateway} {first second : List Move}
  {handle : Handle} {handles : Connection.DisconnectHandle} {front' : Bootstrap}

theorem request_of_mount {g : Gateway} (h : mount? g path = some (front, gateway)) :
    ∃ ticket, g.request? .addDisconnect = some (ticket, gateway) ∧ front =
      { location := loginRedirect path, view := .loading, onDisconnect := some ticket } := by
  simp only [mount?, Option.bind_eq_bind, Option.bind_eq_some_iff, Option.some.injEq,
    Prod.mk.injEq, Prod.exists] at h
  obtain ⟨ticket, _, hrequest, rfl, rfl⟩ := h
  exact ⟨ticket, hrequest, rfl⟩

theorem request_of_addReady {g : Gateway}
    (h : front.addReady? g handles = some (front', gateway)) :
    ∃ ticket, g.request? .addReady = some (ticket, gateway) ∧ front' = { front with
      disconnect := front.onDisconnect.map fun ticket => { ticket, handle := handles }
      onReady := some ticket } := by
  simp only [addReady?, Option.bind_eq_bind, Option.bind_eq_some_iff, Option.some.injEq,
    Prod.mk.injEq, Prod.exists] at h
  obtain ⟨ticket, _, hrequest, rfl, rfl⟩ := h
  exact ⟨ticket, hrequest, rfl⟩

theorem tell_of_start {g : Gateway} (h : front.start? g handle = some (front', gateway)) :
    g.tell? .start = some gateway ∧ front' = { front with
      ready := front.onReady.map fun ticket => { ticket, handle } } := by
  simp only [start?, Option.bind_eq_bind, Option.bind_eq_some_iff, Option.some.injEq,
    Prod.mk.injEq] at h
  obtain ⟨_, htell, rfl, rfl⟩ := h
  exact ⟨htell, rfl⟩

/-- A caller asks a gateway where nobody has queued a start. -/
theorem settling_of_request (request : Request)
    (h : a.gateway.request? request.operation = some (ticket, gateway)) (hsound : a.Sound)
    (hcommands : ∀ command ∈ a.gateway.commands, command.operation ≠ .start)
    (hcalm : Calm front a) : Settling front ticket { a with gateway } := by
  obtain ⟨hcalls, hqueue⟩ := calls_of_request h
  refine ⟨hsound.calls hcalls, ?_, ?_, hcalm.called hcalls⟩
  · rw [hqueue]
    refine List.forall_mem_append.mpr ⟨hcommands, List.forall_mem_singleton.mpr ?_⟩
    cases request <;> nofun
  · rw [hqueue]
    simp

theorem settling_of_mount (hsound : a.Sound) (hvacant : a.Vacant)
    (h : mount? a.gateway path = some (front, gateway)) :
    ∃ ticket, front.onDisconnect = some ticket ∧ front.location = loginRedirect path ∧
      Settling front ticket { a with gateway } := by
  obtain ⟨ticket, hrequest, rfl⟩ := request_of_mount h
  refine ⟨ticket, rfl, rfl, ?_⟩
  refine settling_of_request .addDisconnect hrequest hsound hvacant.commands fun c hc => ?_
  rw [Actor.coming, hvacant.turn] at hc
  obtain ⟨_, hconnection, hfree⟩ := hvacant.free
  obtain rfl := Option.some.inj (hconnection.symm.trans hc)
  refine ⟨hfree, rfl, ?_⟩
  rw [Actor.due, hvacant.turn]
  exact List.forall_mem_nil _

theorem settling_of_addReady (hsettling : Settling front ticket a)
    (h : front.addReady? a.gateway handles = some (front', gateway)) :
    ∃ ticket, front'.onReady = some ticket ∧ front'.onDisconnect = front.onDisconnect ∧
      front'.location = front.location ∧ Settling front' ticket { a with gateway } := by
  obtain ⟨ticket, hrequest, rfl⟩ := request_of_addReady h
  exact ⟨ticket, rfl, rfl, rfl, settling_of_request .addReady hrequest
    hsettling.sound hsettling.commands hsettling.calm⟩

theorem shows_of_start (path : String) (hsettling : Settling front ticket a)
    (hcommands : a.gateway.commands = [])
    (h : front.start? a.gateway handle = some (front', gateway)) :
    front'.onReady = front.onReady ∧ front'.onDisconnect = front.onDisconnect ∧
      front'.location = front.location ∧ Actor.Sound { a with gateway } ∧
      Shows path front' [] { a with gateway } := by
  obtain ⟨htell, rfl⟩ := tell_of_start h
  obtain ⟨hcalls, hqueue⟩ := calls_of_tell (.inl ⟨rfl, rfl⟩) htell
  obtain ⟨hdue, hcoming⟩ := hcalls.course
  rw [hcommands, List.nil_append] at hqueue
  refine ⟨rfl, rfl, rfl, hsettling.sound.calls hcalls, ?_, ?_, ?_⟩
  · rw [hqueue]
    exact List.forall_mem_singleton.mpr nofun
  · rw [hdue, hcoming]
    intro c hc
    obtain ⟨hfree, hview, hquiet⟩ := hsettling.calm c hc
    -- The turn that the driver may be in the middle of opens no transport.
    have hnone : a.due.any opens = false :=
      List.any_eq_false.mpr fun happening hmem => by simp [(hquiet happening hmem).2]
    refine ⟨fun _ => ⟨hfree, ?_⟩, fun hsome => by simp [hnone] at hsome⟩
    rwa [List.nil_append, foldl_observe_of_callee_eq_none fun happening hmem =>
      (hquiet happening hmem).1]
  · rw [hqueue]
    exact fun _ _ _ => List.prefix_rfl

theorem mounted_of_mount (hsound : a.Sound) (hvacant : a.Vacant)
    (hfirst : ∀ move ∈ first, move.isOfCaller = false)
    (hsecond : ∀ move ∈ second, move.isOfCaller = false)
    (h : a.mount? path first second = some (front, b)) :
    Mounted path front b ∧ Shows path front [] b := by
  simp only [Actor.mount?, Option.bind_eq_bind, Option.bind_eq_some_iff, Option.some.injEq,
    Prod.mk.injEq, Prod.exists] at h
  obtain ⟨front₁, _, hmount, ticket, hticket, seen₁, handles, a₁, hawait₁, front₂, _, hadd,
    ticket', hticket', seen₂, handle, a₂, hawait₂, _, _, hstart, rfl, rfl⟩ := h
  obtain ⟨_, honDisconnect, hlocation, hsettling⟩ :=
    settling_of_mount hsound hvacant hmount
  obtain rfl := Option.some.inj (hticket.symm.trans honDisconnect)
  obtain ⟨hsettling, -, onDisconnect, hdisconnect, htaken, rfl, hhandles⟩ :=
    hsettling.await hfirst hawait₁
  obtain ⟨_, honReady, honDisconnect', hlocation', hsettling⟩ :=
    settling_of_addReady hsettling hadd
  obtain rfl := Option.some.inj (hticket'.symm.trans honReady)
  -- With this answer the queue is empty, so the start will be the only command in it.
  obtain ⟨hsettling, hnone, onReady, hready, htaken', rfl, hhandle⟩ :=
    hsettling.await hsecond hawait₂
  have hkept := mem_receipts_of_await hsecond hawait₂ hdisconnect htaken
  obtain ⟨honReady', honDisconnect'', hlocation'', hsound, hshows⟩ :=
    shows_of_start path hsettling hnone hstart
  rw [onDisconnect_foldl_observe] at honDisconnect' honDisconnect''
  rw [location_foldl_observe] at hlocation' hlocation''
  rw [onReady_foldl_observe] at honReady'
  refine ⟨⟨hsound, ?_, ⟨onReady, hready, htaken', ?_, ?_⟩,
    ⟨onDisconnect, hkept, htaken, ?_, ?_⟩⟩, hshows⟩
  · rw [hlocation'', hlocation', hlocation]
  · rw [honReady', hticket']
  · rw [hhandle]
    rfl
  · rw [honDisconnect'', honDisconnect', hticket]
  · rw [hhandles]
    rfl

end

/-! ## Views -/

theorem spares_of_isOfCaller (h : move.isOfCaller = false) : front.Spares move := by
  rintro call rfl
  rw [Call.removes?_of_isOfCaller h]
  exact ⟨fun hcall => by simp [hcall, Move.isOfCaller] at h, fun _ _ => nofun⟩

theorem mount_withoutToken (s : Stage) (name path : String) (h : s.tokens.get = none) :
    s.mount name path = (some (withoutToken path).view, s.keep name (withoutToken path)) := by
  rw [Stage.mount, h]
  rfl

/-- With a token, a mount on a gateway that has no transport ends with a start. Once that is
applied, which opens a transport, the view follows the connection at the end of every turn; until
then the start is the next command. Without a token there is nothing but a bootstrap, which does
not change, and the gateway is left alone. -/
theorem mounted_view_follows_connection :
    (∀ (policy : RetryPolicy) (multiplier : Nat) (a b z : Actor) (path : String)
      (first second moves : List Move) (front : Bootstrap) (seen : List Happening)
      (c : Connection Ticket),
      a.Reachable policy multiplier → a.Vacant →
      (∀ move ∈ first ++ second, move.isOfCaller = false) →
      a.mount? path first second = some (front, b) →
      (∀ move ∈ moves, front.Spares move) → b.play moves = some (seen, z) →
      z.turn = none → z.gateway.connection = some c →
        if seen.any opens then Follows path (seen.foldl observe front).view c
        else [{ operation := .start }] <+: z.gateway.commands) ∧
    ∀ (s : Stage) (name path : String), s.tokens.get = none →
      s.mount name path = (some (.redirectToLogin (loginRedirect path)),
        { s with mounted := s.mounted.filter (·.1 != name) ++ [(name, withoutToken path)],
                 mounting := none }) ∧
      ∀ seen : List Happening, seen.foldl observe (withoutToken path) = withoutToken path := by
  refine ⟨?_, fun s name path htoken => ⟨mount_withoutToken s name path htoken, fun seen => ?_⟩⟩
  · intro policy multiplier a b z path first second moves front seen c hreachable hvacant hcallers
      hmount hspares hplay hturn hconnection
    obtain ⟨hfirst, hsecond⟩ := List.forall_mem_append.mp hcallers
    obtain ⟨hmounted, hshows⟩ := mounted_of_mount hreachable.sound hvacant hfirst hsecond hmount
    have hends := hshows.play hmounted hspares hplay
    have hcoming : z.coming = some c := by rw [Actor.coming, hturn, hconnection]
    have hfits := hends.fits c hcoming
    have hstarts := hends.starts c hcoming
    rw [Actor.due, hturn, List.append_nil, List.nil_append] at hfits hstarts
    split
    · case isTrue hopens => exact hfits.follows hopens
    · case isFalse hopens => exact hstarts (eq_false_of_ne_true hopens)
  · exact foldl_observe_eq_self fun _ _ ticket hticket => by cases hticket

/-- The session gets ready and then the transport fails. The view is the login page, although there
is another transport at once. -/
theorem redirected_while_reconnecting :
    ∃ front b seen z c,
      (Actor.new {} 3).mount? "/app" (List.replicate 2 (.drive (.plain 0)))
        (List.replicate 2 (.drive (.plain 0))) = some (front, b) ∧
      b.play (List.replicate 4 (.drive (.plain 0)) ++
        [.call (.report 1 (.frame (Payload.ready [] []).encode))] ++
        List.replicate 4 (.drive (.plain 1)) ++ [.call (.report 1 (.failed "reset"))] ++
        List.replicate 6 (.drive (.plain 2))) = some (seen, z) ∧
      z.turn = none ∧ z.gateway.connection = some c ∧
      (c.phase, c.hasTransport, (seen.foldl observe front).view) =
        (.negotiating, true, .redirectToLogin "/?redirect_to=%2Fapp") ∧
      Follows "/app" (seen.foldl observe front).view c := by
  let waiting : List Move := List.replicate 2 (.drive (.plain 0))
  let moves : List Move := List.replicate 4 (.drive (.plain 0)) ++
    [.call (.report 1 (.frame (Payload.ready [] []).encode))] ++
    List.replicate 4 (.drive (.plain 1)) ++ [.call (.report 1 (.failed "reset"))] ++
    List.replicate 6 (.drive (.plain 2))
  have h : ((Actor.new {} 3).mount? "/app" waiting waiting).bind (fun (front, b) =>
      (b.play moves).map fun (seen, z) => (seen.any opens, z.turn.isNone,
        z.gateway.connection.map fun c =>
          (c.phase, c.hasTransport, (seen.foldl observe front).view))) =
      some (true, true, some (.negotiating, true, .redirectToLogin "/?redirect_to=%2Fapp")) := by
    decide +kernel
  obtain ⟨⟨front, b⟩, hmount, h⟩ := Option.bind_eq_some_iff.mp h
  obtain ⟨⟨seen, z⟩, hplay, h⟩ := Option.map_eq_some_iff.mp h
  obtain ⟨hopens, h⟩ := Prod.mk.inj h
  obtain ⟨hturn, h⟩ := Prod.mk.inj h
  obtain ⟨c, hc, hshown⟩ := Option.map_eq_some_iff.mp h
  rw [Option.isNone_iff_eq_none] at hturn
  have hspares : ∀ move ∈ moves, front.Spares move := fun move hmove =>
    spares_of_isOfCaller ((by decide : ∀ move ∈ moves, move.isOfCaller = false) move hmove)
  have hfollows := mounted_view_follows_connection.1 {} 3 _ b z "/app" waiting waiting moves front
    seen c ⟨[], [], rfl⟩ ⟨rfl, ⟨_, rfl, rfl, rfl⟩, List.forall_mem_nil _⟩ (by decide) hmount hspares
    hplay hturn hc
  rw [if_pos hopens] at hfollows
  exact ⟨front, b, seen, z, c, hmount, hplay, hturn, hc, hshown, hfollows⟩

end Bootstrap

end GatewayClient
