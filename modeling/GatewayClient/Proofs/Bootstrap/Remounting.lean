import GatewayClient.Proofs.Bootstrap.Mounting
import GatewayClient.Proofs.Gateway.Lull
import GatewayClient.Proofs.Gateway.Removal
/-!
# Mounting on a running gateway

A bootstrap learns of a session by the calls of its handlers only. The start that it ends with does
nothing if there is a transport, and so nobody tells it that the session is ready already. It waits
for a session that will not get ready once more.

Main statement: `mounted_view_misses_running_session`.
-/

namespace GatewayClient

open Connection (Answer)
open Gateway (Actor Happening Move Receipt Request greeted?)
open Gateway.Actor (Attended Known Lull callee? coming_of_idle play_append play_cons play_singleton)

variable {a b z : Actor} {moves first second : List Move} {seen : List Happening} {path : String}
  {front : Bootstrap} {ticket : Ticket}

/-! ## Mounts as plays -/

namespace Gateway.Actor

/-- A caller asks, and takes its answer when others have moved. -/
def asking (request : Request) (ticket : Ticket) (meanwhile : List Move) : List Move :=
  .call (.ask request) :: (meanwhile ++ [.call (.take ticket)])

section

variable {request : Request} {property : Move → Prop}
  (hcall : ∀ call, (Move.call call).isReport = false → property (.call call))

include hcall

/-- What holds of all that callers do holds of a question if it holds of what others do. -/
theorem forall_mem_asking (hmoves : ∀ move ∈ moves, property move) :
    ∀ move ∈ asking request ticket moves, property move := by
  refine List.forall_mem_cons.mpr ⟨hcall _ rfl, List.forall_mem_append.mpr ⟨hmoves, ?_⟩⟩
  exact List.forall_mem_singleton.mpr (hcall _ rfl)

theorem forall_mem_asking_start (hsecond : ∀ move ∈ second, property move)
    (hmoves : ∀ move ∈ moves, property move) :
    ∀ move ∈ asking request ticket second ++ .call .start :: moves, property move :=
  List.forall_mem_append.mpr
    ⟨forall_mem_asking hcall hsecond, List.forall_mem_cons.mpr ⟨hcall _ rfl, hmoves⟩⟩

end

theorem ticket_of_request {g gateway : Gateway} {operation : Ticket → Connection.Operation Ticket}
    (h : g.request? operation = some (ticket, gateway)) : ticket = g.nextTicket := by
  simp only [request?, Option.ite_none_right_eq_some, Option.some.injEq, Prod.mk.injEq] at h
  exact h.2.1.symm

theorem play_of_await {κ : Type} (request : Request) {gateway : Gateway}
    {handle? : Answer → Option κ} {handle : κ}
    (hrequest : a.gateway.request? request.operation = some (ticket, gateway))
    (hawait : { a with gateway }.await? ticket handle? moves = some (seen, handle, b)) :
    a.play (asking request ticket moves) = some (seen, b) ∧
      ∃ receipt ∈ b.receipts, receipt.ticket = ticket := by
  simp only [await?, Option.bind_eq_bind, Option.bind_eq_some_iff, Option.some.injEq,
    Prod.mk.injEq, Prod.exists] at hawait
  obtain ⟨_, between, hplay, after, htake, receipt, hfind, _, -, rfl, -, rfl⟩ := hawait
  have hask : a.step? (.call (.ask request)) = some ([], { a with gateway }) := by
    simp [step?, after?, hrequest]
  have htaken : between.step? (.call (.take ticket)) = some ([], after) := by
    simp [step?, htake]
  refine ⟨?_, receipt, List.mem_of_find?_eq_some hfind, by simpa using List.find?_some hfind⟩
  refine play_cons.mpr ⟨[], _, _, hask, play_append.mpr ⟨_, between, [], hplay, ?_, rfl⟩, by simp⟩
  exact play_singleton.trans htaken

end Gateway.Actor

namespace Bootstrap

open Gateway.Actor (asking forall_mem_asking forall_mem_asking_start play_of_await
  ticket_of_request)

/-- A bootstrap that waits for the answer to its first question. -/
def asked (path : String) (ticket : Ticket) : Bootstrap :=
  { location := loginRedirect path, view := .loading, onDisconnect := some ticket }

/-- A mount, and what follows it, is a play in two parts, each of which begins with a question. -/
theorem plays_of_mount (hmount : a.mount? path first second = some (front, b))
    (hplay : b.play moves = some (seen, z)) :
    ∃ seen₁ seen₂ mid disconnect ready,
      a.play (asking .addDisconnect a.gateway.nextTicket first) = some (seen₁, mid) ∧
      (∃ receipt ∈ mid.receipts, receipt.ticket = a.gateway.nextTicket) ∧
      mid.play (asking .addReady mid.gateway.nextTicket second ++ .call .start :: moves) =
        some (seen₂ ++ seen, z) ∧
      front = { seen₂.foldl observe { seen₁.foldl observe (asked path a.gateway.nextTicket) with
        disconnect, onReady := some mid.gateway.nextTicket } with ready } := by
  simp only [Actor.mount?, Option.bind_eq_bind, Option.bind_eq_some_iff, Option.some.injEq,
    Prod.mk.injEq, Prod.exists] at hmount
  obtain ⟨front₁, gateway₁, hasked, ticket₁, hticket₁, seen₁, handles, mid, hawait₁, front₂,
    gateway₂, hadd, ticket₂, hticket₂, seen₂, handle, last, hawait₂, front₃, gateway₃, hstart, rfl,
    rfl⟩ := hmount
  obtain ⟨_, hrequest₁, rfl⟩ := request_of_mount hasked
  obtain rfl := Option.some.inj hticket₁
  obtain ⟨_, hrequest₂, rfl⟩ := request_of_addReady hadd
  obtain rfl := Option.some.inj hticket₂
  obtain ⟨htell, rfl⟩ := tell_of_start hstart
  obtain ⟨hfirst, hreceipt⟩ := play_of_await .addDisconnect hrequest₁ hawait₁
  obtain ⟨hsecond, -⟩ := play_of_await .addReady hrequest₂ hawait₂
  obtain rfl := ticket_of_request hrequest₁
  obtain rfl := ticket_of_request hrequest₂
  have hstarted : last.step? (.call .start) = some ([], { last with gateway := gateway₃ }) := by
    simp [Actor.step?, Actor.after?, htell]
  refine ⟨seen₁, seen₂, mid, _, _, hfirst, hreceipt, ?_, rfl⟩
  exact play_append.mpr
    ⟨seen₂, last, seen, hsecond, play_cons.mpr ⟨[], _, seen, hstarted, hplay, rfl⟩, rfl⟩

theorem location_of_mount (h : a.mount? path first second = some (front, b)) :
    front.location = loginRedirect path := by
  obtain ⟨_, _, _, _, _, -, -, -, rfl⟩ := plays_of_mount h (rfl : b.play [] = _)
  simp [asked]

/-! ## Views -/

/-- The session was never ready, as far as the view knows. -/
def Unconnected (front : Bootstrap) : Prop :=
  front.view = .loading ∨ front.view = .redirectToLogin front.location

theorem Unconnected.foldl_observe (h : front.Unconnected)
    (hgreeted : ∀ happening ∈ seen, ∀ ticket, greeted? happening = some ticket →
      front.onReady ≠ some ticket) : (seen.foldl observe front).Unconnected := by
  induction seen generalizing front with
  | nil => exact h
  | cons happening seen ih =>
      obtain ⟨hhead, hrest⟩ := List.forall_mem_cons.mp hgreeted
      obtain ⟨view, hview⟩ := exists_view_observe front happening
      rw [List.foldl_cons]
      refine ih ?_ (hview ▸ hrest)
      unfold observe
      split
      · next ticket =>
        rw [if_neg (hhead ticket rfl)]
        exact h
      · next ticket reconnect =>
        split
        · cases reconnect with
          | true => exact .inl rfl
          | false => exact .inr rfl
        · exact h
      · exact h

/-- Handlers with late tickets are not called. -/
theorem foldl_observe_of_lt {bound : Ticket} (htickets : ∀ ticket ∈ front.tickets, bound ≤ ticket)
    (hcalled : ∀ happening ∈ seen, ∀ ticket, callee? happening = some ticket → ticket < bound) :
    seen.foldl observe front = front := by
  refine foldl_observe_eq_self ?_
  intro happening hmem ticket hticket hcallee
  exact Nat.not_lt.mpr (htickets ticket hticket) (hcalled happening hmem ticket hcallee)

variable {policy : RetryPolicy} {multiplier : Nat} {c c₀ : Connection Ticket}

/-- Until its caller has an answer the command of a mount waits behind all events. -/
theorem events_of_asking {request : Request} (hreachable : a.Reachable policy multiplier)
    (hmoves : ∀ move ∈ moves, move.isReport = false)
    (hplay : a.play (asking request a.gateway.nextTicket moves) = some (seen, b))
    (hreceipt : ∃ receipt ∈ b.receipts, receipt.ticket = a.gateway.nextTicket) :
    b.gateway.events = [] := by
  obtain ⟨receipt, hreceipt, hticket⟩ := hreceipt
  have hsound := (hreachable.play hplay).sound
  obtain ⟨_, asked, rest, hask, hrest, -⟩ := play_cons.mp hplay
  have hattended : Attended a.gateway.nextTicket asked := by
    obtain ⟨-, hcall⟩ := Gateway.Actor.called_of_step hask
    obtain ⟨⟨ticket, gateway⟩, hrequest, hgateway⟩ := Option.bind_eq_some_iff.mp hcall
    obtain rfl := Option.some.inj hgateway
    obtain rfl := ticket_of_request hrequest
    rw [Attended, (Gateway.Actor.calls_of_request hrequest).2]
    exact .inr ⟨_, List.mem_append_right _ (List.mem_singleton_self _), rfl⟩
  have hreports : ∀ move ∈ asking request a.gateway.nextTicket moves, move.isReport = false :=
    forall_mem_asking (fun _ => id) hmoves
  have hlast := hattended.play (List.forall_mem_cons.mp hreports).2 hrest
  exact hlast.events_eq_nil hsound hreceipt hticket

section

variable (hreachable : a.Reachable policy multiplier)
  (hreports : ∀ move ∈ first ++ second ++ moves, move.isReport = false)
  (hmount : a.mount? path first second = some (front, b)) (hplay : b.play moves = some (seen, z))
  (hcoming : z.coming = some c)

include hreachable hreports hmount hplay hcoming

/-- The session does not get ready any more once there is a handler that would hear of it. -/
theorem unconnected_of_mount : (seen.foldl observe front).Unconnected := by
  obtain ⟨hwaiting, hmoves⟩ := List.forall_mem_append.mp hreports
  obtain ⟨hfirst, hsecond⟩ := List.forall_mem_append.mp hwaiting
  obtain ⟨seen₁, seen₂, mid, disconnect, ready, hplay₁, hreceipt, hlater, rfl⟩ :=
    plays_of_mount hmount hplay
  have hmid := hreachable.play hplay₁
  -- The lull begins with the answer to the first question, whatever was queued before.
  have hevents := events_of_asking hreachable hfirst hplay₁ hreceipt
  have hlull : Lull greeted? mid.gateway.nextTicket [] mid := .of_known hmid.known hevents <| by
    intro happening ticket hgreeted
    rw [Gateway.greeted_eq_some.mp hgreeted]
    rfl
  have hends := hlull.play_greeted hmid.sound
    (forall_mem_asking_start (fun _ => id) hsecond hmoves) hlater
  have hgreeted : ∀ happening ∈ seen₂ ++ seen, ∀ ticket, greeted? happening = some ticket →
      some mid.gateway.nextTicket ≠ some ticket := by
    intro happening hmem ticket hcalled hsame
    have hlt := hends.earlier c hcoming happening (List.mem_append_left _ hmem) ticket hcalled
    exact Nat.ne_of_gt hlt (Option.some.inj hsame)
  obtain ⟨hgreeted₂, hgreeted₃⟩ := List.forall_mem_append.mp hgreeted
  -- Before the ready handler is asked for nobody can hear that the session is ready.
  have hfirst : (seen₁.foldl observe (asked path a.gateway.nextTicket)).Unconnected :=
    .foldl_observe (.inl rfl) fun _ _ _ _ => nofun
  have hsecond : Unconnected (seen₂.foldl observe
      { seen₁.foldl observe (asked path a.gateway.nextTicket) with
        disconnect, onReady := some mid.gateway.nextTicket }) :=
    .foldl_observe hfirst hgreeted₂
  refine Unconnected.foldl_observe hsecond ?_
  rw [onReady_foldl_observe]
  exact hgreeted₃

/-- While nothing happens to its transport, the session of a gateway goes on, and handlers that are
added meanwhile are not called. -/
theorem lasts_of_mount (hevents : a.gateway.events = []) (hc₀ : a.coming = some c₀)
    (hsilent : ∀ move ∈ first ++ second ++ moves, ∀ now ∈ move.time?,
      c₀.watchdog.isExpired now = false) :
    (seen.foldl observe front).view = .loading ∧ c₀.Lasts c := by
  obtain ⟨hwaiting, hmoves⟩ := List.forall_mem_append.mp hreports
  obtain ⟨hfirst, hsecond⟩ := List.forall_mem_append.mp hwaiting
  obtain ⟨hwaitingSilent, hmovesSilent⟩ := List.forall_mem_append.mp hsilent
  obtain ⟨hfirstSilent, hsecondSilent⟩ := List.forall_mem_append.mp hwaitingSilent
  obtain ⟨seen₁, seen₂, mid, disconnect, ready, hplay₁, -, hlater, rfl⟩ :=
    plays_of_mount hmount hplay
  have hmid := hreachable.play hplay₁
  -- Here the lull begins with the mount, and it goes on through both parts of the play.
  have hlull : Lull callee? a.gateway.nextTicket [] a :=
    .of_known hreachable.known hevents fun _ _ => id
  have hlasts : ∀ c, a.coming = some c → c₀.Lasts c := by
    intro c hc
    obtain rfl := Option.some.inj (hc₀.symm.trans hc)
    exact .refl c₀
  have hcall (call : Gateway.Call) : ∀ now ∈ (Move.call call).time?,
      c₀.watchdog.isExpired now = false := by
    simp [Move.time?]
  obtain ⟨hlull, hlasts⟩ := hlull.play_called hreachable.sound hlasts
    (forall_mem_asking (fun _ => id) hfirst)
    (forall_mem_asking (fun call _ => hcall call) hfirstSilent) hplay₁
  have hle := hlull.le_next
  obtain ⟨hlull, hlasts⟩ := hlull.play_called hmid.sound hlasts
    (forall_mem_asking_start (fun _ => id) hsecond hmoves)
    (forall_mem_asking_start (fun call _ => hcall call) hsecondSilent hmovesSilent) hlater
  refine ⟨?_, hlasts c hcoming⟩
  have hcalled : ∀ happening ∈ seen₁ ++ (seen₂ ++ seen), ∀ ticket,
      callee? happening = some ticket → ticket < a.gateway.nextTicket :=
    fun happening hmem => hlull.earlier c hcoming happening (List.mem_append_left _ hmem)
  obtain ⟨hcalled₁, hcalled₂₃⟩ := List.forall_mem_append.mp hcalled
  obtain ⟨hcalled₂, hcalled₃⟩ := List.forall_mem_append.mp hcalled₂₃
  -- Both handlers of the bootstrap are added under later tickets than those.
  have hview₁ : seen₁.foldl observe (asked path a.gateway.nextTicket) =
      asked path a.gateway.nextTicket :=
    foldl_observe_of_lt (by simp [tickets, asked]) hcalled₁
  have hview₂ : seen₂.foldl observe { asked path a.gateway.nextTicket with
      disconnect, onReady := some mid.gateway.nextTicket } = { asked path a.gateway.nextTicket with
        disconnect, onReady := some mid.gateway.nextTicket } :=
    foldl_observe_of_lt (by simpa [tickets, asked] using hle) hcalled₂
  rw [hview₁, hview₂, foldl_observe_of_lt (by simpa [tickets, asked] using hle) hcalled₃]
  rfl

end

/-- Whatever a gateway has been through, a bootstrap that is mounted on it does not show a session
unless a transport reports something afterwards. While no event is handled and no transport is
silent for too long, it shows that it waits, also if the session is ready. The session is ready
exactly if it was when the mount began, and there was no other transport since. -/
theorem mounted_view_misses_running_session (hreachable : a.Reachable policy multiplier)
    (hreports : ∀ move ∈ first ++ second ++ moves, move.isReport = false)
    (hmount : a.mount? path first second = some (front, b))
    (hplay : b.play moves = some (seen, z)) (hturn : z.turn = none)
    (hconnection : z.gateway.connection = some c) :
    ((seen.foldl observe front).view = .loading ∨
      (seen.foldl observe front).view = .redirectToLogin (loginRedirect path)) ∧
    ∀ c₀, a.gateway.events = [] → a.coming = some c₀ →
      (∀ move ∈ first ++ second ++ moves, ∀ now ∈ move.time?,
        c₀.watchdog.isExpired now = false) →
      (seen.foldl observe front).view = .loading ∧
        (c.phase = .ready ↔ c₀.phase = .ready ∧ c.generation = c₀.generation) := by
  have hcoming := coming_of_idle hturn hconnection
  refine ⟨?_, ?_⟩
  · have hunconnected := unconnected_of_mount hreachable hreports hmount hplay hcoming
    rw [Unconnected, location_foldl_observe, location_of_mount hmount] at hunconnected
    exact hunconnected
  · intro c₀ hevents hc₀ hsilent
    obtain ⟨hview, hlasts⟩ :=
      lasts_of_mount hreachable hreports hmount hplay hcoming hevents hc₀ hsilent
    exact ⟨hview, hlasts.ready_iff⟩

/-- A session gets ready, a bootstrap is mounted, and its start is carried out. -/
theorem waits_for_running_session :
    ∃ earlier a front b seen z c,
      (Actor.new {} 3).play ([.call .start] ++ List.replicate 4 (.drive (.plain 0)) ++
        [.call (.report 1 (.frame (Payload.ready [] []).encode))] ++
        List.replicate 3 (.drive (.plain 0))) = some (earlier, a) ∧
      a.mount? "/" (List.replicate 2 (.drive (.plain 1))) (List.replicate 2 (.drive (.plain 1))) =
        some (front, b) ∧
      b.play (List.replicate 2 (.drive (.plain 2))) = some (seen, z) ∧ z.turn = none ∧
      z.gateway.connection = some c ∧ c.generation = 1 ∧ c.phase = .ready ∧
      (seen.foldl observe front).view = .loading := by
  let beginning : List Move := [.call .start] ++ List.replicate 4 (.drive (.plain 0)) ++
    [.call (.report 1 (.frame (Payload.ready [] []).encode))] ++
    List.replicate 3 (.drive (.plain 0))
  let waiting : List Move := List.replicate 2 (.drive (.plain 1))
  let moves : List Move := List.replicate 2 (.drive (.plain 2))
  have h : ((Actor.new {} 3).play beginning).bind (fun begun =>
      (begun.2.mount? "/" waiting waiting).bind fun front => (front.2.play moves).map fun last =>
        (begun.2.gateway.events.isEmpty,
          begun.2.coming.map fun c => (c.phase, c.generation, c.watchdog.deadline.isNone),
          last.2.turn.isNone, last.2.gateway.connection.map (·.generation))) =
      some (true, some (.ready, 1, true), true, some 1) := by
    decide +kernel
  obtain ⟨⟨earlier, a⟩, hbeginning, h⟩ := Option.bind_eq_some_iff.mp h
  obtain ⟨⟨front, b⟩, hmount, h⟩ := Option.bind_eq_some_iff.mp h
  obtain ⟨⟨seen, z⟩, hplay, h⟩ := Option.map_eq_some_iff.mp h
  simp only [Prod.mk.injEq, List.isEmpty_iff, Option.isNone_iff_eq_none,
    Option.map_eq_some_iff] at h
  obtain ⟨hevents, ⟨c₀, hc₀, hready, hfirst, hdeadline⟩, hturn, c, hconnection, hsame⟩ := h
  have hsilent : ∀ move ∈ waiting ++ waiting ++ moves, ∀ now ∈ move.time?,
      c₀.watchdog.isExpired now = false := by
    simp [Watchdog.isExpired, hdeadline]
  obtain ⟨-, hlasts⟩ := mounted_view_misses_running_session ⟨beginning, earlier, hbeginning⟩
    (by decide) hmount hplay hturn hconnection
  obtain ⟨hview, hiff⟩ := hlasts c₀ hevents hc₀ hsilent
  refine ⟨earlier, a, front, b, seen, z, c, hbeginning, hmount, hplay, hturn, hconnection, hsame,
    ?_, hview⟩
  exact hiff.mpr ⟨hready, hsame.trans hfirst.symm⟩

/-- A bootstrap is mounted on an idle gateway and shows the session when it is ready. It is
unmounted, and the next one waits, although the session is ready still and nothing is left to be
done. -/
theorem loading_after_remount :
    ((Actor.new {} 3).mount? "/" (List.replicate 2 (.drive (.plain 0)))
        (List.replicate 2 (.drive (.plain 0)))).bind (fun first =>
      (first.2.play (List.replicate 4 (.drive (.plain 0)) ++
          [.call (.report 1 (.frame (Payload.ready [] []).encode))] ++
          List.replicate 4 (.drive (.plain 0)))).bind fun shown =>
        (shown.2.play (first.1.removals ++ List.replicate 4 (.drive (.plain 0)))).bind fun left =>
          (left.2.mount? "/" (List.replicate 2 (.drive (.plain 0)))
              (List.replicate 2 (.drive (.plain 0)))).bind fun second =>
            (second.2.play (List.replicate 2 (.drive (.plain 0)))).map fun last =>
              ((shown.1.foldl observe first.1).view, last.2.turn.isNone, last.2.gateway.commands,
                last.2.gateway.connection.map (·.phase), (last.1.foldl observe second.1).view)) =
      some (.connected, true, [], some .ready, .loading) := by
  decide +kernel

end Bootstrap

end GatewayClient
