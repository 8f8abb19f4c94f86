import GatewayClient.Proofs.Bootstrap.Following
import GatewayClient.Proofs.Gateway.Course
/-!
# Mounted bootstraps

Both handlers of a bootstrap are added, and its start is queued, on a gateway whose connection is
free. The first transport that is opened then is that of the start, at the latest, and from there
on the view follows the connection.
-/

namespace GatewayClient.Bootstrap

open Connection (Surroundings)
open Gateway (Actor Call Happening Move Work)
open Gateway.Actor (Begins Calls Continues calls_of_after callee? step_cases begins_or_continues
  mem_receipts_of_step)

variable {path : String} {front : Bootstrap} {seen more : List Happening} {a b z : Actor}
  {call : Call} {move : Move} {moves : List Move} {c c' : Connection Ticket} {work : Work}
  {world : Surroundings} {happening : Happening}

/-- The move is neither a shutdown nor a removal of a handler of the bootstrap. -/
def Spares (front : Bootstrap) (move : Move) : Prop :=
  ∀ call, move = .call call →
    call ≠ .shutdown ∧ ∀ ticket ∈ front.tickets, call.removes? ≠ some ticket

/-- Both handlers of the bootstrap were added. -/
structure Mounted (path : String) (front : Bootstrap) (a : Actor) : Prop where
  sound : a.Sound
  location : front.location = loginRedirect path
  ready : ∃ receipt ∈ a.receipts, receipt.taken = true ∧ front.onReady = some receipt.ticket ∧
    receipt.answer.handle?.isSome
  disconnect : ∃ receipt ∈ a.receipts, receipt.taken = true ∧
    front.onDisconnect = some receipt.ticket ∧ receipt.answer.disconnectHandle?.isSome

namespace Mounted

theorem watching (h : Mounted path front a) (hc : a.gateway.connection = some c) :
    front.Watching c := by
  obtain ⟨onReady, hready, -, honReady, hhandle⟩ := h.ready
  obtain ⟨onDisconnect, hdisconnect, -, honDisconnect, hhandles⟩ := h.disconnect
  obtain ⟨handle, hhandle⟩ := Option.isSome_iff_exists.mp hhandle
  obtain ⟨handles, hhandles⟩ := Option.isSome_iff_exists.mp hhandles
  refine ⟨⟨onReady.ticket, ?_, honReady⟩, ⟨onDisconnect.ticket, ?_, ?_, honDisconnect⟩⟩
  · exact List.mem_map_of_mem (h.sound.registered .ready hready hhandle hc)
  · exact List.mem_map_of_mem (h.sound.registered .noReconnect hdisconnect
      (congrArg (Option.map Connection.DisconnectHandle.noReconnect) hhandles) hc)
  · exact List.mem_map_of_mem (h.sound.registered .reconnect hdisconnect
      (congrArg (Option.map Connection.DisconnectHandle.reconnect) hhandles) hc)

theorem not_removed (h : Mounted path front a) {ticket : Ticket}
    (hticket : ticket ∈ front.tickets) : ticket ∉ a.gateway.removed := by
  obtain ⟨onReady, hready, -, honReady, -⟩ := h.ready
  obtain ⟨onDisconnect, hdisconnect, -, honDisconnect, -⟩ := h.disconnect
  rw [tickets, honReady, honDisconnect] at hticket
  rcases List.mem_pair.mp hticket with rfl | rfl
  · exact h.sound.not_removed hready
  · exact h.sound.not_removed hdisconnect

/-- What concerns the bootstrap takes place. -/
theorem admits_of_concerns (h : Mounted path front a)
    (hconcerns : concerns front.tickets happening = true) :
    ∃ effect, happening = .did effect ∧ a.gateway.admits effect = true := by
  cases happening with
  | replied => simp [concerns, opens, callee?] at hconcerns
  | did effect =>
      refine ⟨effect, rfl, ?_⟩
      cases hcalled : Gateway.calledTicket? effect with
      | none => simp [Gateway.admits, hcalled]
      | some ticket =>
          have hopens : opens (.did effect) = false := by
            cases effect <;> first | rfl | cases hcalled
          have hticket : ticket ∈ front.tickets := by
            simpa [concerns, hopens, callee?, hcalled] using hconcerns
          simp [Gateway.admits, hcalled, h.not_removed hticket]

theorem step (h : Mounted path front a) (hspares : front.Spares move)
    (hstep : a.step? move = some (more, b)) : Mounted path front b := by
  obtain ⟨onReady, hready, hreadyTaken, honReady, hhandle⟩ := h.ready
  obtain ⟨onDisconnect, hdisconnect, hdisconnectTaken, honDisconnect, hhandles⟩ := h.disconnect
  refine ⟨h.sound.step hstep, h.location, ⟨onReady, ?_, hreadyTaken, honReady, hhandle⟩,
    ⟨onDisconnect, ?_, hdisconnectTaken, honDisconnect, hhandles⟩⟩
  · refine mem_receipts_of_step hstep hready hreadyTaken fun call hcall => ?_
    exact (hspares call hcall).2 _ (by simp [tickets, honReady])
  · refine mem_receipts_of_step hstep hdisconnect hdisconnectTaken fun call hcall => ?_
    exact (hspares call hcall).2 _ (by simp [tickets, honDisconnect])

end Mounted

/-- Since its start was queued, things have happened that brought the view where it is. -/
structure Shows (path : String) (front : Bootstrap) (seen : List Happening) (a : Actor) : Prop
    where
  commands : ∀ command ∈ a.gateway.commands, command.operation ≠ .shutdown
  fits : ∀ c, a.coming = some c → Fits path front (seen ++ a.due) c
  /-- Until a transport is opened the start is the next command. -/
  starts : ∀ c, a.coming = some c → (seen ++ a.due).any opens = false →
    [{ operation := .start }] <+: a.gateway.commands

namespace Shows

theorem called (h : Shows path front seen a) (hcall : call ≠ .shutdown) (hcalls : Calls a call b) :
    Shows path front seen b := by
  obtain ⟨hdue, hcoming⟩ := hcalls.course
  obtain ⟨added, hcommands, hadded⟩ := hcalls.commands_eq
  refine ⟨?_, ?_, ?_⟩
  · rw [hcommands]
    intro command hcommand
    rcases List.mem_append.mp hcommand with hcommand | hcommand
    · exact h.commands command hcommand
    · exact fun hshutdown => hcall (hadded command hcommand hshutdown)
  · rw [hdue, hcoming]
    exact h.fits
  · rw [hdue, hcoming, hcommands]
    exact fun c hc hnone => (h.starts c hc hnone).trans (List.prefix_append ..)

theorem begun (h : Shows path front seen a) (hmounted : Mounted path front a)
    (hbegins : Begins a b c work world) : Shows path front seen b := by
  have hcoming : a.coming = some c := by rw [Actor.coming, hbegins.idle, hbegins.connection]
  have hdue : a.due = [] := by rw [Actor.due, hbegins.idle]
  have hfits := h.fits c hcoming
  have hstarts := h.starts c hcoming
  rw [hdue, List.append_nil] at hfits hstarts
  have hshutdown (hlast : work.last = false) : work.command.operation ≠ .shutdown := by
    rcases hbegins.takes.commands_cases with hcommands | ⟨-, -, hlater⟩
    · exact h.commands _ (hcommands ▸ List.mem_cons_self)
    · exact fun hoperation => by simp [hlater hoperation] at hlast
  refine ⟨fun command hcommand => ?_, fun c' hc' => ?_, fun c' hc' hnone => ?_⟩
  · rcases hbegins.takes.commands_cases with hcommands | ⟨hcommands, -⟩
    · exact h.commands command (hcommands ▸ List.mem_cons_of_mem _ hcommand)
    · exact h.commands command (hcommands ▸ hcommand)
  · obtain ⟨hlast, moments, answer, turn, hdue'⟩ := hbegins.outcome c' hc'
    rw [hdue']
    exact hfits.turn (hmounted.sound.kept c hbegins.connection).coupled
      (hmounted.watching hbegins.connection) hmounted.location (hshutdown hlast) turn
  · obtain ⟨-, moments, answer, turn, hdue'⟩ := hbegins.outcome c' hc'
    rw [hdue', List.any_append, Bool.or_eq_false_iff] at hnone
    obtain ⟨hseen, hmoments⟩ := hnone
    have hprefix := hstarts hseen
    rcases hbegins.takes.commands_cases with hcommands | ⟨hcommands, -⟩
    · -- The driver takes the start, which opens a transport.
      rw [hcommands, List.cons_prefix_cons] at hprefix
      rw [← hprefix.1] at turn
      rw [any_opens_happenings, ((hfits.waits hseen).1.start turn).1] at hmoments
      cases hmoments
    · exact hcommands ▸ hprefix

theorem continued (h : Shows path front seen a) (hmounted : Mounted path front a)
    (hcontinues : Continues a more b) : Shows path front (seen ++ more) b := by
  -- Neither handler of the bootstrap is removed, so all that concerns it happens.
  have hsame {c' : Connection Ticket} (hc' : b.coming = some c') :
      (seen ++ more ++ b.due).filter (concerns front.tickets) =
        (seen ++ a.due).filter (concerns front.tickets) := by
    obtain ⟨-, -, hfilter⟩ := hcontinues.outcome c' hc'
    rw [List.append_assoc, List.filter_append, List.filter_append seen,
      hfilter (concerns front.tickets) fun _ => hmounted.admits_of_concerns]
  refine ⟨fun command hcommand => h.commands command (hcontinues.commands.subset hcommand),
    fun c' hc' => ?_, fun c' hc' hnone => ?_⟩
  · obtain ⟨-, ⟨c, hc, hphase, hheld, hretry⟩, -⟩ := hcontinues.outcome c' hc'
    exact (h.fits c hc).congr (hsame hc') hphase hheld hretry
  · obtain ⟨hcommands, ⟨c, hc, -⟩, -⟩ := hcontinues.outcome c' hc'
    rw [any_opens_congr (hsame hc')] at hnone
    exact hcommands ▸ h.starts c hc hnone

end Shows

theorem Shows.step (h : Shows path front seen a) (hmounted : Mounted path front a)
    (hspares : front.Spares move) (hstep : a.step? move = some (more, b)) :
    Shows path front (seen ++ more) b := by
  rcases step_cases hstep with ⟨call, rfl, hcall, rfl⟩ | hdrives
  · rw [List.append_nil]
    exact h.called (hspares call rfl).1 (calls_of_after hcall)
  · rcases begins_or_continues hdrives with ⟨rfl, c, work, world, hbegins⟩ | hcontinues
    · rw [List.append_nil]
      exact h.begun hmounted hbegins
    · exact h.continued hmounted hcontinues

theorem Shows.play (h : Shows path front seen a) (hmounted : Mounted path front a)
    (hspares : ∀ move ∈ moves, front.Spares move)
    (hplay : a.play moves = some (more, z)) : Shows path front (seen ++ more) z :=
  (Actor.play_preserves (fun seen a => Mounted path front a ∧ Shows path front seen a) seen
    (fun hmove h hstep => ⟨h.1.step (hspares _ hmove) hstep,
      h.2.step h.1 (hspares _ hmove) hstep⟩) ⟨hmounted, h⟩ hplay).2

end GatewayClient.Bootstrap
