import GatewayClient.Proofs.Bootstrap.Observation
import GatewayClient.Proofs.Connection.Transition
/-!
# Following

The view of a bootstrap follows a connection that has both its handlers: it changes only when a
handler is called, and yet it fits the connection at the end of every turn.
-/

namespace GatewayClient

namespace Connection

variable {η : Type} {c c' : Connection η} {world : Surroundings} {operation : Operation η}
  {moments : List (Moment η)} {answer : Answer}

/-- There is no transport, and there will be none until somebody asks for one. -/
structure Free (c : Connection η) : Prop where
  held : c.hasTransport = false
  retry : c.retryAt = none

theorem Free.transition (h : c.Free) (hstart : operation ≠ .start)
    (htransition : Transition c world operation moments c') : moments = [] ∧ c'.Free := by
  cases htransition with
  | calm _ _ hc' =>
      rw [hc']
      cases operation <;> exact ⟨rfl, h.held, h.retry⟩
  | started => exact absurd rfl hstart
  | stopped => exact ⟨rfl, rfl, rfl⟩
  | retried _ _ hretry => simp [h.retry] at hretry
  | heard hheld | ready hheld | failed hheld | closed hheld | ended hheld =>
      simp [h.held] at hheld

theorem Free.start (h : c.Free) (turn : (c.apply world .start).Yields moments (answer, c')) :
    landmarks moments = [⟨.opened (c.generation + 1), c.fresh⟩] ∧ c' = c.opened := by
  obtain ⟨_, hstart, hresult⟩ := Turn.yields_bind_pure.mp turn
  obtain ⟨-, rfl⟩ := Prod.mk.inj hresult
  exact start_yields_of_free h.held hstart

end Connection

open Connection (Act Effect Moment Operation Surroundings Transition Retry landmarks)
open Gateway (Happening happenings)
open Gateway.Actor (callee?)

namespace Bootstrap

variable {path : String} {front : Bootstrap} {c c' : Connection Ticket} {world : Surroundings}
  {operation : Operation Ticket} {moments : List (Moment Ticket)} {view : View}

/-- How the view goes with the connection. -/
structure Follows (path : String) (view : View) (c : Connection Ticket) : Prop where
  connected_iff : view = .connected ↔ c.phase = .ready
  redirected : c.phase = .unhealthy → c.retryAt = none →
    view = .redirectToLogin (loginRedirect path)
  loading : view = .loading → c.hasTransport = true ∨ c.retryAt.isSome
  location : ∀ location, view = .redirectToLogin location → location = loginRedirect path

namespace Follows

theorem connected (hready : c.phase = .ready) : Follows path .connected c where
  connected_iff := iff_of_true rfl hready
  redirected hunhealthy := by simp [hready] at hunhealthy
  loading := nofun
  location := nofun

theorem redirect (hready : c.phase ≠ .ready) :
    Follows path (.redirectToLogin (loginRedirect path)) c where
  connected_iff := iff_of_false nofun hready
  redirected _ _ := rfl
  loading := nofun
  location _ h := (View.redirectToLogin.inj h).symm

theorem opened (h : Follows path view c) (hready : c.phase ≠ .ready) :
    Follows path view c.opened where
  connected_iff := iff_of_false (fun hview => hready (h.connected_iff.mp hview)) nofun
  redirected := nofun
  loading _ := .inl rfl
  location := h.location

end Follows

/-! ## Turns -/

/-- What a bootstrap becomes by an act of its connection. -/
def seesAct (front : Bootstrap) (act : Act Ticket) : Bootstrap :=
  (act.effects.map Happening.did).foldl observe front

/-- What a bootstrap becomes by a turn of its connection. -/
def sees (front : Bootstrap) (moments : List (Moment Ticket)) : Bootstrap :=
  moments.foldl (fun front moment => front.seesAct moment.act) front

theorem foldl_observe_happenings (front : Bootstrap) (moments : List (Moment Ticket)) :
    (happenings moments).foldl observe front = front.sees moments := by
  induction moments generalizing front with
  | nil => rfl
  | cons moment moments ih =>
      rw [happenings, List.flatMap_cons, List.map_append, List.foldl_append]
      exact ih _

theorem seesAct_of_not_isLandmark {act : Act Ticket} (h : act.isLandmark = false) :
    front.seesAct act = front := by
  cases act <;> first | rfl | simp [Act.isLandmark] at h

/-- Only landmarks concern a bootstrap. -/
theorem sees_landmarks (front : Bootstrap) (moments : List (Moment Ticket)) :
    front.sees (landmarks moments) = front.sees moments := by
  induction moments generalizing front with
  | nil => rfl
  | cons moment moments ih =>
      change front.sees (landmarks (moment :: moments)) = (front.seesAct moment.act).sees moments
      cases hlandmark : moment.act.isLandmark with
      | true =>
          rw [landmarks, List.filter_cons_of_pos (by exact hlandmark)]
          exact ih _
      | false =>
          rw [landmarks, List.filter_cons_of_neg (by simp [hlandmark]),
            seesAct_of_not_isLandmark hlandmark]
          exact ih front

/-- The connection has both handlers of the bootstrap. -/
structure Watching (front : Bootstrap) (c : Connection Ticket) : Prop where
  ready : ∃ ticket ∈ c.readyHandlers.callbacks, front.onReady = some ticket
  disconnect : ∃ ticket ∈ c.noReconnectHandlers.callbacks,
    ticket ∈ c.reconnectHandlers.callbacks ∧ front.onDisconnect = some ticket

theorem seesAct_calledReady {handlers : List Ticket} {ticket : Ticket} (hmem : ticket ∈ handlers)
    (hticket : front.onReady = some ticket) :
    front.seesAct (.calledReady handlers) = { front with view := .connected } :=
  foldl_observe_calls hmem (fun _ => by simp [observe, hticket]) fun _ => ite_self _

theorem seesAct_calledDisconnect {handlers : List Ticket} {ticket : Ticket}
    (hmem : ticket ∈ handlers) (hticket : front.onDisconnect = some ticket) (reconnect : Bool) :
    front.seesAct (.calledDisconnect handlers reconnect) =
      { front with view := if reconnect then .loading else .redirectToLogin front.location } :=
  foldl_observe_calls hmem (fun _ => by simp [observe, hticket]) fun _ => ite_self _

theorem sees_concat (front : Bootstrap) (moments : List (Moment Ticket)) (moment : Moment Ticket) :
    front.sees (moments ++ [moment]) = (front.sees moments).seesAct moment.act := by
  rw [sees, List.foldl_append]
  rfl

section

variable {now : Instant} {retrying : Bool}

/-- A retry calls no handlers. -/
theorem sees_retry (h : Retry c now moments retrying c') : front.sees moments = front := by
  cases h <;> rfl

theorem phase_ne_ready_of_retry (h : Retry c.bereft now moments retrying c') :
    c'.phase ≠ .ready := by
  cases h <;> exact nofun

theorem follows_opened : Follows path .loading c.opened where
  connected_iff := iff_of_false nofun nofun
  redirected := nofun
  loading _ := .inl rfl
  location := nofun

theorem follows_of_retry (h : Retry c.bereft now moments true c') : Follows path .loading c' := by
  cases h with
  | immediate => exact follows_opened
  | delayed =>
      exact { connected_iff := iff_of_false nofun nofun, redirected := fun _ => nofun
              loading := fun _ => .inr rfl, location := nofun }

end

/-- The view that fits a connection is made to fit it after every turn but a shutdown. -/
theorem Follows.transition (h : Follows path front.view c) (hc : c.Coupled)
    (hwatching : front.Watching c) (hlocation : front.location = loginRedirect path)
    (hoperation : operation ≠ .shutdown)
    (htransition : Transition c world operation moments c') :
    Follows path (front.sees moments).view c' := by
  have hfree (hfree : c.hasTransport = false) : c.phase ≠ .ready := fun hready => by
    simp [hc.held_iff.mpr (.inr hready)] at hfree
  obtain ⟨onReady, hready, honReady⟩ := hwatching.ready
  obtain ⟨onDisconnect, hno, hyes, honDisconnect⟩ := hwatching.disconnect
  cases htransition with
  | calm _ _ hc' =>
      rw [hc']
      cases operation <;> exact { h with }
  | heard hheld => exact { h with }
  | ready =>
      change Follows path (front.seesAct (.calledReady c.readyHandlers.callbacks)).view _
      rw [seesAct_calledReady hready honReady]
      exact .connected rfl
  | started hfree' | retried hfree' => exact h.opened (hfree hfree')
  | stopped => exact absurd rfl hoperation
  | failed hheld _ _ hretry =>
      -- The retry, if there is one, comes after the report that there is none.
      change Follows path
        ((front.seesAct (.calledDisconnect c.noReconnectHandlers.callbacks false)).sees _).view _
      rw [seesAct_calledDisconnect hno honDisconnect, sees_retry hretry, hlocation]
      exact .redirect (phase_ne_ready_of_retry hretry)
  | closed hheld _ hretry =>
      -- Here the report that there is a retry comes last.
      rw [sees_concat, sees_retry hretry, seesAct_calledDisconnect hyes honDisconnect]
      exact follows_of_retry hretry
  | ended hheld =>
      change Follows path
        (front.seesAct (.calledDisconnect c.noReconnectHandlers.callbacks false)).view _
      rw [seesAct_calledDisconnect hno honDisconnect, hlocation]
      exact .redirect nofun

/-! ## Fitting views -/

/-- Whether a transport is opened. -/
def opens : Happening → Bool
  | .did (.opened _) => true
  | _ => false

theorem any_opens_act (act : Act Ticket) :
    (act.effects.map Happening.did).any opens = act.isOpening := by
  cases act <;> simp [Act.effects, Act.isOpening, opens]

theorem any_opens_happenings (moments : List (Moment Ticket)) :
    (happenings moments).any opens = (landmarks moments).any (·.act.isOpening) := by
  have hlandmark (act : Act Ticket) : (act.isLandmark && act.isOpening) = act.isOpening := by
    cases act <;> rfl
  rw [landmarks, List.any_filter, happenings]
  simp only [hlandmark, List.map_flatMap, List.any_flatMap, any_opens_act]

/-- Until a transport is opened the bootstrap waits, and from then on it follows. -/
structure Fits (path : String) (front : Bootstrap) (seen : List Happening)
    (c : Connection Ticket) : Prop where
  waits : seen.any opens = false → c.Free ∧ (seen.foldl observe front).view = .loading
  follows : seen.any opens = true → Follows path (seen.foldl observe front).view c

variable {seen seen' : List Happening} {answer : Connection.Answer}

theorem Fits.iff : Fits path front seen c ↔
    (seen.any opens = false → c.Free ∧ (seen.foldl observe front).view = .loading) ∧
      (seen.any opens = true → Follows path (seen.foldl observe front).view c) :=
  ⟨fun h => ⟨h.waits, h.follows⟩, fun h => ⟨h.1, h.2⟩⟩

theorem Fits.turn (h : Fits path front seen c) (hc : c.Coupled) (hwatching : front.Watching c)
    (hlocation : front.location = loginRedirect path) (hoperation : operation ≠ .shutdown)
    (turn : (c.apply world operation).Yields moments (answer, c')) :
    Fits path front (seen ++ happenings moments) c' := by
  have htransition := Connection.apply_yields hc turn
  have hopens : (seen ++ happenings moments).any opens =
      (seen.any opens || (landmarks moments).any (·.act.isOpening)) := by
    rw [List.any_append, any_opens_happenings]
  obtain ⟨view, hseen⟩ := exists_view_foldl_observe front seen
  have hview : (seen ++ happenings moments).foldl observe front =
      { front with view }.sees (landmarks moments) := by
    rw [List.foldl_append, hseen, foldl_observe_happenings, sees_landmarks]
  obtain ⟨hwaits, hfollows⟩ := h
  rw [hseen] at hwaits hfollows
  rw [Fits.iff, hview, hopens]
  cases hany : seen.any opens with
  | true =>
      refine ⟨by simp, fun _ => ?_⟩
      exact (hfollows hany).transition hc ⟨hwatching.ready, hwatching.disconnect⟩ hlocation
        hoperation htransition
  | false =>
      -- Only a start opens a transport on a free connection.
      obtain ⟨hfree, rfl⟩ := hwaits hany
      by_cases hstart : operation = .start
      · subst hstart
        obtain ⟨hlandmarks, rfl⟩ := hfree.start turn
        rw [hlandmarks]
        exact ⟨by simp [Act.isOpening], fun _ => follows_opened⟩
      · obtain ⟨hlandmarks, hfree'⟩ := hfree.transition hstart htransition
        rw [hlandmarks]
        exact ⟨fun _ => ⟨hfree', rfl⟩, by simp⟩

/-- Whether something matters to a bootstrap that goes by the given tickets. -/
def concerns (tickets : List Ticket) (happening : Happening) : Bool :=
  opens happening || (callee? happening).any tickets.contains

theorem any_opens_filter (tickets : List Ticket) (seen : List Happening) :
    (seen.filter (concerns tickets)).any opens = seen.any opens := by
  have hconcerns (happening : Happening) :
      (concerns tickets happening && opens happening) = opens happening := by
    cases hopens : opens happening <;> simp [concerns, hopens]
  simp only [List.any_filter, hconcerns]

/-- Only what concerns a bootstrap tells whether a transport was opened. -/
theorem any_opens_congr {tickets : List Ticket}
    (h : seen'.filter (concerns tickets) = seen.filter (concerns tickets)) :
    seen'.any opens = seen.any opens := by
  rw [← any_opens_filter tickets, h, any_opens_filter]

theorem foldl_observe_filter (front : Bootstrap) (seen : List Happening) :
    (seen.filter (concerns front.tickets)).foldl observe front = seen.foldl observe front := by
  induction seen generalizing front with
  | nil => rfl
  | cons happening seen ih =>
      have htickets : (front.observe happening).tickets = front.tickets :=
        tickets_foldl_observe front [happening]
      cases hconcerns : concerns front.tickets happening with
      | true =>
          rw [List.filter_cons_of_pos hconcerns, List.foldl_cons, List.foldl_cons, ← htickets, ih]
      | false =>
          have hother : ∀ ticket ∈ front.tickets, callee? happening ≠ some ticket := by
            intro ticket hticket hcallee
            simp [concerns, hcallee, hticket] at hconcerns
          rw [List.filter_cons_of_neg (by simp [hconcerns]), List.foldl_cons,
            observe_eq_self hother, ih]

theorem Fits.congr (h : Fits path front seen c)
    (hseen : seen'.filter (concerns front.tickets) = seen.filter (concerns front.tickets))
    (hphase : c'.phase = c.phase) (hheld : c'.hasTransport = c.hasTransport)
    (hretry : c'.retryAt = c.retryAt) : Fits path front seen' c' := by
  have hopens := any_opens_congr hseen
  have hview : seen'.foldl observe front = seen.foldl observe front := by
    rw [← foldl_observe_filter, hseen, foldl_observe_filter]
  refine ⟨fun hnone => ?_, fun hsome => ?_⟩
  · obtain ⟨hfree, hloading⟩ := h.waits (hopens ▸ hnone)
    exact ⟨⟨hheld.trans hfree.held, hretry.trans hfree.retry⟩, hview ▸ hloading⟩
  · have hfollows := h.follows (hopens ▸ hsome)
    rw [← hview] at hfollows
    exact { connected_iff := by rw [hphase, hfollows.connected_iff]
            redirected := by rw [hphase, hretry]; exact hfollows.redirected
            loading := by rw [hheld, hretry]; exact hfollows.loading
            location := hfollows.location }

end Bootstrap

end GatewayClient
