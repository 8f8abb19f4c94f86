import GatewayClient.Bootstrap
import GatewayClient.Proofs.Gateway.Actor
/-!
# Observation

What a bootstrap makes of what it sees. Only calls of its own two handlers change its view, and
nothing changes anything else.
-/

namespace GatewayClient.Bootstrap

open Gateway (Happening)
open Gateway.Actor (callee?)

variable {front : Bootstrap} {seen : List Happening}

/-- The tickets of the handlers that keep the view up to date. -/
def tickets (front : Bootstrap) : List Ticket :=
  front.onReady.toList ++ front.onDisconnect.toList

theorem exists_view_observe (front : Bootstrap) (happening : Happening) :
    ∃ view, front.observe happening = { front with view } := by
  unfold observe
  split
  · split <;> exact ⟨_, rfl⟩
  · split <;> exact ⟨_, rfl⟩
  · exact ⟨_, rfl⟩

theorem exists_view_foldl_observe (front : Bootstrap) (seen : List Happening) :
    ∃ view, seen.foldl observe front = { front with view } := by
  induction seen generalizing front with
  | nil => exact ⟨_, rfl⟩
  | cons happening seen ih =>
      obtain ⟨first, hfirst⟩ := exists_view_observe front happening
      obtain ⟨view, hview⟩ := ih (front.observe happening)
      exact ⟨view, by rw [List.foldl_cons, hview, hfirst]⟩

@[simp] theorem location_foldl_observe (front : Bootstrap) (seen : List Happening) :
    (seen.foldl observe front).location = front.location := by
  obtain ⟨view, hview⟩ := exists_view_foldl_observe front seen
  rw [hview]

@[simp] theorem onReady_foldl_observe (front : Bootstrap) (seen : List Happening) :
    (seen.foldl observe front).onReady = front.onReady := by
  obtain ⟨view, hview⟩ := exists_view_foldl_observe front seen
  rw [hview]

@[simp] theorem onDisconnect_foldl_observe (front : Bootstrap) (seen : List Happening) :
    (seen.foldl observe front).onDisconnect = front.onDisconnect := by
  obtain ⟨view, hview⟩ := exists_view_foldl_observe front seen
  rw [hview]

@[simp] theorem disconnect_foldl_observe (front : Bootstrap) (seen : List Happening) :
    (seen.foldl observe front).disconnect = front.disconnect := by
  obtain ⟨view, hview⟩ := exists_view_foldl_observe front seen
  rw [hview]

@[simp] theorem tickets_foldl_observe (front : Bootstrap) (seen : List Happening) :
    (seen.foldl observe front).tickets = front.tickets := by
  rw [tickets, onReady_foldl_observe, onDisconnect_foldl_observe]
  rfl

/-- The view changes only with calls of its handlers. -/
theorem observe_eq_self {happening : Happening}
    (h : ∀ ticket ∈ front.tickets, callee? happening ≠ some ticket) :
    front.observe happening = front := by
  unfold observe
  split
  · case h_1 ticket =>
    have hother : front.onReady ≠ some ticket := fun hmem => h ticket (by simp [tickets, hmem]) rfl
    rw [if_neg hother]
  · case h_2 ticket reconnect =>
    have hother : front.onDisconnect ≠ some ticket := fun hmem =>
      h ticket (by simp [tickets, hmem]) rfl
    rw [if_neg hother]
  · rfl

theorem foldl_observe_eq_self (h : ∀ happening ∈ seen, ∀ ticket ∈ front.tickets,
    callee? happening ≠ some ticket) : seen.foldl observe front = front := by
  induction seen with
  | nil => rfl
  | cons happening seen ih =>
      obtain ⟨hhead, hrest⟩ := List.forall_mem_cons.mp h
      rw [List.foldl_cons, observe_eq_self hhead]
      exact ih hrest

theorem foldl_observe_of_callee_eq_none (h : ∀ happening ∈ seen, callee? happening = none) :
    seen.foldl observe front = front :=
  foldl_observe_eq_self fun happening hmem _ _ => by simp [h happening hmem]

/-- A bootstrap shows what a call of its handler makes of it, whoever else is called. -/
theorem foldl_observe_calls {call : Ticket → Connection.Effect Ticket} {handlers : List Ticket}
    {ticket : Ticket} {shown : View} (hmem : ticket ∈ handlers)
    (hcalled : ∀ view, { front with view }.observe (.did (call ticket)) =
      { front with view := shown })
    (hothers : ∀ other, { front with view := shown }.observe (.did (call other)) =
      { front with view := shown }) :
    ((handlers.map call).map Happening.did).foldl observe front = { front with view := shown } := by
  obtain ⟨earlier, later, rfl⟩ := List.append_of_mem hmem
  have hlater : ((later.map call).map Happening.did).foldl observe { front with view := shown } =
      { front with view := shown } := by
    clear hmem
    induction later with
    | nil => rfl
    | cons other later ih => rw [List.map_cons, List.map_cons, List.foldl_cons, hothers, ih]
  obtain ⟨view, hview⟩ :=
    exists_view_foldl_observe front ((earlier.map call).map Happening.did)
  rw [List.map_append, List.map_append, List.foldl_append, hview, List.map_cons, List.map_cons,
    List.foldl_cons, hcalled, hlater]

end GatewayClient.Bootstrap
