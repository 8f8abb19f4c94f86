import GatewayClient.Proofs.Connection.Deadlines
import GatewayClient.Proofs.Connection.Generations
import GatewayClient.Proofs.Connection.Likeness
/-!
# Resets

After a shutdown a connection is as good as new: whatever is done to it from then on, it acts
like a connection that was never used and has the same handlers, with all generations shifted
by a constant. What older transports still report does nothing.
-/

namespace GatewayClient.Connection

open Turn

variable {η : Type} {c d d' : Connection η} {world : Surroundings}

/-! ## Transcripts -/

/-- An operation, the connection that it is applied to, and the turn that it is. -/
structure Response (η : Type) where
  operation : Operation η
  before : Connection η
  turn : Turn (Moment η) (Answer × Connection η)

/-- How a connection responds to operations in order, up to one without a result. -/
def transcript (c : Connection η) : List (Step η) → List (Response η)
  | [] => []
  | (world, operation) :: steps =>
    let turn := c.apply world operation
    ⟨operation, c, turn⟩ :: match turn.result with
      | some (_, c) => c.transcript steps
      | none => []

/-! ## Shifts -/

/-- All generations are later by a constant. -/
def shifted (n : Nat) : Likeness η := { shift := n }

/-- The response of a likeness. -/
def Likeness.response (l : Likeness η) (response : Response η) : Response η :=
  ⟨l.operation response.operation, l.connection response.before,
    response.turn.map l.moment l.outcome⟩

/-- The operation is an event of a transport of at most the given generation. -/
def Operation.isEarly (n : Nat) : Operation η → Bool
  | .receive generation _ => generation ≤ n
  | _ => false

/-- The operation, if generations are counted from the given one. -/
def Operation.since (n : Nat) : Operation η → Operation η
  | .receive generation event => .receive (generation - n) event
  | operation => operation

/-- The steps without the events of early transports, if generations are counted from the
given one. -/
def stepsSince (n : Nat) (steps : List (Step η)) : List (Step η) :=
  (steps.filter fun step => !step.2.isEarly n).map fun step =>
    ((shifted n : Likeness η).world step.1, step.2.since n)

theorem operation_since {n : Nat} {operation : Operation η} (h : operation.isEarly n = false) :
    (shifted n).operation (operation.since n) = operation := by
  cases operation with
  | receive generation event =>
      have hlate : n < generation := by simpa [Operation.isEarly] using h
      simp [Operation.since, Likeness.operation, shifted, Nat.add_sub_cancel' (Nat.le_of_lt hlate)]
  | _ => rfl

theorem allows_shifted (n : Nat) (operation : Operation η) : (shifted n).Allows operation := by
  cases operation <;> first | rfl | trivial

theorem apply_shifted {n : Nat} {operation : Operation η} (h : operation.isEarly n = false) :
    ((shifted n).connection c).apply world operation =
      (c.apply ((shifted n : Likeness η).world world) (operation.since n)).map
        (shifted n).moment (shifted n).outcome := by
  have happly := Likeness.apply_eq c world _
    (allows_shifted n (operation.since n))
  rwa [operation_since h] at happly

/-- A transport that is held was opened, so its generation is not the first. -/
def Grounded (c : Connection η) : Prop := c.hasTransport = true → 0 < c.generation

theorem Advances.grounded {moments : List (Moment η)} (h : Advances d moments d')
    (hground : d.Grounded) : d'.Grounded := by
  intro hheld
  rcases Nat.eq_or_lt_of_le h.generation_le with hsame | hlt
  · exact hsame ▸ hground (h.held hheld hsame.symm)
  · exact Nat.zero_lt_of_lt hlt

/-- Early transports are not held any more. -/
theorem apply_early {n : Nat} {operation : Operation η} (hground : d.Grounded)
    (h : operation.isEarly n = true) :
    ((shifted n).connection d).apply world operation = pure (.none, (shifted n).connection d) := by
  cases operation with
  | receive generation event =>
      have hle : generation ≤ n := by simpa [Operation.isEarly] using h
      refine apply_receive_of_not_holds ?_ world event
      by_contra hholds
      obtain ⟨hheld, hsame⟩ := holds_eq_true.mp (eq_true_of_ne_false hholds)
      have hpos := hground hheld
      change generation = n + d.generation at hsame
      omega
  | _ => cases h

theorem stepsSince_cons (n : Nat) (step : Step η) (steps : List (Step η)) :
    stepsSince n (step :: steps) =
      if step.2.isEarly n then stepsSince n steps
      else ((shifted n : Likeness η).world step.1, step.2.since n) :: stepsSince n steps := by
  cases hearly : step.2.isEarly n <;> simp [stepsSince, hearly]

/-- Whatever is done to a connection, it responds as another does whose generations are counted
from the given one. To events of early transports it does not respond. -/
def RespondsLike (n : Nat) (c d : Connection η) : Prop :=
  ∀ steps,
    (c.transcript steps).filter (!·.operation.isEarly n) =
        (d.transcript (stepsSince n steps)).map (shifted n).response ∧
      ∀ response ∈ c.transcript steps,
        response.operation.isEarly n = true → response.turn = pure (.none, response.before)

theorem respondsLike_shifted (n : Nat) (hd : d.Coupled) (hground : d.Grounded) :
    RespondsLike n ((shifted n).connection d) d := by
  intro steps
  induction steps generalizing d with
  | nil => exact ⟨rfl, List.forall_mem_nil _⟩
  | cons step steps ih =>
      obtain ⟨world, operation⟩ := step
      rw [stepsSince_cons, transcript]
      cases hearly : operation.isEarly n with
      | true =>
          obtain ⟨hsame, hrest⟩ := ih hd hground
          rw [apply_early hground hearly, List.filter_cons_of_neg (by simp [hearly]),
            if_pos rfl]
          exact ⟨hsame, List.forall_mem_cons.mpr ⟨fun _ => rfl, hrest⟩⟩
      | false =>
          rw [apply_shifted hearly, List.filter_cons_of_pos (by simp [hearly]), if_neg nofun,
            transcript]
          -- Both turns have a result or neither has, and the results are alike.
          cases hturn : d.apply ((shifted n : Likeness η).world world) (operation.since n) with
          | mk moments result =>
              have hhead : ⟨operation, (shifted n).connection d,
                  Turn.map (shifted n).moment (shifted n).outcome ⟨moments, result⟩⟩ =
                    (shifted n).response ⟨operation.since n, d, ⟨moments, result⟩⟩ := by
                rw [Likeness.response, operation_since hearly]
              have hlate (turn : Turn (Moment η) (Answer × Connection η)) :
                  operation.isEarly n = true → turn = pure (.none, (shifted n).connection d) := by
                rw [hearly]
                nofun
              rw [List.map_cons, hhead]
              cases result with
              | none => exact ⟨rfl, List.forall_mem_singleton.mpr (hhead ▸ hlate _)⟩
              | some outcome =>
                  obtain ⟨answer, d'⟩ := outcome
                  have turn : (d.apply _ (operation.since n)).Yields moments (answer, d') :=
                    ⟨congrArg Turn.moments hturn, congrArg Turn.result hturn⟩
                  obtain ⟨hsame, hrest⟩ := ih ((apply_yields hd turn).coupled hd)
                    ((hd.advances turn).grounded hground)
                  exact ⟨congrArg _ hsame, List.forall_mem_cons.mpr ⟨hhead ▸ hlate _, hrest⟩⟩

variable {policy : RetryPolicy} {multiplier : Nat} {visits : List (Visit η)}

/-! ## Shutdowns -/

/-- A connection that was never used, with the handlers of another. -/
def newWithHandlers (policy : RetryPolicy) (multiplier : Nat) (c : Connection η) : Connection η :=
  { (new policy multiplier : Connection η) with
    readyHandlers := c.readyHandlers, noReconnectHandlers := c.noReconnectHandlers,
    reconnectHandlers := c.reconnectHandlers }

@[simp] theorem registry_shifted (n : Nat) (registry : Registry η) :
    (shifted n).registry registry = registry := by
  have hall : registry.entries.filter (fun _ => true) = registry.entries :=
    List.filter_eq_self.mpr fun _ _ => rfl
  change { registry with entries := registry.entries.filter fun _ => true } = registry
  rw [hall]

theorem Run.stopped_eq (run : Run (new policy multiplier) visits c) :
    c.stopped = (shifted (c.generation + 1)).connection (newWithHandlers policy multiplier c) := by
  obtain ⟨rfl, rfl, -, -⟩ := run.bounded
  simp [stopped, Likeness.connection, newWithHandlers, new, Watchdog.clear]
  rfl

/-- A shutdown makes a connection one that was never used, but for its handlers and with its
generations shifted. From then on it responds to everything as the new connection does. -/
theorem shutdown_renews (run : Run (new policy multiplier) visits c) (world : Surroundings) :
    ∃ moments c', (c.apply world .shutdown).Yields moments (.none, c') ∧
      c' = (shifted (c.generation + 1)).connection (newWithHandlers policy multiplier c) ∧
      RespondsLike (c.generation + 1) c' (newWithHandlers policy multiplier c) := by
  obtain ⟨stopped, hresult⟩ := Option.isSome_iff_exists.mp c.ends_shutdown
  obtain ⟨-, rfl⟩ := shutdown_yields ⟨rfl, hresult⟩
  refine ⟨c.shutdown.moments, c.stopped, ?_, run.stopped_eq, ?_⟩
  · exact yields_bind_pure.mpr ⟨_, ⟨rfl, hresult⟩, rfl⟩
  · rw [run.stopped_eq]
    have hcoupled : (newWithHandlers policy multiplier c).Coupled :=
      { (coupled_new policy multiplier : (new policy multiplier : Connection η).Coupled) with }
    exact respondsLike_shifted _ hcoupled nofun

/-- A shutdown while a retry is pending, after two losses. -/
theorem shutdown_renews_with_retry_pending :
    ∃ (visits : List (Visit String)) (c : Connection String),
      visits.map Visit.step =
        [(.plain 0, .addDisconnect "first"), (.plain 1, .start),
         (.plain 2, .receive 1 (.failed "reset")), (.plain 3, .receive 2 (.failed "refused"))] ∧
      Run (new {} 3) visits c ∧ (c.generation, c.losses, c.retryAt) = (2, 2, some 250000003) ∧
      ∃ moments c', (c.apply (.plain 4) .shutdown).Yields moments (.none, c') ∧
        c' = (shifted (c.generation + 1)).connection (newWithHandlers {} 3 c) ∧
        RespondsLike (c.generation + 1) c' (newWithHandlers {} 3 c) :=
  Run.exists_of_play (fun c => (c.generation, c.losses, c.retryAt)) (by decide +kernel)
    fun _ _ _ run => shutdown_renews run (.plain 4)

end GatewayClient.Connection
