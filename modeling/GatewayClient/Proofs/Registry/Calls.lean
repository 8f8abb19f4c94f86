import Mathlib.Data.Set.List
import GatewayClient.Registry
/-!
# Which callbacks are called

A run over callbacks in order reaches some of them and leaves the rest. What it reaches has moved
on by one call each, and there is one outcome for each call, in the order of the calls.
-/

namespace GatewayClient.Registry

/-- The entry of a callback that has been called. -/
def advance {σ β : Type} (call : σ → σ × Outcome β) (entry : Handle × σ) : Handle × σ :=
  (entry.1, (call entry.2).1)

def outcome {σ β : Type} (call : σ → σ × Outcome β) (entry : Handle × σ) : Outcome β :=
  (call entry.2).2

section

variable {σ β : Type} {stops : Outcome β → Bool} {call : σ → σ × Outcome β}
  {before entries reached rest : List (Handle × σ)}

/-- Callbacks are called up to and with the first whose outcome stops the run. -/
inductive Reaches (stops : Outcome β → Bool) (call : σ → σ × Outcome β) :
    List (Handle × σ) → List (Handle × σ) → Prop where
  | all {reached : List (Handle × σ)}
      (hgoes : ∀ entry ∈ reached, stops (outcome call entry) = false) :
      Reaches stops call reached []
  | upTo {before rest : List (Handle × σ)} {last : Handle × σ}
      (hgoes : ∀ entry ∈ before, stops (outcome call entry) = false)
      (hstops : stops (outcome call last) = true) :
      Reaches stops call (before ++ [last]) rest

theorem exists_reaches (stops : Outcome β → Bool) (call : σ → σ × Outcome β)
    (entries : List (Handle × σ)) :
    ∃ reached rest, entries = reached ++ rest ∧ Reaches stops call reached rest := by
  induction entries with
  | nil => exact ⟨[], [], rfl, .all (by simp)⟩
  | cons entry entries ih =>
    cases hentry : stops (outcome call entry) with
    | true => exact ⟨[entry], entries, rfl, .upTo (List.forall_mem_nil _) hentry⟩
    | false =>
      obtain ⟨reached, rest, rfl, hreaches⟩ := ih
      refine ⟨entry :: reached, rest, rfl, ?_⟩
      cases hreaches with
      | all hgoes => exact .all (List.forall_mem_cons.mpr ⟨hentry, hgoes⟩)
      | upTo hgoes hstops => exact .upTo (List.forall_mem_cons.mpr ⟨hentry, hgoes⟩) hstops

theorem runUntil_append (hgoes : ∀ entry ∈ before, stops (outcome call entry) = false)
    (rest : List (Handle × σ)) :
    runUntil stops call (before ++ rest) =
      (before.map (advance call) ++ (runUntil stops call rest).1,
        before.map (outcome call) ++ (runUntil stops call rest).2) := by
  induction before with
  | nil => rfl
  | cons entry before ih =>
    obtain ⟨hentry, hbefore⟩ := List.forall_mem_cons.mp hgoes
    simp only [List.cons_append, runUntil, ih hbefore]
    -- The first outcome does not stop the run.
    exact if_neg (ne_true_of_eq_false hentry)

theorem Reaches.runUntil (h : Reaches stops call reached rest) :
    runUntil stops call (reached ++ rest) =
      (reached.map (advance call) ++ rest, reached.map (outcome call)) := by
  cases h with
  | all hgoes => simpa [Registry.runUntil] using runUntil_append hgoes []
  | @upTo before _ last hgoes hstops =>
    have hlast : Registry.runUntil stops call (last :: rest) =
        (advance call last :: rest, [outcome call last]) := if_pos hstops
    rw [List.append_assoc, List.singleton_append, runUntil_append hgoes, hlast]
    simp

/-- The callbacks whose outcomes there are. -/
def reachedHandles (registry : Registry σ) (stops : Outcome β → Bool)
    (call : σ → σ × Outcome β) : List Handle :=
  (registry.entries.take (runUntil stops call registry.entries).2.length).map (·.1)

theorem Reaches.reachedHandles {registry : Registry σ} (h : Reaches stops call reached rest)
    (hentries : registry.entries = reached ++ rest) :
    registry.reachedHandles stops call = reached.map (·.1) := by
  simp [Registry.reachedHandles, hentries, h.runUntil]

end

/-! ## What runs give -/

theorem gather_map_returned {β : Type} (results : List β) :
    gather (results.map .returned) = .returned results := by
  induction results with
  | nil => rfl
  | cons result results ih => simp [gather, ih]

theorem gather_of_panicked_mem {β : Type} {outcomes : List (Outcome β)}
    (h : .panicked ∈ outcomes) : gather outcomes = .panicked := by
  induction outcomes with
  | nil => cases h
  | cons outcome outcomes ih =>
    cases outcome with
    | panicked => rfl
    | returned result =>
      have hrest : .panicked ∈ outcomes := (List.mem_cons.mp h).resolve_left nofun
      simp [gather, ih hrest]

theorem isPanic_iff {β : Type} {outcome : Outcome β} :
    isPanic outcome = true ↔ outcome = .panicked := by
  cases outcome <;> simp [isPanic]

theorem exists_map_returned {β : Type} {outcomes : List (Outcome β)}
    (h : ∀ outcome ∈ outcomes, isPanic outcome = false) :
    ∃ results : List β, results.map .returned = outcomes := by
  refine (Set.range_list_map Outcome.returned).ge fun outcome houtcome => ?_
  cases outcome with
  | returned result => exact ⟨result, rfl⟩
  | panicked => exact absurd (h _ houtcome) Bool.true_eq_false.mp

section

variable {σ α ε : Type} {registry : Registry σ} {call : σ → σ × Outcome (Except ε α)}
  {reached rest : List (Handle × σ)}

theorem firstError_map_ok (values : List α) :
    firstError (values.map (Except.ok : α → Except ε α)) = .ok values := by
  induction values with
  | nil => rfl
  | cons value values ih => simp [firstError, ih, Except.map]

theorem firstError_append_error (values : List α) (error : ε) (results : List (Except ε α)) :
    firstError (values.map .ok ++ .error error :: results) = .error error := by
  induction values with
  | nil => rfl
  | cons value values ih => simp [firstError, ih, Except.map]

/-- What calls that can fail give together. -/
def attempt (outcomes : List (Outcome (Except ε α))) : Outcome (Except ε (List α)) :=
  match gather outcomes with
  | .returned results => .returned (firstError results)
  | .panicked => .panicked

theorem attempt_map_returned (results : List (Except ε α)) :
    attempt (results.map .returned) = .returned (firstError results) := by
  simp [attempt, gather_map_returned]

theorem attempt_of_panicked_mem {outcomes : List (Outcome (Except ε α))}
    (h : .panicked ∈ outcomes) : attempt outcomes = .panicked := by
  simp [attempt, gather_of_panicked_mem h]

theorem exists_map_ok {outcomes : List (Outcome (Except ε α))}
    (h : ∀ outcome ∈ outcomes, isFailure outcome = false) :
    ∃ values : List α, (values.map .ok).map .returned = outcomes := by
  simp only [List.map_map]
  refine (Set.range_list_map (Outcome.returned ∘ Except.ok)).ge fun outcome houtcome => ?_
  match outcome, h outcome houtcome with
  | .returned (.ok value), _ => exact ⟨value, rfl⟩

theorem Reaches.runAll (h : Reaches isPanic call reached rest)
    (hentries : registry.entries = reached ++ rest) :
    registry.runAll call = ({ registry with entries := reached.map (advance call) ++ rest },
      gather (reached.map (outcome call))) := by
  rw [Registry.runAll, hentries, h.runUntil]

theorem Reaches.tryRunAll (h : Reaches isFailure call reached rest)
    (hentries : registry.entries = reached ++ rest) :
    registry.tryRunAll call = ({ registry with entries := reached.map (advance call) ++ rest },
      attempt (reached.map (outcome call))) := by
  rw [Registry.tryRunAll, hentries, h.runUntil]
  rfl

end

end GatewayClient.Registry
