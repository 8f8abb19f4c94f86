import Mathlib.Data.List.Induction
import GatewayClient.Connection.Operation
/-!
# Runs

A run is any number of operations on a connection, one after another, each in surroundings
of its own: at any time, with any token stored, and with transports that refuse frames or
do not. Every operation of a run has a result.
-/

namespace GatewayClient.Connection

open Turn

variable {η : Type}

/-- An operation and the surroundings in which it is applied. -/
abbrev Step (η : Type) : Type := Surroundings × Operation η

/-- Applies operations in order. -/
def play (c : Connection η) : List (Step η) → Turn (Moment η) (Connection η)
  | [] => pure c
  | (world, operation) :: steps => do
    let (_, c) ← c.apply world operation
    c.play steps

/-- One operation of a run. -/
structure Visit (η : Type) where
  /-- The connection that the operation is applied to. -/
  before : Connection η
  world : Surroundings
  operation : Operation η
  moments : List (Moment η)
  answer : Answer

def Visit.step (visit : Visit η) : Step η := (visit.world, visit.operation)

/-- All moments of a run in order. -/
def history (visits : List (Visit η)) : List (Moment η) := visits.flatMap (·.moments)

@[simp] theorem history_concat (visits : List (Visit η)) (visit : Visit η) :
    history (visits ++ [visit]) = history visits ++ visit.moments := by
  simp [history]

/-- The runs from a connection: their visits, and the connection that they end in. -/
inductive Run (start : Connection η) : List (Visit η) → Connection η → Prop where
  | nil : Run start [] start
  | snoc {visits : List (Visit η)} {c c' : Connection η} {world : Surroundings}
      {operation : Operation η} {moments : List (Moment η)} {answer : Answer}
      (run : Run start visits c) (turn : (c.apply world operation).Yields moments (answer, c')) :
      Run start (visits ++ [⟨c, world, operation, moments, answer⟩]) c'

theorem run_concat {start c : Connection η} {visits : List (Visit η)} {visit : Visit η} :
    Run start (visits ++ [visit]) c ↔ Run start visits visit.before ∧
      (visit.before.apply visit.world visit.operation).Yields visit.moments (visit.answer, c) := by
  constructor
  · intro run
    generalize hvisits : visits ++ [visit] = all at run
    cases run with
    | nil => simp at hvisits
    | snoc run turn =>
        obtain ⟨rfl, hlast⟩ := List.append_inj' hvisits rfl
        obtain rfl := List.singleton_inj.mp hlast
        exact ⟨run, turn⟩
  · rintro ⟨run, turn⟩
    exact .snoc run turn

namespace Run

variable {start mid c : Connection η}

/-- A run stops at each of its visits on the way. -/
theorem visit {visits earlier later : List (Visit η)} {visit : Visit η}
    (run : Run start visits c) (hvisits : visits = earlier ++ visit :: later) :
    Run start earlier visit.before ∧
      ∃ after, (visit.before.apply visit.world visit.operation).Yields visit.moments
        (visit.answer, after) := by
  -- From the end of the run, which is where visits are added.
  induction later using List.reverseRecOn generalizing visits c with
  | nil =>
      obtain ⟨hbefore, turn⟩ := run_concat.mp (hvisits ▸ run)
      exact ⟨hbefore, c, turn⟩
  | append_singleton later last ih =>
      rw [← List.cons_append, ← List.append_assoc] at hvisits
      exact ih (run_concat.mp (hvisits ▸ run)).1 rfl

/-- What an operation keeps, a run keeps. -/
theorem preserves {visits : List (Visit η)} (run : Run start visits c)
    (invariant : Connection η → Prop)
    (step : ∀ {c c' : Connection η} {world operation moments answer},
      invariant c → (c.apply world operation).Yields moments (answer, c') → invariant c')
    (initial : invariant start) : invariant c := by
  induction run with
  | nil => exact initial
  | snoc _ turn ih => exact step ih turn

end Run

/-! ## Runs by their steps -/

variable {start mid c : Connection η} {steps : List (Step η)} {moments : List (Moment η)}

theorem yields_play_append {first rest : List (Step η)} :
    (start.play (first ++ rest)).Yields moments c ↔
      ∃ earlier mid later, (start.play first).Yields earlier mid ∧
        (mid.play rest).Yields later c ∧ moments = earlier ++ later := by
  induction first generalizing start moments with
  | nil => simp [play]
  | cons step first ih =>
      simp only [List.cons_append, play, yields_bind, ih]
      constructor
      · rintro ⟨_, _, _, happly, ⟨_, _, _, hfirst, hrest, rfl⟩, rfl⟩
        exact ⟨_, _, _, ⟨_, _, _, happly, hfirst, rfl⟩, hrest, (List.append_assoc ..).symm⟩
      · rintro ⟨_, _, _, ⟨_, _, _, happly, hfirst, rfl⟩, hrest, rfl⟩
        exact ⟨_, _, _, happly, ⟨_, _, _, hfirst, hrest, rfl⟩, List.append_assoc ..⟩

theorem yields_play_concat {visit : Visit η} (h : (start.play steps).Yields moments visit.before)
    (turn : (visit.before.apply visit.world visit.operation).Yields visit.moments
      (visit.answer, c)) :
    (start.play (steps ++ [visit.step])).Yields (moments ++ visit.moments) c := by
  refine yields_play_append.mpr ⟨_, _, _, h, ?_, rfl⟩
  simpa [play, Visit.step] using ⟨_, turn⟩

theorem Run.of_play (h : (start.play steps).Yields moments c) :
    ∃ visits, visits.map Visit.step = steps ∧ history visits = moments ∧ Run start visits c := by
  induction steps using List.reverseRecOn generalizing c moments with
  | nil =>
      obtain ⟨rfl, rfl⟩ := yields_pure.mp h
      exact ⟨[], rfl, rfl, .nil⟩
  | append_singleton steps step ih =>
      obtain ⟨_, _, _, hsteps, hstep, rfl⟩ := yields_play_append.mp h
      obtain ⟨visits, rfl, rfl, run⟩ := ih hsteps
      simp only [play, yields_bind, yields_pure] at hstep
      obtain ⟨_, ⟨answer, _⟩, _, turn, ⟨rfl, rfl⟩, rfl⟩ := hstep
      refine ⟨_, ?_, ?_, .snoc run turn⟩
      · simp [Visit.step]
      · simp

/-- No token is stored, and transports take every frame. -/
def Surroundings.plain (now : Instant) : Surroundings :=
  { now, token := none, refusal := fun _ => none }

/-- Operations that end in a connection with a given feature are those of a run, for which
all holds that holds for every run. -/
theorem Run.exists_of_play {β : Type} (feature : Connection η → β) {b : β}
    {property : List (Visit η) → Connection η → Prop}
    (h : (start.play steps).result.map feature = some b)
    (all : ∀ visits c, visits.map Visit.step = steps → Run start visits c → property visits c) :
    ∃ visits c, visits.map Visit.step = steps ∧ Run start visits c ∧ feature c = b ∧
      property visits c := by
  obtain ⟨c, hresult, hfeature⟩ := Option.map_eq_some_iff.mp h
  obtain ⟨visits, hsteps, -, run⟩ := Run.of_play ⟨rfl, hresult⟩
  exact ⟨visits, c, hsteps, run, hfeature, all visits c hsteps run⟩

end GatewayClient.Connection
