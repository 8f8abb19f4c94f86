import GatewayClient.Proofs.Connection.Coupling
/-!
# Generations

No two transports of a run are of one generation. What a transport still reports after the
connection has let go of it is of an old generation then, and has no effect, however late it
comes.
-/

namespace GatewayClient.Connection

open Turn

variable {η : Type} {c c' : Connection η} {world : Surroundings} {now : Instant}
  {operation : Operation η} {moments : List (Moment η)}

/-! ## Openings -/

def Act.openedGeneration? : Act η → Option Nat
  | .opened generation => some generation
  | .entered _ | .sent _ _ | .closed _ | .calledReady _ | .calledDisconnect _ _ => none

/-- The generations of the transports that are opened, in order. -/
def openings (moments : List (Moment η)) : List Nat :=
  moments.filterMap (·.act.openedGeneration?)

@[simp] theorem openings_append (first rest : List (Moment η)) :
    openings (first ++ rest) = openings first ++ openings rest :=
  List.filterMap_append

theorem isLandmark_of_openedGeneration? (act : Act η) (h : act.openedGeneration?.isSome) :
    act.isLandmark := by
  cases act <;> first | rfl | cases h

/-- What happens to the generation while a connection becomes another. A transport is held
on in its generation only. -/
structure Advances (c : Connection η) (moments : List (Moment η)) (c' : Connection η) : Prop where
  generation_le : c.generation ≤ c'.generation
  held : c'.hasTransport = true → c'.generation = c.generation → c.hasTransport = true
  opened : openings moments = [] ∨
    openings moments = [c.generation + 1] ∧ c'.generation = c.generation + 1

theorem Advances.of_eq (hgeneration : c'.generation = c.generation)
    (hheld : c'.hasTransport = true → c.hasTransport = true) (hopenings : openings moments = []) :
    Advances c moments c' :=
  ⟨Nat.le_of_eq hgeneration.symm, fun h _ => hheld h, .inl hopenings⟩

theorem Advances.of_opened (hgeneration : c'.generation = c.generation + 1)
    (hopenings : openings moments = [c.generation + 1]) : Advances c moments c' := by
  refine ⟨by omega, fun _ h => ?_, .inr ⟨hopenings, hgeneration⟩⟩
  omega

theorem Retry.advances {retrying : Bool} (h : Retry c.bereft now moments retrying c') :
    Advances c moments c' := by
  cases h with
  | immediate => exact .of_opened rfl rfl
  | _ => exact .of_eq rfl (fun h => by cases h) rfl

theorem Transition.advances (h : Transition c world operation moments c') :
    Advances c moments c' := by
  cases h with
  | calm _ _ hc' =>
      rw [hc']
      cases operation <;> exact .of_eq rfl id rfl
  | heard | ready => exact .of_eq rfl id rfl
  | started | retried => exact .of_opened rfl rfl
  | stopped =>
      refine ⟨Nat.le_succ _, fun h => ?_, .inl rfl⟩
      cases h
  | failed _ _ _ hretry =>
      obtain ⟨hle, hheld, hopened⟩ := hretry.advances
      exact ⟨hle, hheld, hopened⟩
  | closed _ _ hretry =>
      obtain ⟨hle, hheld, hopened⟩ := hretry.advances
      refine ⟨hle, hheld, ?_⟩
      simpa [openings, Act.openedGeneration?] using hopened
  | ended => exact .of_eq rfl (fun h => by cases h) rfl

/-! ## Runs -/

variable {policy : RetryPolicy} {multiplier : Nat} {visits : List (Visit η)} {visit : Visit η}
  {generation : Nat}

theorem Coupled.advances (hc : c.Coupled) {answer : Answer}
    (turn : (c.apply world operation).Yields moments (answer, c')) : Advances c moments c' := by
  obtain ⟨hle, hheld, hopened⟩ := (apply_yields hc turn).advances
  refine ⟨hle, hheld, ?_⟩
  rw [openings, ← filterMap_landmarks isLandmark_of_openedGeneration?]
  exact hopened

/-- The transports of a run are of growing generations, none beyond the current one. -/
theorem Run.openings (run : Run (new policy multiplier) visits c) :
    (openings (history visits)).Pairwise (· < ·) ∧
      ∀ generation ∈ openings (history visits), generation ≤ c.generation := by
  induction run with
  | nil => simp [Connection.openings, history]
  | @snoc visits c c' world operation moments answer run turn ih =>
      obtain ⟨hgrowing, hbound⟩ := ih
      obtain ⟨hle, -, hopened⟩ := run.coupled.advances turn
      rw [history_concat, openings_append]
      -- A generation that is opened is beyond all that came before.
      rcases hopened with hopened | ⟨hopened, hgeneration⟩
      · rw [hopened, List.append_nil]
        exact ⟨hgrowing, fun generation h => Nat.le_trans (hbound generation h) hle⟩
      · rw [hopened]
        refine ⟨List.pairwise_append.mpr ⟨hgrowing, List.pairwise_singleton .., ?_⟩, ?_⟩
        · intro generation h last hlast
          obtain rfl := List.mem_singleton.mp hlast
          exact Nat.lt_succ_of_le (hbound generation h)
        · intro generation h
          rcases List.mem_append.mp h with h | h
          · exact Nat.le_trans (hbound generation h) hle
          · obtain rfl := List.mem_singleton.mp h
            exact Nat.le_of_eq hgeneration.symm

/-- A transport of a generation is gone if no transport of it is held or will be. -/
structure Gone (generation : Nat) (c : Connection η) : Prop where
  le : generation ≤ c.generation
  holds_eq : c.holds generation = false

theorem Advances.gone (h : Advances c moments c') (hgone : Gone generation c) :
    Gone generation c' := by
  obtain ⟨hle, hholds⟩ := hgone
  refine ⟨Nat.le_trans hle h.generation_le, ?_⟩
  -- A generation that is held again is the current one, and was held all along.
  by_contra hholds'
  obtain ⟨hheld, rfl⟩ := holds_eq_true.mp (eq_true_of_ne_false hholds')
  have hsame : c'.generation = c.generation := Nat.le_antisymm hle h.generation_le
  rw [holds_eq_true.mpr ⟨h.held hheld hsame, hsame⟩] at hholds
  cases hholds

theorem Run.gone {start : Connection η} (run : Run start visits c) (hstart : start.Coupled)
    (hgone : Gone generation start) : Gone generation c := by
  refine (run.preserves (fun c => c.Coupled ∧ Gone generation c) ?_ ⟨hstart, hgone⟩).2
  intro c c' world operation moments answer ⟨hc, hgone⟩ turn
  exact ⟨(apply_yields hc turn).coupled hc, (hc.advances turn).gone hgone⟩

/-- Events of a transport that is not held do nothing. -/
theorem apply_receive_of_not_holds (h : c.holds generation = false) (world : Surroundings)
    (event : Event) : c.apply world (.receive generation event) = pure (.none, c) := by
  simp only [apply, receive, h]
  rfl

/-! ## Late events -/

/-- The visit is by an event of a transport that was opened and is not held any more. -/
def Late (earlier : List (Visit η)) (visit : Visit η) : Prop :=
  ∃ generation event, visit.operation = .receive generation event ∧
    generation ∈ openings (history earlier) ∧ visit.before.holds generation = false

/-- The steps of a run, with any late events left out. -/
inductive Thinned : List (Visit η) → List (Step η) → Prop where
  | nil : Thinned [] []
  | keep {visits : List (Visit η)} {steps : List (Step η)} (h : Thinned visits steps)
      (visit : Visit η) : Thinned (visits ++ [visit]) (steps ++ [visit.step])
  | leave {visits : List (Visit η)} {steps : List (Step η)} (h : Thinned visits steps)
      {visit : Visit η} (hlate : Late visits visit) : Thinned (visits ++ [visit]) steps

theorem thinned_all (visits : List (Visit η)) : Thinned visits (visits.map Visit.step) := by
  induction visits using List.reverseRecOn with
  | nil => exact .nil
  | append_singleton visits visit ih =>
      rw [List.map_append]
      exact ih.keep visit

/-- A run ends as it does without its late events, and the moments are the same. -/
theorem Thinned.yields_play {start : Connection η} {steps : List (Step η)}
    (h : Thinned visits steps) (run : Run start visits c) :
    (start.play steps).Yields (history visits) c := by
  induction h generalizing c with
  | nil =>
      generalize hvisits : ([] : List (Visit η)) = visits at run
      cases run with
      | nil => exact ⟨rfl, rfl⟩
      | snoc => simp at hvisits
  | keep h visit ih =>
      obtain ⟨hbefore, turn⟩ := run_concat.mp run
      rw [history_concat]
      exact yields_play_concat (ih hbefore) turn
  | leave h hlate ih =>
      -- The event that is left out had no moments and left the connection as it was.
      obtain ⟨hbefore, turn⟩ := run_concat.mp run
      obtain ⟨generation, event, hoperation, -, hholds⟩ := hlate
      rw [hoperation, apply_receive_of_not_holds hholds] at turn
      obtain ⟨hmoments, hresult⟩ := yields_pure.mp turn
      obtain ⟨-, rfl⟩ := Prod.mk.inj hresult
      rw [history_concat, hmoments, List.append_nil]
      exact ih hbefore

/-- Two runs that differ only in late events end in one connection, after the same moments. -/
theorem Thinned.run_eq {start d : Connection η} {first second : List (Visit η)}
    {steps : List (Step η)} (hfirst : Thinned first steps) (hsecond : Thinned second steps)
    (run : Run start first c) (run' : Run start second d) :
    c = d ∧ history first = history second := by
  obtain ⟨hmoments, hresult⟩ := hfirst.yields_play run
  obtain ⟨hmoments', hresult'⟩ := hsecond.yields_play run'
  exact ⟨Option.some.inj (hresult.symm.trans hresult'), hmoments.symm.trans hmoments'⟩

/-- A transport that is gone stays gone, and its events do nothing: the generations of
transports are distinct, no event of a transport that a run has let go of has any effect
later on, and runs that differ only in such events are the same to the world. -/
theorem gone_transports_are_inert (policy : RetryPolicy) (multiplier : Nat) :
    (∀ visits (c : Connection η), Run (new policy multiplier) visits c →
      (openings (history visits)).Nodup ∧
      ∀ generation ∈ openings (history visits), c.holds generation = false →
        ∀ later c', Run c later c' → ∀ world event,
          c'.apply world (.receive generation event) = pure (.none, c')) ∧
    ∀ first second (c d : Connection η) steps, Run (new policy multiplier) first c →
      Run (new policy multiplier) second d → Thinned first steps → Thinned second steps →
        c = d ∧ history first = history second := by
  refine ⟨fun visits c run => ⟨run.openings.1.imp Nat.ne_of_lt, ?_⟩, ?_⟩
  · intro generation hopened hholds later c' run' world event
    have hgone := run'.gone run.coupled ⟨run.openings.2 generation hopened, hholds⟩
    exact apply_receive_of_not_holds hgone.holds_eq world event
  · intro first second c d steps run run' hfirst hsecond
    exact hfirst.run_eq hsecond run run'

/-- A frame of the first transport comes while the third is held. -/
theorem first_of_three_transports_is_inert :
    ∃ (visits : List (Visit String)) (late : Visit String) (c : Connection String),
      visits.map Visit.step =
        [(.plain 0, .start), (.plain 1, .receive 1 (.failed "reset")),
         (.plain 2, .receive 2 (.failed "reset")), (.plain 250000002, .poll)] ∧
      late.step = (.plain 250000003, .receive 1 (.frame (Payload.ready [] []).encode)) ∧
      Run (new {} 3) visits c ∧ openings (history visits) = [1, 2, 3] ∧
      (c.holds 1, c.holds 3) = (false, true) ∧ (openings (history visits)).Nodup ∧
      Run (new {} 3) (visits ++ [late]) c ∧ history (visits ++ [late]) = history visits := by
  obtain ⟨hinert, hsame⟩ := @gone_transports_are_inert String {} 3
  have hplay : ((new {} 3 : Connection String).play
      [(.plain 0, .start), (.plain 1, .receive 1 (.failed "reset")),
       (.plain 2, .receive 2 (.failed "reset")), (.plain 250000002, .poll)]).result.map
        (fun c => (c.holds 1, c.holds 3)) = some (false, true) := by decide +kernel
  obtain ⟨c, hresult, hholds⟩ := Option.map_eq_some_iff.mp hplay
  obtain ⟨visits, hsteps, hhistory, run⟩ := Run.of_play ⟨rfl, hresult⟩
  have hopenings : openings (history visits) = [1, 2, 3] := by
    rw [hhistory]
    decide +kernel
  have hopened : 1 ∈ openings (history visits) := by simp [hopenings]
  have hgone : c.holds 1 = false := congrArg Prod.fst hholds
  obtain ⟨hnodup, hquiet⟩ := hinert visits c run
  let late : Visit String :=
    ⟨c, .plain 250000003, .receive 1 (.frame (Payload.ready [] []).encode), [], .none⟩
  have turn : (late.before.apply late.world late.operation).Yields [] (.none, c) := by
    rw [hquiet 1 hopened hgone [] c .nil]
    exact ⟨rfl, rfl⟩
  have run' : Run (new {} 3) (visits ++ [late]) c := .snoc run turn
  have hlate : Late visits late := ⟨1, _, rfl, hopened, hgone⟩
  obtain ⟨-, hhistory'⟩ :=
    hsame _ _ c c _ run' run ((thinned_all visits).leave hlate) (thinned_all visits)
  exact ⟨visits, late, c, hsteps, rfl, run, hopenings, hholds, hnodup, run', hhistory'⟩

end GatewayClient.Connection
