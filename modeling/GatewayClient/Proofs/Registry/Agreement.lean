import GatewayClient.Proofs.Registry.Log
/-!
# Runs that stop at errors

Both kinds of runs call the same callbacks up to the first that fails. There one kind stops, and
the other goes on unless the failure is a panic (`tryRunAll_agrees_with_runAll`). However a run
ends, the next one finds every callback where it was, in the state that its own calls have led to.
-/

namespace GatewayClient.Registry

variable {σ α ε : Type} {registry : Registry σ} {call : σ → σ × Outcome (Except ε α)}
  {run : Operation σ} {before reached rest : List (Handle × σ)} {last : Handle × σ}
  {results : List (Except ε α)} {values : List α}

/-! ## What a run calls -/

def Operation.IsRun (operation : Operation σ) : Prop :=
  operation = .runAll ∨ operation = .tryRunAll

/-- A run calls the callbacks of `reached`, once each and in order, and none of `rest`. -/
structure Ran (registry : Registry σ) (call : σ → σ × Outcome (Except ε α)) (run : Operation σ)
    (reached rest : List (Handle × σ)) : Prop where
  entries : registry.entries = reached ++ rest
  called : registry.called call run = reached.map (·.1)
  after : (registry.apply call run).1 =
    { registry with entries := reached.map (advance call) ++ rest }

theorem Reaches.ran (h : Reaches isPanic call reached rest)
    (hentries : registry.entries = reached ++ rest) :
    registry.Ran call .runAll reached rest ∧
      (registry.runAll call).2 = gather (reached.map (outcome call)) :=
  ⟨⟨hentries, h.reachedHandles hentries, congrArg Prod.fst (h.runAll hentries)⟩,
    congrArg Prod.snd (h.runAll hentries)⟩

theorem Reaches.tried (h : Reaches isFailure call reached rest)
    (hentries : registry.entries = reached ++ rest) :
    registry.Ran call .tryRunAll reached rest ∧
      (registry.tryRunAll call).2 = attempt (reached.map (outcome call)) :=
  ⟨⟨hentries, h.reachedHandles hentries, congrArg Prod.fst (h.tryRunAll hentries)⟩,
    congrArg Prod.snd (h.tryRunAll hentries)⟩

theorem exists_ran (registry : Registry σ) (call : σ → σ × Outcome (Except ε α))
    (hrun : run.IsRun) : ∃ reached rest, registry.Ran call run reached rest := by
  rcases hrun with rfl | rfl
  · obtain ⟨reached, rest, hentries, h⟩ := exists_reaches isPanic call registry.entries
    exact ⟨reached, rest, (h.ran hentries).1⟩
  · obtain ⟨reached, rest, hentries, h⟩ := exists_reaches isFailure call registry.entries
    exact ⟨reached, rest, (h.tried hentries).1⟩

theorem Reaches.append {stops : Outcome (Except ε α) → Bool}
    (hgoes : ∀ entry ∈ before, stops (outcome call entry) = false)
    (h : Reaches stops call reached rest) : Reaches stops call (before ++ reached) rest := by
  cases h with
  | all hreached => exact .all (List.forall_mem_append.mpr ⟨hgoes, hreached⟩)
  | upTo hreached hstops =>
    rw [← List.append_assoc]
    exact .upTo (List.forall_mem_append.mpr ⟨hgoes, hreached⟩) hstops

/-! ## What a run gives -/

/-- None of the callbacks panics, and these are their results in order. -/
def Returns (call : σ → σ × Outcome (Except ε α)) (entries : List (Handle × σ))
    (results : List (Except ε α)) : Prop :=
  entries.map (outcome call) = results.map .returned

theorem Returns.isPanic_eq_false (h : Returns call before results) :
    ∀ entry ∈ before, isPanic (outcome call entry) = false := by
  intro entry hentry
  have hmem : outcome call entry ∈ results.map .returned := h ▸ List.mem_map_of_mem hentry
  obtain ⟨result, -, hresult⟩ := List.mem_map.mp hmem
  rw [← hresult]
  rfl

theorem Returns.isFailure_eq_false (h : Returns call before (values.map .ok)) :
    ∀ entry ∈ before, isFailure (outcome call entry) = false := by
  intro entry hentry
  have hmem : outcome call entry ∈ (values.map Except.ok).map .returned :=
    h ▸ List.mem_map_of_mem hentry
  rw [List.map_map] at hmem
  obtain ⟨value, -, hvalue⟩ := List.mem_map.mp hmem
  rw [← hvalue]
  rfl

theorem Returns.concat {result : Except ε α} (h : Returns call before results)
    (hlast : outcome call last = .returned result) :
    Returns call (before ++ [last]) (results ++ [result]) := by
  simpa [Returns, hlast] using h

theorem panicked_mem_outcomes (hlast : outcome call last = .panicked) :
    .panicked ∈ (before ++ [last]).map (outcome call) :=
  List.mem_map.mpr ⟨last, by simp, hlast⟩

theorem runAll_of_returns (h : Returns call registry.entries results) :
    registry.Ran call .runAll registry.entries [] ∧
      (registry.runAll call).2 = .returned results := by
  have hreaches : Reaches isPanic call registry.entries [] := .all h.isPanic_eq_false
  obtain ⟨hran, hgather⟩ := hreaches.ran (List.append_nil _).symm
  rw [h, gather_map_returned] at hgather
  exact ⟨hran, hgather⟩

theorem runAll_of_panic (hentries : registry.entries = before ++ last :: rest)
    (h : Returns call before results) (hlast : outcome call last = .panicked) :
    registry.Ran call .runAll (before ++ [last]) rest ∧ (registry.runAll call).2 = .panicked := by
  have hreaches : Reaches isPanic call (before ++ [last]) rest :=
    .upTo h.isPanic_eq_false (by rw [hlast]; rfl)
  have hsplit : registry.entries = (before ++ [last]) ++ rest := by simpa using hentries
  obtain ⟨hran, hgather⟩ := hreaches.ran hsplit
  exact ⟨hran, hgather.trans (gather_of_panicked_mem (panicked_mem_outcomes hlast))⟩

theorem tryRunAll_of_returns (h : Returns call registry.entries (values.map .ok)) :
    registry.Ran call .tryRunAll registry.entries [] ∧
      (registry.tryRunAll call).2 = .returned (.ok values) := by
  have hreaches : Reaches isFailure call registry.entries [] := .all h.isFailure_eq_false
  obtain ⟨hran, hattempt⟩ := hreaches.tried (List.append_nil _).symm
  rw [h, attempt_map_returned, firstError_map_ok] at hattempt
  exact ⟨hran, hattempt⟩

theorem tryRunAll_of_error {error : ε} (hentries : registry.entries = before ++ last :: rest)
    (h : Returns call before (values.map .ok))
    (hlast : outcome call last = .returned (.error error)) :
    registry.Ran call .tryRunAll (before ++ [last]) rest ∧
      (registry.tryRunAll call).2 = .returned (.error error) := by
  have hreaches : Reaches isFailure call (before ++ [last]) rest :=
    .upTo h.isFailure_eq_false (by rw [hlast]; rfl)
  have hsplit : registry.entries = (before ++ [last]) ++ rest := by simpa using hentries
  obtain ⟨hran, hattempt⟩ := hreaches.tried hsplit
  rw [h.concat hlast, attempt_map_returned, firstError_append_error] at hattempt
  exact ⟨hran, hattempt⟩

theorem tryRunAll_of_panic (hentries : registry.entries = before ++ last :: rest)
    (h : Returns call before (values.map .ok)) (hlast : outcome call last = .panicked) :
    registry.Ran call .tryRunAll (before ++ [last]) rest ∧
      (registry.tryRunAll call).2 = .panicked := by
  have hreaches : Reaches isFailure call (before ++ [last]) rest :=
    .upTo h.isFailure_eq_false (by rw [hlast]; rfl)
  have hsplit : registry.entries = (before ++ [last]) ++ rest := by simpa using hentries
  obtain ⟨hran, hattempt⟩ := hreaches.tried hsplit
  exact ⟨hran, hattempt.trans (attempt_of_panicked_mem (panicked_mem_outcomes hlast))⟩

/-- Errors do not stop a run over all callbacks. -/
theorem exists_ran_past {after : List (Handle × σ)}
    (hentries : registry.entries = before ++ after) (h : Returns call before results) :
    ∃ further rest, after = further ++ rest ∧
      registry.Ran call .runAll (before ++ further) rest := by
  obtain ⟨further, rest, rfl, hreaches⟩ := exists_reaches isPanic call after
  have hsplit : registry.entries = (before ++ further) ++ rest := by
    rw [hentries, List.append_assoc]
  exact ⟨further, rest, rfl, ((hreaches.append h.isPanic_eq_false).ran hsplit).1⟩

/-! ## Runs in a row -/

/-- What runs in a row leave behind. A panic that is caught does not keep the next run away. -/
def afterRuns (registry : Registry σ) (call : σ → σ × Outcome (Except ε α))
    (runs : List (Operation σ)) : Registry σ :=
  runs.foldl (fun registry run => (registry.apply call run).1) registry

/-- How many of the runs call the callback at a position. -/
def callsAt (call : σ → σ × Outcome (Except ε α)) (position : Nat) :
    Registry σ → List (Operation σ) → Nat
  | _, [] => 0
  | registry, run :: runs =>
    callsAt call position (registry.apply call run).1 runs +
      if position < (registry.called call run).length then 1 else 0

/-- A run moves the callbacks on that it calls, and no others. -/
theorem Ran.entries_eq (h : registry.Ran call run reached rest) :
    (registry.apply call run).1.entries = registry.entries.mapIdx fun position entry =>
      (entry.1, (fun s => (call s).1)^[
        if position < (registry.called call run).length then 1 else 0] entry.2) := by
  rw [h.after, h.called, h.entries, List.length_map]
  refine List.ext_getElem (by simp) fun position _ _ => ?_
  rw [List.getElem_mapIdx]
  by_cases hreached : position < reached.length
  · simp [hreached, advance]
  · simp [List.getElem_append, hreached]

theorem entries_afterRuns (registry : Registry σ) (call : σ → σ × Outcome (Except ε α))
    {runs : List (Operation σ)} (hruns : ∀ run ∈ runs, run.IsRun) :
    (registry.afterRuns call runs).next = registry.next ∧
      (registry.afterRuns call runs).entries = registry.entries.mapIdx fun position entry =>
        (entry.1, (fun s => (call s).1)^[callsAt call position registry runs] entry.2) := by
  induction runs generalizing registry with
  | nil => exact ⟨rfl, (List.mapIdx_eq_iff.mpr fun position => by simp [afterRuns, callsAt]).symm⟩
  | cons run runs ih =>
    obtain ⟨hrun, hruns⟩ := List.forall_mem_cons.mp hruns
    obtain ⟨reached, rest, hran⟩ := exists_ran registry call hrun
    obtain ⟨hnext, hentries⟩ := ih (registry.apply call run).1 hruns
    constructor
    · exact hnext.trans (by rw [hran.after])
    · refine hentries.trans ?_
      rw [hran.entries_eq, List.mapIdx_mapIdx]
      simp only [callsAt, Function.comp_def, Function.iterate_add_apply]

/-- Up to the first failure both kinds of runs call the same callbacks, and where none fails they
give the same values. An error ends one kind of run and a panic ends both, and every run starts
from the states that all calls before it have left. -/
theorem tryRunAll_agrees_with_runAll (registry : Registry σ)
    (call : σ → σ × Outcome (Except ε α)) :
    (∀ values : List α, Returns call registry.entries (values.map .ok) →
      (registry.Ran call .tryRunAll registry.entries [] ∧
        (registry.tryRunAll call).2 = .returned (.ok values)) ∧
      registry.Ran call .runAll registry.entries [] ∧
        (registry.runAll call).2 = .returned (values.map .ok)) ∧
    (∀ before failing after (values : List α) error,
      registry.entries = before ++ failing :: after → Returns call before (values.map .ok) →
      outcome call failing = .returned (.error error) →
      (registry.Ran call .tryRunAll (before ++ [failing]) after ∧
        (registry.tryRunAll call).2 = .returned (.error error)) ∧
      ∃ further rest, after = further ++ rest ∧
        registry.Ran call .runAll (before ++ [failing] ++ further) rest) ∧
    (∀ before panicking after (values : List α),
      registry.entries = before ++ panicking :: after → Returns call before (values.map .ok) →
      outcome call panicking = .panicked →
      registry.Ran call .tryRunAll (before ++ [panicking]) after ∧
        (registry.tryRunAll call).2 = .panicked) ∧
    (∀ results, Returns call registry.entries results →
      registry.Ran call .runAll registry.entries [] ∧
        (registry.runAll call).2 = .returned results) ∧
    (∀ before panicking after (results : List (Except ε α)),
      registry.entries = before ++ panicking :: after → Returns call before results →
      outcome call panicking = .panicked →
      registry.Ran call .runAll (before ++ [panicking]) after ∧
        (registry.runAll call).2 = .panicked) ∧
    ∀ runs : List (Operation σ), (∀ run ∈ runs, run.IsRun) →
      (registry.afterRuns call runs).next = registry.next ∧
      (registry.afterRuns call runs).entries.map (·.1) = registry.entries.map (·.1) ∧
      (registry.afterRuns call runs).entries = registry.entries.mapIdx fun position entry =>
        (entry.1, (fun s => (call s).1)^[callsAt call position registry runs] entry.2) := by
  refine ⟨fun values h => ⟨tryRunAll_of_returns h, runAll_of_returns h⟩, ?_,
    fun _ _ _ _ => tryRunAll_of_panic, fun _ => runAll_of_returns,
    fun _ _ _ _ => runAll_of_panic, ?_⟩
  · intro before failing after values error hentries h hfailing
    refine ⟨tryRunAll_of_error hentries h hfailing, ?_⟩
    -- The error is one more result of a run that goes on.
    have hsplit : registry.entries = (before ++ [failing]) ++ after := by simpa using hentries
    exact exists_ran_past hsplit (h.concat hfailing)
  · intro runs hruns
    obtain ⟨hnext, hentries⟩ := registry.entries_afterRuns call hruns
    refine ⟨hnext, ?_, hentries⟩
    rw [hentries]
    exact List.ext_getElem (by simp) (by simp)

/-- Numbers that count down, with an error at one and a panic at zero. -/
def countDown (count : Nat) : Nat × Outcome (Except Unit Nat) :=
  (count - 1, match count with
    | 0 => .panicked
    | 1 => .returned (.error ())
    | count => .returned (.ok count))

/-- A run stops at the error of the second callback, and the next run at its panic. -/
theorem error_then_panic_of_second :
    let registry : Registry Nat := ⟨[(⟨0⟩, 5), (⟨1⟩, 1), (⟨2⟩, 3)], 3⟩
    registry.Ran countDown .tryRunAll [(⟨0⟩, 5), (⟨1⟩, 1)] [(⟨2⟩, 3)] ∧
      (registry.tryRunAll countDown).2 = .returned (.error ()) ∧
      (registry.afterRuns countDown [.tryRunAll, .runAll]).entries =
        [(⟨0⟩, 3), (⟨1⟩, 0), (⟨2⟩, 3)] := by
  obtain ⟨-, herror, -, -, -, hruns⟩ :=
    tryRunAll_agrees_with_runAll ⟨[(⟨0⟩, 5), (⟨1⟩, 1), (⟨2⟩, 3)], 3⟩ countDown
  obtain ⟨⟨hran, hanswer⟩, -⟩ :=
    herror [(⟨0⟩, 5)] (⟨1⟩, 1) [(⟨2⟩, 3)] [5] () rfl rfl rfl
  refine ⟨hran, hanswer, (hruns [.tryRunAll, .runAll] ?_).2.2⟩
  simp [Operation.IsRun]

end GatewayClient.Registry
