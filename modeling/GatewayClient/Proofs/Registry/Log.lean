import Mathlib.Data.List.Induction
import Mathlib.Data.List.Sort
import Mathlib.Data.List.TakeWhile
import GatewayClient.Proofs.Registry
import GatewayClient.Proofs.Registry.Calls
import GatewayClient.Registry.Operation
/-!
# Registries as logs

A registry answers as if it only kept a log of what it was asked, to which lines are appended: what
is registered, in which order and in which state can be read off the log, and so can every
answer.
-/

namespace GatewayClient.Registry

/-- An operation, its answer, and the handles of the callbacks that it called. -/
structure Visit (σ ε α : Type) where
  operation : Operation σ
  answer : Answer ε α
  called : List Handle

/-- Earlier visits come first. -/
abbrev Log (σ ε α : Type) := List (Visit σ ε α)

variable {σ α ε : Type} {registry : Registry σ} {call : σ → σ × Outcome (Except ε α)}
  {entries entries' : List (Handle × σ)} {log : Log σ ε α}

/-! ## Reading a log -/

namespace Log

/-- The handles that were given out. -/
def handles (log : Log σ ε α) : List Handle :=
  log.filterMap fun visit => match visit.answer with
    | .registered handle => some handle
    | _ => none

/-- How often a callback was called. -/
def calls (log : Log σ ε α) (handle : Handle) : Nat := (log.flatMap (·.called)).count handle

/-- A callback was registered under a handle and has not been removed since. What came after its
registration is `later`. -/
def Stands (log : Log σ ε α) (handle : Handle) (callback : σ) (later : Log σ ε α) : Prop :=
  ∃ earlier called, log = earlier ++ ⟨.register callback, .registered handle, called⟩ :: later ∧
    ∀ visit ∈ later, visit.operation ≠ .unregister handle

/-- The callbacks that stand, in the order of their registration. Each has the state it was
registered with, carried on by its own calls and by nothing else. -/
structure Lists (call : σ → σ × Outcome (Except ε α)) (log : Log σ ε α)
    (entries : List (Handle × σ)) : Prop where
  increasing : entries.Pairwise (·.1.number < ·.1.number)
  standing : ∀ handle state, (handle, state) ∈ entries ↔ ∃ callback later,
    log.Stands handle callback later ∧ state = (fun s => (call s).1)^[later.calls handle] callback

/-- What is answered, and who is called, where the log says so far that `entries` stand. -/
inductive Answers (call : σ → σ × Outcome (Except ε α)) (log : Log σ ε α)
    (entries : List (Handle × σ)) : Visit σ ε α → Prop where
  | register (callback : σ) :
      Answers call log entries ⟨.register callback, .registered ⟨log.handles.length⟩, []⟩
  | unregister (handle : Handle) (b : Bool)
      (hb : b = true ↔ ∃ callback later, log.Stands handle callback later) :
      Answers call log entries ⟨.unregister handle, .held b, []⟩
  | contains (handle : Handle) (b : Bool)
      (hb : b = true ↔ ∃ callback later, log.Stands handle callback later) :
      Answers call log entries ⟨.contains handle, .held b, []⟩
  | size : Answers call log entries ⟨.size, .size entries.length, []⟩
  | isEmpty (b : Bool) (hb : b = true ↔ entries = []) :
      Answers call log entries ⟨.isEmpty, .held b, []⟩
  /-- All are called, and their results are given in the same order. -/
  | runAll (results : List (Except ε α))
      (hresults : entries.map (outcome call) = results.map .returned) :
      Answers call log entries ⟨.runAll, .ran (.returned results), entries.map (·.1)⟩
  | runAllPanicked (before after : List (Handle × σ)) (last : Handle × σ)
      (hentries : entries = before ++ last :: after)
      (hbefore : ∀ entry ∈ before, outcome call entry ≠ .panicked)
      (hlast : outcome call last = .panicked) :
      Answers call log entries ⟨.runAll, .ran .panicked, (before ++ [last]).map (·.1)⟩
  | tryRunAll (values : List α)
      (hvalues : entries.map (outcome call) = (values.map .ok).map .returned) :
      Answers call log entries ⟨.tryRunAll, .tried (.returned (.ok values)), entries.map (·.1)⟩
  | tryRunAllFailed (before after : List (Handle × σ)) (last : Handle × σ) (values : List α)
      (error : ε) (hentries : entries = before ++ last :: after)
      (hbefore : before.map (outcome call) = (values.map .ok).map .returned)
      (hlast : outcome call last = .returned (.error error)) :
      Answers call log entries
        ⟨.tryRunAll, .tried (.returned (.error error)), (before ++ [last]).map (·.1)⟩
  | tryRunAllPanicked (before after : List (Handle × σ)) (last : Handle × σ) (values : List α)
      (hentries : entries = before ++ last :: after)
      (hbefore : before.map (outcome call) = (values.map .ok).map .returned)
      (hlast : outcome call last = .panicked) :
      Answers call log entries ⟨.tryRunAll, .tried .panicked, (before ++ [last]).map (·.1)⟩

end Log

/-! ## Keeping a log -/

/-- The callbacks that an operation calls. -/
def called (registry : Registry σ) (call : σ → σ × Outcome (Except ε α)) :
    Operation σ → List Handle
  | .runAll => registry.reachedHandles isPanic call
  | .tryRunAll => registry.reachedHandles isFailure call
  | _ => []

def visit (registry : Registry σ) (call : σ → σ × Outcome (Except ε α))
    (operation : Operation σ) : Visit σ ε α where
  operation := operation
  answer := (registry.apply call operation).2
  called := registry.called call operation

/-- The log of a new registry, and the registry after it. -/
def history (call : σ → σ × Outcome (Except ε α)) (operations : List (Operation σ)) :
    Log σ ε α × Registry σ :=
  operations.foldl (fun (log, registry) operation =>
    (log ++ [registry.visit call operation], (registry.apply call operation).1)) ([], empty)

theorem history_concat (operations : List (Operation σ)) (operation : Operation σ) :
    history call (operations ++ [operation]) =
      ((history call operations).1 ++ [(history call operations).2.visit call operation],
        ((history call operations).2.apply call operation).1) := by
  simp [history]

/-! ## What an operation makes of the entries -/

/-- Callbacks that are called move on, one may be removed, and one may be new. -/
def Visit.Changes (call : σ → σ × Outcome (Except ε α)) (visit : Visit σ ε α)
    (entries entries' : List (Handle × σ)) : Prop :=
  ∀ handle state, (handle, state) ∈ entries' ↔
    (∃ former, (handle, former) ∈ entries ∧ visit.operation ≠ .unregister handle ∧
      state = (fun s => (call s).1)^[visit.called.count handle] former) ∨
    ∃ called, visit = ⟨.register state, .registered handle, called⟩

/-- A line of a log that has become longer is the last one, or it was there before. -/
theorem Log.split_of_concat {earlier later : Log σ ε α} {visit line : Visit σ ε α}
    (h : log ++ [visit] = earlier ++ line :: later) :
    (log = earlier ∧ visit = line ∧ later = []) ∨
      ∃ between, log = earlier ++ line :: between ∧ later = between ++ [visit] := by
  rcases List.eq_nil_or_concat' later with rfl | ⟨between, last, rfl⟩
  · obtain ⟨hlog, hlast⟩ := List.append_inj' h rfl
    exact .inl ⟨hlog, List.singleton_inj.mp hlast, rfl⟩
  · rw [← List.cons_append, ← List.append_assoc] at h
    obtain ⟨hlog, hlast⟩ := List.append_inj' h rfl
    exact .inr ⟨between, hlog, by rw [hlast]⟩

theorem Log.stands_concat {visit : Visit σ ε α} {handle : Handle} {callback : σ}
    {later : Log σ ε α} :
    Log.Stands (log ++ [visit]) handle callback later ↔
      (∃ before, log.Stands handle callback before ∧ visit.operation ≠ .unregister handle ∧
        later = before ++ [visit]) ∨
      ∃ called, visit = ⟨.register callback, .registered handle, called⟩ ∧ later = [] := by
  constructor
  · rintro ⟨earlier, called, hlog, hlater⟩
    rcases Log.split_of_concat hlog with ⟨-, hlast, rfl⟩ | ⟨before, hinit, rfl⟩
    · exact .inr ⟨called, hlast, rfl⟩
    · obtain ⟨hbefore, hvisit⟩ := List.forall_mem_append.mp hlater
      exact .inl ⟨before, ⟨earlier, called, hinit, hbefore⟩,
        hvisit visit List.mem_cons_self, rfl⟩
  · rintro (⟨before, ⟨earlier, called, rfl, hbefore⟩, hvisit, rfl⟩ | ⟨called, rfl, rfl⟩)
    · refine ⟨earlier, called, by simp, List.forall_mem_append.mpr ⟨hbefore, ?_⟩⟩
      simpa using hvisit
    · exact ⟨log, called, rfl, List.forall_mem_nil _⟩

theorem Log.calls_concat (visit : Visit σ ε α) (handle : Handle) :
    Log.calls (log ++ [visit]) handle = log.calls handle + visit.called.count handle := by
  simp [Log.calls]

theorem Log.Lists.concat {visit : Visit σ ε α} (h : log.Lists call entries)
    (hincreasing : entries'.Pairwise (·.1.number < ·.1.number))
    (hchanges : visit.Changes call entries entries') :
    Log.Lists call (log ++ [visit]) entries' := by
  refine ⟨hincreasing, fun handle state => (hchanges handle state).trans ?_⟩
  simp only [Log.stands_concat, h.standing]
  constructor
  · rintro (⟨_, ⟨callback, before, hstands, rfl⟩, hvisit, rfl⟩ | ⟨called, rfl⟩)
    -- The calls of the visit come after those that the log tells of.
    · refine ⟨callback, before ++ [visit], .inl ⟨before, hstands, hvisit, rfl⟩, ?_⟩
      rw [Log.calls_concat, Nat.add_comm, Function.iterate_add_apply]
    -- A callback that is new has not been called.
    · exact ⟨state, [], .inr ⟨called, rfl, rfl⟩, rfl⟩
  · rintro ⟨callback, _, (⟨before, hstands, hvisit, rfl⟩ | ⟨called, rfl, rfl⟩), hstate⟩
    · refine .inl ⟨_, ⟨callback, before, hstands, rfl⟩, hvisit, hstate.trans ?_⟩
      rw [Log.calls_concat, Nat.add_comm, Function.iterate_add_apply]
    · obtain rfl : state = callback := hstate
      exact .inr ⟨called, rfl⟩

theorem Visit.changes_of_called {visit : Visit σ ε α} {reached rest : List (Handle × σ)}
    (hnodup : ((reached ++ rest).map (·.1)).Nodup)
    (hstays : ∀ handle, visit.operation ≠ .unregister handle)
    (hold : ∀ callback, visit.operation ≠ .register callback)
    (hcalled : visit.called = reached.map (·.1)) :
    visit.Changes call (reached ++ rest) (reached.map (advance call) ++ rest) := by
  rw [List.map_append] at hnodup
  -- A handle is called once if it is reached, and not at all if it is left.
  have honce {entry : Handle × σ} (hentry : entry ∈ reached) :
      visit.called.count entry.1 = 1 := by
    rw [hcalled]
    exact List.count_eq_one_of_mem hnodup.of_append_left (List.mem_map_of_mem hentry)
  have hnever {entry : Handle × σ} (hentry : entry ∈ rest) : visit.called.count entry.1 = 0 := by
    rw [hcalled]
    refine List.count_eq_zero_of_not_mem fun hmem => ?_
    exact (List.disjoint_of_nodup_append hnodup) hmem (List.mem_map_of_mem hentry)
  intro handle state
  constructor
  · intro hmem
    refine .inl ?_
    rcases List.mem_append.mp hmem with hmem | hmem
    · obtain ⟨entry, hentry, hsame⟩ := List.mem_map.mp hmem
      obtain ⟨rfl, rfl⟩ := Prod.mk.inj hsame
      refine ⟨entry.2, List.mem_append_left _ hentry, hstays _, ?_⟩
      rw [honce hentry, Function.iterate_one]
    · refine ⟨state, List.mem_append_right _ hmem, hstays _, ?_⟩
      rw [hnever hmem, Function.iterate_zero_apply]
  · rintro (⟨former, hmem, -, rfl⟩ | ⟨called, rfl⟩)
    · rcases List.mem_append.mp hmem with hmem | hmem
      · rw [honce hmem, Function.iterate_one]
        exact List.mem_append_left _ (List.mem_map_of_mem (f := advance call) hmem)
      · rw [hnever hmem, Function.iterate_zero_apply]
        exact List.mem_append_right _ hmem
    · exact absurd rfl (hold state)

theorem Sorted.changes_of_runUntil {visit : Visit σ ε α} (h : registry.Sorted)
    (stops : Outcome (Except ε α) → Bool) (hstays : ∀ handle, visit.operation ≠ .unregister handle)
    (hold : ∀ callback, visit.operation ≠ .register callback)
    (hcalled : visit.called = registry.reachedHandles stops call) :
    visit.Changes call registry.entries (runUntil stops call registry.entries).1 := by
  have hnodup := h.nodup
  obtain ⟨reached, rest, hentries, hreaches⟩ := exists_reaches stops call registry.entries
  rw [hreaches.reachedHandles hentries] at hcalled
  rw [hentries] at hnodup ⊢
  rw [hreaches.runUntil]
  exact Visit.changes_of_called hnodup hstays hold hcalled

theorem Sorted.changes_visit (h : registry.Sorted) (operation : Operation σ) :
    (registry.visit call operation).Changes call registry.entries
      (registry.apply call operation).1.entries := by
  have hquery {visit : Visit σ ε α} (hstays : ∀ handle, visit.operation ≠ .unregister handle)
      (hold : ∀ callback, visit.operation ≠ .register callback) (hcalled : visit.called = []) :
      visit.Changes call registry.entries registry.entries := by
    have hnone : visit.called = ([] : List (Handle × σ)).map (·.1) := hcalled
    exact Visit.changes_of_called h.nodup hstays hold hnone
  cases operation with
  | register callback =>
    -- Old entries stay as they are, and the new one has the callback as it was given.
    intro handle state
    refine List.mem_append.trans (or_congr (by simp [visit, called]) ?_)
    refine List.mem_singleton.trans ⟨?_, ?_⟩
    · rintro ⟨⟩
      exact ⟨[], rfl⟩
    · rintro ⟨_, ⟨⟩⟩
      rfl
  | unregister handle =>
    intro other state
    simp [visit, called, Registry.apply, Registry.unregister, @eq_comm _ handle other]
  | contains handle => exact hquery nofun nofun rfl
  | size => exact hquery nofun nofun rfl
  | isEmpty => exact hquery nofun nofun rfl
  | runAll => exact h.changes_of_runUntil isPanic nofun nofun rfl
  | tryRunAll => exact h.changes_of_runUntil isFailure nofun nofun rfl

/-! ## What a registry keeps -/

/-- A map that has its entries in the order of their keys would put a new entry last, too. -/
theorem Sorted.orderedInsert_entries (h : registry.Sorted) (callback : σ) :
    registry.entries.orderedInsert (·.1.number ≤ ·.1.number) (⟨registry.next⟩, callback) =
      (registry.register callback).2.entries := by
  have hbelow : ∀ entry ∈ registry.entries, ¬registry.next ≤ entry.1.number :=
    fun entry hentry => Nat.not_le_of_lt (h.below entry hentry)
  rw [List.orderedInsert_eq_take_drop, List.takeWhile_eq_self_iff.mpr (by simpa using hbelow),
    List.dropWhile_eq_nil_iff.mpr (by simpa using hbelow)]
  rfl

theorem Sorted.of_handles_eq (h : registry.Sorted)
    (hhandles : entries.map (·.1) = registry.entries.map (·.1)) :
    ({ registry with entries } : Registry σ).Sorted := by
  constructor
  · have hpairwise : (entries.map (·.1)).Pairwise (·.number < ·.number) :=
      hhandles ▸ List.pairwise_map.mpr h.increasing
    rwa [List.pairwise_map] at hpairwise
  · intro entry hentry
    have hmem : entry.1 ∈ registry.entries.map (·.1) := hhandles ▸ List.mem_map_of_mem hentry
    obtain ⟨former, hformer, hsame⟩ := List.mem_map.mp hmem
    exact hsame ▸ h.below former hformer

theorem runUntil_handles (stops : Outcome (Except ε α) → Bool)
    (entries : List (Handle × σ)) :
    (runUntil stops call entries).1.map (·.1) = entries.map (·.1) := by
  obtain ⟨reached, rest, rfl, hreaches⟩ := exists_reaches stops call entries
  rw [hreaches.runUntil]
  simp [advance]

theorem Sorted.apply (h : registry.Sorted) (operation : Operation σ) :
    (registry.apply call operation).1.Sorted := by
  cases operation with
  | register callback => exact h.register callback
  | unregister handle => exact h.unregister handle
  | contains _ | size | isEmpty => exact h
  | runAll => exact h.of_handles_eq (runUntil_handles isPanic registry.entries)
  | tryRunAll => exact h.of_handles_eq (runUntil_handles isFailure registry.entries)

/-! ## What a registry answers -/

theorem Log.Lists.contains_iff (h : log.Lists call registry.entries) (handle : Handle) :
    registry.contains handle = true ↔ ∃ callback later, log.Stands handle callback later := by
  have hmem : registry.contains handle = true ↔ ∃ state, (handle, state) ∈ registry.entries := by
    simp [contains]
  simp only [hmem, h.standing]
  constructor
  · rintro ⟨_, callback, later, hstands, -⟩
    exact ⟨callback, later, hstands⟩
  · rintro ⟨callback, later, hstands⟩
    exact ⟨_, callback, later, hstands, rfl⟩

theorem answers_of_runAll :
    log.Answers call registry.entries (registry.visit call .runAll) := by
  obtain ⟨reached, rest, hentries, hreaches⟩ := exists_reaches isPanic call registry.entries
  have hvisit : registry.visit call .runAll =
      ⟨.runAll, .ran (gather (reached.map (outcome call))), reached.map (·.1)⟩ := by
    simp [visit, called, apply, hreaches.reachedHandles hentries, hreaches.runAll hentries]
  rw [hvisit]
  cases hreaches with
  | all hgoes =>
    obtain ⟨results, hresults⟩ := exists_map_returned (List.forall_mem_map.mpr hgoes)
    rw [← hresults, gather_map_returned, ← List.append_nil reached, ← hentries]
    exact .runAll results (hentries ▸ by simpa using hresults.symm)
  | @upTo before _ last hgoes hstops =>
    -- The results of those that were called before are lost with the panic.
    have hlast := isPanic_iff.mp hstops
    rw [gather_of_panicked_mem (List.mem_map.mpr ⟨last, by simp, hlast⟩)]
    refine .runAllPanicked before rest last (by simpa using hentries) ?_ hlast
    intro entry hentry hpanicked
    exact absurd (isPanic_iff.mpr hpanicked) (ne_true_of_eq_false (hgoes entry hentry))

theorem answers_of_tryRunAll :
    log.Answers call registry.entries (registry.visit call .tryRunAll) := by
  obtain ⟨reached, rest, hentries, hreaches⟩ := exists_reaches isFailure call registry.entries
  have hvisit : registry.visit call .tryRunAll =
      ⟨.tryRunAll, .tried (attempt (reached.map (outcome call))), reached.map (·.1)⟩ := by
    simp [visit, called, apply, hreaches.reachedHandles hentries, hreaches.tryRunAll hentries]
  rw [hvisit]
  cases hreaches with
  | all hgoes =>
    obtain ⟨values, hvalues⟩ := exists_map_ok (List.forall_mem_map.mpr hgoes)
    rw [← hvalues, attempt_map_returned, firstError_map_ok, ← List.append_nil reached, ← hentries]
    exact .tryRunAll values (hentries ▸ by simpa using hvalues.symm)
  | @upTo before _ last hgoes hstops =>
    obtain ⟨values, hvalues⟩ := exists_map_ok (List.forall_mem_map.mpr hgoes)
    rw [List.append_assoc, List.singleton_append] at hentries
    cases hlast : outcome call last with
    | panicked =>
      rw [attempt_of_panicked_mem (List.mem_map.mpr ⟨last, by simp, hlast⟩)]
      exact .tryRunAllPanicked before rest last values hentries hvalues.symm hlast
    | returned result =>
      cases result with
      | ok value => simp [hlast, isFailure] at hstops
      | error error =>
        have houtcomes : (before ++ [last]).map (outcome call) =
            (values.map Except.ok ++ [Except.error error]).map .returned := by
          rw [List.map_append, ← hvalues, List.map_append, List.map_singleton, hlast]
          rfl
        rw [houtcomes, attempt_map_returned, firstError_append_error]
        exact .tryRunAllFailed before rest last values error hentries hvalues.symm hlast

theorem Log.Lists.answers_visit (h : log.Lists call registry.entries)
    (hnext : log.handles.length = registry.next) (operation : Operation σ) :
    log.Answers call registry.entries (registry.visit call operation) := by
  cases operation with
  | register callback =>
    have hvisit : registry.visit call (.register callback) =
        ⟨.register callback, .registered ⟨log.handles.length⟩, []⟩ := by
      rw [hnext]
      rfl
    rw [hvisit]
    exact .register callback
  | unregister handle => exact .unregister handle _ (h.contains_iff handle)
  | contains handle => exact .contains handle _ (h.contains_iff handle)
  | size => exact .size
  | isEmpty => exact .isEmpty _ List.isEmpty_iff
  | runAll => exact answers_of_runAll
  | tryRunAll => exact answers_of_tryRunAll

/-- The handles that are given out are the numbers from zero on. -/
theorem handles_concat (hhandles : log.handles = (List.range registry.next).map Handle.mk)
    (operation : Operation σ) :
    Log.handles (log ++ [registry.visit call operation]) =
      (List.range (registry.apply call operation).1.next).map Handle.mk := by
  rw [Log.handles, List.filterMap_append]
  cases operation with
  | register callback =>
    simp [visit, apply, register, List.range_succ, ← hhandles, Log.handles]
  | _ =>
    simp [visit, apply, ← hhandles, Log.handles, unregister, Registry.runAll, Registry.tryRunAll]

/-! ## Histories -/

/-- A registry whose log says what there is to know about it. -/
structure Logged (call : σ → σ × Outcome (Except ε α)) (log : Log σ ε α)
    (registry : Registry σ) : Prop where
  sorted : registry.Sorted
  handles : log.handles = (List.range registry.next).map Handle.mk
  lists : log.Lists call registry.entries

theorem Logged.concat (h : Logged call log registry) (operation : Operation σ) :
    Logged call (log ++ [registry.visit call operation]) (registry.apply call operation).1 where
  sorted := h.sorted.apply operation
  handles := handles_concat h.handles operation
  lists := h.lists.concat (h.sorted.apply operation).increasing (h.sorted.changes_visit operation)

theorem logged_history (call : σ → σ × Outcome (Except ε α)) (operations : List (Operation σ)) :
    Logged call (history call operations).1 (history call operations).2 := by
  induction operations using List.reverseRecOn with
  | nil =>
    refine ⟨.empty, rfl, .nil, fun handle state => iff_of_false (by simp [history, empty]) ?_⟩
    rintro ⟨_, _, ⟨_, _, hlog, -⟩, -⟩
    simp [history] at hlog
  | append_singleton operations operation ih =>
    rw [history_concat]
    exact ih.concat operation

theorem operations_history (call : σ → σ × Outcome (Except ε α))
    (operations : List (Operation σ)) :
    (history call operations).1.map (·.operation) = operations := by
  induction operations using List.reverseRecOn with
  | nil => rfl
  | append_singleton operations operation ih =>
    rw [history_concat, List.map_append, ih]
    rfl

theorem answers_of_history {operations : List (Operation σ)} {earlier later : Log σ ε α}
    {visit : Visit σ ε α} (h : (history call operations).1 = earlier ++ visit :: later) :
    ∃ entries, earlier.Lists call entries ∧ earlier.Answers call entries visit := by
  induction operations using List.reverseRecOn generalizing later with
  | nil => simp [history] at h
  | append_singleton operations operation ih =>
    rw [history_concat] at h
    rcases Log.split_of_concat h with ⟨rfl, rfl, -⟩ | ⟨between, hbefore, -⟩
    · have hlogged := logged_history call operations
      have hnext := congrArg List.length hlogged.handles
      exact ⟨_, hlogged.lists, hlogged.lists.answers_visit (by simpa using hnext) operation⟩
    · exact ih hbefore

/-- Handles grow in the order of registration, so that none is given out twice, and every answer
is the one that the log before it asks for. -/
theorem history_refines_log (call : σ → σ × Outcome (Except ε α))
    (operations : List (Operation σ)) :
    let log := (history call operations).1
    log.map (·.operation) = operations ∧
    log.handles.Nodup ∧ log.handles.Pairwise (·.number < ·.number) ∧
    log.Lists call (history call operations).2.entries ∧
    ∀ earlier visit later, log = earlier ++ visit :: later →
      ∃ entries, Log.Lists call earlier entries ∧ Log.Answers call earlier entries visit := by
  have hlogged := logged_history call operations
  have hincreasing : (history call operations).1.handles.Pairwise (·.number < ·.number) := by
    rw [hlogged.handles, List.pairwise_map]
    exact List.pairwise_lt_range
  have hnodup : (history call operations).1.handles.Nodup := by
    refine hincreasing.imp fun hlt hsame => ?_
    exact absurd (congrArg Handle.number hsame) (Nat.ne_of_lt hlt)
  exact ⟨operations_history call operations, hnodup, hincreasing, hlogged.lists,
    fun _ _ _ h => answers_of_history h⟩

/-- Numbers that count their calls. -/
def countCall (count : Nat) : Nat × Outcome (Except Unit Nat) := (count + 1, .returned (.ok count))

theorem history_of_counters :
    let log : Log Nat Unit Nat :=
      [⟨.register 10, .registered ⟨0⟩, []⟩, ⟨.register 20, .registered ⟨1⟩, []⟩,
        ⟨.runAll, .ran (.returned [.ok 10, .ok 20]), [⟨0⟩, ⟨1⟩]⟩,
        ⟨.unregister ⟨0⟩, .held true, []⟩, ⟨.unregister ⟨0⟩, .held false, []⟩,
        ⟨.register 10, .registered ⟨2⟩, []⟩]
    ∃ entries, log.Lists countCall entries ∧ log.Answers countCall entries
      ⟨.runAll, .ran (.returned [.ok 21, .ok 10]), [⟨1⟩, ⟨2⟩]⟩ :=
  (history_refines_log countCall [.register 10, .register 20, .runAll, .unregister ⟨0⟩,
    .unregister ⟨0⟩, .register 10, .runAll]).2.2.2.2 _ _ [] rfl

end GatewayClient.Registry
