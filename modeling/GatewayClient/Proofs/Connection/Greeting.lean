import GatewayClient.Proofs.Connection.Sending
/-!
# Greetings

A transport is greeted with a hello when it reports that it is open. What was requested
before, while the transport was being opened, goes ahead of the hello, and nothing else does
(`hello_after_early_requests`).
-/

namespace GatewayClient.Connection

open Turn

variable {η : Type} {c c' : Connection η} {visits : List (Visit η)} {visit : Visit η}
  {generation : Nat}

/-! ## Transports -/

/-- Transports report nothing before they are opened, and no frame before they report that they
are open. -/
inductive OpensFirst : List (Visit η) → Prop where
  | nil : OpensFirst []
  | snoc {visits : List (Visit η)} {visit : Visit η} (h : OpensFirst visits)
      (hopened : ∀ g event, visit.operation = .receive g event → g ∈ openings (history visits))
      (hframe : ∀ g bytes, visit.operation = .receive g (.frame bytes) →
        ∃ previous ∈ visits, previous.operation = .receive g .opened) :
      OpensFirst (visits ++ [visit])

theorem opensFirst_concat : OpensFirst (visits ++ [visit]) ↔ OpensFirst visits ∧
    (∀ g event, visit.operation = .receive g event → g ∈ openings (history visits)) ∧
    ∀ g bytes, visit.operation = .receive g (.frame bytes) →
      ∃ previous ∈ visits, previous.operation = .receive g .opened := by
  constructor
  · intro h
    generalize hvisits : visits ++ [visit] = all at h
    cases h with
    | nil => simp at hvisits
    | snoc h hopened hframe =>
        obtain ⟨rfl, hlast⟩ := List.append_inj' hvisits rfl
        obtain rfl := List.singleton_inj.mp hlast
        exact ⟨h, hopened, hframe⟩
  · rintro ⟨h, hopened, hframe⟩
    exact .snoc h hopened hframe

theorem OpensFirst.opened_of_mem (h : OpensFirst visits) {event : Event} (hvisit : visit ∈ visits)
    (hoperation : visit.operation = .receive generation event) :
    generation ∈ openings (history visits) := by
  induction h with
  | nil => cases hvisit
  | @snoc visits last _ hopened _ ih =>
      rw [history_concat, openings_append]
      refine List.mem_append_left _ ?_
      rcases List.mem_append.mp hvisit with hvisit | hvisit
      · exact ih hvisit
      · obtain rfl := List.mem_singleton.mp hvisit
        exact hopened _ _ hoperation

/-! ## Requests and greetings -/

/-- The frame of a request that is made while the transport of a generation is held. -/
def Visit.requestTo? (generation : Nat) (visit : Visit η) : Option (List UInt8) :=
  if visit.before.holds generation then visit.operation.request? else none

/-- The frames that were requested while the transport of a generation was held, in order. -/
def requestsTo (generation : Nat) (visits : List (Visit η)) : List (List UInt8) :=
  visits.filterMap (Visit.requestTo? generation)

theorem requestsTo_concat (visits : List (Visit η)) (visit : Visit η) :
    requestsTo generation (visits ++ [visit]) =
      requestsTo generation visits ++ (visit.requestTo? generation).toList := by
  cases hrequest : visit.requestTo? generation <;> simp [requestsTo, hrequest]

/-- The transport of a generation, which is held, reports that it is open. -/
def Visit.greets (generation : Nat) (visit : Visit η) : Bool :=
  match visit.operation with
  | .receive g .opened => g == generation && visit.before.holds generation
  | _ => false

/-- The hello of a visit carries the token that is stored at that time. -/
def Visit.hello (visit : Visit η) : List UInt8 := (Payload.hello visit.world.token false).encode

theorem Visit.greets_iff : visit.greets generation = true ↔
    visit.operation = .receive generation .opened ∧ visit.before.holds generation = true := by
  unfold greets
  split
  · case h_1 g hoperation =>
    rw [hoperation, Bool.and_eq_true, beq_iff_eq]
    refine and_congr_left fun _ => ⟨fun h => by rw [h], fun h => ?_⟩
    cases h
    rfl
  · case h_2 hoperation =>
    refine ⟨nofun, fun h => ?_⟩
    exact absurd h.1 (hoperation generation)

variable {policy : RetryPolicy} {multiplier : Nat}

/-- A transport that is held and has reported that it is open has been greeted. -/
theorem Run.greeted (run : Run (new policy multiplier) visits c) (hopens : OpensFirst visits)
    (hvisit : visit ∈ visits) (hoperation : visit.operation = .receive generation .opened)
    (hholds : c.holds generation = true) : ∃ v ∈ visits, v.greets generation = true := by
  induction visits using List.reverseRecOn generalizing c with
  | nil => cases hvisit
  | append_singleton visits last ih =>
      obtain ⟨run, turn⟩ := run_concat.mp run
      obtain ⟨hopens, hopened, -⟩ := opensFirst_concat.mp hopens
      have hknown : generation ∈ Connection.openings (history visits) := by
        rcases List.mem_append.mp hvisit with hvisit | hvisit
        · exact hopens.opened_of_mem hvisit hoperation
        · obtain rfl := List.mem_singleton.mp hvisit
          exact hopened _ _ hoperation
      -- A transport that was opened and is held now was held all along.
      have hheld : last.before.holds generation = true := by
        by_contra hfree
        have hgone : Gone generation last.before :=
          ⟨run.openings.2 generation hknown, eq_false_of_ne_true hfree⟩
        rw [((run.coupled.advances turn).gone hgone).holds_eq] at hholds
        cases hholds
      rcases List.mem_append.mp hvisit with hvisit | hvisit
      · obtain ⟨v, hv, hgreets⟩ := ih run hopens hvisit hheld
        exact ⟨v, List.mem_append_left _ hv, hgreets⟩
      · obtain rfl := List.mem_singleton.mp hvisit
        exact ⟨visit, List.mem_append_right _ hvisit, Visit.greets_iff.mpr ⟨hoperation, hheld⟩⟩

/-- A greeting hands over a hello. -/
theorem framesTo_of_greets {visit : Visit η}
    (turn : (visit.before.apply visit.world visit.operation).Yields visit.moments (visit.answer, c'))
    (h : visit.greets generation = true) : framesTo generation visit.moments = [visit.hello] := by
  obtain ⟨hoperation, hholds⟩ := Visit.greets_iff.mp h
  rw [framesTo_of_apply turn, if_pos hholds, hoperation]
  simp [frameOf?, Visit.hello]

/-- Until the greeting only requests are handed over. -/
theorem framesTo_of_ungreeted (run : Run (new policy multiplier) (visits ++ [visit]) c')
    (hopens : OpensFirst (visits ++ [visit]))
    (hnone : ∀ v ∈ visits ++ [visit], v.greets generation = false) :
    framesTo generation visit.moments = (visit.requestTo? generation).toList := by
  obtain ⟨run, turn⟩ := run_concat.mp run
  obtain ⟨hopens, -, hframe⟩ := opensFirst_concat.mp hopens
  obtain ⟨hnone, hlast⟩ := List.forall_mem_append.mp hnone
  rw [framesTo_of_apply turn, Visit.requestTo?]
  split
  · case isTrue hholds =>
    cases hoperation : visit.operation with
    | receive g event =>
        by_cases hg : g = generation
        · subst hg
          cases event with
          | opened =>
              have hgreets := Visit.greets_iff.mpr ⟨hoperation, hholds⟩
              rw [hlast visit (.head _)] at hgreets
              cases hgreets
          | frame bytes =>
              -- A frame comes after the report of its transport, which was a greeting.
              obtain ⟨previous, hprevious, hreport⟩ := hframe _ _ hoperation
              obtain ⟨v, hv, hgreets⟩ := run.greeted hopens hprevious hreport hholds
              rw [hnone v hv] at hgreets
              cases hgreets
          | _ => rfl
        · cases event <;> simp [frameOf?, hg, Operation.request?]
    | _ => rfl
  · rfl

/-- What is handed to a transport before its hello is what was requested while it was being
opened. -/
theorem hello_after_early_requests (run : Run (new policy multiplier) visits c)
    (hopens : OpensFirst visits) (generation : Nat) :
    ((∀ visit ∈ visits, visit.greets generation = false) ∧
      framesTo generation (history visits) = requestsTo generation visits) ∨
    ∃ earlier visit later rest, visits = earlier ++ visit :: later ∧
      (∀ previous ∈ earlier, previous.greets generation = false) ∧
      visit.greets generation = true ∧
      framesTo generation (history visits) =
        requestsTo generation earlier ++ visit.hello :: rest := by
  -- The last operation is a greeting, or comes before any, or adds to what followed one.
  induction visits using List.reverseRecOn generalizing c with
  | nil => exact .inl ⟨List.forall_mem_nil _, rfl⟩
  | append_singleton visits last ih =>
      obtain ⟨hbefore, turn⟩ := run_concat.mp run
      rw [history_concat, framesTo_append]
      rcases ih hbefore (opensFirst_concat.mp hopens).1 with
        ⟨hnone, hframes⟩ | ⟨earlier, visit, later, rest, rfl, hnone, hgreets, hframes⟩
      · cases hlast : last.greets generation with
        | true =>
            refine .inr ⟨visits, last, [], [], rfl, hnone, hlast, ?_⟩
            rw [hframes, framesTo_of_greets turn hlast]
        | false =>
            have hall := List.forall_mem_append.mpr ⟨hnone, List.forall_mem_singleton.mpr hlast⟩
            refine .inl ⟨hall, ?_⟩
            rw [hframes, framesTo_of_ungreeted run hopens hall, requestsTo_concat]
      · refine .inr ⟨earlier, visit, later ++ [last],
          rest ++ framesTo generation last.moments, ?_, hnone, hgreets, ?_⟩
        · rw [List.append_assoc, List.cons_append]
        · rw [hframes, List.append_assoc, List.cons_append]

/-- Nothing is requested before the transport is open, and a heartbeat is sent back after it. -/
theorem hello_before_heartbeat :
    ∃ (visits : List (Visit String)) (c : Connection String),
      visits.map Visit.step =
        [(.plain 0, .start), (.plain 1, .receive 1 .opened),
         (.plain 2, .receive 1 (.frame (Payload.heartbeat "x").encode))] ∧
      Run (new {} 3) visits c ∧ OpensFirst visits ∧
      framesTo 1 (history visits) =
        [(Payload.hello none false).encode, (Payload.heartbeat "x").encode] ∧
      ∃ earlier visit later rest, visits = earlier ++ visit :: later ∧
        (∀ previous ∈ earlier, previous.greets 1 = false) ∧ visit.greets 1 = true ∧
        framesTo 1 (history visits) = requestsTo 1 earlier ++ visit.hello :: rest := by
  have opening : ((new {} 3 : Connection String).apply (.plain 0) .start).Yields _
      (.none, (new {} 3).opened) := ⟨rfl, rfl⟩
  have greeting : ((new {} 3 : Connection String).opened.apply (.plain 1)
      (.receive 1 .opened)).Yields _ (.none, (new {} 3).opened) := ⟨rfl, rfl⟩
  have received : ((new {} 3 : Connection String).opened.receive (.plain 2) 1
      (.frame (Payload.heartbeat "x").encode)).Yields
        [⟨.sent 1 (Payload.heartbeat "x").encode, (new {} 3).opened⟩] (new {} 3).opened :=
    ⟨by decide +kernel, by decide +kernel⟩
  have heartbeat : ((new {} 3 : Connection String).opened.apply (.plain 2)
      (.receive 1 (.frame (Payload.heartbeat "x").encode))).Yields _ (.none, (new {} 3).opened) :=
    yields_bind_pure.mpr ⟨_, received, rfl⟩
  have run := Run.snoc (.snoc (.snoc .nil opening) greeting) heartbeat
  refine ⟨_, _, rfl, run, ?opens, ?frames,
    (hello_after_early_requests run ?opens 1).resolve_left ?greeted⟩
  case opens =>
    refine .snoc (.snoc (.snoc .nil nofun nofun) ?_ nofun) ?_ ?_
    · rintro _ _ ⟨⟩
      decide +kernel
    · rintro _ _ ⟨⟩
      decide +kernel
    · rintro _ _ ⟨⟩
      exact ⟨_, List.mem_append_right _ (.head _), rfl⟩
  case frames => decide +kernel
  case greeted =>
    intro hnone
    have hungreeted := hnone.1 _ (List.mem_append_left _ (List.mem_append_right _ (.head _)))
    revert hungreeted
    decide +kernel

/-- A payload is sent before the transport is open, and goes ahead of the hello. -/
theorem request_before_hello :
    ∃ (visits : List (Visit String)) (c : Connection String),
      visits.map Visit.step =
        [(.plain 0, .start), (.plain 1, .send (.heartbeat "x")), (.plain 2, .receive 1 .opened)] ∧
      Run (new {} 3) visits c ∧ OpensFirst visits ∧ openings (history visits) = [1] ∧
      framesTo 1 (history visits) =
        [(Payload.heartbeat "x").encode, (Payload.hello none false).encode] := by
  have opening : ((new {} 3 : Connection String).apply (.plain 0) .start).Yields _
      (.none, (new {} 3).opened) := ⟨rfl, rfl⟩
  have request : ((new {} 3 : Connection String).opened.apply (.plain 1)
      (.send (.heartbeat "x"))).Yields _ (.sent (.ok ()), (new {} 3).opened) := ⟨rfl, rfl⟩
  have greeting : ((new {} 3 : Connection String).opened.apply (.plain 2)
      (.receive 1 .opened)).Yields _ (.none, (new {} 3).opened) := ⟨rfl, rfl⟩
  refine ⟨_, _, ?_, .snoc (.snoc (.snoc .nil opening) request) greeting,
    .snoc (.snoc (.snoc .nil nofun nofun) nofun nofun) ?_ nofun, ?_, ?_⟩
  · rfl
  · rintro _ _ ⟨⟩
    decide +kernel
  · decide +kernel
  · decide +kernel

end GatewayClient.Connection
