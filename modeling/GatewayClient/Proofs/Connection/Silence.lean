import Mathlib.Data.List.DropRight
import GatewayClient.Proofs.Connection.Deadlines
import GatewayClient.Proofs.Connection.Generations
import GatewayClient.Proofs.Connection.Reports
/-!
# Silence

How long the watchdog of a transport bears silence depends on the frames that were heard on that
transport, and on nothing else: from the last frame of any kind on, it waits for the multiple of the
interval that was announced last before the session was ready last (`expiry?`). An interval that is
announced later is told to whoever asks, but the watchdog does not know of it.

Main statements: `silence_detected_exactly`, `announced_interval_governs_iff`.
-/

namespace GatewayClient.Connection

open Turn

variable {η : Type} {c c' : Connection η} {world : Surroundings} {now : Instant}
  {operation : Operation η} {moments : List (Moment η)} {answer : Answer}

/-! ## Frames -/

/-- A frame, and when it was handled. -/
structure Heard where
  time : Instant
  bytes : List UInt8
  deriving DecidableEq, Repr

/-- The frame that a visit handles on the transport that is held. -/
def Visit.heard? (visit : Visit η) : Option Heard :=
  match visit.operation with
  | .receive generation (.frame bytes) =>
    if visit.before.holds generation then some ⟨visit.world.now, bytes⟩ else none
  | _ => none

/-- The frames that were handled on the transport of a generation, in order. -/
def heardOn (generation : Nat) (visits : List (Visit η)) : List Heard :=
  (visits.filter (·.before.generation = generation)).filterMap Visit.heard?

/-- The interval that was announced last. -/
def lastInterval? (heard : List Heard) : Option Duration :=
  (heard.filterMap (announced? ·.bytes)).getLast?

/-- The frames up to the last one that makes the session ready. -/
def untilReady (heard : List Heard) : List Heard :=
  heard.rdropWhile fun frame => !isReady frame.bytes

/-- How much silence is borne after some frames, if any watch is kept. -/
def patience? (multiplier : Nat) (heard : List Heard) : Option Duration :=
  (lastInterval? (untilReady heard)).bind (Watchdog.patience? multiplier)

/-- When silence has lasted too long after some frames. -/
def expiry? (multiplier : Nat) (heard : List Heard) : Option Instant := do
  let last ← heard.getLast?
  let patience ← patience? multiplier heard
  some (last.time + patience)

variable {multiplier : Nat} {heard : List Heard}

theorem announced?_of_isReady {bytes : List UInt8} (h : isReady bytes = true) :
    announced? bytes = none := by
  unfold isReady at h
  split at h
  · next hdecode => rw [announced?, hdecode]
  · cases h

theorem lastInterval?_concat (heard : List Heard) (frame : Heard) :
    lastInterval? (heard ++ [frame]) = (announced? frame.bytes).or (lastInterval? heard) := by
  cases hannounced : announced? frame.bytes with
  | none => simp [lastInterval?, hannounced]
  | some interval => simp [lastInterval?, hannounced]

theorem lastInterval?_untilReady (h : lastInterval? heard = none) :
    lastInterval? (untilReady heard) = none := by
  rw [lastInterval?, List.getLast?_eq_none_iff, List.filterMap_eq_nil_iff] at h ⊢
  intro frame hframe
  exact h frame ((List.rdropWhile_prefix _ heard).subset hframe)

theorem patience?_concat_of_ready (frame : Heard) (h : isReady frame.bytes = true) :
    patience? multiplier (heard ++ [frame]) =
      (lastInterval? heard).bind (Watchdog.patience? multiplier) := by
  have huntil : untilReady (heard ++ [frame]) = heard ++ [frame] := by
    simp [untilReady, h]
  rw [patience?, huntil, lastInterval?_concat, announced?_of_isReady h, Option.none_or]

theorem patience?_concat_of_not_ready (frame : Heard) (h : isReady frame.bytes = false) :
    patience? multiplier (heard ++ [frame]) = patience? multiplier heard := by
  have huntil : untilReady (heard ++ [frame]) = untilReady heard := by
    simp [untilReady, h]
  rw [patience?, huntil, patience?]

theorem expiry?_concat (multiplier : Nat) (heard : List Heard) (frame : Heard) :
    expiry? multiplier (heard ++ [frame]) =
      (patience? multiplier (heard ++ [frame])).map (frame.time + ·) := by
  rw [expiry?, List.getLast?_concat]
  cases patience? multiplier (heard ++ [frame]) <;> rfl

theorem expiry?_of_patience?_eq_none (h : patience? multiplier heard = none) :
    expiry? multiplier heard = none := by
  rw [expiry?, h]
  cases heard.getLast? <;> rfl

/-- A transport on which no session was ready is not watched. -/
theorem expiry?_of_not_ready (h : ∀ frame ∈ heard, isReady frame.bytes = false) :
    expiry? multiplier heard = none := by
  have huntil : untilReady heard = [] := by
    rw [untilReady, List.rdropWhile_eq_nil_iff]
    intro frame hframe
    simp [h frame hframe]
  apply expiry?_of_patience?_eq_none
  rw [patience?, huntil]
  rfl

/-! ## One operation -/

/-- The watchdog, the interval and the phase of a connection are those that the frames call for that
were heard on its transport. -/
structure Attentive (multiplier : Nat) (heard : List Heard) (c : Connection η) : Prop where
  watchdog_eq : c.watchdog = ⟨multiplier, patience? multiplier heard, expiry? multiplier heard⟩
  interval_eq : c.interval = lastInterval? heard
  ready_iff : c.phase = .ready ↔ ∃ frame ∈ heard, isReady frame.bytes = true

theorem attentive_opened (h : c.watchdog.multiplier = multiplier) :
    Attentive multiplier [] c.opened where
  watchdog_eq := by rw [← h]; rfl
  interval_eq := rfl
  ready_iff := by simp [opened, fresh]

theorem Attentive.fed (hc : Attentive multiplier heard c) {fed : Watchdog}
    (hfeed : c.watchdog.feed? now = some fed) :
    fed = ⟨multiplier, patience? multiplier heard, (patience? multiplier heard).map (now + ·)⟩ := by
  rw [Watchdog.eq_of_feed? hfeed, hc.watchdog_eq]
  cases hpatience : patience? multiplier heard with
  | some patience => rfl
  | none => rw [expiry?_of_patience?_eq_none hpatience]; rfl

theorem Attentive.armed (hc : Attentive multiplier heard c) {fed watchdog : Watchdog}
    (hfeed : c.watchdog.feed? now = some fed)
    (harm : { c with watchdog := fed }.armedWatchdog? now = some watchdog) :
    watchdog = ⟨multiplier, (lastInterval? heard).bind (Watchdog.patience? multiplier),
      ((lastInterval? heard).bind (Watchdog.patience? multiplier)).map (now + ·)⟩ := by
  have hfed := hc.fed hfeed
  simp only [armedWatchdog?, hc.interval_eq] at harm
  cases hinterval : lastInterval? heard with
  | some interval =>
      rw [hinterval] at harm
      rw [Watchdog.eq_of_arm? harm, hfed]
      rfl
  | none =>
      -- No interval was announced, so the watchdog was not armed before either.
      have hpatience : patience? multiplier heard = none := by
        rw [patience?, lastInterval?_untilReady hinterval, Option.bind_none]
      rw [hinterval] at harm
      rw [← Option.some.inj harm, hfed, hpatience]
      rfl

theorem Hearing.attentive {bytes : List UInt8} (h : Hearing c now bytes moments c')
    (hc : Attentive multiplier heard c) : Attentive multiplier (heard ++ [⟨now, bytes⟩]) c' := by
  cases h with
  | noted hready hfeed =>
      constructor
      · rw [expiry?_concat, patience?_concat_of_not_ready ⟨now, bytes⟩ hready]
        exact hc.fed hfeed
      · rw [lastInterval?_concat, hc.interval_eq]
      · simp [hc.ready_iff, hready]
  | readied hready hfeed harm =>
      constructor
      · rw [expiry?_concat, patience?_concat_of_ready ⟨now, bytes⟩ hready]
        exact hc.armed hfeed harm
      · rw [lastInterval?_concat, announced?_of_isReady hready, Option.none_or]
        exact hc.interval_eq
      · simp [hready]

theorem Hearing.generation_eq {bytes : List UInt8} (h : Hearing c now bytes moments c') :
    c'.generation = c.generation := by
  cases h <;> rfl

/-- An operation after which a transport is held, and that is no frame on it, either leaves the
transport alone or opens it. -/
theorem Transition.kept_or_opened (h : Transition c world operation moments c')
    (hunheard : ∀ bytes, operation = .receive c.generation (.frame bytes) → c.hasTransport = false)
    (hheld : c'.hasTransport = true) :
    c' = c.registering operation ∨ ∃ losses, c' = { c with losses }.opened := by
  cases h with
  | calm _ _ hc' => exact .inl hc'
  | heard hheld' | ready hheld' => exact absurd hheld' (by simp [hunheard _ rfl])
  | started | retried => exact .inr ⟨c.losses, rfl⟩
  | failed _ _ _ hretry | closed _ _ hretry =>
      cases hretry with
      | @immediate losses => exact .inr ⟨losses, rfl⟩
      | _ => cases hheld
  | stopped | ended => cases hheld

theorem Attentive.registering (hc : Attentive multiplier heard c) (operation : Operation η) :
    Attentive multiplier heard (c.registering operation) := by
  cases operation <;> exact ⟨hc.watchdog_eq, hc.interval_eq, hc.ready_iff⟩

theorem registering_eq (c : Connection η) (operation : Operation η) :
    (c.registering operation).hasTransport = c.hasTransport ∧
      (c.registering operation).generation = c.generation := by
  cases operation <;> exact ⟨rfl, rfl⟩

/-! ## Runs -/

variable {policy : RetryPolicy} {visits : List (Visit η)} {visit : Visit η} {generation : Nat}

theorem heardOn_concat (generation : Nat) (visits : List (Visit η)) (visit : Visit η) :
    heardOn generation (visits ++ [visit]) = heardOn generation visits ++
      if visit.before.generation = generation then visit.heard?.toList else [] := by
  unfold heardOn
  split
  · next hgeneration =>
    cases hheard : visit.heard? <;> simp [hgeneration, hheard]
  · next hgeneration => simp [hgeneration]

theorem Visit.heard?_eq_some {bytes : List UInt8}
    (hoperation : visit.operation = .receive visit.before.generation (.frame bytes))
    (hheld : visit.before.hasTransport = true) :
    visit.heard? = some ⟨visit.world.now, bytes⟩ := by
  rw [heard?, hoperation]
  exact if_pos (holds_eq_true.mpr ⟨hheld, rfl⟩)

theorem Visit.heard?_eq_none
    (h : ∀ bytes, visit.operation = .receive visit.before.generation (.frame bytes) →
      visit.before.hasTransport = false) : visit.heard? = none := by
  unfold heard?
  split
  · next generation bytes hoperation =>
    refine if_neg ?_
    intro hholds
    obtain ⟨hheld, rfl⟩ := holds_eq_true.mp hholds
    rw [h bytes hoperation] at hheld
    cases hheld
  · rfl

/-- Nothing was heard on transports that are still to come. -/
theorem Run.heardOn_eq_nil (run : Run (new policy multiplier) visits c)
    (hahead : c.generation < generation) : heardOn generation visits = [] := by
  induction run with
  | nil => rfl
  | @snoc visits c c' world operation moments answer run turn ih =>
      have hle := (run.coupled.advances turn).generation_le
      have hlt : c.generation < generation := Nat.lt_of_le_of_lt hle hahead
      rw [heardOn_concat, ih hlt, if_neg (Nat.ne_of_lt hlt)]
      rfl

/-- After every run the transport that is held is watched as its frames call for. -/
theorem Run.attentive (run : Run (new policy multiplier) visits c) (hheld : c.hasTransport = true) :
    Attentive multiplier (heardOn c.generation visits) c := by
  induction run with
  | nil => cases hheld
  | @snoc visits c c' world operation moments answer run turn ih =>
      by_cases hhears : ∃ bytes, operation = .receive c.generation (.frame bytes) ∧ c.hasTransport
      · -- The frames grow by one, and the connection is the one that they call for.
        obtain ⟨bytes, rfl, hheld⟩ := hhears
        have hhearing := apply_frame_hears hheld turn
        rw [hhearing.generation_eq, heardOn_concat, if_pos rfl, Visit.heard?_eq_some rfl hheld]
        exact hhearing.attentive (ih hheld)
      · -- The frames stay as they are, unless the transport is new, which was not heard yet.
        have hunheard : ∀ bytes, operation = .receive c.generation (.frame bytes) →
            c.hasTransport = false := by
          intro bytes hoperation
          by_contra hfree
          exact hhears ⟨bytes, hoperation, eq_true_of_ne_false hfree⟩
        rw [heardOn_concat, Visit.heard?_eq_none hunheard, Option.toList_none, ite_self,
          List.append_nil]
        rcases (apply_yields run.coupled turn).kept_or_opened hunheard hheld with
          rfl | ⟨losses, rfl⟩
        · obtain ⟨hsame, hgeneration⟩ := c.registering_eq operation
          rw [hgeneration]
          exact (ih (hsame ▸ hheld)).registering operation
        · change Attentive multiplier (heardOn (c.generation + 1) visits) _
          rw [run.heardOn_eq_nil (Nat.lt_succ_self _)]
          exact attentive_opened run.bounded.multiplier_eq

/-! ## Polls -/

theorem poll_of_not_expired (hnone : c.retryAt = none)
    (hexpired : c.watchdog.isExpired world.now = false)
    (turn : (c.apply world .poll).Yields moments (answer, c')) : moments = [] ∧ c' = c := by
  have hdue : c.retryAt.any (· ≤ world.now) = false := by rw [hnone]; rfl
  have hresult : (answer = .none ∧ c' = c) ∧ moments = [] := by
    simpa [apply, poll, pollWatchdog, pollRetry, hexpired, hdue] using turn
  exact ⟨hresult.2, hresult.1.2⟩

theorem poll_closes (hheld : c.hasTransport = true)
    (hexpired : c.watchdog.isExpired world.now = true)
    (turn : (c.apply world .poll).Yields moments (answer, c')) :
    ∃ moment ∈ moments, moment.act = .closed c.generation := by
  obtain ⟨_, hpoll, -⟩ := yields_bind_pure.mp turn
  simp only [poll, pollWatchdog, if_pos hexpired, yields_bind] at hpoll
  obtain ⟨_, _, _, ⟨first, _, rest, hdrop, _, rfl⟩, _, rfl⟩ := hpoll
  have hfirst : first = [⟨.closed c.generation, { c with hasTransport := false }⟩] := by
    simp only [dropTransport, if_pos hheld, perform, yields_bind, yields_perform,
      yields_pure] at hdrop
    obtain ⟨_, _, _, rfl, ⟨rfl, rfl⟩, rfl⟩ := hdrop
    rfl
  refine ⟨⟨.closed c.generation, { c with hasTransport := false }⟩, ?_, rfl⟩
  simp [hfirst]

/-- A transport that is lost is not held any more, although another may be. -/
theorem Transition.not_holds_of_loses (h : Transition c world operation moments c')
    (hloses : c.loses world operation = true) : c'.holds c.generation = false := by
  cases h with
  | calm hcalm | retried _ hcalm => rw [hcalm] at hloses; cases hloses
  | failed _ _ _ hretry | closed _ _ hretry =>
      cases hretry with
      | immediate => simp [holds, opened, fresh, bereft]
      | _ => rfl
  | ended => rfl
  | _ => cases hloses

/-- The watchdog is exactly what the frames call for that were heard on the transport that is held,
and a poll closes that transport and reports its loss exactly if the silence after them has lasted
too long. -/
theorem silence_detected_exactly (run : Run (new policy multiplier) visits c)
    (hheld : c.hasTransport = true) :
    let heard := heardOn c.generation visits
    c.watchdog = ⟨multiplier, patience? multiplier heard, expiry? multiplier heard⟩ ∧
    ((∀ frame ∈ heard, isReady frame.bytes = false) → expiry? multiplier heard = none) ∧
    ∀ world moments answer c', (c.apply world .poll).Yields moments (answer, c') →
      let expired := (expiry? multiplier heard).any (· ≤ world.now)
      ((∃ moment ∈ moments, moment.act = .closed c.generation) ↔ expired = true) ∧
      moments.countP (·.act.isReport) = (if expired then 1 else 0) ∧
      c'.holds c.generation = !expired ∧ (expired = false → moments = [] ∧ c' = c) := by
  intro heard
  have hattentive := run.attentive hheld
  refine ⟨hattentive.watchdog_eq, expiry?_of_not_ready, ?_⟩
  intro world moments answer c' turn expired
  have hexpired : c.watchdog.isExpired world.now = expired := by
    rw [Watchdog.isExpired, hattentive.watchdog_eq]
  have htransition := apply_yields run.coupled turn
  have hreports : moments.countP (·.act.isReport) = if expired then 1 else 0 := by
    rw [← countP_landmarks isLandmark_of_isReport, htransition.reports, loses, hexpired]
  cases hcase : expired with
  | true =>
      rw [hcase] at hexpired hreports
      exact ⟨iff_of_true (poll_closes hheld hexpired turn) rfl, hreports,
        htransition.not_holds_of_loses hexpired, by simp⟩
  | false =>
      rw [hcase] at hexpired hreports
      obtain ⟨rfl, rfl⟩ := poll_of_not_expired (run.coupled.retryAt_eq_none hheld) hexpired turn
      exact ⟨by simp, hreports, holds_eq_true.mpr ⟨hheld, rfl⟩, fun _ => ⟨rfl, rfl⟩⟩

/-- A frame that cannot be decoded puts the deadline off, as any other does. -/
theorem silence_after_undecodable_frame :
    ∃ (visits : List (Visit String)) (c : Connection String),
      visits.map Visit.step =
        [(.plain 0, .start), (.plain 1, .receive 1 (.frame (Payload.accepted 1000).encode)),
         (.plain 2, .receive 1 (.frame (Payload.ready [] []).encode)),
         (.plain 5, .receive 1 (.frame [255]))] ∧
      Run (new {} 3) visits c ∧ c.watchdog.deadline = some 3000000005 ∧
      ∀ now moments answer c', (c.apply (.plain now) .poll).Yields moments (answer, c') →
        ((∃ moment ∈ moments, moment.act = .closed 1) ↔ 3000000005 ≤ now) := by
  have hplay : ((new {} 3 : Connection String).play
      [(.plain 0, .start), (.plain 1, .receive 1 (.frame (Payload.accepted 1000).encode)),
       (.plain 2, .receive 1 (.frame (Payload.ready [] []).encode)),
       (.plain 5, .receive 1 (.frame [255]))]).result.map
        (fun c => (c.hasTransport, c.generation, c.watchdog.deadline)) =
      some (true, 1, some 3000000005) := by decide +kernel
  obtain ⟨visits, c, hsteps, run, hfeature, hsilence⟩ :=
    Run.exists_of_play _ hplay fun _ _ _ run => silence_detected_exactly run
  obtain ⟨hheld, hgeneration, hdeadline⟩ :
      c.hasTransport = true ∧ c.generation = 1 ∧ c.watchdog.deadline = some 3000000005 := by
    simpa using hfeature
  obtain ⟨hwatchdog, -, hpoll⟩ := hsilence hheld
  have hexpiry : expiry? 3 (heardOn c.generation visits) = some 3000000005 :=
    (congrArg Watchdog.deadline hwatchdog).symm.trans hdeadline
  refine ⟨visits, c, hsteps, run, hdeadline, ?_⟩
  intro now moments answer c' turn
  obtain ⟨hcloses, -⟩ := hpoll (.plain now) moments answer c' turn
  rw [hexpiry, hgeneration, Option.any_some, decide_eq_true_eq] at hcloses
  exact hcloses

/-- While the session is ready, the deadline is told by the last frame and the interval that the
connection has, if none was announced after the session was ready last. Otherwise it is so exactly
if the interval that was announced last before that bears the same silence. -/
theorem announced_interval_governs_iff (run : Run (new policy multiplier) visits c)
    (hready : c.phase = .ready) {interval : Duration} (hinterval : c.interval = some interval)
    (hpos : 0 < interval) (hmultiplier : 0 < multiplier) :
    let heard := heardOn c.generation visits
    ∃ last, heard.getLast? = some last ∧
      (lastInterval? (untilReady heard) = lastInterval? heard →
        c.watchdog.deadline = some (last.time + interval.saturatingMul multiplier)) ∧
      (c.watchdog.deadline = some (last.time + interval.saturatingMul multiplier) ↔
        ∃ watched, lastInterval? (untilReady heard) = some watched ∧ 0 < watched ∧
          watched.saturatingMul multiplier = interval.saturatingMul multiplier) := by
  intro heard
  have hattentive : Attentive multiplier heard c :=
    run.attentive (run.coupled.held_iff.mpr (.inr hready))
  obtain ⟨frame, hframe, -⟩ := hattentive.ready_iff.mp hready
  obtain ⟨last, hlast⟩ := Option.isSome_iff_exists.mp
    (List.getLast?_isSome.mpr (List.ne_nil_of_mem hframe))
  have hdeadline : c.watchdog.deadline = (patience? multiplier heard).map (last.time + ·) := by
    rw [hattentive.watchdog_eq, expiry?, hlast]
    cases patience? multiplier heard <;> rfl
  have hgoverns : c.watchdog.deadline = some (last.time + interval.saturatingMul multiplier) ↔
      ∃ watched, lastInterval? (untilReady heard) = some watched ∧ 0 < watched ∧
        watched.saturatingMul multiplier = interval.saturatingMul multiplier := by
    rw [hdeadline, patience?]
    cases lastInterval? (untilReady heard) with
    | none => simp
    | some watched =>
        rcases Nat.eq_zero_or_pos watched with rfl | hwatched
        · simp [Watchdog.patience?]
        · have hon : ¬ (multiplier = 0 ∨ watched = 0) :=
            not_or.mpr ⟨Nat.ne_of_gt hmultiplier, Nat.ne_of_gt hwatched⟩
          simp [Watchdog.patience?, hon, hwatched]
  refine ⟨last, hlast, ?_, hgoverns⟩
  intro hnone
  refine hgoverns.mpr ⟨interval, ?_, hpos, rfl⟩
  rw [hnone, ← hattentive.interval_eq, hinterval]

/-- The interval was announced once, before the session was ready. -/
theorem announced_interval_governs :
    ∃ (visits : List (Visit String)) (c : Connection String),
      visits.map Visit.step =
        [(.plain 0, .start), (.plain 1, .receive 1 (.frame (Payload.accepted 1000).encode)),
         (.plain 2, .receive 1 (.frame (Payload.ready [] []).encode))] ∧
      Run (new {} 3) visits c ∧ c.phase = .ready ∧ c.interval = some 1000000000 ∧
      (0 < 1000000000 ∧ 0 < 3) ∧
      ∃ last, (heardOn c.generation visits).getLast? = some last ∧
        (c.watchdog.deadline = some (last.time + 3000000000) ↔
          ∃ watched, lastInterval? (untilReady (heardOn c.generation visits)) = some watched ∧
            0 < watched ∧ watched.saturatingMul 3 = 3000000000) := by
  have hplay : ((new {} 3 : Connection String).play
      [(.plain 0, .start), (.plain 1, .receive 1 (.frame (Payload.accepted 1000).encode)),
       (.plain 2, .receive 1 (.frame (Payload.ready [] []).encode))]).result.map
        (fun c => (c.phase, c.interval)) = some (.ready, some 1000000000) := by decide +kernel
  obtain ⟨visits, c, hsteps, run, hfeature, hgoverns⟩ :=
    Run.exists_of_play _ hplay fun _ _ _ run => announced_interval_governs_iff run
  obtain ⟨hready, hinterval⟩ := Prod.mk.inj hfeature
  obtain ⟨last, hlast, -, hiff⟩ := hgoverns hready hinterval (by decide) (by decide)
  exact ⟨visits, c, hsteps, run, hready, hinterval, by decide, last, hlast, hiff⟩

/-- An interval that is announced to a session that is ready is not watched for. -/
theorem late_interval_is_not_watched :
    ((new {} 3 : Connection String).play
      [(.plain 0, .start), (.plain 1, .receive 1 (.frame (Payload.ready [] []).encode)),
       (.plain 2, .receive 1 (.frame (Payload.accepted 1000).encode))]).result.map
        (fun c => (c.phase, c.interval, c.watchdog.deadline)) =
      some (.ready, some 1000000000, none) := by
  decide +kernel

end GatewayClient.Connection
