import GatewayClient.Proofs.Connection.Coupling
/-!
# Retries

A transport that nobody asked for answers the loss of another. How many losses in a row are
answered, and how soon, is up to the policy. A connection counts the losses in a row; the
count is compared with the losses that a run has seen.
-/

namespace GatewayClient.Connection

open Turn

variable {η : Type}

/-! ## Marks -/

/-- What a run leaves behind that matters for retries. -/
inductive Mark where
  | lost (time : Instant)
  /-- A transport is opened on demand. -/
  | started
  /-- A transport is opened without demand. -/
  | retried (time : Instant)
  /-- The next loss is the first in a row. -/
  | reset
  deriving DecidableEq, Repr

def Mark.isOpening : Mark → Bool
  | .started | .retried _ => true
  | .lost _ | .reset => false

def Mark.isLoss : Mark → Bool
  | .lost _ => true
  | .started | .retried _ | .reset => false

def Mark.isRetry : Mark → Bool
  | .retried _ => true
  | .lost _ | .started | .reset => false

def openingMark (now : Instant) : Operation η → Mark
  | .start => .started
  | _ => .retried now

/-- A loss is marked before what follows from it. -/
def marksOf (c : Connection η) (world : Surroundings) (operation : Operation η)
    (moments : List (Moment η)) : List Mark :=
  (if c.loses world operation then [.lost world.now] else []) ++
    (if c.resets operation then [.reset] else []) ++
    List.replicate (moments.countP (·.act.isOpening)) (openingMark world.now operation)

def Visit.marks (visit : Visit η) : List Mark :=
  visit.before.marksOf visit.world visit.operation visit.moments

def runMarks (visits : List (Visit η)) : List Mark := visits.flatMap Visit.marks

@[simp] theorem runMarks_concat (visits : List (Visit η)) (visit : Visit η) :
    runMarks (visits ++ [visit]) = runMarks visits ++ visit.marks := by
  simp [runMarks]

/-- The marks after the last reset, the latest first. -/
def sinceReset (marks : List Mark) : List Mark := marks.reverse.takeWhile (· != .reset)

/-- The losses in a row. -/
def lossesSinceReset (marks : List Mark) : Nat := (sinceReset marks).countP (·.isLoss)

def retriesSinceReset (marks : List Mark) : Nat := (sinceReset marks).countP (·.isRetry)

/-- The first transport that is opened after a loss answers it. -/
def Answers (marks : List Mark) (opening loss : Nat) : Prop :=
  loss < opening ∧ (∃ time, marks[loss]? = some (.lost time)) ∧
    (∃ mark, marks[opening]? = some mark ∧ mark.isOpening = true) ∧
    ∀ between mark, loss < between → between < opening → marks[between]? = some mark →
      mark.isOpening = false

section Marks

variable {marks : List Mark}

theorem sinceReset_append {first rest : List Mark} (hrest : .reset ∉ rest) :
    sinceReset (first ++ rest) = rest.reverse ++ sinceReset first := by
  rw [sinceReset, List.reverse_append, List.takeWhile_append_of_pos, sinceReset]
  intro mark hmark
  have hmark' : mark ≠ .reset := fun h => hrest (by simpa [h] using hmark)
  simpa using hmark'

@[simp] theorem lossesSinceReset_concat (mark : Mark) :
    lossesSinceReset (marks ++ [mark]) = match mark with
      | .lost _ => lossesSinceReset marks + 1
      | .started | .retried _ => lossesSinceReset marks
      | .reset => 0 := by
  cases mark <;> simp [lossesSinceReset, sinceReset, Mark.isLoss]

@[simp] theorem retriesSinceReset_concat (mark : Mark) :
    retriesSinceReset (marks ++ [mark]) = match mark with
      | .retried _ => retriesSinceReset marks + 1
      | .started | .lost _ => retriesSinceReset marks
      | .reset => 0 := by
  cases mark <;> simp [retriesSinceReset, sinceReset, Mark.isRetry]

theorem lossesSinceReset_concat_of_isOpening {mark : Mark} (hopening : mark.isOpening = true) :
    lossesSinceReset (marks ++ [mark]) = lossesSinceReset marks := by
  cases mark with
  | started => simp
  | retried time => simp
  | _ => cases hopening

/-- A mark of a longer list is an earlier one or the last. -/
theorem getElem?_concat_eq_some {mark last : Mark} {i : Nat} :
    (marks ++ [last])[i]? = some mark ↔
      marks[i]? = some mark ∨ i = marks.length ∧ mark = last := by
  rcases Nat.lt_trichotomy i marks.length with hi | rfl | hi
  · simp [List.getElem?_append_left hi, Nat.ne_of_lt hi]
  · simp [eq_comm]
  · have hlength : (marks ++ [last]).length ≤ i := by
      rw [List.length_append]
      exact hi
    simp [List.getElem?_eq_none hlength, List.getElem?_eq_none (Nat.le_of_lt hi), Nat.ne_of_gt hi]

/-- After each loss a transport was opened. -/
def Settled (marks : List Mark) : Prop :=
  ∀ (i : Nat) time, marks[i]? = some (.lost time) →
    ∃ (j : Nat) (mark : Mark), i < j ∧ marks[j]? = some mark ∧ mark.isOpening = true

theorem settled_nil : Settled [] := by simp [Settled]

theorem Settled.concat (h : Settled marks) {last : Mark} (hlast : ∀ time, last ≠ .lost time) :
    Settled (marks ++ [last]) := by
  intro i time hi
  rcases getElem?_concat_eq_some.mp hi with hi | ⟨-, hi⟩
  · obtain ⟨j, mark, hij, hj, hopening⟩ := h i time hi
    exact ⟨j, mark, hij, getElem?_concat_eq_some.mpr (.inl hj), hopening⟩
  · exact absurd hi.symm (hlast time)

theorem settled_concat_of_isOpening {last : Mark} (hopening : last.isOpening = true) :
    Settled (marks ++ [last]) := by
  intro i time hi
  rcases getElem?_concat_eq_some.mp hi with hi | ⟨-, rfl⟩
  · obtain ⟨hlength, -⟩ := List.getElem?_eq_some_iff.mp hi
    exact ⟨marks.length, last, hlength, getElem?_concat_eq_some.mpr (.inr ⟨rfl, rfl⟩), hopening⟩
  · cases hopening

/-! ## Marks in a legal order -/

/-- Whether a mark can follow others. A transport is opened without demand right after a
loss that the policy allows to answer, and when the delay after it is over. -/
inductive Follows (policy : RetryPolicy) : List Mark → Mark → Prop where
  | lost {marks : List Mark} {time : Instant} (hsettled : Settled marks) :
      Follows policy marks (.lost time)
  | started {marks : List Mark} : Follows policy marks .started
  | retried {marks : List Mark} {lost time : Instant} {losses : Nat}
      (hlosses : losses = min (lossesSinceReset marks + 1) RetryPolicy.attemptLimit)
      (hallows : policy.allows losses = true) (hdue : lost + policy.delay losses ≤ time) :
      Follows policy (marks ++ [.lost lost]) (.retried time)
  | reset {marks : List Mark} : Follows policy marks .reset

def Legal (policy : RetryPolicy) (marks : List Mark) : Prop :=
  ∀ i mark, marks[i]? = some mark → Follows policy (marks.take i) mark

variable {policy : RetryPolicy}

theorem legal_nil : Legal policy [] := by simp [Legal]

theorem legal_concat {last : Mark} :
    Legal policy (marks ++ [last]) ↔ Legal policy marks ∧ Follows policy marks last := by
  constructor
  · intro h
    refine ⟨fun i mark hi => ?_, ?_⟩
    · obtain ⟨hlength, -⟩ := List.getElem?_eq_some_iff.mp hi
      have hfollows := h i mark (getElem?_concat_eq_some.mpr (.inl hi))
      rwa [List.take_append_of_le_length (Nat.le_of_lt hlength)] at hfollows
    · simpa using h marks.length last (getElem?_concat_eq_some.mpr (.inr ⟨rfl, rfl⟩))
  · rintro ⟨h, hlast⟩ i mark hi
    rcases getElem?_concat_eq_some.mp hi with hi | ⟨rfl, rfl⟩
    · obtain ⟨hlength, -⟩ := List.getElem?_eq_some_iff.mp hi
      rw [List.take_append_of_le_length (Nat.le_of_lt hlength)]
      exact h i mark hi
    · simpa using hlast

theorem legal_of_legal_append {first rest : List Mark} (h : Legal policy (first ++ rest)) :
    Legal policy first := by
  intro i mark hi
  obtain ⟨hlength, -⟩ := List.getElem?_eq_some_iff.mp hi
  have hfollows := h i mark (by rw [List.getElem?_append_left hlength, hi])
  rwa [List.take_append_of_le_length (Nat.le_of_lt hlength)] at hfollows

/-- A retry comes right after a loss. -/
theorem Legal.lost_of_retried (h : Legal policy marks) {opening : Nat} {time : Instant}
    (hopening : marks[opening]? = some (.retried time)) :
    ∃ loss lost losses, opening = loss + 1 ∧ marks[loss]? = some (.lost lost) ∧
      losses = lossesSinceReset (marks.take opening) ∧
      policy.allows (min losses RetryPolicy.attemptLimit) = true ∧
      lost + policy.delay (min losses RetryPolicy.attemptLimit) ≤ time := by
  obtain ⟨hlength, -⟩ := List.getElem?_eq_some_iff.mp hopening
  have hfollows := h opening _ hopening
  -- The marks before a retry end in the loss.
  generalize hearlier : marks.take opening = earlier at hfollows
  cases hfollows with
  | @retried first lost time losses hlosses hallows hdue =>
      have hopening : opening = first.length + 1 := by
        simpa [Nat.le_of_lt hlength] using congrArg List.length hearlier
      have hlost : (marks.take opening)[first.length]? = some (.lost lost) := by simp [hearlier]
      rw [List.getElem?_take_of_lt (by omega)] at hlost
      refine ⟨first.length, lost, _, hopening, hlost, rfl, ?_, ?_⟩
      · rw [lossesSinceReset_concat, ← hlosses]
        exact hallows
      · rw [lossesSinceReset_concat, ← hlosses]
        exact hdue

/-- Between two losses a transport was opened. -/
theorem Legal.opening_between (h : Legal policy marks) {i j : Nat} {first second : Instant}
    (hij : i < j) (hi : marks[i]? = some (.lost first)) (hj : marks[j]? = some (.lost second)) :
    ∃ between mark, i < between ∧ between < j ∧ marks[between]? = some mark ∧
      mark.isOpening = true := by
  have hfollows := h j _ hj
  generalize hearlier : marks.take j = earlier at hfollows
  -- The second loss finds all losses before it settled.
  cases hfollows with
  | lost hsettled =>
      subst hearlier
      rw [← List.getElem?_take_of_lt hij] at hi
      obtain ⟨between, mark, hbetween, hmark, hopening⟩ := hsettled i first hi
      have hlt : between < j := by
        obtain ⟨hlength, -⟩ := List.getElem?_eq_some_iff.mp hmark
        rw [List.length_take] at hlength
        omega
      rw [List.getElem?_take_of_lt hlt] at hmark
      exact ⟨between, mark, hbetween, hlt, hmark, hopening⟩

/-- A retry answers the loss right before it, and no other. -/
theorem Legal.answers_iff (h : Legal policy marks) {loss : Nat} {lost time : Instant}
    (hloss : marks[loss]? = some (.lost lost))
    (hopening : marks[loss + 1]? = some (.retried time)) (i : Nat) :
    Answers marks (loss + 1) i ↔ i = loss := by
  constructor
  · rintro ⟨hlt, ⟨first, hfirst⟩, -, hnone⟩
    -- An earlier loss was answered by a transport opened in between.
    by_contra hne
    have hi : i < loss := by omega
    obtain ⟨between, mark, hafter, hbefore, hmark, hmarkOpening⟩ :=
      h.opening_between hi hfirst hloss
    rw [hnone between mark hafter (by omega) hmark] at hmarkOpening
    cases hmarkOpening
  · rintro rfl
    exact ⟨by omega, ⟨lost, hloss⟩, ⟨_, hopening, rfl⟩, by omega⟩

/-- No two transports answer one loss. -/
theorem Answers.eq {i j loss : Nat} (hi : Answers marks i loss) (hj : Answers marks j loss) :
    i = j := by
  obtain ⟨hlossi, -, ⟨first, hfirst, hfirstOpening⟩, hnonei⟩ := hi
  obtain ⟨hlossj, -, ⟨second, hsecond, hsecondOpening⟩, hnonej⟩ := hj
  rcases Nat.lt_trichotomy i j with hlt | heq | hlt
  · simp [hnonej i first hlossi hlt hfirst] at hfirstOpening
  · exact heq
  · simp [hnonei j second hlossj hlt hsecond] at hsecondOpening

/-- Since the last reset there are no more retries than losses, less if the last loss is not
answered yet, and no more than the policy allows. -/
structure Budgeted (most : Nat) (marks : List Mark) : Prop where
  le_most : retriesSinceReset marks ≤ most
  le_losses : retriesSinceReset marks ≤ lossesSinceReset marks
  lt_losses : ∀ earlier time, marks = earlier ++ [.lost time] →
    retriesSinceReset marks < lossesSinceReset marks

theorem Legal.budgeted (h : Legal policy marks) {most : Nat}
    (hmost : policy.maxAttempts = some most) (hlimit : most < RetryPolicy.attemptLimit) :
    Budgeted most marks := by
  induction marks using List.reverseRecOn with
  | nil => exact ⟨Nat.zero_le _, Nat.zero_le _, by simp⟩
  | append_singleton marks last ih =>
      obtain ⟨hlegal, hlast⟩ := legal_concat.mp h
      obtain ⟨hle_most, hle, hlt⟩ := ih hlegal
      cases hlast with
      | lost =>
          refine ⟨?_, ?_, fun _ _ _ => ?_⟩
          · simpa using hle_most
          · simpa using Nat.le_succ_of_le hle
          · simpa using Nat.lt_succ_of_le hle
      | started => exact ⟨by simpa using hle_most, by simpa using hle, by simp⟩
      | @retried earlier lost time losses hlosses hallows hdue =>
          -- The loss before is counted and not answered yet, which leaves room for one retry.
          have hlt := hlt _ _ rfl
          rw [lossesSinceReset_concat] at hlt hle
          have hmost := RetryPolicy.le_of_allows (hlosses ▸ hallows) hmost hlimit
          refine ⟨?_, ?_, fun _ _ hmarks => ?_⟩
          · rw [retriesSinceReset_concat]
            exact Nat.le_trans hlt hmost
          · rw [retriesSinceReset_concat, lossesSinceReset_concat,
              lossesSinceReset_concat]
            exact hlt
          · cases (List.append_inj' hmarks rfl).2
      | reset => exact ⟨by simp, by simp, by simp⟩

/-- Between two resets there are no more retries than the policy allows. -/
theorem Legal.countP_isRetry_le (h : Legal policy marks) {most : Nat}
    (hmost : policy.maxAttempts = some most) (hlimit : most < RetryPolicy.attemptLimit)
    {first middle last : List Mark} (hmarks : marks = first ++ middle ++ last)
    (hmiddle : .reset ∉ middle) : middle.countP (·.isRetry) ≤ most := by
  subst hmarks
  have hbudget := ((legal_of_legal_append h).budgeted hmost hlimit).le_most
  rw [retriesSinceReset, sinceReset_append hmiddle, List.countP_append, List.countP_reverse]
    at hbudget
  exact Nat.le_trans (Nat.le_add_right ..) hbudget

end Marks

/-! ## The marks of runs -/

variable {c c' : Connection η} {world : Surroundings} {now : Instant}
  {operation : Operation η} {moments : List (Moment η)} {policy : RetryPolicy}
  {marks : List Mark}

/-- What the marks of a run tell of the connection that it ends in. -/
structure Disciplined (policy : RetryPolicy) (marks : List Mark) (c : Connection η) : Prop where
  policy_eq : c.policy = policy
  legal : Legal policy marks
  losses_eq : c.losses = min (lossesSinceReset marks) RetryPolicy.attemptLimit
  settled : c.hasTransport = true → Settled marks
  /-- A retry that is due is legal. -/
  due : ∀ time, c.retryAt = some time → ∀ now, time ≤ now → Follows policy marks (.retried now)

theorem disciplined_new (policy : RetryPolicy) (multiplier : Nat) :
    Disciplined policy [] (new policy multiplier : Connection η) :=
  ⟨rfl, legal_nil, rfl, fun _ => settled_nil, by simp [new]⟩

/-- A transport is opened at the end of the marks. -/
theorem Disciplined.opened (hd : Disciplined policy marks c) {mark : Mark}
    (hopening : mark.isOpening = true) (hfollows : Follows policy marks mark) :
    Disciplined policy (marks ++ [mark]) c.opened := by
  refine ⟨hd.policy_eq, legal_concat.mpr ⟨hd.legal, hfollows⟩, ?_,
    fun _ => settled_concat_of_isOpening hopening, ?_⟩
  · rw [lossesSinceReset_concat_of_isOpening hopening]
    exact hd.losses_eq
  · intro time hretry
    cases hretry

/-- The row of losses ends. -/
theorem Disciplined.reset (hd : Disciplined policy marks c) (hpolicy : c'.policy = c.policy)
    (hlosses : c'.losses = 0) (hheld : c'.hasTransport = true → c.hasTransport = true)
    (hretry : c'.retryAt = none) : Disciplined policy (marks ++ [.reset]) c' := by
  refine ⟨hpolicy.trans hd.policy_eq, legal_concat.mpr ⟨hd.legal, .reset⟩, ?_, fun h => ?_, ?_⟩
  · simp [hlosses]
  · exact (hd.settled (hheld h)).concat (by simp)
  · simp [hretry]

/-- The transport is lost, and the loss is counted. -/
theorem Disciplined.bereft (hd : Disciplined policy marks c) (hc : c.Coupled)
    (hheld : c.hasTransport = true) (now : Instant) {n : Nat}
    (hn : n = min (lossesSinceReset marks + 1) RetryPolicy.attemptLimit) :
    Disciplined policy (marks ++ [.lost now]) { c.bereft with losses := n } := by
  refine ⟨hd.policy_eq, legal_concat.mpr ⟨hd.legal, .lost (hd.settled hheld)⟩, ?_, ?_, ?_⟩
  · simpa using hn
  · intro h
    cases h
  · simp [Connection.bereft, hc.retryAt_eq_none hheld]

theorem Retry.disciplined {retrying : Bool} (h : Retry c.bereft now moments retrying c')
    (hc : c.Coupled) (hheld : c.hasTransport = true) (hd : Disciplined policy marks c) :
    Disciplined policy
      (marks ++ [.lost now] ++ List.replicate (moments.countP (·.act.isOpening)) (.retried now))
      c' := by
  have hcount : RetryPolicy.countLoss c.losses =
      min (lossesSinceReset marks + 1) RetryPolicy.attemptLimit := by
    rw [RetryPolicy.countLoss, hd.losses_eq]
    omega
  obtain rfl := hd.policy_eq
  cases h with
  | @refused n hn hallows =>
      have hn := hn.trans hcount
      simpa using hd.bereft hc hheld now hn
  | @immediate n hn hallows hdelay =>
      have hn := hn.trans hcount
      have hdue : now + c.policy.delay n ≤ now := Nat.le_of_eq (congrArg (now + ·) hdelay)
      have hfollows : Follows c.policy (marks ++ [.lost now]) (.retried now) :=
        .retried hn hallows hdue
      exact (hd.bereft hc hheld now hn).opened rfl hfollows
  | @delayed n hn hallows hdelay =>
      have hn := hn.trans hcount
      rw [List.countP_nil, List.replicate_zero, List.append_nil]
      refine { hd.bereft hc hheld now hn with due := ?_ }
      intro time hretry later hlater
      obtain rfl := Option.some.inj hretry
      exact .retried hn hallows hlater

theorem openingMark_of_loses (hloses : c.loses world operation = true) (now : Instant) :
    openingMark now operation = .retried now := by
  cases operation <;> first | rfl | cases hloses

theorem Transition.disciplined (h : Transition c world operation moments c') (hc : c.Coupled)
    (hd : Disciplined policy marks c) :
    Disciplined policy (marks ++ c.marksOf world operation moments) c' := by
  cases h with
  | calm hloses hresets hc' =>
      have hmarks : c.marksOf world operation [] = [] := by simp [marksOf, hloses, hresets]
      rw [hmarks, List.append_nil, hc']
      cases operation <;> exact ⟨hd.policy_eq, hd.legal, hd.losses_eq, hd.settled, hd.due⟩
  | @heard bytes watchdog hheld hready hfeed =>
      have hmarks : c.marksOf world (.receive c.generation (.frame bytes)) [] = [] := by
        simp [marksOf, loses, resets, hready]
      rw [hmarks, List.append_nil]
      exact ⟨hd.policy_eq, hd.legal, hd.losses_eq, hd.settled, hd.due⟩
  | @ready bytes fed watchdog hheld hready =>
      have hreset : Disciplined policy (marks ++ [.reset])
          { c with phase := .ready, losses := 0, watchdog } :=
        hd.reset rfl rfl (fun _ => hheld) (hc.retryAt_eq_none hheld)
      simpa [marksOf, loses, resets, holds, hheld, hready, Act.isOpening] using hreset
  | started => exact hd.opened rfl .started
  | retried hfree hloses hretry hdue =>
      simp only [marksOf, hloses, resets]
      exact hd.opened rfl (hd.due _ hretry _ hdue)
  | stopped => exact hd.reset rfl rfl (fun h => by cases h) rfl
  | failed hheld hloses hresets hretry =>
      simp only [marksOf, hloses, hresets, openingMark_of_loses hloses]
      simpa [Act.isOpening] using hretry.disciplined hc hheld hd
  | closed hheld hfinal hretry =>
      simp only [marksOf, loses, resets, holds, hheld, hfinal]
      simpa [Act.isOpening, openingMark] using hretry.disciplined hc hheld hd
  | ended hheld hfinal =>
      -- The loss is counted even though the reset after it discards the count.
      have hlost := hd.bereft hc hheld world.now rfl
      have hreset : Disciplined policy (marks ++ [.lost world.now] ++ [.reset])
          { c.bereft with retryAt := none, losses := 0 } := hlost.reset rfl rfl id rfl
      simpa [marksOf, loses, resets, holds, hheld, hfinal, Act.isOpening] using hreset

theorem Run.disciplined {multiplier : Nat} {visits : List (Visit η)}
    (run : Run (new policy multiplier) visits c) : Disciplined policy (runMarks visits) c := by
  induction run with
  | nil => exact disciplined_new policy multiplier
  | snoc run turn ih =>
      have hdisciplined := (apply_yields run.coupled turn).disciplined run.coupled ih
      rw [marksOf, countP_landmarks isLandmark_of_isOpening] at hdisciplined
      rw [runMarks_concat]
      exact hdisciplined

/-- Marks whose retries are as a policy has them. -/
structure Obeys (policy : RetryPolicy) (marks : List Mark) : Prop where
  /-- A transport that is opened without demand answers one loss. The policy allows to answer
  as many losses in a row, and the delay after the loss is over. -/
  answers : ∀ opening time, marks[opening]? = some (.retried time) →
    ∃ loss lost losses, marks[loss]? = some (.lost lost) ∧
      (∀ i, Answers marks opening i ↔ i = loss) ∧
      losses = lossesSinceReset (marks.take (loss + 1)) ∧
      (∀ most, policy.maxAttempts = some most → losses ≤ most) ∧
      lost + policy.delay (min losses RetryPolicy.attemptLimit) ≤ time
  /-- No two transports answer one loss. -/
  once : ∀ i j loss, Answers marks i loss → Answers marks j loss → i = j
  /-- Between two resets there are no more retries than the policy allows. -/
  budget : ∀ most, policy.maxAttempts = some most → ∀ first middle last,
    marks = first ++ middle ++ last → .reset ∉ middle → middle.countP (·.isRetry) ≤ most

theorem Legal.obeys (h : Legal policy marks)
    (bounded : ∀ most, policy.maxAttempts = some most → most < RetryPolicy.attemptLimit) :
    Obeys policy marks := by
  refine ⟨?_, fun _ _ _ => Answers.eq, ?_⟩
  · intro opening time hopening
    obtain ⟨loss, lost, losses, rfl, hloss, hlosses, hallows, hdue⟩ := h.lost_of_retried hopening
    refine ⟨loss, lost, losses, hloss, h.answers_iff hloss hopening, hlosses, ?_, hdue⟩
    exact fun most hmost => RetryPolicy.le_of_allows hallows hmost (bounded most hmost)
  · intro most hmost first middle last hmarks hmiddle
    exact h.countP_isRetry_le hmost (bounded most hmost) hmarks hmiddle

/-- A connection counts the losses in a row, and retries as its policy has it. -/
theorem retries_obey_policy {multiplier : Nat} {visits : List (Visit η)}
    (bounded : ∀ most, policy.maxAttempts = some most → most < RetryPolicy.attemptLimit)
    (run : Run (new policy multiplier) visits c) :
    c.losses = min (lossesSinceReset (runMarks visits)) RetryPolicy.attemptLimit ∧
      Obeys policy (runMarks visits) :=
  ⟨run.disciplined.losses_eq, run.disciplined.legal.obeys bounded⟩

/-- A policy of two attempts: the first loss is answered at once, the second after a wait,
and the third is not. -/
theorem retries_obey_two_attempts :
    ∃ (visits : List (Visit String)) (c : Connection String),
      visits.map Visit.step =
        [(.plain 0, .start), (.plain 1, .receive 1 (.failed "reset")),
         (.plain 2, .receive 2 (.failed "reset")), (.plain 250000002, .poll),
         (.plain 250000003, .receive 3 (.failed "reset"))] ∧
      Run (new { maxAttempts := some 2 } 3) visits c ∧ (c.losses, c.retryAt) = (3, none) ∧
      (c.losses = min (lossesSinceReset (runMarks visits)) RetryPolicy.attemptLimit ∧
        Obeys { maxAttempts := some 2 } (runMarks visits)) := by
  refine Run.exists_of_play (fun c => (c.losses, c.retryAt)) (by decide +kernel)
    fun _ _ _ => retries_obey_policy ?_
  rintro most ⟨⟩
  decide

end GatewayClient.Connection
