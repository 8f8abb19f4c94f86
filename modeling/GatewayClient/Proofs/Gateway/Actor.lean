import GatewayClient.Gateway.Turn
/-!
# Actors

A gateway as its callers and its driver share it. The driver moves in small steps: it takes
up work, does the effects of the turn one by one, and ends the turn. Callers and transports
move at any time, also in the middle of a turn, and also from inside a handler that the driver
calls.

The turns of a gateway are what the driver does when nobody else moves
(`Actor.exists_play_of_turn`).
-/

namespace GatewayClient.Gateway

open Connection (Event Effect Operation Answer Surroundings)

/-- A turn that the driver is in the middle of. -/
structure Progress where
  work : Work
  /-- What is still to be done. -/
  rest : List (Effect Ticket)
  result : Option (Answer × Connection Ticket)
  /-- Whether a handler is running. -/
  calling : Bool := false

/-- A turn of which nothing is done yet. -/
def Progress.ofTurn (work : Work)
    (turn : Connection.Turn (Connection.Moment Ticket) (Answer × Connection Ticket)) : Progress :=
  { work, rest := turn.effects, result := turn.result }

/-- An answer that a caller was given. -/
structure Receipt where
  ticket : Ticket
  answer : Answer
  /-- Whether the caller has it. A caller that waits may go without its answer. -/
  taken : Bool := false

/-- The caller with a ticket takes its answer. -/
def Receipt.take (receipt : Receipt) (ticket : Ticket) : Receipt :=
  if receipt.ticket = ticket then { receipt with taken := true } else receipt

@[simp] theorem Receipt.take_ticket (receipt : Receipt) (ticket : Ticket) :
    (receipt.take ticket).ticket = receipt.ticket := by
  unfold take
  split <;> rfl

@[simp] theorem Receipt.take_answer (receipt : Receipt) (ticket : Ticket) :
    (receipt.take ticket).answer = receipt.answer := by
  unfold take
  split <;> rfl

theorem Receipt.take_of_taken (receipt : Receipt) {ticket : Ticket} (h : receipt.taken = true) :
    receipt.take ticket = receipt := by
  unfold take
  split
  · rw [← h]
  · rfl

/-- What others see of a turn of the connection. -/
def happenings (moments : List (Connection.Moment Ticket)) : List Happening :=
  (moments.flatMap (·.act.effects)).map .did

structure Actor where
  /-- In the middle of a turn its connection is the one that the turn began with. -/
  gateway : Gateway
  turn : Option Progress := none
  /-- The answers that callers were given, but not those for handlers that were removed. -/
  receipts : List Receipt := []

/-! ## Moves -/

/-- What a caller asks and waits for. -/
inductive Request where
  | send (payload : Payload)
  | joinGuild (hostname inviteCode replyId : String)
  | askInterval
  | addReady
  | addDisconnect

/-- A handler goes by the ticket of the call that adds it. -/
def Request.operation (request : Request) (ticket : Ticket) : Operation Ticket :=
  match request with
  | .send payload => .send payload
  | .joinGuild hostname inviteCode replyId => .joinGuild hostname inviteCode replyId
  | .askInterval => .askInterval
  | .addReady => .addReady ticket
  | .addDisconnect => .addDisconnect ticket

/-- What callers and transports do. -/
inductive Call where
  | start
  | shutdown
  | ask (request : Request)
  /-- The caller takes its answer. -/
  | take (ticket : Ticket)
  /-- The caller waits no more. -/
  | cancel (ticket : Ticket)
  | removeReady (subscription : ReadySubscription)
  | removeDisconnect (subscription : DisconnectSubscription)
  /-- All callers go. -/
  | abandon
  /-- A transport reports an event. -/
  | report (generation : Nat) (event : Event)

/-- The handler that a call removes. -/
def Call.removes? : Call → Option Ticket
  | .removeReady subscription => some subscription.ticket
  | .removeDisconnect subscription => some subscription.ticket
  | _ => none

inductive Move where
  | call (call : Call)
  /-- The driver goes on in the given surroundings. -/
  | drive (world : Surroundings)
  /-- The handler that is running panics. -/
  | panic

/-- The driver moves, or a handler panics. -/
def Move.isOfDriver : Move → Bool
  | .drive _ | .panic => true
  | .call _ => false

/-- Whether a move is a call of somebody but a transport. -/
def Move.isOfCaller : Move → Bool
  | .call (.report _ _) => false
  | .call _ => true
  | .drive _ | .panic => false

theorem Move.isOfCaller_of_isOfDriver {move : Move} (h : move.isOfDriver) :
    move.isOfCaller = false := by
  cases move <;> first | rfl | cases h

theorem Call.removes?_of_isOfCaller {call : Call} (h : (Move.call call).isOfCaller = false) :
    call.removes? = none := by
  cases call <;> first | rfl | cases h

namespace Actor

/-! ## Callers -/

/-- Whether a caller has the subscription. -/
def holds {κ : Type} [DecidableEq κ] (a : Actor) (handle? : Answer → Option κ)
    (subscription : Subscription κ) : Bool :=
  a.receipts.any fun receipt => receipt.taken && receipt.ticket == subscription.ticket &&
    handle? receipt.answer == some subscription.handle

/-- Forgets the answer of a handler that is removed. -/
def forget (a : Actor) (ticket : Ticket) : Actor :=
  { a with receipts := a.receipts.filter (·.ticket != ticket) }

/-- What becomes of a call. A call of somebody who does not have what it needs is not made,
and a call that fails because the driver has stopped is not made either. -/
def after? (a : Actor) : Call → Option Actor
  | .start => do some { a with gateway := ← a.gateway.tell? .start }
  | .shutdown => do some { a with gateway := ← a.gateway.tell? .shutdown }
  | .ask request => do
    let (_, gateway) ← a.gateway.request? request.operation
    some { a with gateway }
  | .take ticket =>
    if a.receipts.any (·.ticket == ticket) then
      some { a with receipts := a.receipts.map (·.take ticket) }
    else none
  | .cancel ticket =>
    if ticket < a.gateway.nextTicket then
      some { a with gateway := a.gateway.cancel ticket,
                    receipts := a.receipts.filter fun receipt =>
                      receipt.taken || receipt.ticket != ticket }
    else none
  | .removeReady subscription =>
    if a.holds Answer.handle? subscription then
      some ({ a with gateway := a.gateway.removeReady subscription }.forget subscription.ticket)
    else none
  | .removeDisconnect subscription =>
    if a.holds Answer.disconnectHandle? subscription then
      some ({ a with gateway := a.gateway.removeDisconnect subscription }.forget
        subscription.ticket)
    else none
  | .abandon => some { a with gateway := a.gateway.abandon }
  | .report generation event => some { a with gateway := (a.gateway.emit generation event).2 }

/-! ## The driver -/

/-- Takes up work. -/
def begin? (a : Actor) (world : Surroundings) : Option Actor := do
  let connection ← a.gateway.connection
  let (work, gateway) ← a.gateway.nextWork? connection world.now
  let turn := connection.apply world work.command.operation
  some { a with gateway, turn := some (.ofTurn work turn) }

/-- The driver stops, and whatever it was doing is lost. -/
def halt (a : Actor) : Actor := { a with gateway := a.gateway.stop, turn := none }

def receipt? : Happening → Option Receipt
  | .replied ticket answer => some { ticket, answer }
  | .did _ => none

/-- Ends a turn. -/
def finish (a : Actor) (progress : Progress) : List Happening × Actor :=
  match progress.result with
  | some (answer, connection) =>
    let (replies, connection) := a.gateway.reply progress.work.command answer connection
    let gateway := { a.gateway with connection := some connection }
    (replies, { gateway := if progress.work.last then gateway.stop else gateway,
                receipts := a.receipts ++ replies.filterMap receipt? })
  | none => ([], a.halt)

/-- Does the next effect of a turn, or ends it if there is none. Whether a handler was removed
is looked up right before it is called. -/
def proceed (a : Actor) (progress : Progress) : List Happening × Actor :=
  match progress.rest.dropWhile (!a.gateway.admits ·) with
  | effect :: rest =>
    ([.did effect],
      { a with gateway := a.gateway.afterEffect effect,
               turn := some { progress with rest, calling := (calledTicket? effect).isSome } })
  | [] => a.finish progress

/-! ## Plays -/

/-- The handler that is called. -/
def callee? : Happening → Option Ticket
  | .did effect => calledTicket? effect
  | .replied _ _ => none

/-- What others see of a move, and the actor then. A move may not be possible. -/
def step? (a : Actor) : Move → Option (List Happening × Actor)
  | .call call => do some ([], ← a.after? call)
  | .drive world =>
    match a.turn with
    | some progress => some (a.proceed progress)
    | none => do some ([], ← a.begin? world)
  | .panic =>
    match a.turn with
    | some progress => if progress.calling then some ([], a.halt) else none
    | none => none

/-- Makes moves in order. -/
def play (a : Actor) : List Move → Option (List Happening × Actor)
  | [] => some ([], a)
  | move :: moves => do
    let (seen, a) ← a.step? move
    let (others, a) ← a.play moves
    some (seen ++ others, a)

/-- The driver has not moved yet. -/
def new (policy : RetryPolicy) (multiplier : Nat) : Actor :=
  { gateway := .new (.new policy multiplier) }

/-- The actor comes of a new one by moves of any kind. -/
def Reachable (policy : RetryPolicy) (multiplier : Nat) (a : Actor) : Prop :=
  ∃ moves seen, (new policy multiplier).play moves = some (seen, a)

variable {a b z : Actor} {moves : List Move} {seen : List Happening}

theorem play_cons {move : Move} :
    a.play (move :: moves) = some (seen, z) ↔
      ∃ first b rest, a.step? move = some (first, b) ∧ b.play moves = some (rest, z) ∧
        seen = first ++ rest := by
  simp only [play, Option.bind_eq_bind, Option.bind_eq_some_iff, Option.some.injEq, Prod.mk.injEq,
    Prod.exists]
  constructor
  · rintro ⟨first, b, hstep, rest, z, hplay, rfl, rfl⟩
    exact ⟨first, b, rest, hstep, hplay, rfl⟩
  · rintro ⟨first, b, rest, hstep, hplay, rfl⟩
    exact ⟨first, b, hstep, rest, z, hplay, rfl, rfl⟩

theorem play_append {earlier later : List Move} :
    a.play (earlier ++ later) = some (seen, z) ↔
      ∃ first b rest, a.play earlier = some (first, b) ∧ b.play later = some (rest, z) ∧
        seen = first ++ rest := by
  induction earlier generalizing a seen with
  | nil =>
      constructor
      · intro hlater
        exact ⟨[], a, seen, rfl, hlater, rfl⟩
      · rintro ⟨_, _, _, hnil, hlater, rfl⟩
        obtain ⟨rfl, rfl⟩ := Prod.mk.inj (Option.some.inj hnil)
        exact hlater
  | cons move earlier ih =>
      simp only [List.cons_append, play_cons, ih]
      constructor
      · rintro ⟨_, _, _, hstep, ⟨_, _, _, hearlier, hlater, rfl⟩, rfl⟩
        exact ⟨_, _, _, ⟨_, _, _, hstep, hearlier, rfl⟩, hlater, (List.append_assoc ..).symm⟩
      · rintro ⟨_, _, _, ⟨_, _, _, hstep, hearlier, rfl⟩, hlater, rfl⟩
        exact ⟨_, _, _, hstep, ⟨_, _, _, hearlier, hlater, rfl⟩, List.append_assoc ..⟩

theorem play_singleton {move : Move} : a.play [move] = a.step? move := by
  cases h : a.step? move <;> simp [play, h]

/-- What every move keeps, a play keeps. -/
theorem play_preserves (invariant : List Happening → Actor → Prop) (before : List Happening)
    (step : ∀ {before a move seen b}, move ∈ moves → invariant before a →
      a.step? move = some (seen, b) → invariant (before ++ seen) b)
    (h : invariant before a) (hplay : a.play moves = some (seen, z)) :
    invariant (before ++ seen) z := by
  induction moves generalizing a before seen with
  | nil =>
      obtain ⟨rfl, rfl⟩ := Prod.mk.inj (Option.some.inj hplay)
      simpa using h
  | cons move moves ih =>
      obtain ⟨first, b, rest, hstep, hrest, rfl⟩ := play_cons.mp hplay
      rw [← List.append_assoc]
      exact ih _ (fun hmove => step (List.mem_cons_of_mem _ hmove))
        (step List.mem_cons_self h hstep) hrest

namespace Reachable

variable {policy : RetryPolicy} {multiplier : Nat}

theorem play (h : Reachable policy multiplier a) (hplay : a.play moves = some (seen, z)) :
    Reachable policy multiplier z := by
  obtain ⟨earlier, before, hbefore⟩ := h
  exact ⟨earlier ++ moves, before ++ seen, play_append.mpr ⟨_, _, _, hbefore, hplay, rfl⟩⟩

theorem step {move : Move} (h : Reachable policy multiplier a)
    (hstep : a.step? move = some (seen, z)) : Reachable policy multiplier z :=
  h.play (play_singleton.trans hstep)

/-- What holds of a new actor and what every move keeps holds of all actors. -/
theorem preserves (h : Reachable policy multiplier z) {invariant : Actor → Prop}
    (initial : invariant (new policy multiplier))
    (step : ∀ {a move seen b}, invariant a → a.step? move = some (seen, b) → invariant b) :
    invariant z := by
  obtain ⟨moves, seen, hplay⟩ := h
  exact play_preserves (fun _ => invariant) [] (fun _ => step) initial hplay

/-- Moves that end in an actor with a given feature reach one for which all holds that holds of
every actor. -/
theorem exists_of_play {β : Type} (feature : Actor → β) {b : β} {property : Actor → Prop}
    (h : ((new policy multiplier).play moves).map (feature ·.2) = some b)
    (all : ∀ a, Reachable policy multiplier a → property a) :
    ∃ seen a, (new policy multiplier).play moves = some (seen, a) ∧ feature a = b ∧
      property a := by
  obtain ⟨⟨seen, a⟩, hplay, hfeature⟩ := Option.map_eq_some_iff.mp h
  exact ⟨seen, a, hplay, hfeature, all a ⟨moves, seen, hplay⟩⟩

end Reachable

/-! ## Moves by kind -/

/-- What the driver can take up next. -/
inductive Takes (g : Gateway) : Work → Gateway → Prop where
  | event {generation : Nat} {event : Event} {events : List (Nat × Event)}
      (hevents : g.events = (generation, event) :: events) :
      Takes g (.ofOperation (.receive generation event)) { g with events }
  | command {command : Command} {commands : List Command}
      (hcommands : g.commands = command :: commands) : Takes g { command } { g with commands }
  /-- All callers are gone. -/
  | shutdown : Takes g { command := { operation := .shutdown }, last := true } g
  | poll : Takes g (.ofOperation .poll) g

theorem Takes.frame {g g' : Gateway} {work : Work} (h : Takes g work g') :
    g'.connection = g.connection ∧ g'.removed = g.removed ∧ g'.nextTicket = g.nextTicket := by
  cases h <;> exact ⟨rfl, rfl, rfl⟩

/-- Commands are taken in order, and the driver does not start or shut down by itself, unless it
stops then. -/
theorem Takes.commands_cases {g g' : Gateway} {work : Work} (h : Takes g work g') :
    g.commands = work.command :: g'.commands ∨ g'.commands = g.commands ∧
      work.command.operation ≠ .start ∧
        (work.command.operation = .shutdown → work.last = true) := by
  cases h with
  | command hcommands => exact .inl hcommands
  | shutdown => exact .inr ⟨rfl, nofun, fun _ => rfl⟩
  | event | poll => exact .inr ⟨rfl, nofun, nofun⟩

theorem takes_of_nextWork {g g' : Gateway} {c : Connection Ticket} {now : Instant} {work : Work}
    (h : g.nextWork? c now = some (work, g')) : Takes g work g' := by
  unfold nextWork? at h
  split at h
  · case h_1 hevents =>
    obtain ⟨rfl, rfl⟩ := Prod.mk.inj (Option.some.inj h)
    exact .event hevents
  · case h_2 hcommands =>
    obtain ⟨rfl, rfl⟩ := Prod.mk.inj (Option.some.inj h)
    exact .command hcommands
  · case h_3 =>
    split at h
    · obtain ⟨rfl, rfl⟩ := Prod.mk.inj (Option.some.inj h)
      exact .shutdown
    · split at h
      · obtain ⟨rfl, rfl⟩ := Prod.mk.inj (Option.some.inj h)
        exact .poll
      · cases h

theorem exists_phase_afterEffect (g : Gateway) (effect : Effect Ticket) :
    ∃ phase, g.afterEffect effect = { g with phase } := by
  cases effect <;> exact ⟨_, rfl⟩

/-- An effect that is done does take place. -/
theorem admits_of_dropWhile {g : Gateway} {effects rest : List (Effect Ticket)}
    {effect : Effect Ticket} (h : effects.dropWhile (!g.admits ·) = effect :: rest) :
    g.admits effect = true := by
  have hhead := List.head?_dropWhile_not (!g.admits ·) effects
  rw [h] at hhead
  simpa using hhead

/-- What the driver can do in a move. -/
inductive Drives (a : Actor) : List Happening → Actor → Prop where
  | begun {world : Surroundings} {c : Connection Ticket} {work : Work} {gateway : Gateway}
      (hturn : a.turn = none) (hconnection : a.gateway.connection = some c)
      (hwork : Takes a.gateway work gateway) :
      Drives a []
        { a with gateway, turn := some (.ofTurn work (c.apply world work.command.operation)) }
  | did {progress : Progress} {effect : Effect Ticket} {rest : List (Effect Ticket)}
      (hturn : a.turn = some progress)
      (hrest : progress.rest.dropWhile (!a.gateway.admits ·) = effect :: rest) :
      Drives a [.did effect] { a with
        gateway := a.gateway.afterEffect effect,
        turn := some { progress with rest, calling := (calledTicket? effect).isSome } }
  | finished {progress : Progress} {answer : Answer} {c c' : Connection Ticket}
      {replies : List Happening} (hturn : a.turn = some progress)
      (hrest : progress.rest.dropWhile (!a.gateway.admits ·) = [])
      (hresult : progress.result = some (answer, c))
      (hreply : a.gateway.reply progress.work.command answer c = (replies, c')) :
      Drives a replies
        { gateway := if progress.work.last then { a.gateway with connection := some c' }.stop
            else { a.gateway with connection := some c' },
          receipts := a.receipts ++ replies.filterMap receipt? }
  | halted {progress : Progress} (hturn : a.turn = some progress) : Drives a [] a.halt

/-- A move is a call, or the driver's. -/
theorem step_cases {move : Move} (h : a.step? move = some (seen, b)) :
    (∃ call, move = .call call ∧ a.after? call = some b ∧ seen = []) ∨ Drives a seen b := by
  cases move with
  | call call =>
      obtain ⟨_, hcall, hb⟩ := Option.bind_eq_some_iff.mp h
      obtain ⟨rfl, rfl⟩ := Prod.mk.inj (Option.some.inj hb)
      exact .inl ⟨call, rfl, hcall, rfl⟩
  | drive world =>
      refine .inr ?_
      simp only [step?] at h
      split at h
      · case h_1 progress hturn =>
        simp only [proceed, Option.some.injEq] at h
        split at h
        · case h_1 effect rest hrest =>
          obtain ⟨rfl, rfl⟩ := Prod.mk.inj h
          exact .did hturn hrest
        · case h_2 hrest =>
          simp only [finish] at h
          split at h
          · case h_1 answer c hresult =>
            obtain ⟨rfl, rfl⟩ := Prod.mk.inj h
            exact .finished hturn hrest hresult rfl
          · case h_2 =>
            obtain ⟨rfl, rfl⟩ := Prod.mk.inj h
            exact .halted hturn
      · case h_2 hturn =>
        simp only [begin?, Option.bind_eq_bind, Option.bind_eq_some_iff, Prod.exists,
          Option.some.injEq, Prod.mk.injEq] at h
        obtain ⟨_, ⟨c, hconnection, work, gateway, hwork, rfl⟩, rfl, rfl⟩ := h
        exact .begun hturn hconnection (takes_of_nextWork hwork)
  | panic =>
      refine .inr ?_
      simp only [step?] at h
      split at h
      · case h_1 progress hturn =>
        split at h
        · obtain ⟨rfl, rfl⟩ := Prod.mk.inj (Option.some.inj h)
          exact .halted hturn
        · cases h
      · cases h

/-! ## Turns -/

section

variable {world : Surroundings} {panics : Ticket → Bool} {g g' : Gateway}

/-- How a turn ends that was done so far, or was not. -/
def close (a : Actor) (progress : Progress) (all : Bool) : List Happening × Actor :=
  if all then a.finish progress else ([], a.halt)

/-- The driver does the effects of a turn one by one, and then ends the turn. -/
theorem exists_play_of_perform {effects done : List (Effect Ticket)} {all : Bool}
    (world : Surroundings) (receipts : List Receipt) (progress : Progress)
    (h : g.perform panics effects = (done, all, g')) :
    ∃ moves : List Move, (∀ move ∈ moves, Move.isOfDriver move) ∧
      Actor.play ⟨g, some { progress with rest := effects }, receipts⟩ (.drive world :: moves) =
        some (done.map Happening.did ++ (close ⟨g', none, receipts⟩ progress all).1,
          (close ⟨g', none, receipts⟩ progress all).2) := by
  induction effects generalizing g done progress with
  | nil =>
      obtain ⟨rfl, rfl, rfl⟩ := by simpa [perform] using h
      refine ⟨[], List.forall_mem_nil _, ?_⟩
      rw [play_singleton]
      simp only [step?, proceed, List.dropWhile_nil, close, finish]
      cases progress.result <;> rfl
  | cons effect effects ih =>
      unfold perform at h
      split at h
      · case isTrue hadmits =>
        have hstep : Actor.step? ⟨g, some { progress with rest := effect :: effects }, receipts⟩
            (.drive world) = some ([.did effect], ⟨g.afterEffect effect, some { progress with
              rest := effects, calling := (calledTicket? effect).isSome }, receipts⟩) := by
          simp [step?, proceed, hadmits]
        split at h
        · case isTrue hpanics =>
          -- The handler is called and panics, so the next move is the last.
          obtain ⟨rfl, rfl, rfl⟩ := by simpa only [Prod.mk.injEq] using h
          have hcalling : (calledTicket? effect).isSome := Option.isSome_of_any hpanics
          refine ⟨[.panic], by simp [Move.isOfDriver], play_cons.mpr ⟨_, _, _, hstep, ?_, rfl⟩⟩
          simp [play_singleton, step?, hcalling, halt, close]
        · case isFalse =>
          obtain ⟨⟨others, _, _⟩, hperform⟩ :
            ∃ outcome, (g.afterEffect effect).perform panics effects = outcome := ⟨_, rfl⟩
          simp only [hperform, Prod.mk.injEq] at h
          obtain ⟨rfl, rfl, rfl⟩ := h
          obtain ⟨moves, hmoves, hplay⟩ := ih
            { progress with calling := (calledTicket? effect).isSome } hperform
          refine ⟨.drive world :: moves, List.forall_mem_cons.mpr ⟨rfl, hmoves⟩, ?_⟩
          exact play_cons.mpr ⟨_, _, _, hstep, hplay, rfl⟩
      · case isFalse hadmits =>
        -- The driver passes over the effect in its next move.
        obtain ⟨moves, hmoves, hplay⟩ := ih progress h
        refine ⟨moves, hmoves, ?_⟩
        have hstep : Actor.step? ⟨g, some { progress with rest := effect :: effects }, receipts⟩
            (.drive world) = Actor.step? ⟨g, some { progress with rest := effects }, receipts⟩
              (.drive world) := by
          simp [step?, proceed, hadmits, finish, halt]
        rw [play, hstep]
        exact hplay

/-- A turn is a play of the driver. -/
theorem exists_play_of_turn (h : g.turn? world panics = some (seen, g'))
    (receipts : List Receipt) :
    ∃ moves receipts', (∀ move ∈ moves, Move.isOfDriver move) ∧
      Actor.play ⟨g, none, receipts⟩ moves = some (seen, ⟨g', none, receipts'⟩) := by
  simp only [turn?, Option.bind_eq_bind, Option.bind_eq_some_iff] at h
  obtain ⟨c, hconnection, ⟨work, g₁⟩, hwork, h⟩ := h
  have hbegin : Actor.step? ⟨g, none, receipts⟩ (.drive world) = some ([], ⟨g₁, some (.ofTurn work
      (c.apply world work.command.operation)), receipts⟩) := by
    simp [step?, begin?, hconnection, hwork]
  generalize c.apply world work.command.operation = turn at h hbegin
  obtain ⟨⟨done, all, g₂⟩, hperform⟩ : ∃ outcome, g₁.perform panics turn.effects = outcome :=
    ⟨_, rfl⟩
  obtain ⟨moves, hmoves, hplay⟩ := exists_play_of_perform world receipts
    (.ofTurn work turn) hperform
  have hclose : ∃ receipts', done.map Happening.did ++
        (close ⟨g₂, none, receipts⟩ (.ofTurn work turn) all).1 = seen ∧
      (close ⟨g₂, none, receipts⟩ (.ofTurn work turn) all).2 = ⟨g', none, receipts'⟩ := by
    simp only [hperform] at h
    cases all with
    | false =>
        obtain ⟨rfl, rfl⟩ := Prod.mk.inj (Option.some.inj h)
        simp [close, halt]
    | true =>
        cases hresult : turn.result with
        | none =>
            obtain ⟨rfl, rfl⟩ := by simpa [hresult] using h
            simp [close, finish, halt, Progress.ofTurn, hresult]
        | some outcome =>
            obtain ⟨rfl, rfl⟩ := by simpa [hresult] using h
            simp [close, finish, Progress.ofTurn, hresult]
  obtain ⟨receipts', rfl, hactor⟩ := hclose
  rw [hactor] at hplay
  refine ⟨.drive world :: .drive world :: moves, receipts', ?_, ?_⟩
  · exact List.forall_mem_cons.mpr ⟨rfl, List.forall_mem_cons.mpr ⟨rfl, hmoves⟩⟩
  · exact play_cons.mpr ⟨_, _, _, hbegin, hplay, rfl⟩

end

end Actor

end GatewayClient.Gateway
