import GatewayClient.Proofs.Bootstrap.Mounting
/-!
# Staging

What a stage does is a play of its gateway as an actor, with the calls that the stage makes and
otherwise moves of the driver only. So a mount on a stage is a mount.
-/

namespace GatewayClient

open Connection (Answer Surroundings)
open Gateway (Actor Happening Move Receipt Request)
open Gateway.Actor (Drives calls_of_after step_cases receipt?)

namespace Gateway.Actor

variable {a b z : Actor} {seen : List Happening} {moves : List Move} {g g' : Gateway}
  {world : Surroundings} {panics : Ticket → Bool}

theorem Drives.receipts_eq (h : Drives a seen b) :
    b.receipts = a.receipts ++ seen.filterMap receipt? := by
  cases h with
  | finished => rfl
  | _ => exact (List.append_nil _).symm

/-- The driver gives out answers, but no tickets. -/
theorem frame_of_play (hmoves : ∀ move ∈ moves, move.isOfDriver)
    (hplay : a.play moves = some (seen, z)) :
    z.receipts = a.receipts ++ seen.filterMap receipt? ∧
      z.gateway.nextTicket = a.gateway.nextTicket := by
  refine play_preserves (fun seen b => b.receipts = a.receipts ++ seen.filterMap receipt? ∧
    b.gateway.nextTicket = a.gateway.nextTicket) [] (fun hmove h hstep => ?_)
    ⟨(List.append_nil _).symm, rfl⟩ hplay
  rcases step_cases hstep with ⟨call, rfl, -⟩ | hdrives
  · cases hmoves _ hmove
  · refine ⟨?_, hdrives.frame.2.trans h.2⟩
    rw [hdrives.receipts_eq, h.1, List.filterMap_append, List.append_assoc]

theorem exists_play_of_turns {fuel : Nat} (h : g.turns world panics fuel = (seen, g'))
    (receipts : List Receipt) :
    ∃ moves receipts', (∀ move ∈ moves, Move.isOfDriver move) ∧
      Actor.play ⟨g, none, receipts⟩ moves = some (seen, ⟨g', none, receipts'⟩) := by
  induction fuel generalizing g seen receipts with
  | zero =>
      obtain ⟨rfl, rfl⟩ := Prod.mk.inj h
      exact ⟨[], receipts, List.forall_mem_nil _, rfl⟩
  | succ fuel ih =>
      unfold turns at h
      split at h
      · obtain ⟨rfl, rfl⟩ := Prod.mk.inj h
        exact ⟨[], receipts, List.forall_mem_nil _, rfl⟩
      · case h_2 first between hturn =>
        obtain ⟨rfl, rfl⟩ := Prod.mk.inj h
        obtain ⟨earlier, receipts₁, hearlier, hfirst⟩ := exists_play_of_turn hturn receipts
        obtain ⟨later, receipts₂, hlater, hrest⟩ := ih rfl receipts₁
        exact ⟨earlier ++ later, receipts₂, List.forall_mem_append.mpr ⟨hearlier, hlater⟩,
          play_append.mpr ⟨_, _, _, hfirst, hrest, rfl⟩⟩

/-- A caller that has waited long enough gets its answer. -/
theorem await_of_play {κ : Type} {handle? : Answer → Option κ} {handle : κ} {ticket : Ticket}
    {answer : Answer} (hsound : z.Sound) (hplay : a.play moves = some (seen, z))
    (hreceipt : ⟨ticket, answer, false⟩ ∈ z.receipts) (hhandle : handle? answer = some handle) :
    ∃ receipts, a.await? ticket handle? moves = some (seen, handle, { z with receipts }) ∧
      Sound { z with receipts } := by
  have htake : z.after? (.take ticket) =
      some { z with receipts := z.receipts.map (·.take ticket) } :=
    if_pos (List.any_eq_true.mpr ⟨_, hreceipt, by simp⟩)
  refine ⟨_, ?_, hsound.calls (calls_of_after htake)⟩
  simp only [await?, hplay, htake, Option.bind_eq_bind, Option.bind_some]
  cases hfind : (z.receipts.map (·.take ticket)).find? (·.ticket == ticket) with
  | none =>
      have hnone := List.find?_eq_none.mp hfind _ (List.mem_map_of_mem hreceipt)
      simp at hnone
  | some receipt =>
      obtain ⟨other, hother, rfl⟩ := List.mem_map.mp (List.mem_of_find?_eq_some hfind)
      have hticket : other.ticket = ticket := by simpa using List.find?_some hfind
      obtain rfl := hsound.eq_of_ticket_eq hother hreceipt hticket
      simp [hhandle]

end Gateway.Actor

/-! ## Stages -/

namespace Stage

variable {κ : Type} {handle? : Answer → Option κ} {handle : κ} {ticket : Ticket} {answer : Answer}
  {s s' : Stage} {a : Actor} {seen : List Happening} {front front' : Bootstrap} {gateway : Gateway}

theorem gateway_foldl_see (s : Stage) (seen : List Happening) :
    (seen.foldl see s).gateway = s.gateway := by
  induction seen generalizing s with
  | nil => rfl
  | cons happening seen ih =>
      rw [List.foldl_cons, ih]
      cases happening <;> rfl

theorem mounting_foldl_see (s : Stage) (seen : List Happening) :
    (seen.foldl see s).mounting =
      s.mounting.map fun front => seen.foldl Bootstrap.observe front := by
  induction seen generalizing s with
  | nil => exact Option.map_id'.symm
  | cons happening seen ih =>
      rw [List.foldl_cons, ih]
      cases happening <;> simp [see, Function.comp_def]

theorem mem_replies_foldl_see (s : Stage) (seen : List Happening)
    (hreply : (ticket, answer) ∈ (seen.foldl see s).replies) :
    (ticket, answer) ∈ s.replies ∨ { ticket, answer } ∈ seen.filterMap receipt? := by
  induction seen generalizing s with
  | nil => exact .inl hreply
  | cons happening seen ih =>
      rw [List.filterMap_cons]
      rcases ih _ hreply with hreply | hreceipt
      · cases happening with
        | did => exact .inl hreply
        | replied other answer' =>
            rcases List.mem_cons.mp hreply with hsame | hreply
            · obtain ⟨rfl, rfl⟩ := Prod.mk.inj hsame
              exact .inr List.mem_cons_self
            · exact .inl hreply
      · refine .inr ?_
        cases receipt? happening with
        | none => exact hreceipt
        | some receipt => exact List.mem_cons_of_mem _ hreceipt

/-- The actor is the gateway of the stage, between turns. -/
structure Mirrors (a : Actor) (s : Stage) : Prop where
  gateway : a.gateway = s.gateway
  turn : a.turn = none
  sound : a.Sound
  /-- The stage has no answers to calls that are still to be made. -/
  replies : ∀ ticket answer, (ticket, answer) ∈ s.replies → ticket < s.gateway.nextTicket

theorem Mirrors.await (h : Mirrors a s) (hnew : ∀ answer, (ticket, answer) ∉ s.replies)
    (hawait : s.await ticket = (some answer, s')) (hhandle : handle? answer = some handle) :
    ∃ moves seen b, (∀ move ∈ moves, move.isOfDriver) ∧
      a.await? ticket handle? moves = some (seen, handle, b) ∧ Mirrors b s' ∧
      s'.mounting = s.mounting.map fun front => seen.foldl Bootstrap.observe front := by
  obtain ⟨hlookup, rfl⟩ := Prod.mk.inj hawait
  obtain ⟨⟨seen, gateway⟩, hsettle⟩ :
    ∃ outcome, s.gateway.settle s.surroundings s.panicking.contains = outcome := ⟨_, rfl⟩
  have hseen : s.settle = seen.foldl see { s with gateway } := by rw [settle, hsettle]
  obtain ⟨moves, receipts, hmoves, hplay⟩ := Actor.exists_play_of_turns hsettle a.receipts
  have hactor : (⟨s.gateway, none, a.receipts⟩ : Actor) = a := by
    rw [← h.gateway, ← h.turn]
  rw [hactor] at hplay
  have hsound := h.sound.play hplay
  obtain ⟨rfl, hnext⟩ := Actor.frame_of_play hmoves hplay
  -- The answer is one of those that were given out meanwhile, and there is no other.
  have hanswer : (⟨ticket, answer, false⟩ : Receipt) ∈ a.receipts ++ seen.filterMap receipt? := by
    obtain ⟨_, _, hreplies, -⟩ := List.lookup_eq_some_iff.mp hlookup
    have hreply : (ticket, answer) ∈ s.settle.replies :=
      hreplies ▸ List.mem_append_right _ List.mem_cons_self
    rcases mem_replies_foldl_see _ seen (hseen ▸ hreply) with hold | hmem
    · exact absurd hold (hnew answer)
    · exact List.mem_append_right _ hmem
  have hbelow (ticket : Ticket) (answer : Answer)
      (hreply : (ticket, answer) ∈ s.settle.replies) : ticket < gateway.nextTicket := by
    rcases mem_replies_foldl_see _ seen (hseen ▸ hreply) with hold | hmem
    · exact hnext ▸ h.gateway ▸ h.replies ticket answer hold
    · exact hsound.books.below _ (List.mem_append_left _
        (List.mem_map_of_mem (List.mem_append_right _ hmem)))
  obtain ⟨receipts, hawaited, htaken⟩ := Actor.await_of_play hsound hplay hanswer hhandle
  have hgateway : s.settle.gateway = gateway := by rw [hseen, gateway_foldl_see]
  refine ⟨moves, seen, _, hmoves, hawaited, ⟨hgateway.symm, rfl, htaken, hgateway ▸ hbelow⟩, ?_⟩
  rw [hseen, mounting_foldl_see]

theorem Mirrors.asked (h : Mirrors a s) (request : Request)
    (hrequest : s.gateway.request? request.operation = some (ticket, gateway))
    (mounting : Option Bootstrap) :
    Mirrors { a with gateway } { s with gateway, mounting } ∧
      ∀ answer, (ticket, answer) ∉ s.replies := by
  have hcalls := (Actor.calls_of_request (h.gateway ▸ hrequest)).1
  simp only [Gateway.request?, Option.ite_none_right_eq_some, Option.some.injEq,
    Prod.mk.injEq] at hrequest
  obtain ⟨-, rfl, rfl⟩ := hrequest
  refine ⟨⟨rfl, h.turn, h.sound.calls hcalls, fun ticket answer hreply => ?_⟩, ?_⟩
  · exact Nat.lt_succ_of_lt (h.replies ticket answer hreply)
  · exact fun answer hreply => Nat.lt_irrefl _ (h.replies _ answer hreply)

theorem Mirrors.mount (h : Mirrors a s) {path : String}
    (hmount : Bootstrap.mount? s.gateway path = some (front, gateway)) :
    Mirrors { a with gateway } { s with gateway, mounting := some front } ∧
      ∀ ticket ∈ front.onDisconnect, ∀ answer, (ticket, answer) ∉ s.replies := by
  obtain ⟨ticket, hrequest, rfl⟩ := Bootstrap.request_of_mount hmount
  obtain ⟨hmirrors, hnew⟩ := h.asked .addDisconnect hrequest _
  refine ⟨hmirrors, ?_⟩
  rintro _ ⟨⟩
  exact hnew

theorem Mirrors.addReady (h : Mirrors a s) {handles : Connection.DisconnectHandle}
    (hadd : front.addReady? s.gateway handles = some (front', gateway)) :
    Mirrors { a with gateway } { s with gateway, mounting := some front' } ∧
      ∀ ticket ∈ front'.onReady, ∀ answer, (ticket, answer) ∉ s.replies := by
  obtain ⟨ticket, hrequest, rfl⟩ := Bootstrap.request_of_addReady hadd
  obtain ⟨hmirrors, hnew⟩ := h.asked .addReady hrequest _
  refine ⟨hmirrors, ?_⟩
  rintro _ ⟨⟩
  exact hnew

theorem Mirrors.start (h : Mirrors a s) {handle : Handle}
    (hstart : front.start? s.gateway handle = some (front', gateway))
    (mounted : List (String × Bootstrap)) :
    Mirrors { a with gateway } { s with gateway, mounted, mounting := none } := by
  obtain ⟨htell, -⟩ := Bootstrap.tell_of_start hstart
  have hcalls := (Actor.calls_of_tell (.inl ⟨rfl, rfl⟩) (h.gateway ▸ htell)).1
  simp only [Gateway.tell?, Option.ite_none_right_eq_some, Option.some.injEq] at htell
  obtain ⟨-, rfl⟩ := htell
  exact ⟨rfl, h.turn, h.sound.calls hcalls, h.replies⟩

/-- A step of a mount is taken once the stage has waited for the answer to the last one. -/
theorem Mirrors.mountStep (h : Mirrors a s) {ticket? : Option Ticket} {front : Bootstrap}
    {next : Bootstrap → Gateway → κ → Option (Bootstrap × Gateway)}
    (hnew : ∀ ticket ∈ ticket?, ∀ answer, (ticket, answer) ∉ s.replies)
    (hmounting : s.mounting = some front) (hstep : s.mountStep ticket? handle? next = (true, s')) :
    ∃ ticket moves seen handle b front' gateway t, ticket? = some ticket ∧
      (∀ move ∈ moves, move.isOfDriver) ∧
      a.await? ticket handle? moves = some (seen, handle, b) ∧
      next (seen.foldl Bootstrap.observe front) b.gateway handle = some (front', gateway) ∧
      Mirrors b t ∧ s' = { t with gateway, mounting := some front' } := by
  cases ticket? with
  | none => simp [Stage.mountStep] at hstep
  | some ticket =>
      obtain ⟨⟨answer?, t⟩, hawait⟩ : ∃ outcome, s.await ticket = outcome := ⟨_, rfl⟩
      simp only [Stage.mountStep, hawait] at hstep
      split at hstep
      · case h_1 handle front₁ hhandle hmounting₁ =>
        obtain ⟨answer, rfl, hhandle⟩ := Option.bind_eq_some_iff.mp hhandle
        obtain ⟨moves, seen, b, hmoves, hawaited, hmirrors, hmounting'⟩ :=
          h.await (hnew ticket rfl) hawait hhandle
        rw [hmounting₁, hmounting] at hmounting'
        obtain rfl := Option.some.inj hmounting'
        split at hstep
        · case h_1 front' gateway hnext =>
          obtain ⟨-, rfl⟩ := Prod.mk.inj hstep
          rw [← hmirrors.gateway] at hnext
          exact ⟨ticket, moves, seen, handle, b, front', gateway, t, rfl, hmoves, hawaited, hnext,
            hmirrors, rfl⟩
        · cases hstep
      · cases hstep

/-- A mount on a stage is a mount during which only the driver moves. -/
theorem Mirrors.exists_mount_of_mount (h : Mirrors a s) {name path : String} {view : View}
    (htoken : s.tokens.get.isSome) (hmount : s.mount name path = (some view, s')) :
    ∃ first second front b, (∀ move ∈ first ++ second, move.isOfDriver) ∧
      a.mount? path first second = some (front, b) ∧ Mirrors b s' ∧
      (name, front) ∈ s'.mounted ∧ front.view = view := by
  have hpresent : s.tokens.get.isNone = false := by simpa using htoken
  simp only [Stage.mount, hpresent, Bool.false_eq_true, if_false] at hmount
  split at hmount
  · cases hmount
  · case h_2 front gateway hasked =>
    obtain ⟨⟨added, s₁⟩, hfirstStep⟩ : ∃ outcome, Stage.mountStep
      { s with gateway, mounting := some front } front.onDisconnect Answer.disconnectHandle?
      Bootstrap.addReady? = outcome := ⟨_, rfl⟩
    simp only [hfirstStep] at hmount
    cases added with
    | false => simp at hmount
    | true =>
        obtain ⟨⟨started, s₂⟩, hsecondStep⟩ : ∃ outcome, s₁.mountStep
          (s₁.mounting.bind (·.onReady)) Answer.handle? Bootstrap.start? = outcome := ⟨_, rfl⟩
        simp only [if_true, hsecondStep] at hmount
        cases started with
        | false => simp at hmount
        | true =>
            obtain ⟨hasking, hnew⟩ := h.mount hasked
            obtain ⟨ticket, first, seen₁, handles, b₁, front₁, gateway₁, t₁, hticket, hfirst,
              hawait₁, hadd, hmirrors₁, rfl⟩ := hasking.mountStep hnew rfl hfirstStep
            obtain ⟨hadding, hnew'⟩ := hmirrors₁.addReady (hmirrors₁.gateway ▸ hadd)
            obtain ⟨ticket', second, seen₂, handle, b₂, front₂, gateway₂, t₂, hticket', hsecond,
              hawait₂, hstart, hmirrors₂, rfl⟩ := hadding.mountStep hnew' rfl hsecondStep
            obtain ⟨hview, rfl⟩ := Prod.mk.inj hmount
            obtain rfl := Option.some.inj hview
            refine ⟨first, second, front₂, _, List.forall_mem_append.mpr ⟨hfirst, hsecond⟩, ?_,
              hmirrors₂.start (hmirrors₂.gateway ▸ hstart) _, ?_, rfl⟩
            · simp only [Actor.mount?, h.gateway, hasked, hticket, hawait₁, hadd, hticket', hawait₂,
                hstart, Option.bind_eq_bind, Option.bind_some]
            · simp [keep]

/-- A bootstrap that a stage has mounted on a gateway without a transport shows what becomes of the
connection from then on. -/
theorem Mirrors.shows_of_mount (h : Mirrors a s) (hvacant : a.Vacant) {name path : String} {view : View}
    (htoken : s.tokens.get.isSome) (hmount : s.mount name path = (some view, s')) :
    ∃ front b, Mirrors b s' ∧ (name, front) ∈ s'.mounted ∧ front.view = view ∧
      Bootstrap.Mounted path front b ∧ Bootstrap.Shows path front [] b := by
  obtain ⟨first, second, front, b, hmoves, hmounted, hmirrors, hmem, hview⟩ :=
    h.exists_mount_of_mount htoken hmount
  obtain ⟨hfirst, hsecond⟩ := List.forall_mem_append.mp hmoves
  exact ⟨front, b, hmirrors, hmem, hview, Bootstrap.mounted_of_mount h.sound hvacant
    (fun move hmove => Gateway.Move.isOfCaller_of_isOfDriver (hfirst move hmove))
    (fun move hmove => Gateway.Move.isOfCaller_of_isOfDriver (hsecond move hmove)) hmounted⟩

end Stage

end GatewayClient
