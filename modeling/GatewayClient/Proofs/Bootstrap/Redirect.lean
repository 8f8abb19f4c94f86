import GatewayClient.Proofs.Bootstrap.Staging
import GatewayClient.Proofs.Endpoint
import GatewayClient.Proofs.Reader
import GatewayClient.Proofs.Text.FormEncoding
/-!
# Login pages

The login page of a path is the root of the same host, and it has one parameter: the path in form
encoding, which can neither add a parameter nor lead to another place. A bootstrap that is mounted
for a path shows no other login page.

Main statement: `Bootstrap.redirects_lead_back`.
-/

namespace GatewayClient

open Address (Resource cut)
open Connection (Answer)
open Gateway (Happening)

/-! ## Locations -/

namespace Address

variable {mark : Char} {text rest : List Char}

theorem cut_of_not_mem (h : mark ∉ text) : cut mark text = (text, none) := by
  have hall : ∀ c ∈ text, decide (c ≠ mark) = true := fun c hc =>
    decide_eq_true fun hsame => h (hsame ▸ hc)
  have hdrop : text.dropWhile (· ≠ mark) = [] := List.dropWhile_eq_nil_iff.mpr hall
  rw [cut, hdrop]

theorem cut_append_cons (h : mark ∉ text) : cut mark (text ++ mark :: rest) = (text, some rest) := by
  have hall : ∀ c ∈ text, decide (c ≠ mark) = true := fun c hc =>
    decide_eq_true fun hsame => h (hsame ▸ hc)
  have hmark : ∀ c ∈ (mark :: rest).head?, decide (c ≠ mark) = false := by simp
  obtain ⟨htake, hdrop⟩ := span_append hall hmark
  rw [cut, hdrop, htake]

end Address

/-- The parameters of a query stand between ampersands. Each has a name, and a value after its first
equals sign. -/
def parameters (query : List Char) : List (List Char × Option (List Char)) :=
  (splitAt '&' query).map (cut '=')

/-- A location that leads back to a path: the root with one parameter and no fragment, and the value
of the parameter is the path in form encoding. -/
def LeadsBack (location path : String) : Prop :=
  ∃ suffix : String, location = "/?redirect_to=" ++ suffix ∧
    FormEncoding.IsSafe suffix.toList ∧ FormEncoding.decode? suffix = some path ∧
    ∃ query, Resource.ofText location.toList = { path := "/".toList, query := some query } ∧
      parameters query = [("redirect_to".toList, some suffix.toList)]

theorem FormEncoding.IsSafe.not_mem {text : List Char} (h : IsSafe text) {c : Char}
    (hc : c ∉ '+' :: '%' :: literals) : c ∉ text := by
  intro hmem
  apply hc
  rcases h.chars c hmem with hliteral | rfl | rfl
  · exact .tail _ (.tail _ hliteral)
  · exact List.mem_cons_self
  · exact .tail _ List.mem_cons_self

/-- Safe text after the equals sign adds nothing but the value of the parameter. -/
theorem resource_of_isSafe {suffix : List Char} (h : FormEncoding.IsSafe suffix) :
    Resource.ofText ("/?redirect_to=".toList ++ suffix) =
        { path := "/".toList, query := some ("redirect_to=".toList ++ suffix) } ∧
      parameters ("redirect_to=".toList ++ suffix) = [("redirect_to".toList, some suffix)] := by
  have hhash : '#' ∉ "/?redirect_to=".toList ++ suffix :=
    List.not_mem_append (by decide) (h.not_mem (by decide))
  have hampersand : '&' ∉ "redirect_to=".toList ++ suffix :=
    List.not_mem_append (by decide) (h.not_mem (by decide))
  have hroot : '?' ∉ "/".toList := by decide
  have hname : '=' ∉ "redirect_to".toList := by decide
  have hquestion : cut '?' ("/?redirect_to=".toList ++ suffix) =
      ("/".toList, some ("redirect_to=".toList ++ suffix)) := Address.cut_append_cons hroot
  have hequals : cut '=' ("redirect_to=".toList ++ suffix) =
      ("redirect_to".toList, some suffix) := Address.cut_append_cons hname
  refine ⟨?_, ?_⟩
  · simp only [Resource.ofText, Address.cut_of_not_mem hhash, hquestion]
  · rw [parameters, splitAt_of_not_mem hampersand, List.map_singleton, hequals]

theorem leadsBack_loginRedirect (path : String) : LeadsBack (loginRedirect path) path := by
  have hsafe := FormEncoding.isSafe_encode path
  obtain ⟨hresource, hparameters⟩ := resource_of_isSafe hsafe
  rw [← String.toList_append] at hresource
  exact ⟨FormEncoding.encode path, rfl, hsafe, FormEncoding.decode?_encode path, _, hresource,
    hparameters⟩

/-- A location leads back to one path. -/
theorem LeadsBack.eq {location path other : String} (h : LeadsBack location path)
    (hother : LeadsBack location other) : path = other := by
  obtain ⟨suffix, rfl, -, hpath, -⟩ := h
  obtain ⟨suffix', hsuffix, -, hother, -⟩ := hother
  obtain rfl : suffix = suffix' := by
    have hlist := congrArg String.toList hsuffix
    rw [String.toList_append, String.toList_append] at hlist
    exact String.toList_inj.mp (List.append_cancel_left hlist)
  exact Option.some.inj (hpath.symm.trans hother)

/-! ## Bootstraps -/

namespace Bootstrap

variable {path : String} {front front' : Bootstrap} {g g' : Gateway}

/-- The bootstraps that are mounted for a path: from the first step of the mount on, whatever the
gateway does between the steps and afterwards, and also when they are unmounted. -/
inductive IsMountedFor (path : String) : Bootstrap → Prop where
  | withoutToken : IsMountedFor path (withoutToken path)
  | mount {front : Bootstrap} {g g' : Gateway} (h : mount? g path = some (front, g')) :
      IsMountedFor path front
  | addReady {front front' : Bootstrap} {g g' : Gateway} {handle : Connection.DisconnectHandle}
      (hfront : IsMountedFor path front) (h : front.addReady? g handle = some (front', g')) :
      IsMountedFor path front'
  | start {front front' : Bootstrap} {g g' : Gateway} {handle : Handle}
      (hfront : IsMountedFor path front) (h : front.start? g handle = some (front', g')) :
      IsMountedFor path front'
  | observe {front : Bootstrap} (hfront : IsMountedFor path front) (happening : Happening) :
      IsMountedFor path (front.observe happening)
  | unmount {front : Bootstrap} (hfront : IsMountedFor path front) (g : Gateway) :
      IsMountedFor path (front.unmount g).1

/-- A bootstrap knows and shows no login page but that of a path. -/
structure RedirectsTo (path : String) (front : Bootstrap) : Prop where
  location : front.location = loginRedirect path
  view : ∀ location, front.view = .redirectToLogin location → location = loginRedirect path

theorem RedirectsTo.observe (h : RedirectsTo path front) (happening : Happening) :
    RedirectsTo path (front.observe happening) := by
  unfold Bootstrap.observe
  split
  · split
    · exact ⟨h.location, nofun⟩
    · exact h
  · split
    · refine ⟨h.location, fun location hview => ?_⟩
      dsimp only at hview
      split at hview
      · cases hview
      · obtain rfl := View.redirectToLogin.inj hview
        exact h.location
    · exact h
  · exact h

theorem IsMountedFor.redirectsTo (h : IsMountedFor path front) : RedirectsTo path front := by
  induction h with
  | withoutToken => exact ⟨rfl, fun _ hview => (View.redirectToLogin.inj hview).symm⟩
  | mount h =>
      obtain ⟨ticket, -, rfl⟩ := request_of_mount h
      exact ⟨rfl, nofun⟩
  | addReady _ h ih =>
      obtain ⟨ticket, -, rfl⟩ := request_of_addReady h
      exact ⟨ih.location, ih.view⟩
  | start _ h ih =>
      obtain ⟨-, rfl⟩ := tell_of_start h
      exact ⟨ih.location, ih.view⟩
  | observe _ happening ih => exact ih.observe happening
  | unmount _ _ ih => exact ⟨ih.location, ih.view⟩

theorem IsMountedFor.foldl_observe (h : IsMountedFor path front) (seen : List Happening) :
    IsMountedFor path (seen.foldl Bootstrap.observe front) := by
  induction seen generalizing front with
  | nil => exact h
  | cons happening seen ih => exact ih (h.observe happening)

end Bootstrap

/-! ## Stages -/

namespace Stage

open Bootstrap (IsMountedFor)

variable {κ : Type} {path : String} {s s' : Stage}

theorem isMountedFor_of_settle (h : ∀ front ∈ s.mounting, IsMountedFor path front) :
    ∀ front ∈ s.settle.mounting, IsMountedFor path front := by
  intro front hfront
  rw [settle, mounting_foldl_see] at hfront
  obtain ⟨earlier, hearlier, rfl⟩ := Option.map_eq_some_iff.mp hfront
  exact (h earlier hearlier).foldl_observe _

/-- A step of a mount leaves a bootstrap for the path if the step of the bootstrap does. -/
theorem isMountedFor_of_mountStep {ticket? : Option Ticket} {handle? : Answer → Option κ}
    {next : Bootstrap → Gateway → κ → Option (Bootstrap × Gateway)} {taken : Bool}
    (hnext : ∀ {front front' g g' handle}, IsMountedFor path front →
      next front g handle = some (front', g') → IsMountedFor path front')
    (h : ∀ front ∈ s.mounting, IsMountedFor path front)
    (hstep : s.mountStep ticket? handle? next = (taken, s')) :
    ∀ front ∈ s'.mounting, IsMountedFor path front := by
  cases ticket? with
  | none =>
      obtain ⟨-, rfl⟩ := Prod.mk.inj hstep
      exact h
  | some ticket =>
      have hsettled := isMountedFor_of_settle h
      simp only [Stage.mountStep, Stage.await] at hstep
      split at hstep
      · case h_1 handle front _ hmounting =>
        split at hstep
        · case h_1 front' gateway hfront' =>
          obtain ⟨-, rfl⟩ := Prod.mk.inj hstep
          rintro _ ⟨⟩
          exact hnext (hsettled front hmounting) hfront'
        · obtain ⟨-, rfl⟩ := Prod.mk.inj hstep
          exact hsettled
      · obtain ⟨-, rfl⟩ := Prod.mk.inj hstep
        exact hsettled

/-- What a stage mounts for a path, with a token or without, is mounted for it. -/
theorem isMountedFor_of_mount {name : String} {view : View}
    (h : s.mount name path = (some view, s')) :
    ∃ front, (name, front) ∈ s'.mounted ∧ front.view = view ∧ IsMountedFor path front := by
  have hkept (t : Stage) (front : Bootstrap) : (name, front) ∈ (t.keep name front).mounted :=
    List.mem_append_right _ (List.mem_singleton_self _)
  simp only [Stage.mount] at h
  split at h
  · obtain ⟨hview, rfl⟩ := Prod.mk.inj h
    exact ⟨_, hkept s _, Option.some.inj hview, .withoutToken⟩
  split at h
  · cases h
  · case h_2 front gateway hmount =>
    obtain ⟨⟨added, s₁⟩, hfirst⟩ : ∃ outcome, Stage.mountStep
      { s with gateway, mounting := some front } front.onDisconnect Answer.disconnectHandle?
      Bootstrap.addReady? = outcome := ⟨_, rfl⟩
    have hadded : ∀ front ∈ s₁.mounting, IsMountedFor path front :=
      isMountedFor_of_mountStep .addReady (by rintro _ ⟨⟩; exact .mount hmount) hfirst
    simp only [hfirst] at h
    cases added with
    | false => simp at h
    | true =>
        obtain ⟨⟨started, s₂⟩, hsecond⟩ : ∃ outcome, s₁.mountStep
          (s₁.mounting.bind (·.onReady)) Answer.handle? Bootstrap.start? = outcome := ⟨_, rfl⟩
        have hstarted : ∀ front ∈ s₂.mounting, IsMountedFor path front :=
          isMountedFor_of_mountStep .start hadded hsecond
        simp only [if_true, hsecond] at h
        split at h
        · case h_1 front' hmounting =>
          obtain ⟨hview, rfl⟩ := Prod.mk.inj h
          exact ⟨front', hkept s₂ front', Option.some.inj hview, hstarted front' hmounting⟩
        · cases h

end Stage

namespace Bootstrap

/-- The login page of a path leads back to it, so that two paths have two login pages. Every login
page that is shown by a bootstrap that is mounted for a path leads back to the path, and what a
stage mounts is such a bootstrap. -/
theorem redirects_lead_back (path : String) :
    LeadsBack (loginRedirect path) path ∧
      (∀ other, loginRedirect other = loginRedirect path → other = path) ∧
      (∀ front, IsMountedFor path front → ∀ location, front.view = .redirectToLogin location →
        LeadsBack location path) ∧
      ∀ (s s' : Stage) (name : String) (view : View), s.mount name path = (some view, s') →
        ∃ front, (name, front) ∈ s'.mounted ∧ front.view = view ∧ IsMountedFor path front := by
  have hpath := leadsBack_loginRedirect path
  refine ⟨hpath, fun other hsame => ?_, fun front hfront location hview => ?_,
    fun s s' name view hmount => Stage.isMountedFor_of_mount hmount⟩
  · have hother := leadsBack_loginRedirect other
    exact (hsame ▸ hother).eq hpath
  · rw [hfront.redirectsTo.view location hview]
    exact hpath

/-- A bootstrap that is mounted with a token, for a path with characters that mean something in
an address, hears that the session is over. -/
theorem escaped_path_leads_back :
    let path := "/guilds/é?a=b&c#d +"
    let page := "/?redirect_to=%2Fguilds%2F%C3%A9%3Fa%3Db%26c%23d+%2B"
    loginRedirect path = page ∧ loginRedirect page ≠ page ∧
      ∃ (s s' : Stage) (front : Bootstrap), s.mount "app" path = (some .loading, s') ∧
        ("app", front) ∈ s'.mounted ∧
        (front.observe (.did (.disconnected 0 false))).view = .redirectToLogin page ∧
        LeadsBack page path := by
  intro path page
  let s : Stage := { gateway := {}, tokens := ⟨some "token"⟩ }
  have hpage : loginRedirect path = page := by decide +kernel
  have hdecided : (s.mount "app" path).1 = some .loading ∧
      (s.mount "app" path).2.mounted.map (fun entry => entry.2.onDisconnect) = [some 0] := by
    decide +kernel
  obtain ⟨s', hmount, hmounted⟩ : ∃ s', s.mount "app" path = (some .loading, s') ∧
      s'.mounted.map (fun entry => entry.2.onDisconnect) = [some 0] :=
    ⟨(s.mount "app" path).2, Prod.ext hdecided.1 rfl, hdecided.2⟩
  obtain ⟨-, hinjective, hviews, hstages⟩ := redirects_lead_back path
  obtain ⟨front, hmem, -, hfront⟩ := hstages s s' "app" .loading hmount
  have hticket : front.onDisconnect = some 0 := by
    have hmap := List.mem_map_of_mem (f := fun entry => entry.2.onDisconnect) hmem
    rw [hmounted] at hmap
    exact List.mem_singleton.mp hmap
  have hview : (front.observe (.did (.disconnected 0 false))).view = .redirectToLogin page := by
    rw [← hpage, ← hfront.redirectsTo.location]
    simp [observe, hticket]
  refine ⟨hpage, fun hsame => ?_, s, s', front, hmount, hmem, hview,
    hviews _ (hfront.observe _) page hview⟩
  have hpath := hinjective page (hsame.trans hpage.symm)
  exact absurd hpath (by decide)

end Bootstrap

end GatewayClient
