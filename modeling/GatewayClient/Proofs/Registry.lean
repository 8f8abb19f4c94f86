import Mathlib.Data.List.Nodup
import GatewayClient.Registry
/-!
# Order of registration
-/

namespace GatewayClient.Registry

variable {σ : Type} {registry : Registry σ}

/-- The entries are in the order in which their handles were given out. -/
structure Sorted (registry : Registry σ) : Prop where
  increasing : registry.entries.Pairwise (·.1.number < ·.1.number)
  below : ∀ entry ∈ registry.entries, entry.1.number < registry.next

namespace Sorted

theorem empty : (empty : Registry σ).Sorted := ⟨.nil, by simp [Registry.empty]⟩

theorem register (h : registry.Sorted) (callback : σ) : (registry.register callback).2.Sorted := by
  refine ⟨List.pairwise_append.mpr ⟨h.increasing, List.pairwise_singleton .., ?_⟩, ?_⟩
  · intro entry hentry last hlast
    obtain rfl := List.mem_singleton.mp hlast
    exact h.below entry hentry
  · intro entry hentry
    rcases List.mem_append.mp hentry with hentry | hentry
    · exact Nat.lt_succ_of_lt (h.below entry hentry)
    · obtain rfl := List.mem_singleton.mp hentry
      exact Nat.lt_succ_self _

theorem unregister (h : registry.Sorted) (handle : Handle) : (registry.unregister handle).Sorted :=
  ⟨h.increasing.filter _, fun entry hentry => h.below entry (List.mem_filter.mp hentry).1⟩

/-- No two entries have one handle. -/
theorem nodup (h : registry.Sorted) : (registry.entries.map (·.1)).Nodup := by
  refine List.pairwise_map.mpr (h.increasing.imp fun hlt hsame => ?_)
  exact absurd (congrArg Handle.number hsame) (Nat.ne_of_lt hlt)

/-- An entry is found by its handle. -/
theorem eq_of_handle_eq (h : registry.Sorted) {a b : Handle × σ} (ha : a ∈ registry.entries)
    (hb : b ∈ registry.entries) (hsame : a.1 = b.1) : a = b :=
  List.inj_on_of_nodup_map h.nodup ha hb hsame

end Sorted

/-! ## Handles outside of a registry -/

/-- What is known outside of a registry agrees with it: callbacks that are known are registered
under their handles, and no handle that is about to be given back is theirs. -/
structure Keeps (registry : Registry σ) (known : List (Handle × σ)) (leaving : List Handle) : Prop
  where
  sorted : registry.Sorted
  registered : known ⊆ registry.entries
  below : ∀ handle ∈ leaving, handle.number < registry.next
  apart : ∀ handle ∈ leaving, ∀ entry ∈ known, entry.1 ≠ handle

namespace Keeps

variable {known known' : List (Handle × σ)} {leaving leaving' : List Handle} {handle : Handle}
  {callback : σ}

theorem empty : (empty : Registry σ).Keeps [] [] :=
  ⟨.empty, List.nil_subset _, by simp, by simp⟩

theorem mono (h : registry.Keeps known leaving) (hknown : known' ⊆ known)
    (hleaving : leaving' ⊆ leaving) : registry.Keeps known' leaving' where
  sorted := h.sorted
  registered := List.Subset.trans hknown h.registered
  below handle hhandle := h.below handle (hleaving hhandle)
  apart handle hhandle entry hentry := h.apart handle (hleaving hhandle) entry (hknown hentry)

theorem register (h : registry.Keeps known leaving) (callback : σ) :
    (registry.register callback).2.Keeps (known ++ [(⟨registry.next⟩, callback)]) leaving where
  sorted := h.sorted.register callback
  registered := List.append_subset.mpr
    ⟨fun _ hentry => List.mem_append_left _ (h.registered hentry), List.subset_append_right ..⟩
  below handle hhandle := Nat.lt_succ_of_lt (h.below handle hhandle)
  apart handle hhandle entry hentry := by
    rcases List.mem_append.mp hentry with hentry | hentry
    · exact h.apart handle hhandle entry hentry
    · obtain rfl := List.mem_singleton.mp hentry
      intro hsame
      exact absurd (h.below handle hhandle) (hsame ▸ Nat.lt_irrefl _)

theorem unregister (h : registry.Keeps known (handle :: leaving)) :
    (registry.unregister handle).Keeps known leaving where
  sorted := h.sorted.unregister handle
  registered entry hentry := List.mem_filter.mpr ⟨h.registered hentry,
    bne_iff_ne.mpr (h.apart handle List.mem_cons_self entry hentry)⟩
  below other hother := h.below other (List.mem_cons_of_mem _ hother)
  apart other hother := h.apart other (List.mem_cons_of_mem _ hother)

/-- A callback may be registered and taken out again. -/
theorem unregister_register (h : registry.Keeps known leaving) (callback : σ) :
    ((registry.register callback).2.unregister ⟨registry.next⟩).Keeps known leaving := by
  have hregister := (h.register callback).mono (List.subset_append_left ..) (List.Subset.refl _)
  refine unregister { hregister with
    below := List.forall_mem_cons.mpr ⟨Nat.lt_succ_self _, hregister.below⟩
    apart := List.forall_mem_cons.mpr ⟨fun entry hentry hsame => ?_, hregister.apart⟩ }
  have hbelow := h.sorted.below entry (h.registered hentry)
  rw [hsame] at hbelow
  exact Nat.lt_irrefl _ hbelow

/-- A handle is given back by whoever knows its callback, and who forgets it then. -/
theorem dismiss (h : registry.Keeps known leaving) (hentry : (handle, callback) ∈ known)
    (hknown : ∀ entry ∈ known', entry ∈ known ∧ entry.2 ≠ callback)
    (hleaving : leaving' ⊆ handle :: leaving) : registry.Keeps known' leaving' := by
  have hrest := h.mono (fun entry hmem => (hknown entry hmem).1) (List.Subset.refl leaving)
  refine mono { hrest with
    below := List.forall_mem_cons.mpr ⟨h.sorted.below _ (h.registered hentry), hrest.below⟩
    apart := List.forall_mem_cons.mpr ⟨fun other hother hsame => ?_, hrest.apart⟩ }
    (List.Subset.refl _) hleaving
  obtain ⟨hother, hne⟩ := hknown other hother
  exact hne (congrArg Prod.snd
    (h.sorted.eq_of_handle_eq (h.registered hother) (h.registered hentry) hsame))

end Keeps

/-- A handle that was given out for a callback, and for no other. -/
structure Owns (registry : Registry σ) (handle : Handle) (callback : σ) : Prop where
  below : handle.number < registry.next
  owner : ∀ entry ∈ registry.entries, entry.1 = handle → entry.2 = callback

namespace Owns

variable {handle : Handle} {callback : σ}

theorem register (h : registry.Owns handle callback) (other : σ) :
    (registry.register other).2.Owns handle callback := by
  refine ⟨Nat.lt_succ_of_lt h.below, fun entry hentry hsame => ?_⟩
  rcases List.mem_append.mp hentry with hentry | hentry
  · exact h.owner entry hentry hsame
  · obtain rfl := List.mem_singleton.mp hentry
    exact absurd h.below (hsame ▸ Nat.lt_irrefl _)

theorem unregister (h : registry.Owns handle callback) (other : Handle) :
    (registry.unregister other).Owns handle callback :=
  ⟨h.below, fun entry hentry => h.owner entry (List.mem_filter.mp hentry).1⟩

end Owns

theorem Sorted.owns (h : registry.Sorted) {handle : Handle} {callback : σ}
    (hentry : (handle, callback) ∈ registry.entries) : registry.Owns handle callback where
  below := h.below _ hentry
  owner _ hother hsame := congrArg Prod.snd (h.eq_of_handle_eq hother hentry hsame)

end GatewayClient.Registry
