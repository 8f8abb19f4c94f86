import GatewayClient.Registry
/-!
# Operations on registries

What may be asked of a registry whose callbacks can fail, and what it answers. A handle may be
any: one of another registry, or one whose callback has been removed.
-/

namespace GatewayClient.Registry

variable {σ α ε : Type}

inductive Operation (σ : Type) where
  | register (callback : σ)
  | unregister (handle : Handle)
  | contains (handle : Handle)
  | size
  | isEmpty
  | runAll
  | tryRunAll
  deriving DecidableEq, Repr

inductive Answer (ε α : Type) where
  | registered (handle : Handle)
  /-- Of `contains` and `isEmpty`, and of `unregister`: whether there was a callback. -/
  | held (b : Bool)
  | size (n : Nat)
  | ran (outcome : Outcome (List (Except ε α)))
  | tried (outcome : Outcome (Except ε (List α)))

def apply (registry : Registry σ) (call : σ → σ × Outcome (Except ε α)) :
    Operation σ → Registry σ × Answer ε α
  | .register callback =>
    let (handle, registry) := registry.register callback
    (registry, .registered handle)
  | .unregister handle => (registry.unregister handle, .held (registry.contains handle))
  | .contains handle => (registry, .held (registry.contains handle))
  | .size => (registry, .size registry.size)
  | .isEmpty => (registry, .held registry.isEmpty)
  | .runAll =>
    let (registry, outcome) := registry.runAll call
    (registry, .ran outcome)
  | .tryRunAll =>
    let (registry, outcome) := registry.tryRunAll call
    (registry, .tried outcome)

end GatewayClient.Registry
