/-!
# Registries of callbacks

Callbacks are run in the order of their registration. A handle is never given out twice,
and handles grow, so the order of the handles is the order of registration.

A callback is the state it has captured; what it does when called is a function that
gives its next state and its outcome.
-/

namespace GatewayClient

/-- Names a registered callback. -/
structure Handle where
  number : Nat
  deriving DecidableEq, Repr

instance : Ord Handle where
  compare a b := compare a.number b.number

instance : ToString Handle where
  toString handle := toString handle.number

structure Registry (σ : Type) where
  entries : List (Handle × σ) := []
  next : Nat := 0
  deriving DecidableEq, Repr

/-- How a call ends. -/
inductive Outcome (α : Type) where
  | returned (a : α)
  | panicked
  deriving DecidableEq, Repr

namespace Registry

variable {σ α ε : Type}

def empty : Registry σ := {}

def register (registry : Registry σ) (callback : σ) : Handle × Registry σ :=
  (⟨registry.next⟩,
    ⟨registry.entries ++ [(⟨registry.next⟩, callback)], registry.next + 1⟩)

def contains (registry : Registry σ) (handle : Handle) : Bool :=
  registry.entries.any (·.1 == handle)

/-- Removes a callback, if it is there. -/
def unregister (registry : Registry σ) (handle : Handle) : Registry σ :=
  { registry with entries := registry.entries.filter (·.1 != handle) }

def size (registry : Registry σ) : Nat := registry.entries.length

def isEmpty (registry : Registry σ) : Bool := registry.entries.isEmpty

/-- The registered callbacks in the order of their registration. -/
def callbacks (registry : Registry σ) : List σ := registry.entries.map (·.2)

/-- A line for logs. -/
def summary (registry : Registry σ) : String :=
  "CallbackRegistry \x7b len: " ++ toString registry.size ++ ", next: " ++ toString registry.next
    ++ " \x7d"

/-! ## Running -/

/-- Calls callbacks in order, up to and with the first whose outcome stops the run. -/
def runUntil (stops : Outcome α → Bool) (call : σ → σ × Outcome α) :
    List (Handle × σ) → List (Handle × σ) × List (Outcome α)
  | [] => ([], [])
  | (handle, state) :: rest =>
    let (state, outcome) := call state
    if stops outcome then ((handle, state) :: rest, [outcome])
    else
      let (rest, outcomes) := runUntil stops call rest
      ((handle, state) :: rest, outcome :: outcomes)

/-- What calls return together: they panic if one does. -/
def gather : List (Outcome α) → Outcome (List α)
  | [] => .returned []
  | .panicked :: _ => .panicked
  | .returned a :: outcomes =>
    match gather outcomes with
    | .returned results => .returned (a :: results)
    | .panicked => .panicked

/-- The values of results, or the first error among them. -/
def firstError : List (Except ε α) → Except ε (List α)
  | [] => .ok []
  | .error e :: _ => .error e
  | .ok a :: results => (firstError results).map (a :: ·)

def isPanic : Outcome α → Bool
  | .panicked => true
  | .returned _ => false

def isFailure : Outcome (Except ε α) → Bool
  | .returned (.ok _) => false
  | _ => true

/-- Calls every callback. After one that panics no other is called. -/
def runAll (registry : Registry σ) (call : σ → σ × Outcome α) :
    Registry σ × Outcome (List α) :=
  let (entries, outcomes) := runUntil isPanic call registry.entries
  ({ registry with entries }, gather outcomes)

/-- Calls callbacks until one fails. -/
def tryRunAll (registry : Registry σ) (call : σ → σ × Outcome (Except ε α)) :
    Registry σ × Outcome (Except ε (List α)) :=
  let (entries, outcomes) := runUntil isFailure call registry.entries
  let result := match gather outcomes with
    | .returned results => .returned (firstError results)
    | .panicked => .panicked
  ({ registry with entries }, result)

end Registry

end GatewayClient
