import GatewayClient.Connection.Phase
/-!
# Turns

A connection acts on the world by what it does in its turns: it opens and closes transports,
hands them frames, and calls handlers. A turn is one operation's list of acts, in order,
with its result. There is no result if the clock could not tell a time that was asked for;
the acts before that have happened nevertheless.

Transports are named by their generations, and handlers are of any type `η`.
-/

namespace GatewayClient.Connection

/-- What happens on a transport. -/
inductive Event where
  | opened
  | frame (bytes : List UInt8)
  | failed (text : String)
  /-- The server closed the connection and gave a reason. -/
  | closed (text : String)
  deriving DecidableEq, Repr

/-- What the world sees of a connection. -/
inductive Effect (η : Type) where
  | entered (phase : Phase)
  | opened (generation : Nat)
  | sent (generation : Nat) (frame : List UInt8)
  | closed (generation : Nat)
  | ready (handler : η)
  | disconnected (handler : η) (reconnect : Bool)
  deriving DecidableEq, Repr

/-- What a connection does at one moment. That handlers are called, one after another, is one
act, also if there are none. -/
inductive Act (η : Type) where
  | entered (phase : Phase)
  | opened (generation : Nat)
  | sent (generation : Nat) (frame : List UInt8)
  | closed (generation : Nat)
  | calledReady (handlers : List η)
  | calledDisconnect (handlers : List η) (reconnect : Bool)
  deriving DecidableEq, Repr

def Act.effects {η : Type} : Act η → List (Effect η)
  | .entered phase => [.entered phase]
  | .opened generation => [.opened generation]
  | .sent generation frame => [.sent generation frame]
  | .closed generation => [.closed generation]
  | .calledReady handlers => handlers.map .ready
  | .calledDisconnect handlers reconnect => handlers.map (.disconnected · reconnect)

/-- A result and the moments before it. -/
structure Turn (μ α : Type) where
  moments : List μ
  result : Option α
  deriving DecidableEq, Repr

namespace Turn

variable {μ α β : Type}

instance : Monad (Turn μ) where
  pure a := ⟨[], some a⟩
  bind turn next :=
    match turn.result with
    | some a => ⟨turn.moments ++ (next a).moments, (next a).result⟩
    | none => ⟨turn.moments, none⟩

/-- A moment with no result of its own. -/
def perform (moment : μ) : Turn μ Unit := ⟨[moment], some ()⟩

/-- A time that the clock may not be able to tell. -/
def attempt (time : Option α) : Turn μ α := ⟨[], time⟩

/-! ## Turns that end -/

/-- The turn ends with a result after the given moments. -/
def Yields (turn : Turn μ α) (moments : List μ) (a : α) : Prop :=
  turn.moments = moments ∧ turn.result = some a

theorem Yields.eq {turn : Turn μ α} {moments : List μ} {a : α} (h : turn.Yields moments a) :
    turn = ⟨moments, some a⟩ := by
  obtain ⟨rfl, hresult⟩ := h
  rw [← hresult]

@[simp] theorem yields_pure {a b : α} {moments : List μ} :
    (pure a : Turn μ α).Yields moments b ↔ moments = [] ∧ b = a := by
  simp [Yields, pure, eq_comm]

@[simp] theorem yields_perform {moment : μ} {moments : List μ} {u : Unit} :
    (perform moment).Yields moments u ↔ moments = [moment] := by
  simp [Yields, perform, eq_comm]

@[simp] theorem yields_attempt {time : Option α} {a : α} {moments : List μ} :
    (attempt time).Yields moments a ↔ moments = [] ∧ time = some a := by
  simp [Yields, attempt, eq_comm]

/-- A turn of two parts ends where its second part does. -/
@[simp] theorem yields_bind {turn : Turn μ α} {next : α → Turn μ β} {moments : List μ} {b : β} :
    (turn >>= next).Yields moments b ↔
      ∃ first a rest, turn.Yields first a ∧ (next a).Yields rest b ∧ moments = first ++ rest := by
  obtain ⟨first, result⟩ := turn
  cases result with
  | none => simp [Yields, bind]
  | some a =>
    constructor
    · rintro ⟨rfl, hb⟩
      exact ⟨first, a, (next a).moments, ⟨rfl, rfl⟩, ⟨rfl, hb⟩, rfl⟩
    · rintro ⟨_, _, _, ⟨rfl, ha⟩, ⟨rfl, hb⟩, rfl⟩
      cases ha
      exact ⟨rfl, hb⟩

/-- What is made of a result adds no moments. -/
theorem yields_bind_pure {turn : Turn μ α} {make : α → β} {moments : List μ} {b : β} :
    (turn >>= fun a => pure (make a)).Yields moments b ↔
      ∃ a, turn.Yields moments a ∧ b = make a := by
  rw [yields_bind]
  constructor
  · rintro ⟨first, a, rest, hturn, hpure, rfl⟩
    obtain ⟨rfl, rfl⟩ := yields_pure.mp hpure
    exact ⟨a, by simpa using hturn, rfl⟩
  · rintro ⟨a, hturn, rfl⟩
    exact ⟨moments, a, [], hturn, yields_pure.mpr ⟨rfl, rfl⟩, by simp⟩

end Turn

end GatewayClient.Connection
