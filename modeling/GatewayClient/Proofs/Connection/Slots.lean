import GatewayClient.Proofs.Connection.Reports
/-!
# Slots

A connection has three registries of handlers, and a disconnect handler is in two of them. What
an operation does to each of the three is the same but for the operations that it listens to.
-/

namespace GatewayClient.Connection

open Turn

variable {η : Type} {c c' : Connection η} {world : Surroundings} {operation : Operation η}
  {moments : List (Moment η)} {answer : Answer}

/-- One of the registries of a connection. -/
inductive Slot where
  | ready
  | noReconnect
  | reconnect

namespace Slot

def registry (c : Connection η) : Slot → Registry η
  | .ready => c.readyHandlers
  | .noReconnect => c.noReconnectHandlers
  | .reconnect => c.reconnectHandlers

/-- The handle in the registry that an answer gives out. -/
def handle? (answer : Answer) : Slot → Option Handle
  | .ready => answer.handle?
  | .noReconnect => answer.disconnectHandle?.map (·.noReconnect)
  | .reconnect => answer.disconnectHandle?.map (·.reconnect)

/-- The handler that an operation adds to the registry. -/
def adds? : Operation η → Slot → Option η
  | .addReady handler, .ready => some handler
  | .addDisconnect handler, .noReconnect | .addDisconnect handler, .reconnect => some handler
  | _, _ => none

/-- The handle that an operation removes from the registry. -/
def removes? : Operation η → Slot → Option Handle
  | .removeReady handle, .ready => some handle
  | .removeDisconnect handle, .noReconnect => some handle.noReconnect
  | .removeDisconnect handle, .reconnect => some handle.reconnect
  | _, _ => none

/-- What an operation does to a registry, with the handle that it gives out and the registry
then. -/
inductive Change (registry : Registry η) (operation : Operation η) (slot : Slot) :
    Option Handle → Registry η → Prop where
  | added {handler : η} (hadds : slot.adds? operation = some handler)
      (hremoves : slot.removes? operation = none) :
      Change registry operation slot (some ⟨registry.next⟩) (registry.register handler).2
  | removed {handle : Handle} (hadds : slot.adds? operation = none)
      (hremoves : slot.removes? operation = some handle) :
      Change registry operation slot none (registry.unregister handle)
  | kept (hadds : slot.adds? operation = none) (hremoves : slot.removes? operation = none) :
      Change registry operation slot none registry

theorem registry_eq_of_apply (hc : c.Coupled)
    (h : (c.apply world operation).Yields moments (answer, c')) (slot : Slot) :
    slot.registry c' = slot.registry (c.registering operation) := by
  obtain ⟨hready, hno, hyes⟩ := (apply_yields hc h).handlers_eq
  cases slot with
  | ready => exact hready
  | noReconnect => exact hno
  | reconnect => exact hyes

theorem change_of_apply (hc : c.Coupled)
    (h : (c.apply world operation).Yields moments (answer, c')) (slot : Slot) :
    Change (slot.registry c) operation slot (slot.handle? answer) (slot.registry c') := by
  rw [registry_eq_of_apply hc h]
  cases operation with
  | addReady handler | addDisconnect handler =>
      obtain ⟨-, hresult⟩ := yields_pure.mp h
      obtain ⟨rfl, -⟩ := Prod.mk.inj hresult
      cases slot <;> first | exact .added rfl rfl | exact .kept rfl rfl
  | removeReady handle | removeDisconnect handle =>
      obtain ⟨-, hresult⟩ := yields_pure.mp h
      obtain ⟨rfl, -⟩ := Prod.mk.inj hresult
      cases slot <;> first | exact .removed rfl rfl | exact .kept rfl rfl
  | askInterval =>
      obtain ⟨-, hresult⟩ := yields_pure.mp h
      obtain ⟨rfl, -⟩ := Prod.mk.inj hresult
      cases slot <;> exact .kept rfl rfl
  | _ =>
      obtain ⟨_, -, hresult⟩ := yields_bind_pure.mp h
      obtain ⟨rfl, -⟩ := Prod.mk.inj hresult
      cases slot <;> exact .kept rfl rfl

theorem Change.owns {registry registry' : Registry η} {slot : Slot} {given : Option Handle}
    {handle : Handle} {handler : η} (h : Change registry operation slot given registry')
    (howns : registry.Owns handle handler) : registry'.Owns handle handler := by
  cases h with
  | added => exact howns.register _
  | removed => exact howns.unregister _
  | kept => exact howns

end Slot

end GatewayClient.Connection
