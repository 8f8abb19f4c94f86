import GatewayClient.Json.Quoted
/-!
# Close reasons

The gateway closes a connection with a JSON text that says why, and whether the client
should come back. A text that is not such a reason never makes the client reconnect.
-/

namespace GatewayClient

structure CloseReason where
  reason : String
  reconnect : Bool
  deriving DecidableEq, Repr

namespace CloseReason

/-- The reason assumed where the text gives none. -/
def unknown : CloseReason := ⟨"unable to determine reason from payload", false⟩

/-- The members of an object by the text of their names. -/
def namedMembers? (members : List (List Json.Symbol × Json)) : Option (List (String × Json)) :=
  members.mapM fun (name, value) => do some (String.ofList (← Json.text? name), value)

/-- An object with exactly one member of each name, and others at will, or the two
values in an array. -/
def ofJson? : Json → Option CloseReason
  | .object members => do
      let named ← namedMembers? members
      match named.filter (·.1 = "reason"), named.filter (·.1 = "reconnect") with
      | [(_, .string symbols)], [(_, .bool reconnect)] =>
        some ⟨String.ofList (← Json.text? symbols), reconnect⟩
      | _, _ => none
  | .array [.string symbols, .bool reconnect] => do
      some ⟨String.ofList (← Json.text? symbols), reconnect⟩
  | _ => none

def parse? (text : String) : Option CloseReason := do ofJson? (← Json.parse? text.toList)

/-- The reason that a close text gives, taken as final if it gives none. -/
def ofCloseText (text : String) : CloseReason := (parse? text).getD unknown

def toCloseText (reason : CloseReason) : String :=
  String.ofList ("\x7b\"reason\":".toList ++ Json.quote reason.reason.toList
    ++ ",\"reconnect\":".toList ++ (toString reason.reconnect).toList ++ "\x7d".toList)

end CloseReason

end GatewayClient
