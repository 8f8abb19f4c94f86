import GatewayClient.CommandLine.Program
import GatewayClient.Json.Quoted
/-!
# Log lines

A line of the log as text: for people, or as a JSON object. Printed text is the same in
both.
-/

namespace GatewayClient.CommandLine

def quote (text : String) : String := String.ofList (Json.quote text.toList)

/-- The members of an object whose values are written already. -/
def jsonObject (members : List (String × String)) : String :=
  let written := members.map fun (name, value) => quote name ++ ":" ++ value
  "\x7b" ++ ",".intercalate written ++ "\x7d"

def Line.toJson (time : String) : Line → String
  | .text content => content
  | .log severity target message fields =>
    let fields := ("message", message) :: fields
    jsonObject [("timestamp", quote time), ("level", quote severity.name),
      ("fields", jsonObject (fields.map fun (name, value) => (name, quote value))),
      ("target", quote target)]

def Line.toPlain (time : String) : Line → String
  | .text content => content
  | .log severity target message fields =>
    let fields := fields.map fun (name, value) => " " ++ name ++ "=" ++ value
    time ++ "  " ++ severity.name ++ " " ++ target ++ ": " ++ message ++ String.join fields

end GatewayClient.CommandLine
