import GatewayClient.Digest.Sha1
import GatewayClient.Endpoint
import GatewayClient.Text.Base64
import GatewayClient.Text.Split
import GatewayClient.Text.Trim
import GatewayClient.Text.Utf8
/-!
# Opening handshakes

A WebSocket starts as a request for a page. The server answers that it switches
protocols, and proves with a digest of the client's key that it knows to which.
-/

namespace GatewayClient.Handshake

/-- The key of a request, from random bytes. -/
def key (random : List UInt8) : String := Base64.encode random

/-- What a server answers to a key. -/
def answer (key : String) : String :=
  Base64.encode (Sha1.digest (Utf8.encode (key ++ "258EAFA5-E914-47DA-95CA-C5AB0DC85B11")))

def request (endpoint : Endpoint) (key : String) : String :=
  let host := endpoint.host.render ++ Endpoint.renderPort endpoint.port
  "GET " ++ String.ofList Endpoint.path ++ " HTTP/1.1\r\nHost: " ++ String.ofList host
    ++ "\r\nConnection: Upgrade\r\nUpgrade: websocket\r\nSec-WebSocket-Version: 13"
    ++ "\r\nSec-WebSocket-Key: " ++ key ++ "\r\n\r\n"

/-! ## Responses -/

/-- The first line, without its line break. -/
def readLine? : List UInt8 → Option (List UInt8 × List UInt8)
  | [] => none
  | 0x0a :: rest => some ([], rest)
  | 0x0d :: 0x0a :: rest => some ([], rest)
  | b :: rest => (readLine? rest).map fun (line, rest) => (b :: line, rest)

/-- The lines before the first empty one, and what follows that. The fuel bounds the
lines. -/
def readHead? : (fuel : Nat) → List UInt8 → Option (List (List UInt8) × List UInt8)
  | 0, _ => none
  | fuel + 1, input => do
    let (line, rest) ← readLine? input
    if line = [] then some ([], rest)
    else
      let (lines, rest) ← readHead? fuel rest
      some (line :: lines, rest)

/-- A header field, with its name in small letters. -/
def field? (line : List Char) : Option (String × String) :=
  match splitAt ':' line with
  | name :: part :: parts =>
    some ((String.ofList name).toLower, trim (String.ofList ([':'].intercalate (part :: parts))))
  | _ => none

/-- Why the lines of a response do not open a WebSocket, if they do not. -/
def complaint? (key : String) (lines : List String) : Option String :=
  match lines with
  | [] => some "HTTP format error: no status line"
  | status :: lines =>
    let fields := lines.filterMap fun line => field? line.toList
    match splitAt ' ' status.toList with
    | version :: code :: _ =>
      if version ≠ "HTTP/1.1".toList then some "WebSocket protocol error: HTTP version must be 1.1"
      else if code ≠ "101".toList then some ("HTTP error: " ++ String.ofList code)
      else if ((fields.lookup "upgrade").map String.toLower) ≠ some "websocket" then
        some "WebSocket protocol error: No \"Upgrade: websocket\" header in server reply"
      else if ((fields.lookup "connection").map String.toLower) ≠ some "upgrade" then
        some "WebSocket protocol error: No \"Connection: upgrade\" header in server reply"
      else if fields.lookup "sec-websocket-accept" ≠ some (answer key) then
        some "WebSocket protocol error: Key mismatch in \"Sec-WebSocket-Accept\" header"
      else none
    | _ => some "HTTP format error: invalid status line"

/-- Reads a response off the front of what has come in: nothing if it is not whole, why it
is refused, or what follows it. -/
def read (key : String) (input : List UInt8) : Option (Except String (List UInt8)) := do
  let (lines, rest) ← readHead? input.length input
  match lines.mapM Utf8.decode? with
  | none => some (.error "HTTP format error: invalid header value")
  | some lines =>
    match complaint? key lines with
    | some complaint => some (.error complaint)
    | none => some (.ok rest)

end GatewayClient.Handshake
