import GatewayClient.CommandLine.Live
import GatewayClient.CommandLine.Log
import Std.Async.DNS
import Std.Async.Signal
import Std.Async.TCP
import Std.Async.Timer
import Std.Sync.Channel
import Std.Time
/-!
# The command line

The program on real files and a real network. What it does is decided elsewhere; here the
decisions are carried out.
-/

namespace GatewayClient.CommandLine

open Std.Async (Async)
open Std.Async.TCP.Socket (Client)

/-! ## Files -/

/-- The number of an error of the system, and what it says. Some come with the sign
changed. -/
def systemError? (error : IO.Error) : Option (UInt32 × String) :=
  match error with
  | .alreadyExists _ code text | .invalidArgument _ code text | .permissionDenied _ code text
  | .resourceExhausted _ code text | .inappropriateType _ code text | .noSuchThing _ code text
  | .interrupted _ code text | .noFileOrDirectory _ code text | .otherError code text
  | .resourceBusy code text | .resourceVanished code text | .unsupportedOperation code text
  | .hardwareFault code text | .unsatisfiedConstraints code text | .illegalOperation code text
  | .protocolError code text | .timeExpired code text => some (min code (-code), text)
  | .unexpectedEof | .userError _ => none

def readError (error : IO.Error) : FileError :=
  match systemError? error with
  | some (2, _) => .notFound
  | some (17, _) => .alreadyExists
  | some (20, _) => .notDirectory
  | some (21, _) => .isDirectory
  | some (36, _) => .nameTooLong
  | some (code, text) => .other (text.capitalize ++ " (os error " ++ toString code ++ ")")
  | none => .other (toString error)

/-- A request about a path. -/
def request {α : Type} (path : Path) (act : IO α) : ExceptT FileError IO α := do
  if path.text.toList.contains '\x00' then throw .nulInPath
  match ← ExceptT.lift act.toBaseIO with
  | .ok a => return a
  | .error e => throw (readError e)

/-- Nothing can be made at a dot, and only in a directory that is because it is there. -/
def isDirectory (path : Path) : IO Bool := do
  match ← (request path (IO.FS.createDir (path.text ++ "/."))).run with
  | .error .alreadyExists => return true
  | _ => return false

/-- The modes that are asked for in permission bits. -/
def rights (mode : Nat) : IO.FileRight :=
  let access (bits : Nat) : IO.AccessRight :=
    { read := bits / 4 % 2 = 1, write := bits / 2 % 2 = 1, execution := bits % 2 = 1 }
  { user := access (mode / 64), group := access (mode / 8), other := access mode }

/-- The files of the system. A file that is open for writing is known with its path. -/
def realFiles : FileSystem IO (Path × IO.FS.Handle) where
  read path := do return (← request path (IO.FS.readBinFile path.text)).toList
  makeDirectory path := request path (IO.FS.createDir path.text)
  isDirectory path := isDirectory path
  create path _ := do return (path, ← request path (IO.FS.Handle.mk path.text .write))
  setMode file mode := request file.1 (IO.setAccessRights file.1.text (rights mode))
  write file bytes := request file.1 do
    file.2.write ⟨bytes.toArray⟩
    file.2.flush
  remove path := do
    if ← ExceptT.lift (isDirectory path) then throw .isDirectory
    request path (IO.FS.removeFile path.text)

/-! ## Output -/

def timestamp : IO String := do
  let now ← Std.Time.Timestamp.now
  return (Std.Time.DateTime.ofTimestampWithZone now .UTC).format "uuuu-MM-dd'T'HH:mm:ss.SSSSSS'Z'"

def printLine (json : Bool) (line : Line) : IO Unit := do
  let time ← timestamp
  IO.println (if json then line.toJson time else line.toPlain time)
  (← IO.getStdout).flush

/-- The environment is read once, when the program starts. -/
def realHost (environment : List (String × String)) (json : Bool) :
    Host IO (Path × IO.FS.Handle) where
  files := realFiles
  environment name := environment.lookup name
  print := printLine json

def readEnvironment : IO (List (String × String)) := do
  let names := ["HOME", "XDG_CONFIG_HOME", "SPHERICAL_URL", "SPHERICAL_TOKEN"]
  names.filterMapM fun name => do
    return (← IO.getEnv name).map fun value => (name, value)

/-! ## Network -/

/-- What a session is held with. -/
structure Wiring where
  endpoint : Endpoint
  news : Std.Channel News
  /-- The sockets that are open, by their generations. -/
  clients : IO.Ref (List (Nat × Client))
  /-- The time at which an alarm goes off next. -/
  alarm : IO.Ref (Option Instant)

instance : Inhabited News := ⟨.timePassed⟩

namespace Wiring

def tell (w : Wiring) (news : News) : BaseIO Unit := do
  let _ ← w.news.send news

def client? (w : Wiring) (generation : Nat) : IO (Option Client) := do
  return (← w.clients.get).lookup generation

/-- The name of the host, without the brackets of an address. -/
def hostName (endpoint : Endpoint) : String :=
  String.ofList (endpoint.host.render.filter fun c => c != '[' && c != ']')

def port (endpoint : Endpoint) : Nat := endpoint.port.getD (if endpoint.secure then 443 else 80)

def reach (endpoint : Endpoint) : Async Client := do
  if endpoint.secure then throw (.userError "TLS error: not supported")
  let port := port endpoint
  let addresses ← Std.Async.DNS.getAddrInfo (hostName endpoint) (toString port)
  match addresses[0]? with
  | none => throw (.userError "no address found")
  | some address =>
    let client ← Client.mk
    client.connect (match address with
      | .v4 addr => .v4 ⟨addr, port.toUInt16⟩
      | .v6 addr => .v6 ⟨addr, port.toUInt16⟩)
    return client

/-- Reports what comes in until nothing more does. -/
partial def listen (w : Wiring) (generation : Nat) (client : Client) : Async Unit := do
  match ← client.recv? 65536 with
  | some bytes =>
    w.tell (.received generation bytes.toList)
    w.listen generation client
  | none =>
    w.tell (.failed generation
      "WebSocket protocol error: Connection reset without closing handshake")

def dial (w : Wiring) (generation : Nat) : Async Unit := do
  try
    let client ← reach w.endpoint
    let key := Handshake.key (← IO.getRandomBytes 16).toList
    client.send (Handshake.request w.endpoint key).toUTF8
    w.clients.modify fun clients => (generation, client) :: clients
    w.tell (.dialled generation key)
    w.listen generation client
  catch e => w.tell (.failed generation ("IO error: " ++ toString e))

def carryOut (w : Wiring) (json : Bool) : Deed → IO Unit
  | .dial generation => (Std.Async.background (w.dial generation) : Async Unit).block
  | .write generation message => do
    if let some client ← w.client? generation then
      let mask := (← IO.getRandomBytes 4).toList
      try (client.send ⟨(Wire.writeMessage mask message).toArray⟩).block
      catch e => w.tell (.failed generation ("IO error: " ++ toString e))
  | .hangUp generation => do
    if let some client ← w.client? generation then
      w.clients.modify (·.filter (·.1 != generation))
      try client.shutdown.block catch _ => pure ()
  | .print line => printLine json line

/-- Sees to it that the session hears of a time when it has come. -/
def setAlarm (w : Wiring) (deadline : Option Instant) : IO Unit := do
  if (← w.alarm.get) != deadline then
    w.alarm.set deadline
    if let some deadline := deadline then
      let wait := (deadline - (← IO.monoNanosNow) + 999999) / 1000000
      let ring : Async Unit := do
        Std.Async.sleep (.ofNat wait)
        w.tell .timePassed
      (Std.Async.background ring : Async Unit).block

/-- Holds a session until it is over. -/
partial def hold (w : Wiring) (json : Bool) (token : IO (Option String)) (live : Live) :
    IO Unit := do
  live.deeds.forM (w.carryOut json)
  let live := { live with deeds := [] }
  if !live.isOver then
    w.setAlarm live.nextDeadline?
    let news ← w.news.sync.recv
    if news == .timePassed then w.alarm.set none
    w.hold json token (live.react (← IO.monoNanosNow) (← token) news)

end Wiring

def holdSession (host : Host IO (Path × IO.FS.Handle)) (json : Bool) (plan : Plan) :
    IO (Except Failure Unit) := do
  let wiring : Wiring :=
    { endpoint := plan.endpoint, news := ← Std.Channel.new, clients := ← IO.mkRef [],
      alarm := ← IO.mkRef none }
  let interruption ← (← Std.Async.Signal.Waiter.mk .sigint false).wait
  let _ ← IO.mapTask (fun _ => wiring.tell .interrupted) interruption
  let token := plan.tokens.get host
  match Live.start? plan (← IO.monoNanosNow) (← token) with
  | none => return .error { message := Gateway.stoppedMessage }
  | some live =>
    wiring.hold json token live
    return .ok ()

/-! ## The program -/

-- There are no tables of Unicode here.
attribute [local instance] Idna.ascii

def usage : String := "Usage: spherical [--json-logs] <connect|token|init-config> [OPTIONS]"

/-- Runs an invocation. The answer is the exit code. -/
def runInvocation (environment : List (String × String)) (invocation : Invocation) :
    IO UInt32 := do
  let host := realHost environment invocation.jsonLogs
  let result ← match ← (host.run invocation.action).run with
    | .ok none => pure (.ok ())
    | .ok (some plan) => holdSession host invocation.jsonLogs plan
    | .error failure => pure (.error failure)
  match result with
  | .ok () => return 0
  | .error failure =>
    IO.eprintln failure.report
    return 1

end GatewayClient.CommandLine

open GatewayClient.CommandLine in
/-- The program. -/
def main (arguments : List String) : IO UInt32 := do
  let environment ← readEnvironment
  match parse (environment.lookup ·) arguments with
  | .ok invocation => runInvocation environment invocation
  | .error .usage =>
    IO.eprintln usage
    return 2
  | .error .help =>
    IO.println usage
    return 0
  | .error .version =>
    IO.println "spherical 0.1.0"
    return 0
