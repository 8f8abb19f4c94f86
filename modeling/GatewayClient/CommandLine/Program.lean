import GatewayClient.Bootstrap
import GatewayClient.CommandLine.Arguments
import GatewayClient.Settings.File
import GatewayClient.Token.File
import GatewayClient.Token.Memory
/-!
# The program

What the subcommands do, up to the point where a session needs a network. What they print
is a list of lines; a line of the log has named fields.
-/

namespace GatewayClient.CommandLine

/-! ## Output -/

inductive Severity where
  | info
  | warning
  deriving DecidableEq, Repr

def Severity.name : Severity → String
  | info => "INFO"
  | warning => "WARN"

inductive Line where
  | text (text : String)
  | log (severity : Severity) (target : String) (message : String)
      (fields : List (String × String))
  deriving DecidableEq, Repr

/-- Why the program failed, and what caused that. -/
structure Failure where
  message : String
  cause : Option String := none
  deriving DecidableEq, Repr

def Failure.report (failure : Failure) : String :=
  "Error: " ++ failure.message ++ match failure.cause with
    | some cause => "\n\nCaused by:\n    " ++ cause
    | none => ""

def Failure.ofFile (error : FileError) : Failure :=
  { message := "io error: " ++ error.message, cause := some error.message }

def Failure.ofSettings (error : Settings.Error) : Failure := { message := error.message }

/-- What the program runs on. -/
structure Host (m : Type → Type) (φ : Type) where
  files : FileSystem m φ
  environment : String → Option String
  print : Line → m Unit

/-! ## Tokens -/

/-- Where a user's configuration is kept. A relative path does not count. -/
def configDirectory? (environment : String → Option String) : Option Path :=
  match (environment "XDG_CONFIG_HOME").map Path.mk with
  | some path => if path.isAbsolute then some path else home?
  | none => home?
where
  home? := (environment "HOME").bind fun home =>
    if home = "" then none else some (Path.child ⟨home⟩ ".config")

variable {m : Type → Type} [Monad m] {φ : Type}

def Host.tokenFile (host : Host m φ) : Option Path → ExceptT Failure m Token.File
  | some path => return ⟨path⟩
  | none =>
    match configDirectory? host.environment with
    | some directory => return ⟨(directory.child "spherical").child "token"⟩
    | none => throw { message := "token store error: no configuration directory" }

/-- A printed line of text. -/
def Host.say (host : Host m φ) (text : String) : ExceptT Failure m Unit :=
  ExceptT.lift (host.print (.text text))

def Host.setToken (host : Host m φ) (path : Option Path) (token : String) :
    ExceptT Failure m Unit := do
  let file ← host.tokenFile path
  if trim token = "" then throw { message := "token cannot be empty" }
  (file.set host.files token).adapt .ofFile
  host.say ("Token stored in " ++ file.path.text)

def Host.clearToken (host : Host m φ) (path : Option Path) : ExceptT Failure m Unit := do
  let file ← host.tokenFile path
  (file.remove host.files).adapt .ofFile
  host.say ("Token removed from " ++ file.path.text)

/-- Only the start of a token is shown. -/
def Host.showToken (host : Host m φ) (path : Option Path) : ExceptT Failure m Unit := do
  let file ← host.tokenFile path
  match ← ExceptT.lift (file.get host.files) with
  | some token =>
    let start := String.ofList (token.toList.take 4)
    host.say (file.path.text ++ ": " ++ start ++ "... (" ++ toString token.utf8ByteSize ++ " chars)")
  | none => host.say (file.path.text ++ ": no token stored")

/-! ## Settings -/

variable [Idna]

/-- Writes a file of settings to start with. -/
def Host.initConfig (host : Host m φ) (output : Path) (url : String) :
    ExceptT Failure m Unit := do
  let settings : Settings := { baseUrl := url }
  ExceptT.adapt Failure.ofSettings (liftM settings.validate)
  match output.parent? with
  | some parent =>
    if parent.text ≠ "" then
      (host.files.ensureDirectories parent).adapt fun e => { message := e.message }
  | none => pure ()
  let text ← ExceptT.adapt Failure.ofSettings (liftM settings.render)
  (host.files.writeText output 0o666 text).adapt fun e =>
    { message := "writing " ++ output.text, cause := some e.message }
  host.say ("Config written to " ++ output.text)

/-- The settings in a file count more than an address on the command line. -/
def Host.settings (host : Host m φ) : Option Path → Option String → ExceptT Failure m Settings
  | some path, _ =>
    (Settings.load host.files path).adapt fun e =>
      { message := "loading " ++ path.text, cause := some e.message }
  | none, some url => do
    let settings : Settings := { baseUrl := url }
    ExceptT.adapt Failure.ofSettings (liftM settings.validate)
    return settings
  | none, none => throw { message := "either --config or --url is required" }

/-! ## Sessions -/

/-- A session token that was given, or a file that keeps one. -/
inductive TokenSource where
  | given (memory : Token.Memory)
  | kept (file : Token.File)
  deriving DecidableEq, Repr

def TokenSource.get (source : TokenSource) (host : Host m φ) : m (Option String) :=
  match source with
  | given memory => return memory.get
  | kept file => file.get host.files

/-- A session that is to be held. -/
structure Plan where
  settings : Settings
  endpoint : Endpoint
  tokens : TokenSource
  /-- What the session is opened for. -/
  path : String

def Plan.connection (plan : Plan) : Connection Ticket :=
  { policy := plan.settings.retryPolicy, watchdog := plan.settings.watchdog }

/-- The program's name in the log. -/
def target : String := "spherical"

/-- What is logged of a view, and of the phase that the connection is in. -/
def viewLine (phase : Connection.Phase) : View → Line
  | .redirectToLogin location =>
    .log .warning target "session rejected, log in and store a token with `spherical token set`"
      [("location", location)]
  | .loading => .log .info target "waiting for gateway session" [("state", phase.name)]
  | .connected => .log .info target "connected to gateway" []

/-- The session to be held. Without a token there is none: the user has to log in. -/
def Host.connect (host : Host m φ) (config : Option Path) (url token : Option String)
    (path : String) : ExceptT Failure m (Option Plan) := do
  let settings ← host.settings config url
  let endpoint ← ExceptT.adapt Failure.ofSettings (liftM settings.endpoint)
  ExceptT.lift (host.print (.log .info target "starting spherical client"
    [("url", toString endpoint)]))
  let tokens ← match token with
    | some token => pure (.given ⟨some token⟩)
    | none => TokenSource.kept <$> host.tokenFile (settings.tokenPath.map Path.mk)
  match ← ExceptT.lift (tokens.get host) with
  | some _ => return some { settings, endpoint, tokens, path }
  | none =>
    let b := Bootstrap.withoutToken path
    ExceptT.lift (host.print (.log .info "spherical_client::bootstrap"
      "no session token, redirecting to login" [("location", b.location)]))
    ExceptT.lift (host.print (viewLine .closed b.view))
    return none

/-- Does what is asked for, except for holding a session. -/
def Host.run (host : Host m φ) : Action → ExceptT Failure m (Option Plan)
  | .connect config url token path => host.connect config url token path
  | .setToken file token => do host.setToken file token; return none
  | .clearToken file => do host.clearToken file; return none
  | .showToken file => do host.showToken file; return none
  | .initConfig output url => do host.initConfig output url; return none

end GatewayClient.CommandLine
