import GatewayClient.Files.Path
/-!
# Arguments

What a command line asks for. The program has levels: a subcommand starts a new one, with
options of its own. An option takes a value from the next argument or after an equals
sign; an argument that starts with a dash is no value. Two dashes end the options. An
option may be given once at every level, and the innermost level counts.
-/

namespace GatewayClient.CommandLine

/-! ## Levels -/

inductive Level where
  | program
  | connect
  | token
  | setToken
  | clearToken
  | showToken
  | initConfig
  deriving DecidableEq, Repr

inductive Form where
  | help
  | version
  | flag
  | text
  /-- A path may not be empty. -/
  | path
  deriving DecidableEq, Repr

structure Switch where
  name : String
  short : Option Char := none
  form : Form
  /-- The environment variable that stands in for the option. -/
  fallback : Option String := none
  deriving DecidableEq, Repr

namespace Level

def subcommands : Level → List (String × Level)
  | program => [("connect", connect), ("token", token), ("init-config", initConfig)]
  | token => [("set", setToken), ("clear", clearToken), ("show", showToken)]
  | _ => []

/-- The number of arguments that are not options. All of them are needed. -/
def arity : Level → Nat
  | setToken => 1
  | _ => 0

def help : Switch := { name := "help", short := some 'h', form := .help }

def jsonLogs : Switch := { name := "json-logs", form := .flag }

def file : Switch := { name := "file", form := .path }

def switches : Level → List Switch
  | program => [help, { name := "version", short := some 'V', form := .version }, jsonLogs]
  | connect =>
    [help, jsonLogs, { name := "config", short := some 'c', form := .path },
      { name := "url", form := .text, fallback := some "SPHERICAL_URL" },
      { name := "token", form := .text, fallback := some "SPHERICAL_TOKEN" },
      { name := "path", form := .text }]
  | initConfig =>
    [help, jsonLogs, { name := "output", short := some 'o', form := .path },
      { name := "url", form := .text }]
  | token | setToken | clearToken | showToken => [help, jsonLogs, file]

end Level

/-! ## Scanning -/

/-- Why a command line leads to no action. -/
inductive Halt where
  | usage
  | help
  | version
  deriving DecidableEq, Repr

/-- What was given at one level so far. -/
structure Given where
  level : Level
  values : List (String × String) := []
  arguments : List String := []
  /-- The last option, and its value if that has been seen. -/
  pending : Option (Switch × Option String) := none
  /-- Whether the options have ended. -/
  ended : Bool := false
  deriving DecidableEq, Repr

namespace Given

/-- Keeps the value of an option. -/
def keep (g : Given) (switch : Switch) (value : String) : Except Halt Given :=
  if (g.values.lookup switch.name).isSome ∨ (switch.form = .path ∧ value = "") then .error .usage
  else .ok { g with values := (switch.name, value) :: g.values }

/-- Keeps the value of the last option. -/
def resolve (g : Given) : Except Halt Given :=
  match g.pending with
  | none => .ok g
  | some (switch, some value) => { g with pending := none }.keep switch value
  | some (_, none) => .error .usage

def awaitsValue (g : Given) : Bool :=
  match g.pending with
  | some (_, none) => true
  | _ => false

/-- Starts an option. The attached value is what follows in the same argument. -/
def start (g : Given) (switch : Switch) (attached : Option String) : Except Halt Given := do
  match switch.form, attached with
  | .help, none => let _ ← g.resolve; .error .help
  | .version, none => let _ ← g.resolve; .error .version
  | .flag, none => (← g.resolve).keep switch ""
  | .help, some _ | .version, some _ | .flag, some _ => .error .usage
  | .text, some value | .path, some value => (← g.resolve).keep switch value
  | .text, none | .path, none => return { ← g.resolve with pending := some (switch, none) }

/-- An option by its name, with a value after an equals sign. -/
def long (g : Given) (text : List Char) : Except Halt Given :=
  let name := text.takeWhile (· ≠ '=')
  let attached := match text.dropWhile (· ≠ '=') with
    | [] => none
    | _ :: value => some (String.ofList value)
  match g.level.switches.find? (·.name.toList = name) with
  | some switch => g.start switch attached
  | none => .error .usage

/-- Options by their letters. The first one that takes a value takes all that follows. -/
def short (g : Given) : List Char → Except Halt Given
  | [] => .ok g
  | letter :: rest =>
    match g.level.switches.find? (·.short = some letter) with
    | none => .error .usage
    | some switch =>
      match switch.form, rest with
      | .text, [] | .path, [] => g.start switch none
      | .text, '=' :: value | .path, '=' :: value => g.start switch (some (String.ofList value))
      | .text, value | .path, value => g.start switch (some (String.ofList value))
      | _, rest => do (← g.start switch none).short rest

/-- An argument that is no option. -/
def argument (g : Given) (text : String) : Except Halt Given := do
  if g.arguments.length < g.level.arity then
    let g ← g.resolve
    return { g with arguments := g.arguments ++ [text] }
  else .error .usage

/-- An argument before the options have ended that is no subcommand. -/
def item (g : Given) (text : String) : Except Halt Given :=
  match text.toList, g.pending with
  | ['-', '-'], _ => .ok { g with ended := true }
  | '-' :: '-' :: option, _ => g.long option
  | '-' :: letter :: letters, _ => g.short (letter :: letters)
  | _, some (switch, none) => .ok { g with pending := some (switch, some text) }
  | _, _ => g.argument text

end Given

/-- Whether these are the names of a level within a level. -/
def leads : Level → List String → Bool
  | _, [] => true
  | level, name :: names =>
    match level.subcommands.lookup name with
    | some inner => leads inner names
    | none => name = "help" ∧ level.subcommands ≠ [] ∧ names = []

/-- Reads arguments; the innermost level comes first. -/
def scan (outer : List Given) (g : Given) : List String → Except Halt (List Given)
  | [] => .ok (g :: outer)
  | text :: rest =>
    if g.ended then do scan outer (← g.argument text) rest
    else
      match if g.awaitsValue then none else g.level.subcommands.lookup text with
      | some level => scan (g :: outer) { level } rest
      | none =>
        if !g.awaitsValue ∧ text = "help" ∧ g.level.subcommands ≠ [] then
          .error (if leads g.level rest then .help else .usage)
        else do scan outer (← g.item text) rest

/-! ## Invocations -/

inductive Action where
  | connect (config : Option Path) (url token : Option String) (path : String)
  | setToken (file : Option Path) (token : String)
  | clearToken (file : Option Path)
  | showToken (file : Option Path)
  | initConfig (output : Path) (url : String)
  deriving DecidableEq, Repr

structure Invocation where
  jsonLogs : Bool
  action : Action
  deriving DecidableEq, Repr

/-- A level that is complete, with the options that the environment adds. -/
def Given.finish (environment : String → Option String) (g : Given) : Except Halt Given := do
  let g ← g.resolve
  if g.arguments.length < g.level.arity then .error .usage
  let added := g.level.switches.filterMap fun switch =>
    if (g.values.lookup switch.name).isSome then none
    else (switch.fallback.bind environment).map fun value => (switch.name, value)
  return { g with values := added ++ g.values }

/-- The innermost value of an option. -/
def innermost? (given : List Given) (name : String) : Option String :=
  given.findSome? fun g => g.values.lookup name

def action? (given : List Given) : Option Action :=
  let text? := innermost? given
  let path? (name : String) : Option Path := (text? name).map Path.mk
  match given with
  | [] => none
  | g :: _ =>
    match g.level, g.arguments with
    | .connect, _ =>
      some (.connect (path? "config") (text? "url") (text? "token") ((text? "path").getD "/"))
    | .setToken, [token] => some (.setToken (path? "file") token)
    | .clearToken, _ => some (.clearToken (path? "file"))
    | .showToken, _ => some (.showToken (path? "file"))
    | .initConfig, _ =>
      some (.initConfig ((path? "output").getD ⟨"spherical.toml"⟩)
        ((text? "url").getD "https://localhost:8080"))
    | _, _ => none

def parse (environment : String → Option String) (arguments : List String) :
    Except Halt Invocation := do
  let given ← (← scan [] { level := .program } arguments).mapM (Given.finish environment)
  match action? given with
  | some action => return { jsonLogs := (innermost? given "json-logs").isSome, action }
  | none => .error .usage

end GatewayClient.CommandLine
