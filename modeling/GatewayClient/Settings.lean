import GatewayClient.Endpoint
import GatewayClient.RetryPolicy
import GatewayClient.Watchdog
import GatewayClient.Toml.Reader
import GatewayClient.Toml.Writer
/-!
# Settings

What a client is told about its node: where it is, where the session token is kept, and
how to retry and watch. Settings are kept in TOML; all but the base address have
defaults.
-/

namespace GatewayClient

structure RetrySettings where
  /-- Delays are in milliseconds, in 64 bits. -/
  initialDelay : Nat := 250
  maxDelay : Nat := 30000
  multiplier : Binary64 := ⟨false, 0x400 <<< 52⟩
  maxAttempts : Option Nat := none
  deriving DecidableEq, Repr

structure Settings where
  baseUrl : String
  /-- The file of the session token, if it is not the user's default one. -/
  tokenPath : Option String := none
  retry : RetrySettings := {}
  /-- The heartbeats that may be missed, in 32 bits; zero turns the watchdog off. -/
  timeoutMultiplier : Nat := 3
  deriving DecidableEq, Repr

namespace Settings

/-- Why settings are refused. -/
inductive Error where
  | invalidToml
  | unwritable
  | emptyBaseUrl
  | invalidBaseUrl (error : Endpoint.Error)
  | zeroInitialDelay
  | maxDelayTooSmall
  | multiplierTooSmall
  | zeroMaxAttempts
  /-- The file could not be read. -/
  | unreadable (path reason : String)
  deriving DecidableEq, Repr

def Error.message (error : Error) : String :=
  "configuration error: " ++ match error with
    | .invalidToml => "invalid TOML"
    | .unwritable => "failed to serialize config"
    | .emptyBaseUrl => "base_url cannot be empty"
    | .invalidBaseUrl e => "invalid base_url: " ++ e.message
    | .zeroInitialDelay => "reconnect.initial_delay_ms must be greater than 0"
    | .maxDelayTooSmall =>
      "reconnect.max_delay_ms cannot be less than reconnect.initial_delay_ms"
    | .multiplierTooSmall => "reconnect.backoff_multiplier must be at least 1.0"
    | .zeroMaxAttempts => "reconnect.max_attempts must be greater than 0 when set"
    | .unreadable path reason => "failed to read config file '" ++ path ++ "': " ++ reason

/-! ## Meaning -/

def endpoint [Idna] (s : Settings) : Except Error Endpoint :=
  (Endpoint.ofBase s.baseUrl).mapError .invalidBaseUrl

def retryPolicy (s : Settings) : RetryPolicy where
  initialDelay := .ofMilliseconds s.retry.initialDelay
  maxDelay := .ofMilliseconds s.retry.maxDelay
  multiplier := s.retry.multiplier
  maxAttempts := s.retry.maxAttempts

def watchdog (s : Settings) : Watchdog := { multiplier := s.timeoutMultiplier }

/-- The first thing that is wrong with settings is the error. -/
def validate [Idna] (s : Settings) : Except Error Unit := do
  if s.baseUrl = "" then .error .emptyBaseUrl
  let _ ← s.endpoint
  if s.retry.initialDelay = 0 then .error .zeroInitialDelay
  if s.retry.maxDelay < s.retry.initialDelay then .error .maxDelayTooSmall
  if !s.retry.multiplier.isFinite ∨ s.retry.multiplier.ltPositive (0x3ff <<< 52) then
    .error .multiplierTooSmall
  if s.retry.maxAttempts = some 0 then .error .zeroMaxAttempts

/-! ## Reading -/

open Toml (Value Entries Key)

/-- A natural number of so many bits. -/
def nat? (bits : Nat) : Value → Option Nat
  | .integer (.ofNat n) => if n < 1 <<< bits then some n else none
  | _ => none

/-- An integer may stand for a float. -/
def float? : Value → Option Binary64
  | .float x => some x
  | .integer i => some (.ofRatio (i < 0) i.natAbs 1)
  | _ => none

def string? : Value → Option String
  | .string text => some (String.ofList text)
  | _ => none

/-- The fields of a section, by their names or in order. A date is a section without
fields. -/
def fields? (names : List String) : Value → Option (List (Option Value))
  | .table _ entries => some (names.map fun name => entries.lookup name.toList)
  | .array items => some (names.mapIdx fun i _ => items[i]?)
  | .tables elements => some (names.mapIdx fun i _ => elements[i]?.map (.table .header))
  | .datetime _ => some (names.map fun _ => none)
  | _ => none

/-- A field that has a default. -/
def orDefault? {α : Type} (read : Value → Option α) (default : α) : Option Value → Option α
  | none => some default
  | some value => read value

def retryOfToml? (value : Value) : Option RetrySettings := do
  let base : RetrySettings := {}
  match ← fields? ["initial_delay_ms", "max_delay_ms", "backoff_multiplier", "max_attempts"]
      value with
  | [initialDelay, maxDelay, multiplier, maxAttempts] =>
    some { initialDelay := ← orDefault? (nat? 64) base.initialDelay initialDelay
           maxDelay := ← orDefault? (nat? 64) base.maxDelay maxDelay
           multiplier := ← orDefault? float? base.multiplier multiplier
           maxAttempts := ← orDefault? (fun v => (nat? 32 v).map some) none maxAttempts }
  | _ => none

def timeoutOfToml? (value : Value) : Option Nat := do
  match ← fields? ["timeout_multiplier"] value with
  | [multiplier] => orDefault? (nat? 32) 3 multiplier
  | _ => none

/-- The settings in a table. Keys that mean nothing are ignored. -/
def ofToml? (entries : Entries) : Option Settings := do
  let get (name : String) := entries.lookup name.toList
  some { baseUrl := ← string? (← get "base_url")
         tokenPath := ← orDefault? (fun v => (string? v).map some) none (get "token_path")
         retry := ← orDefault? retryOfToml? {} (get "reconnect")
         timeoutMultiplier := ← orDefault? timeoutOfToml? 3 (get "heartbeat") }

/-- Reads settings, and checks them. -/
def parse [Idna] (text : String) : Except Error Settings := do
  match (Toml.parse? text.toList).bind ofToml? with
  | none => .error .invalidToml
  | some settings =>
    settings.validate
    .ok settings

/-! ## Writing -/

open Toml (renderEntry renderHeader renderString renderFloat renderNat?)

/-- The lines of settings. Fails on numbers that TOML has no integers for. -/
def toToml? (s : Settings) : Option (List Char) := do
  let tokenPath := match s.tokenPath with
    | none => []
    | some path => renderEntry "token_path" (renderString path.toList)
  let maxAttempts ← match s.retry.maxAttempts with
    | none => some []
    | some n => (renderNat? n).map (renderEntry "max_attempts")
  some (renderEntry "base_url" (renderString s.baseUrl.toList) ++ tokenPath
    ++ '\n' :: renderHeader "reconnect"
    ++ renderEntry "initial_delay_ms" (← renderNat? s.retry.initialDelay)
    ++ renderEntry "max_delay_ms" (← renderNat? s.retry.maxDelay)
    ++ renderEntry "backoff_multiplier" (renderFloat s.retry.multiplier)
    ++ maxAttempts
    ++ '\n' :: renderHeader "heartbeat"
    ++ renderEntry "timeout_multiplier" (← renderNat? s.timeoutMultiplier))

def render (s : Settings) : Except Error String :=
  match s.toToml? with
  | some text => .ok (String.ofList text)
  | none => .error .unwritable

/-- Equality in which the multipliers count as numbers. -/
def equals (a b : Settings) : Bool :=
  a.retry.multiplier.equals b.retry.multiplier &&
    { a with retry := { a.retry with multiplier := b.retry.multiplier } } == b

end Settings

end GatewayClient
