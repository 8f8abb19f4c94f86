import GatewayClient.Address.Basic
/-!
# Endpoints

The address of a gateway: a WebSocket address at a fixed path, on the host of a base
address. A secure base gives a secure endpoint.
-/

namespace GatewayClient

structure Endpoint where
  /-- Whether the connection is encrypted. -/
  secure : Bool
  username : List Char
  password : Option (List Char)
  host : Host
  port : Option Nat
  deriving DecidableEq, Repr

namespace Endpoint

inductive Problem where
  | malformed (error : AddressError)
  | noHost
  | unsupportedScheme (scheme : List Char)
  deriving DecidableEq, Repr

/-- Why a base address gives no endpoint. -/
structure Error where
  base : String
  problem : Problem
  deriving DecidableEq, Repr

def Problem.message : Problem → String
  | .malformed error => error.message
  | .noHost => "missing host"
  | .unsupportedScheme scheme => "unsupported scheme '" ++ String.ofList scheme ++ "'"

def Error.message (error : Error) : String :=
  "invalid gateway endpoint: " ++ error.base ++ ": " ++ error.problem.message

/-- Whether a scheme is secure, if it can lead to a gateway. -/
def secure? (scheme : List Char) : Option Bool :=
  [("http", false), ("https", true), ("ws", false), ("wss", true)].lookup (String.ofList scheme)

def ofAddress (address : Address) : Except Problem Endpoint :=
  match address.host, secure? address.scheme with
  | none, _ => .error .noHost
  | some _, none => .error (.unsupportedScheme address.scheme)
  | some host, some secure =>
    .ok { secure, username := address.username, password := address.password, host,
          port := address.port }

/-- The endpoint of the gateway that a base address leads to. -/
def ofBase [Idna] (base : String) : Except Error Endpoint :=
  let result := do ofAddress (← (Address.parse base.toList).mapError Problem.malformed)
  result.mapError fun problem => { base, problem }

def scheme (endpoint : Endpoint) : List Char := (if endpoint.secure then "wss" else "ws").toList

/-- The user before an at sign, if there is one. -/
def renderUser (username : List Char) (password : Option (List Char)) : List Char :=
  match username, password with
  | [], none => []
  | username, none => username ++ ['@']
  | username, some password => username ++ ':' :: password ++ ['@']

def renderPort : Option Nat → List Char
  | none => []
  | some port => ':' :: Nat.toDigits 10 port

def path : List Char := "/api/v1/gateway".toList

def render (endpoint : Endpoint) : List Char :=
  endpoint.scheme ++ "://".toList ++ renderUser endpoint.username endpoint.password
    ++ endpoint.host.render ++ renderPort endpoint.port ++ path

instance : ToString Endpoint where
  toString endpoint := String.ofList endpoint.render

end Endpoint

end GatewayClient
