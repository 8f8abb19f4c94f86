import GatewayClient.Address.Host
/-!
# Addresses

An address as far as it says whom to reach: its scheme, the user, the host and the port.
What follows is not kept, because a gateway is always at one place on its host.
-/

namespace GatewayClient

structure Address where
  scheme : List Char
  /-- The name and the password of the user, percent-encoded. -/
  username : List Char := []
  password : Option (List Char) := none
  host : Option Host
  /-- The port, if it is not the default of the scheme. -/
  port : Option Nat := none
  deriving DecidableEq, Repr

namespace Address

/-! ## Schemes -/

/-- How addresses of a scheme are read. -/
inductive SchemeKind where
  /-- A scheme of the network: slashes may be missing, and backslashes are slashes. -/
  | network
  | file
  | other
  deriving DecidableEq, Repr

def networkSchemes : List (String × Nat) :=
  [("http", 80), ("https", 443), ("ws", 80), ("wss", 443), ("ftp", 21)]

def defaultPort? (scheme : List Char) : Option Nat :=
  networkSchemes.lookup (String.ofList scheme)

def schemeKind (scheme : List Char) : SchemeKind :=
  if (defaultPort? scheme).isSome then .network
  else if scheme = "file".toList then .file
  else .other

def isSchemeChar (c : Char) : Bool := c.isAlphanum || c == '+' || c == '-' || c == '.'

/-- The scheme in lower case, and what follows its colon. -/
def splitScheme? (text : List Char) : Option (List Char × List Char) :=
  match text.takeWhile isSchemeChar, text.dropWhile isSchemeChar with
  | c :: name, ':' :: rest =>
    if c.isAlpha then some ((c :: name).map Char.toLower, rest) else none
  | _, _ => none

/-! ## Users -/

/-- Bytes of a user that are percent-encoded. -/
def isEscapedInUser (byte : UInt8) : Bool :=
  let c := Char.ofNat byte.toNat
  byte ≤ 0x20 || byte ≥ 0x7f ||
    ['"', '<', '>', '\x60', '#', '?', '\x7b', '\x7d', '/', ':', ';', '=', '@', '[', '\\', ']', '^',
      '|'].contains c

def escapeUser (text : List Char) : List Char :=
  (Utf8.encode (String.ofList text)).flatMap fun byte =>
    if isEscapedInUser byte then Percent.escape byte else [Char.ofNat byte.toNat]

/-- A name and, after the first colon, a password. An empty password is none. -/
def splitUser (text : List Char) : List Char × Option (List Char) :=
  match text.dropWhile (· ≠ ':') with
  | _ :: c :: rest => (escapeUser (text.takeWhile (· ≠ ':')), some (escapeUser (c :: rest)))
  | _ => (escapeUser (text.takeWhile (· ≠ ':')), none)

/-- Whether a character ends the part of an address that names user, host and port. -/
def endsAuthority (kind : SchemeKind) (c : Char) : Bool :=
  c == '/' || c == '?' || c == '#' || (kind != .other && c == '\\')

/-- What stands before and after the last at sign, if there is one. -/
def splitLastAt (text : List Char) : Option (List Char × List Char) :=
  match text.reverse.dropWhile (· ≠ '@') with
  | [] => none
  | _ :: before => some (before.reverse, (text.reverse.takeWhile (· ≠ '@')).reverse)

/-! ## Hosts and ports -/

/-- A host up to its port. Colons between brackets are part of it. -/
def splitHost : (bracketed : Bool) → List Char → List Char × List Char
  | _, [] => ([], [])
  | bracketed, c :: rest =>
    if c = ':' ∧ !bracketed then ([], c :: rest)
    else
      let bracketed := if c = '[' then true else if c = ']' then false else bracketed
      let (host, rest) := splitHost bracketed rest
      (c :: host, rest)

/-- A port after its colon. Without digits it is the default one. -/
def parsePort (scheme text : List Char) : Except AddressError (Option Nat) :=
  let digits := text.takeWhile Char.isDigit
  let port := (Digits.number? 10 digits).getD 0
  let next := (text.dropWhile Char.isDigit).head?
  if 65535 < port ∨ next.any (fun c => c ≠ '\\') then .error .invalidPort
  else if digits.isEmpty ∨ defaultPort? scheme = some port then .ok none
  else .ok (some port)

variable [Idna]

def parseHostAndPort (kind : SchemeKind) (scheme text : List Char) :
    Except AddressError (Option Host × Option Nat) := do
  let (host, rest) := splitHost false text
  if kind = .network ∧ host = [] then .error .emptyHost
  let host ← if kind = .network then Host.parse host else Host.parseOpaque host
  match rest with
  | [] => .ok (if host = .domain [] then none else some host, none)
  | _ :: port =>
    if host = .domain [] then .error .emptyHost
    .ok (some host, ← parsePort scheme port)

/-- User, host and port at the front of a text. An at sign that only a path follows
promises a host that is not there. -/
def parseAuthority (kind : SchemeKind) (scheme text : List Char) : Except AddressError Address := do
  let authority := text.takeWhile fun c => !endsAuthority kind c
  match splitLastAt authority with
  | none =>
    let (host, port) ← parseHostAndPort kind scheme authority
    .ok { scheme, host, port }
  | some ([], rest) =>
    if rest = [] ∧ authority ≠ text then .error .emptyHost
    let (host, port) ← parseHostAndPort kind scheme rest
    .ok { scheme, host, port }
  | some (user, rest) =>
    let (username, password) := splitUser user
    let (host, port) ← parseHostAndPort kind scheme rest
    if host = none ∧ (username ≠ [] ∨ password ≠ none) then .error .emptyHost
    .ok { scheme, username, password, host, port }

/-! ## Files -/

def isSlash (c : Char) : Bool := c == '/' || c == '\\'

def isDriveLetter : List Char → Bool
  | [letter, mark] => letter.isAlpha && (mark == ':' || mark == '|')
  | _ => false

/-- The segments of a path, which a query or a fragment ends. -/
def segments (path : List Char) : List (List Char) :=
  let path := path.takeWhile fun c => c ≠ '?' ∧ c ≠ '#'
  splitAt '/' (path.map fun c => if c = '\\' then '/' else c)

/-- The host of a file. This machine and files on a drive have none. -/
def parseFileHost : List Char → Except AddressError (Option Host)
  | a :: b :: rest => do
    let text := rest.takeWhile fun c => !endsAuthority .file c
    let path := rest.dropWhile fun c => !endsAuthority .file c
    if !(isSlash a && isSlash b) ∨ text = [] ∨ isDriveLetter text then .ok none
    else
      let host ← Host.parse text
      if host = .domain "localhost".toList ∨ (segments path).any isDriveLetter then .ok none
      else .ok (some host)
  | _ => .ok none

/-! ## Reading -/

/-- Blanks and controls around an address do not belong to it, nor do tabs and line
breaks inside. -/
def clean (text : List Char) : List Char :=
  let outer (c : Char) : Bool := c.toNat ≤ 0x20
  let trimmed := ((text.dropWhile outer).reverse.dropWhile outer).reverse
  trimmed.filter fun c => c ≠ '\t' ∧ c ≠ '\n' ∧ c ≠ '\r'

def parse (text : List Char) : Except AddressError Address := do
  match splitScheme? (clean text) with
  | none => .error .relative
  | some (scheme, rest) =>
    let kind := schemeKind scheme
    match kind, rest with
    | .network, rest => parseAuthority kind scheme (rest.dropWhile isSlash)
    | .file, rest => do .ok { scheme, host := ← parseFileHost rest }
    | .other, '/' :: '/' :: rest => parseAuthority kind scheme rest
    | .other, _ => .ok { scheme, host := none }

end Address

end GatewayClient
