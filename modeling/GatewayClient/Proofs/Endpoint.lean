import GatewayClient.Proofs.Address.Reading
/-!
# Endpoints of addresses

The endpoint of a base address keeps user, host and port and forgets all that follows. What is
written for it is an address in normal form, so it is read as the same user, host and port, and as
a base it leads to itself.

Main statements: `endpoint_keeps_authority`, `endpoint_of_endpoint`.
-/

namespace GatewayClient

namespace Address

/-! ## What follows the authority -/

/-- Where an address leads on its host. -/
structure Resource where
  path : List Char
  query : Option (List Char) := none
  fragment : Option (List Char) := none
  deriving DecidableEq, Repr

/-- What stands before a mark, and what stands after it if it is there. -/
def cut (mark : Char) (text : List Char) : List Char × Option (List Char) :=
  match text.dropWhile (· ≠ mark) with
  | [] => (text, none)
  | _ :: rest => (text.takeWhile (· ≠ mark), some rest)

def Resource.ofText (text : List Char) : Resource :=
  let (front, fragment) := cut '#' text
  let (path, query) := cut '?' front
  { path, query, fragment }

/-- What follows user, host and port in an address of the network. -/
def resource? (text : List Char) : Option Resource :=
  (splitScheme? (clean text)).map fun (_, rest) =>
    .ofText ((rest.dropWhile isSlash).dropWhile fun c => !endsAuthority .network c)

/-- The port at which a host is reached. -/
def effectivePort? (address : Address) : Option Nat :=
  address.port <|> defaultPort? address.scheme

end Address

namespace Endpoint

variable {base : String} {endpoint : Endpoint} {address : Address} {scheme text : List Char}
  {rest : List Char} {secure : Bool}

/-- The schemes that lead to a gateway over an encrypted connection. -/
def secureSchemes : List (List Char) := ["https".toList, "wss".toList]

def schemes : List (List Char) := ["http".toList, "ws".toList] ++ secureSchemes

/-- The schemes of endpoints. -/
def socketScheme (secure : Bool) : List Char := (if secure then "wss" else "ws").toList

/-- An endpoint as an address. -/
def toAddress (endpoint : Endpoint) : Address where
  scheme := endpoint.scheme
  username := endpoint.username
  password := endpoint.password
  host := some endpoint.host
  port := endpoint.port

/-! ## Schemes -/

theorem secure?_eq_some_iff : secure? scheme = some secure ↔
    scheme ∈ schemes ∧ secure = decide (scheme ∈ secureSchemes) := by
  constructor
  · intro h
    obtain ⟨front, back, htable, -⟩ := List.lookup_eq_some_iff.mp h
    have hall : ∀ entry ∈ [("http", false), ("https", true), ("ws", false), ("wss", true)],
        entry.1.toList ∈ schemes ∧ entry.2 = decide (entry.1.toList ∈ secureSchemes) := by decide
    have hentry := hall (String.ofList scheme, secure) (by
      rw [htable]
      exact List.mem_append_right _ List.mem_cons_self)
    simpa only [String.toList_ofList] using hentry
  · rintro ⟨hmem, rfl⟩
    revert scheme
    decide

theorem schemeKind_of_mem (h : scheme ∈ schemes) : Address.schemeKind scheme = .network := by
  revert scheme
  decide

/-- Encryption has one default port, whatever the protocol. -/
theorem defaultPort?_socketScheme (h : scheme ∈ schemes) :
    Address.defaultPort? (socketScheme (decide (scheme ∈ secureSchemes))) =
      Address.defaultPort? scheme := by
  revert scheme
  decide

/-! ## Letter case -/

theorem isAlpha_of_toLower_mem {c : Char} (h : c.toLower ∈ "htpsw".toList) : c.isAlpha = true := by
  have hletters : ∀ c ∈ "htpsw".toList, c.isAlpha = true := List.all_iff_forall_prop.mp (by decide)
  unfold Char.toLower at h
  split at h
  case isTrue hupper => exact Bool.or_eq_true_iff.mpr (.inl (decide_eq_true hupper))
  case isFalse => exact hletters c h

/-- A scheme may be spelled in capitals. -/
theorem splitScheme?_of_toLower_mem {spelled rest : List Char}
    (h : spelled.map Char.toLower ∈ schemes) :
    Address.splitScheme? (spelled ++ ':' :: rest) = some (spelled.map Char.toLower, rest) := by
  have hletters : ∀ scheme ∈ schemes, scheme ≠ [] ∧ scheme ⊆ "htpsw".toList := by decide
  obtain ⟨hne, hall⟩ := hletters _ h
  have halpha : ∀ c ∈ spelled, c.isAlpha = true := fun c hmem =>
    isAlpha_of_toLower_mem (hall (List.mem_map_of_mem hmem))
  have hscheme : ∀ c ∈ spelled, Address.isSchemeChar c = true := by
    intro c hmem
    simp [Address.isSchemeChar, Char.isAlphanum, halpha c hmem]
  obtain ⟨c, name, rfl⟩ := List.exists_cons_of_ne_nil (show spelled ≠ [] by rintro rfl; exact hne rfl)
  have htake : ((c :: name) ++ ':' :: rest).takeWhile Address.isSchemeChar = c :: name := by
    rw [List.takeWhile_append_of_pos hscheme, List.takeWhile_cons_of_neg (by decide), List.append_nil]
  have hdrop : ((c :: name) ++ ':' :: rest).dropWhile Address.isSchemeChar = ':' :: rest := by
    rw [List.dropWhile_append_of_pos hscheme, List.dropWhile_cons_of_neg (by decide)]
  rw [Address.splitScheme?, htake, hdrop]
  exact if_pos (halpha c List.mem_cons_self)

theorem exists_spelled (h : Address.splitScheme? text = some (scheme, rest)) :
    ∃ spelled, text = spelled ++ ':' :: rest ∧ spelled.map Char.toLower = scheme := by
  unfold Address.splitScheme? at h
  split at h
  case h_1 c name tail htake hdrop =>
    split at h
    case isFalse => cases h
    case isTrue =>
      cases h
      refine ⟨c :: name, ?_, rfl⟩
      rw [← htake, ← hdrop, List.takeWhile_append_dropWhile]
  case h_2 => cases h

/-! ## Endpoints as addresses -/

theorem ofAddress_of_mem {host : Host} (hhost : address.host = some host)
    (hscheme : address.scheme ∈ schemes) : ∃ endpoint, ofAddress address = .ok endpoint := by
  have hsecure := secure?_eq_some_iff.mpr ⟨hscheme, rfl⟩
  rw [ofAddress, hhost, hsecure]
  exact ⟨_, rfl⟩

theorem ofAddress_eq_ok (h : ofAddress address = .ok endpoint) :
    address.host ≠ none ∧ address.scheme ∈ schemes ∧ endpoint.toAddress = { address with
      scheme := socketScheme (decide (address.scheme ∈ secureSchemes)) } := by
  unfold ofAddress at h
  split at h
  case h_1 | h_2 => cases h
  case h_3 host secure hhost hsecure =>
    cases h
    obtain ⟨hmem, rfl⟩ := secure?_eq_some_iff.mp hsecure
    refine ⟨by simp [hhost], hmem, ?_⟩
    rw [toAddress, hhost]
    rfl

theorem secure?_eq_none_iff : secure? scheme = none ↔ scheme ∉ schemes := by
  constructor
  · intro hnone hmem
    have hsome := secure?_eq_some_iff.mpr ⟨hmem, rfl⟩
    rw [hnone] at hsome
    cases hsome
  · intro hmem
    apply Option.eq_none_iff_forall_ne_some.mpr
    intro secure hsome
    exact hmem (secure?_eq_some_iff.mp hsome).1

theorem ofAddress_eq_error_iff {problem : Problem} : ofAddress address = .error problem ↔
    (address.host = none ∧ problem = .noHost) ∨
      (address.host ≠ none ∧ address.scheme ∉ schemes ∧
        problem = .unsupportedScheme address.scheme) := by
  rw [← secure?_eq_none_iff]
  unfold ofAddress
  cases address.host with
  | none => simp [eq_comm]
  | some host => cases secure? address.scheme <;> simp [eq_comm]

/-- An endpoint is its own endpoint. -/
theorem ofAddress_toAddress (endpoint : Endpoint) : ofAddress endpoint.toAddress = .ok endpoint := by
  have hsecure (secure : Bool) : secure? (socketScheme secure) = some secure := by
    revert secure
    decide
  rw [ofAddress, toAddress, scheme]
  dsimp only
  rw [← socketScheme, hsecure]

/-- An endpoint is as normal as the address that it was made of. -/
theorem isNormal_of_ofAddress [Idna] [LawfulIdna] {text : List Char} (hparse : Address.parse text = .ok address)
    (h : ofAddress address = .ok endpoint) : endpoint.toAddress.IsNormal := by
  obtain ⟨-, hscheme, haddress⟩ := ofAddress_eq_ok h
  have hnormal := Address.isNormal_of_parse hparse (schemeKind_of_mem hscheme)
  rw [haddress]
  refine ⟨hnormal.username, hnormal.password, hnormal.host, fun p hport => ?_⟩
  obtain ⟨hle, hdefault⟩ := hnormal.port p hport
  exact ⟨hle, (defaultPort?_socketScheme hscheme).symm ▸ hdefault⟩

/-! ## Reading endpoints -/

/-- What an endpoint is written as after its scheme and two slashes. -/
def tail (endpoint : Endpoint) : List Char := endpoint.toAddress.authority endpoint.host ++ path

theorem render_eq (endpoint : Endpoint) :
    endpoint.render = endpoint.scheme ++ ':' :: '/' :: '/' :: endpoint.tail := by
  simp [render, tail, Address.authority, toAddress]

theorem scheme_mem (endpoint : Endpoint) : endpoint.scheme ∈ schemes := by
  rw [scheme]
  cases endpoint.secure <;> decide

section

variable [Idna] [LawfulIdna] (h : endpoint.toAddress.IsNormal)

include h

theorem isInner_of_mem_authority {c : Char} (hmem : c ∈ endpoint.toAddress.authority endpoint.host) :
    Address.isInner c = true := by
  obtain ⟨_, ⟨rfl⟩, hhost⟩ := h.host
  exact h.isInner_of_mem hhost hmem

/-- There is a host behind the two slashes, so that these are all. -/
theorem exists_authority_eq_cons : ∃ c rest,
    endpoint.toAddress.authority endpoint.host = c :: rest ∧ Address.isSlash c = false := by
  obtain ⟨_, ⟨rfl⟩, hhost⟩ := h.host
  have hne : endpoint.toAddress.authority endpoint.host ≠ [] := by
    simp [Address.authority, hhost.render_ne_nil]
  obtain ⟨c, rest, hcons⟩ := List.exists_cons_of_ne_nil hne
  have hinner : Address.isInner c = true := isInner_of_mem_authority h (by simp [hcons])
  refine ⟨c, rest, hcons, ?_⟩
  rw [Address.isSlash, Bool.or_eq_false_iff, beq_eq_false_iff_ne, beq_eq_false_iff_ne]
  constructor <;>
    · rintro rfl
      exact absurd hinner (by decide)

theorem clean_render : Address.clean endpoint.render = endpoint.render := by
  have hscheme : ∀ c ∈ schemes.flatten, 0x20 < c.toNat := List.all_iff_forall_prop.mp (by decide)
  have hpath : ∀ c ∈ path, 0x20 < c.toNat := List.all_iff_forall_prop.mp (by decide)
  apply Address.clean_eq_self
  intro c hmem
  simp only [render_eq, tail, List.mem_append, List.mem_cons] at hmem
  rcases hmem with hmem | rfl | rfl | rfl | hmem | hmem
  · exact hscheme c (List.mem_flatten_of_mem endpoint.scheme_mem hmem)
  · decide
  · decide
  · decide
  · have hinner := isInner_of_mem_authority h hmem
    simp only [Address.isInner, Bool.and_eq_true, decide_eq_true_eq] at hinner
    exact hinner.1
  · exact hpath c hmem

theorem splitScheme?_render : Address.splitScheme? (Address.clean endpoint.render) =
    some (endpoint.scheme, '/' :: '/' :: endpoint.tail) := by
  have hlower : ∀ scheme ∈ schemes, scheme.map Char.toLower = scheme := by decide
  have hscheme := hlower _ endpoint.scheme_mem
  have hmem : endpoint.scheme.map Char.toLower ∈ schemes := hscheme.symm ▸ endpoint.scheme_mem
  have hsplit : Address.splitScheme? (endpoint.scheme ++ ':' :: '/' :: '/' :: endpoint.tail) =
      some (endpoint.scheme.map Char.toLower, '/' :: '/' :: endpoint.tail) :=
    splitScheme?_of_toLower_mem hmem
  rw [clean_render h, render_eq, hsplit, hscheme]

theorem dropWhile_isSlash : ('/' :: '/' :: endpoint.tail).dropWhile Address.isSlash = endpoint.tail := by
  obtain ⟨c, rest, hcons, hslash⟩ := exists_authority_eq_cons h
  rw [tail, hcons, List.dropWhile_cons_of_pos rfl, List.dropWhile_cons_of_pos rfl, List.cons_append,
    List.dropWhile_cons_of_neg (by simp [hslash])]

/-- What is written for an endpoint is read as its components. -/
theorem parse_render : Address.parse endpoint.render = .ok endpoint.toAddress := by
  rw [Address.parse_network (splitScheme?_render h) (schemeKind_of_mem endpoint.scheme_mem),
    dropWhile_isSlash h]
  exact h.parseAuthority_append rfl _

/-- Nothing but the path of gateways follows. -/
theorem resource?_render : Address.resource? endpoint.render = some { path := path } := by
  have hinner : ∀ c ∈ endpoint.toAddress.authority endpoint.host,
      (!Address.endsAuthority .network c) = true := by
    intro c hmem
    have hinner := isInner_of_mem_authority h hmem
    rw [Address.isInner, Bool.and_eq_true] at hinner
    exact hinner.2
  rw [Address.resource?, splitScheme?_render h, Option.map_some]
  dsimp only
  rw [dropWhile_isSlash h, tail, List.dropWhile_append_of_pos hinner]
  rfl

end

/-! ## Bases -/

theorem toList_toString (endpoint : Endpoint) : (toString endpoint).toList = endpoint.render :=
  String.toList_ofList

theorem ofBase_eq_ok_iff [Idna] : ofBase base = .ok endpoint ↔
    ∃ address, Address.parse base.toList = .ok address ∧ ofAddress address = .ok endpoint := by
  unfold ofBase
  cases Address.parse base.toList with
  | error e => simp [Except.mapError, bind, Except.bind]
  | ok address =>
      cases hread : ofAddress address <;> simp [Except.mapError, bind, Except.bind, hread]

theorem isNormal_of_ofBase [Idna] [LawfulIdna] (h : ofBase base = .ok endpoint) :
    endpoint.toAddress.IsNormal := by
  obtain ⟨address, hparse, haddress⟩ := ofBase_eq_ok_iff.mp h
  exact isNormal_of_ofAddress hparse haddress

/-- Why a base has no endpoint. -/
inductive Refuses [Idna] (base : String) : Problem → Prop where
  | malformed {error : AddressError} (h : Address.parse base.toList = .error error) :
      Refuses base (.malformed error)
  | noHost {address : Address} (h : Address.parse base.toList = .ok address)
      (hhost : address.host = none) : Refuses base .noHost
  | unsupportedScheme {address : Address} (h : Address.parse base.toList = .ok address)
      (hhost : address.host ≠ none) (hscheme : address.scheme ∉ schemes) :
      Refuses base (.unsupportedScheme address.scheme)

theorem ofBase_eq_error_iff [Idna] {error : Error} :
    ofBase base = .error error ↔ error.base = base ∧ Refuses base error.problem := by
  obtain ⟨errorBase, problem⟩ := error
  constructor
  · intro h
    unfold ofBase at h
    cases hparse : Address.parse base.toList with
    | error e =>
        rw [hparse] at h
        cases h
        exact ⟨rfl, .malformed hparse⟩
    | ok address =>
        rw [hparse] at h
        cases hread : ofAddress address with
        | ok endpoint => simp [Except.mapError, bind, Except.bind, hread] at h
        | error e =>
            obtain ⟨rfl, rfl⟩ : base = errorBase ∧ e = problem := by
              simpa [Except.mapError, bind, Except.bind, hread] using h
            rcases ofAddress_eq_error_iff.mp hread with ⟨hhost, rfl⟩ | ⟨hhost, hscheme, rfl⟩
            · exact ⟨rfl, .noHost hparse hhost⟩
            · exact ⟨rfl, .unsupportedScheme hparse hhost hscheme⟩
  · rintro ⟨rfl, hrefuses⟩
    dsimp only at hrefuses ⊢
    cases hrefuses with
    | malformed hparse => simp [ofBase, hparse, Except.mapError, bind, Except.bind]
    | noHost hparse hhost =>
        have hread := ofAddress_eq_error_iff.mpr (.inl ⟨hhost, rfl⟩)
        simp [ofBase, hparse, hread, Except.mapError, bind, Except.bind]
    | unsupportedScheme hparse hhost hscheme =>
        have hread := ofAddress_eq_error_iff.mpr (.inr ⟨hhost, hscheme, rfl⟩)
        simp [ofBase, hparse, hread, Except.mapError, bind, Except.bind]

/-- A base leads to a gateway exactly if it is an address with a host and one of the four schemes,
in whatever letter case. The endpoint is then written as an address with the same user, host and
port, the scheme of its socket, the path of gateways and nothing behind it. -/
theorem endpoint_keeps_authority [Idna] [LawfulIdna] (base : String) :
    ((∃ endpoint, ofBase base = .ok endpoint) ↔ ∃ address spelled rest,
      Address.parse base.toList = .ok address ∧ address.host ≠ none ∧
        Address.clean base.toList = spelled ++ ':' :: rest ∧ spelled.map Char.toLower ∈ schemes) ∧
      (∀ endpoint, ofBase base = .ok endpoint → ∃ address result,
        Address.parse base.toList = .ok address ∧
          Address.parse (toString endpoint).toList = .ok result ∧
          result.scheme = (if address.scheme ∈ secureSchemes then "wss" else "ws").toList ∧
          result.username = address.username ∧ result.password = address.password ∧
          result.host = address.host ∧ result.effectivePort? = address.effectivePort? ∧
          Address.resource? (toString endpoint).toList = some { path := path }) ∧
      ∀ error, ofBase base = .error error ↔ error.base = base ∧ Refuses base error.problem := by
  refine ⟨⟨?_, ?_⟩, fun endpoint h => ?_, fun error => ofBase_eq_error_iff⟩
  · rintro ⟨endpoint, h⟩
    obtain ⟨address, hparse, haddress⟩ := ofBase_eq_ok_iff.mp h
    obtain ⟨hhost, hscheme, -⟩ := ofAddress_eq_ok haddress
    obtain ⟨rest, hsplit⟩ := Address.scheme_of_parse hparse
    obtain ⟨spelled, hclean, hspelled⟩ := exists_spelled hsplit
    exact ⟨address, spelled, rest, hparse, hhost, hclean, hspelled ▸ hscheme⟩
  · rintro ⟨address, spelled, rest, hparse, hhost, hclean, hspelled⟩
    obtain ⟨rest', hsplit⟩ := Address.scheme_of_parse hparse
    rw [hclean, splitScheme?_of_toLower_mem hspelled] at hsplit
    have hsame : spelled.map Char.toLower = address.scheme :=
      congrArg Prod.fst (Option.some.inj hsplit)
    have hscheme : address.scheme ∈ schemes := hsame ▸ hspelled
    obtain ⟨host, hhost⟩ := Option.ne_none_iff_exists'.mp hhost
    obtain ⟨endpoint, haddress⟩ := ofAddress_of_mem hhost hscheme
    exact ⟨endpoint, ofBase_eq_ok_iff.mpr ⟨address, hparse, haddress⟩⟩
  · obtain ⟨address, hparse, haddress⟩ := ofBase_eq_ok_iff.mp h
    have hnormal := isNormal_of_ofAddress hparse haddress
    obtain ⟨-, hscheme, hsame⟩ := ofAddress_eq_ok haddress
    have hread := parse_render hnormal
    rw [hsame] at hread
    rw [toList_toString]
    refine ⟨address, _, hparse, hread, ?_, rfl, rfl, rfl, ?_, resource?_render hnormal⟩
    · simp [socketScheme]
    · rw [Address.effectivePort?, Address.effectivePort?]
      dsimp only
      rw [defaultPort?_socketScheme hscheme]

attribute [local instance] Idna.ascii

/-- A base with a user, an address of the sixth version and the port of the other protocol. -/
def spelledOut : String := "HTTPS:\\\\us er:p@ss@[2001:DB8:0:0::1.2.3.4]:80\\a?b#c"

/-- The endpoint of that base. -/
def spelledOutEndpoint : Endpoint where
  secure := true
  username := "us%20er".toList
  password := some "p%40ss".toList
  host := .ipv6 [0x2001, 0xdb8, 0, 0, 0, 0, 0x102, 0x304]
  port := some 80

theorem ofBase_spelledOut : ofBase spelledOut = .ok spelledOutEndpoint := by
  decide +kernel

theorem authority_kept_of_spelledOut : ofBase spelledOut = .ok spelledOutEndpoint ∧
    ∃ address result, Address.parse spelledOut.toList = .ok address ∧
      Address.parse (toString spelledOutEndpoint).toList = .ok result ∧
      result.scheme = (if address.scheme ∈ secureSchemes then "wss" else "ws").toList ∧
      result.username = address.username ∧ result.password = address.password ∧
      result.host = address.host ∧ result.effectivePort? = address.effectivePort? ∧
      Address.resource? (toString spelledOutEndpoint).toList = some { path := path } :=
  ⟨ofBase_spelledOut, (endpoint_keeps_authority spelledOut).2.1 _ ofBase_spelledOut⟩

/-- The endpoint of an endpoint is the same, and its text is read as the components that it was
written for. -/
theorem endpoint_of_endpoint [Idna] [LawfulIdna] (h : ofBase base = .ok endpoint) :
    ofBase (toString endpoint) = .ok endpoint ∧
      Address.parse (toString endpoint).toList = .ok
        { scheme := endpoint.scheme, username := endpoint.username, password := endpoint.password,
          host := some endpoint.host, port := endpoint.port } := by
  have hread := parse_render (isNormal_of_ofBase h)
  rw [← toList_toString] at hread
  exact ⟨ofBase_eq_ok_iff.mpr ⟨_, hread, ofAddress_toAddress endpoint⟩, hread⟩

theorem endpoint_of_spelledOut : ofBase spelledOut = .ok spelledOutEndpoint ∧
    toString spelledOutEndpoint = "wss://us%20er:p%40ss@[2001:db8::102:304]:80/api/v1/gateway" ∧
    ofBase (toString spelledOutEndpoint) = .ok spelledOutEndpoint :=
  ⟨ofBase_spelledOut, by decide +kernel, (endpoint_of_endpoint ofBase_spelledOut).1⟩

end Endpoint

end GatewayClient
