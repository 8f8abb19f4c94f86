import Mathlib.Data.List.Basic
import GatewayClient.Endpoint
import GatewayClient.Proofs.Address.Host
/-!
# Addresses there and back

What an address says of user, host and port has one normal form, in which it is read; all
spellings of an address lead there.

Main statements: `isNormal_of_parse`, `IsNormal.parseAuthority_append`.
-/

namespace GatewayClient.Address

variable {c : Char} {text scheme rest : List Char} {address : Address} {host : Host}
  {port : Option Nat}

/-! ## Users -/

/-- Characters of a user that stand for themselves. -/
def isUserChar (c : Char) : Bool := c.toNat < 0x80 && !isEscapedInUser (asciiByte c)

theorem isUserChar_of_mem_escapeUser (h : c ∈ escapeUser text) : isUserChar c = true := by
  obtain ⟨byte, -, hmem⟩ := List.mem_flatMap.mp h
  split at hmem
  case isTrue =>
    have hdigit : ∀ n < 16, isUserChar (Percent.upperDigit n) = true := by decide
    have hmod (n : Nat) : Percent.upperDigit n = Percent.upperDigit (n % 16) := by
      simp [Percent.upperDigit]
    simp only [Percent.escape, List.mem_cons, List.not_mem_nil, or_false] at hmem
    rcases hmem with rfl | rfl | rfl
    · decide
    · rw [hmod]
      exact hdigit _ (Nat.mod_lt _ (by decide))
    · rw [hmod]
      exact hdigit _ (Nat.mod_lt _ (by decide))
  case isFalse hplain =>
    obtain rfl := List.mem_singleton.mp hmem
    have hall : ∀ n < 256, isEscapedInUser (UInt8.ofNat n) = false →
        isUserChar (Char.ofNat n) = true := by decide +kernel
    exact hall byte.toNat byte.toNat_lt (by simpa using hplain)

theorem escapeUser_eq_self (h : ∀ c ∈ text, isUserChar c = true) : escapeUser text = text := by
  have hascii : ∀ c ∈ text, c.toNat < 0x80 ∧ isEscapedInUser (asciiByte c) = false := by
    intro c hmem
    simpa [isUserChar] using h c hmem
  rw [escapeUser, Utf8.encode_ascii fun c hmem => (hascii c hmem).1, List.flatMap_map]
  calc text.flatMap _ = text.flatMap fun c => [c] := by
        apply List.flatMap_congr
        intro c hmem
        obtain ⟨hsmall, hplain⟩ := hascii c hmem
        simp [hplain, hsmall]
    _ = text := List.flatMap_singleton' text

theorem escapeUser_ne_nil (hne : text ≠ []) : escapeUser text ≠ [] := by
  intro hnil
  have hbytes : Utf8.encode (String.ofList text) = [] := by
    rw [escapeUser, List.flatMap_eq_nil_iff] at hnil
    apply List.eq_nil_iff_forall_not_mem.mpr
    intro byte hmem
    have hempty := hnil byte hmem
    split at hempty <;> simp [Percent.escape] at hempty
  have hsame : String.ofList text = "" := Utf8.encode_injective (hbytes.trans rfl)
  exact hne (by simpa using congrArg String.toList hsame)

/-! ## Normal form -/

/-- An address as it is read from the network. -/
structure IsNormal [Idna] (address : Address) : Prop where
  username : ∀ c ∈ address.username, isUserChar c = true
  password : ∀ p, address.password = some p → p ≠ [] ∧ ∀ c ∈ p, isUserChar c = true
  host : ∃ host, address.host = some host ∧ host.IsNormal
  port : ∀ p, address.port = some p → p ≤ 65535 ∧ defaultPort? address.scheme ≠ some p

theorem bind_eq_ok {ε α β : Type} {x : Except ε α} {f : α → Except ε β} {b : β} :
    x >>= f = .ok b ↔ ∃ a, x = .ok a ∧ f a = .ok b := by
  cases x <;> simp [bind, Except.bind]

theorem isNormal_port (h : parsePort scheme text = .ok port) :
    ∀ p, port = some p → p ≤ 65535 ∧ defaultPort? scheme ≠ some p := by
  unfold parsePort at h
  extract_lets digits number next at h
  split at h
  case isTrue => cases h
  case isFalse hvalid =>
    split at h
    case isTrue =>
      cases h
      nofun
    case isFalse hother =>
      cases h
      rintro p ⟨⟩
      rw [not_or] at hvalid hother
      exact ⟨Nat.le_of_not_lt hvalid.1, hother.2⟩

theorem isNormal_splitUser (text : List Char) :
    (∀ c ∈ (splitUser text).1, isUserChar c = true) ∧
      ∀ p, (splitUser text).2 = some p → p ≠ [] ∧ ∀ c ∈ p, isUserChar c = true := by
  unfold splitUser
  split
  case h_1 =>
    refine ⟨fun c => isUserChar_of_mem_escapeUser, ?_⟩
    rintro p ⟨⟩
    exact ⟨escapeUser_ne_nil (by simp), fun c => isUserChar_of_mem_escapeUser⟩
  case h_2 => exact ⟨fun c => isUserChar_of_mem_escapeUser, nofun⟩

section

variable [Idna]

theorem scheme_of_parseAuthority {kind : SchemeKind}
    (h : parseAuthority kind scheme text = .ok address) : address.scheme = scheme := by
  unfold parseAuthority at h
  extract_lets authority at h
  split at h
  case h_1 =>
    obtain ⟨_, -, h⟩ := bind_eq_ok.mp h
    cases h
    rfl
  case h_2 =>
    split at h
    case isTrue => cases h
    case isFalse =>
      obtain ⟨_, -, h⟩ := bind_eq_ok.mp h
      cases h
      rfl
  case h_3 =>
    dsimp only at h
    obtain ⟨_, -, h⟩ := bind_eq_ok.mp h
    split at h
    case isTrue => cases h
    case isFalse =>
      cases h
      rfl

/-- An address has the scheme that stands in front of its first colon. -/
theorem scheme_of_parse (h : parse text = .ok address) :
    ∃ rest, splitScheme? (clean text) = some (address.scheme, rest) := by
  unfold parse at h
  split at h
  case h_1 => cases h
  case h_2 scheme rest hsplit =>
    refine ⟨rest, ?_⟩
    rw [hsplit]
    dsimp only at h
    split at h
    case h_1 | h_3 => rw [scheme_of_parseAuthority h]
    case h_2 =>
      obtain ⟨_, -, h⟩ := bind_eq_ok.mp h
      cases h
      rfl
    case h_4 =>
      cases h
      rfl

theorem parse_network (hsplit : splitScheme? (clean text) = some (scheme, rest))
    (hkind : schemeKind scheme = .network) :
    parse text = parseAuthority .network scheme (rest.dropWhile isSlash) := by
  rw [parse, hsplit]
  dsimp only
  rw [hkind]

variable [LawfulIdna]

theorem isNormal_parseHostAndPort {hostRead : Option Host}
    (h : parseHostAndPort .network scheme text = .ok (hostRead, port)) :
    (∃ host, hostRead = some host ∧ host.IsNormal) ∧
      ∀ p, port = some p → p ≤ 65535 ∧ defaultPort? scheme ≠ some p := by
  unfold parseHostAndPort at h
  dsimp only at h
  split at h
  case isTrue => cases h
  case isFalse =>
    rw [if_pos rfl] at h
    obtain ⟨host, hhost, h⟩ := bind_eq_ok.mp h
    have hnormal := Host.isNormal_of_parse hhost
    have hne : host ≠ .domain [] := by
      rintro rfl
      exact hnormal.2.1 rfl
    split at h
    case h_1 =>
      rw [if_neg hne] at h
      cases h
      exact ⟨⟨host, rfl, hnormal⟩, nofun⟩
    case h_2 digits =>
      rw [if_neg hne] at h
      obtain ⟨portRead, hport, h⟩ := bind_eq_ok.mp h
      cases h
      exact ⟨⟨host, rfl, hnormal⟩, isNormal_port hport⟩

theorem isNormal_parseAuthority (h : parseAuthority .network scheme text = .ok address) :
    address.IsNormal := by
  unfold parseAuthority at h
  extract_lets authority at h
  split at h
  case h_1 =>
    obtain ⟨⟨host, port⟩, hread, h⟩ := bind_eq_ok.mp h
    cases h
    obtain ⟨hhost, hport⟩ := isNormal_parseHostAndPort hread
    exact ⟨nofun, nofun, hhost, hport⟩
  case h_2 =>
    split at h
    case isTrue => cases h
    case isFalse =>
      obtain ⟨⟨host, port⟩, hread, h⟩ := bind_eq_ok.mp h
      cases h
      obtain ⟨hhost, hport⟩ := isNormal_parseHostAndPort hread
      exact ⟨nofun, nofun, hhost, hport⟩
  case h_3 user rest _ _ =>
    dsimp only at h
    obtain ⟨⟨host, port⟩, hread, h⟩ := bind_eq_ok.mp h
    obtain ⟨hname, hpassword⟩ := isNormal_splitUser user
    obtain ⟨hhost, hport⟩ := isNormal_parseHostAndPort hread
    split at h
    case isTrue => cases h
    case isFalse =>
      cases h
      exact ⟨hname, hpassword, hhost, hport⟩

/-- An address of the network that was read is in normal form. -/
theorem isNormal_of_parse (h : parse text = .ok address)
    (hkind : schemeKind address.scheme = .network) : address.IsNormal := by
  obtain ⟨rest, hsplit⟩ := scheme_of_parse h
  rw [parse_network hsplit hkind] at h
  exact isNormal_parseAuthority h

end

/-! ## Reading what was written -/

theorem clean_eq_self (h : ∀ c ∈ text, 0x20 < c.toNat) : clean text = text := by
  have hdrop {text : List Char} (h : ∀ c ∈ text, 0x20 < c.toNat) :
      text.dropWhile (fun c => decide (c.toNat ≤ 0x20)) = text := by
    cases text with
    | nil => rfl
    | cons c text =>
        have hhead := h c List.mem_cons_self
        rw [List.dropWhile_cons_of_neg (by simpa using hhead)]
  unfold clean
  extract_lets outer trimmed
  have htrimmed : trimmed = text := by
    have hback := hdrop fun c hmem => h c (List.mem_reverse.mp hmem)
    change ((text.dropWhile fun c => decide (c.toNat ≤ 0x20)).reverse.dropWhile fun c =>
      decide (c.toNat ≤ 0x20)).reverse = text
    rw [hdrop h, hback, List.reverse_reverse]
  rw [htrimmed, List.filter_eq_self]
  intro c hmem
  have hvisible := h c hmem
  refine decide_eq_true ⟨?_, ?_, ?_⟩ <;>
    · rintro rfl
      exact absurd hvisible (by decide)

theorem splitLastAt_of_not_mem (h : '@' ∉ text) : splitLastAt text = none := by
  have hall : text.reverse.dropWhile (· ≠ '@') = [] := by
    rw [List.dropWhile_eq_nil_iff]
    intro c hmem
    exact decide_eq_true (by rintro rfl; exact h (List.mem_reverse.mp hmem))
  rw [splitLastAt, hall]

theorem splitLastAt_append (h : '@' ∉ rest) (user : List Char) :
    splitLastAt (user ++ '@' :: rest) = some (user, rest) := by
  have hrest : ∀ c ∈ rest.reverse, decide (c ≠ '@') = true := by
    intro c hmem
    exact decide_eq_true (by rintro rfl; exact h (List.mem_reverse.mp hmem))
  have hreverse : (user ++ '@' :: rest).reverse = rest.reverse ++ '@' :: user.reverse := by simp
  rw [splitLastAt, hreverse, List.dropWhile_append_of_pos hrest, List.takeWhile_append_of_pos hrest]
  simp

theorem colon_not_mem (h : ∀ c ∈ text, isUserChar c = true) : ':' ∉ text := by
  intro hmem
  exact absurd (h ':' hmem) (by decide)

/-- Either there is nobody to write, or an at sign ends the user who was there. -/
theorem renderUser_cases {username : List Char} {password : Option (List Char)}
    (hname : ∀ c ∈ username, isUserChar c = true)
    (hpassword : ∀ p, password = some p → p ≠ [] ∧ ∀ c ∈ p, isUserChar c = true) :
    (username = [] ∧ password = none) ∨ ∃ user, user ≠ [] ∧
      Endpoint.renderUser username password = user ++ ['@'] ∧
      splitUser user = (username, password) ∧ ∀ c ∈ user, isUserChar c = true ∨ c = ':' := by
  have hcolon := colon_not_mem hname
  have hall : ∀ c ∈ username, decide (c ≠ ':') = true := by
    intro c hmem
    exact decide_eq_true (by rintro rfl; exact hcolon hmem)
  have hescaped := escapeUser_eq_self hname
  cases password with
  | none =>
      by_cases hnil : username = []
      · exact .inl ⟨hnil, rfl⟩
      · refine .inr ⟨username, hnil, ?_, ?_, fun c hmem => .inl (hname c hmem)⟩
        · cases username with
          | nil => exact absurd rfl hnil
          | cons => rfl
        · have hdrop : username.dropWhile (· ≠ ':') = [] := List.dropWhile_eq_nil_iff.mpr hall
          have htake : username.takeWhile (· ≠ ':') = username := List.takeWhile_eq_self_iff.mpr hall
          rw [splitUser, hdrop, htake, hescaped]
  | some p =>
      obtain ⟨hne, hchars⟩ := hpassword p rfl
      refine .inr ⟨username ++ ':' :: p, by simp, by simp [Endpoint.renderUser], ?_, ?_⟩
      · obtain ⟨c, others, rfl⟩ := List.exists_cons_of_ne_nil hne
        rw [splitUser, List.dropWhile_append_of_pos hall, List.takeWhile_append_of_pos hall]
        simp [hescaped, escapeUser_eq_self hchars]
      · intro c hmem
        rcases List.mem_append.mp hmem with hmem | hmem
        · exact .inl (hname c hmem)
        · exact (List.mem_cons.mp hmem).symm.imp (hchars c) id

/-! ### Hosts and ports -/

theorem splitHost_append {bracketed : Bool} {word : List Char}
    (h : ∀ c ∈ word, c ≠ '[' ∧ c ≠ ']' ∧ (bracketed = false → c ≠ ':')) (rest : List Char) :
    splitHost bracketed (word ++ rest) =
      (word ++ (splitHost bracketed rest).1, (splitHost bracketed rest).2) := by
  induction word with
  | nil => rfl
  | cons c word ih =>
      obtain ⟨hopen, hclose, hcolon⟩ := h c List.mem_cons_self
      have hword := ih fun d hmem => h d (List.mem_cons_of_mem _ hmem)
      have hinside : ¬(c = ':' ∧ (!bracketed) = true) := by
        rintro ⟨hc, houtside⟩
        exact hcolon (by simpa using houtside) hc
      rw [List.cons_append, splitHost, if_neg hinside]
      simp [hopen, hclose, hword]

/-- The text after a host: nothing, or a colon and a port. -/
theorem splitHost_renderPort (port : Option Nat) :
    splitHost false (Endpoint.renderPort port) = ([], Endpoint.renderPort port) := by
  cases port with
  | none => rfl
  | some port => rfl

theorem splitHost_render [Idna] [LawfulIdna] (h : host.IsNormal) (port : Option Nat) :
    splitHost false (host.render ++ Endpoint.renderPort port) =
      (host.render, Endpoint.renderPort port) := by
  have hplain {word : List Char} (hword : ∀ c ∈ word, Idna.isAllowed c = true) :
      splitHost false (word ++ Endpoint.renderPort port) = (word, Endpoint.renderPort port) := by
    have hmarks : ∀ c ∈ word, c ≠ '[' ∧ c ≠ ']' ∧ (false = false → c ≠ ':') := by
      intro c hmem
      have hallowed := hword c hmem
      refine ⟨?_, ?_, fun _ => ?_⟩ <;>
        · rintro rfl
          cases hallowed
    simp [splitHost_append hmarks, splitHost_renderPort]
  cases host with
  | domain name =>
      exact hplain (LawfulIdna.isAllowed_of_mem h.1)
  | ipv4 address =>
      exact hplain fun c hmem => (Host.isAllowed_of_digit (Ipv4.mem_render hmem)).1
  | ipv6 pieces =>
      have hmarks : ∀ c ∈ Ipv6.render pieces, c ≠ '[' ∧ c ≠ ']' ∧ (true = false → c ≠ ':') := by
        have hall : ∀ c ∈ ':' :: Digits.all, c ≠ '[' ∧ c ≠ ']' :=
          List.all_iff_forall_prop.mp (by decide)
        intro c hmem
        obtain ⟨hopen, hclose⟩ := hall c (List.mem_cons.mpr (Ipv6.mem_render hmem))
        exact ⟨hopen, hclose, nofun⟩
      have hinside := splitHost_append hmarks (']' :: Endpoint.renderPort port)
      simp [Host.render, splitHost, splitHost_renderPort, hinside]

theorem parsePort_toDigits {n : Nat} (hle : n ≤ 65535) (hdefault : defaultPort? scheme ≠ some n) :
    parsePort scheme (Nat.toDigits 10 n) = .ok (some n) := by
  have hdigits : ∀ c ∈ Nat.toDigits 10 n, c.isDigit = true := fun _ => Decimal.isDigit_of_mem_toDigits
  have htake : (Nat.toDigits 10 n).takeWhile Char.isDigit = Nat.toDigits 10 n :=
    List.takeWhile_eq_self_iff.mpr hdigits
  have hdrop : (Nat.toDigits 10 n).dropWhile Char.isDigit = [] := List.dropWhile_eq_nil_iff.mpr hdigits
  have hnumber : Digits.number? 10 (Nat.toDigits 10 n) = some n :=
    Digits.number?_toDigits (by decide) (by decide) n
  have hfits : ¬65535 < n := Nat.not_lt.mpr hle
  simp [parsePort, htake, hdrop, hnumber, hfits, hdefault, Nat.toDigits_ne_nil]

theorem parseHostAndPort_render [Idna] [LawfulIdna] (hhost : host.IsNormal)
    (hport : ∀ p, port = some p → p ≤ 65535 ∧ defaultPort? scheme ≠ some p) :
    parseHostAndPort .network scheme (host.render ++ Endpoint.renderPort port) =
      .ok (some host, port) := by
  have hne : host ≠ .domain [] := by
    rintro rfl
    exact hhost.2.1 rfl
  have hfilled : ¬(SchemeKind.network = .network ∧ host.render = []) := fun h => hhost.render_ne_nil h.2
  unfold parseHostAndPort
  rw [splitHost_render hhost]
  dsimp only
  rw [if_neg hfilled, if_pos rfl, hhost.parse_render]
  cases port with
  | none => simp [Endpoint.renderPort, hne, bind, Except.bind]
  | some p =>
      obtain ⟨hle, hdefault⟩ := hport p rfl
      simp [Endpoint.renderPort, hne, parsePort_toDigits hle hdefault, bind, Except.bind]

/-! ### Authorities -/

/-- Characters that can stand anywhere between the scheme and the path. -/
def isInner (c : Char) : Bool := 0x20 < c.toNat && !endsAuthority .network c

theorem isInner_of_isUserChar (h : isUserChar c = true) : isInner c = true := by
  have hall : ∀ n < 0x80, isUserChar (Char.ofNat n) = true → isInner (Char.ofNat n) = true := by
    decide +kernel
  have hascii : c.toNat < 0x80 := by
    simp only [isUserChar, Bool.and_eq_true, decide_eq_true_eq] at h
    exact h.1
  exact forall_ascii (p := fun c => isUserChar c = true → isInner c = true) hall hascii h

theorem isInner_of_isAllowed (h : Idna.isAllowed c = true) : isInner c = true ∧ c ≠ '@' := by
  have hall : ∀ n < 0x80, Idna.isAllowed (Char.ofNat n) = true →
      isInner (Char.ofNat n) = true ∧ Char.ofNat n ≠ '@' := by
    decide +kernel
  exact forall_ascii (p := fun c => Idna.isAllowed c = true → isInner c = true ∧ c ≠ '@') hall
    (Idna.ascii_of_isAllowed h) h

theorem isInner_of_mem_host [Idna] [LawfulIdna] (h : host.IsNormal) (hmem : c ∈ host.render) :
    isInner c = true ∧ c ≠ '@' := by
  cases host with
  | domain name =>
      exact isInner_of_isAllowed (LawfulIdna.isAllowed_of_mem h.1 c hmem)
  | ipv4 address =>
      exact isInner_of_isAllowed (Host.isAllowed_of_digit (Ipv4.mem_render hmem)).1
  | ipv6 pieces =>
      have hall : ∀ c ∈ '[' :: ']' :: ':' :: Digits.all, isInner c = true ∧ c ≠ '@' :=
        List.all_iff_forall_prop.mp (by decide)
      apply hall
      rcases List.mem_cons.mp hmem with rfl | hmem
      · exact List.mem_cons_self
      · rcases List.mem_append.mp hmem with hmem | hmem
        · exact List.mem_cons_of_mem _ (List.mem_cons_of_mem _ (List.mem_cons.mpr (Ipv6.mem_render hmem)))
        · exact List.mem_cons_of_mem _ (List.mem_cons.mpr (.inl (List.mem_singleton.mp hmem)))

theorem isInner_of_mem_renderPort (hmem : c ∈ Endpoint.renderPort port) :
    isInner c = true ∧ c ≠ '@' := by
  have hall : ∀ c ∈ ':' :: Digits.all, isInner c = true ∧ c ≠ '@' :=
    List.all_iff_forall_prop.mp (by decide)
  cases port with
  | none => cases hmem
  | some p =>
      apply hall
      rcases List.mem_cons.mp hmem with rfl | hmem
      · exact List.mem_cons_self
      · exact List.mem_cons_of_mem _ (Digits.mem_all_of_mem_toDigits (by decide) (by decide) hmem)

/-- User, host and port of an address in the order in which they are written. -/
def authority (address : Address) (host : Host) : List Char :=
  Endpoint.renderUser address.username address.password ++
    (host.render ++ Endpoint.renderPort address.port)

theorem IsNormal.isInner_of_mem [Idna] [LawfulIdna] (h : address.IsNormal) (hhost : host.IsNormal)
    (hmem : c ∈ address.authority host) : isInner c = true := by
  rcases List.mem_append.mp hmem with huser | hmem
  · rcases renderUser_cases h.username h.password with ⟨hname, hpassword⟩ | ⟨user, -, hrender, -, hchars⟩
    · rw [hname, hpassword] at huser
      cases huser
    · rw [hrender] at huser
      rcases List.mem_append.mp huser with huser | hat
      · rcases hchars c huser with hchar | rfl
        · exact isInner_of_isUserChar hchar
        · decide
      · obtain rfl := List.mem_singleton.mp hat
        decide
  · rcases List.mem_append.mp hmem with hmem | hmem
    · exact (isInner_of_mem_host hhost hmem).1
    · exact (isInner_of_mem_renderPort hmem).1

/-- An authority in normal form is read up to the path behind it. -/
theorem IsNormal.parseAuthority_append [Idna] [LawfulIdna] (h : address.IsNormal)
    (hhost : address.host = some host) (path : List Char) :
    parseAuthority .network address.scheme (address.authority host ++ '/' :: path) = .ok address := by
  obtain ⟨_, hhost', hnormal⟩ := h.host
  obtain rfl := Option.some.inj (hhost.symm.trans hhost')
  have htake : (address.authority host ++ '/' :: path).takeWhile
      (fun c => !endsAuthority .network c) = address.authority host := by
    have hinner : ∀ c ∈ address.authority host, (!endsAuthority .network c) = true := by
      intro c hmem
      have hinner := h.isInner_of_mem hnormal hmem
      rw [isInner, Bool.and_eq_true] at hinner
      exact hinner.2
    rw [List.takeWhile_append_of_pos hinner, List.takeWhile_cons_of_neg (by decide), List.append_nil]
  have hat : '@' ∉ host.render ++ Endpoint.renderPort address.port := by
    intro hmem
    rcases List.mem_append.mp hmem with hmem | hmem
    · exact (isInner_of_mem_host hnormal hmem).2 rfl
    · exact (isInner_of_mem_renderPort hmem).2 rfl
  have hread := parseHostAndPort_render hnormal h.port
  unfold parseAuthority
  rw [htake]
  dsimp only
  rcases renderUser_cases h.username h.password with ⟨hname, hpassword⟩ | ⟨user, hne, hrender, hsplit, -⟩
  · have hnobody : address.authority host = host.render ++ Endpoint.renderPort address.port := by
      rw [authority, hname, hpassword]
      rfl
    rw [hnobody, splitLastAt_of_not_mem hat]
    dsimp only
    rw [hread]
    obtain ⟨scheme, username, password, _, port⟩ := address
    dsimp only at hname hpassword hhost
    rw [hname, hpassword, hhost]
    rfl
  · have hsomebody : address.authority host =
        user ++ '@' :: (host.render ++ Endpoint.renderPort address.port) := by
      rw [authority, hrender, List.append_assoc, List.singleton_append]
    obtain ⟨c, others, rfl⟩ := List.exists_cons_of_ne_nil hne
    rw [hsomebody, splitLastAt_append hat]
    dsimp only
    rw [hread, hsplit]
    obtain ⟨scheme, username, password, _, port⟩ := address
    dsimp only at hhost
    rw [hhost]
    rfl

end GatewayClient.Address
