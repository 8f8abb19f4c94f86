import Mathlib.Data.Bool.AllAny
import GatewayClient.Address.Host
import GatewayClient.Proofs.Address.Idna
import GatewayClient.Proofs.Address.Ipv6
/-!
# Hosts there and back

A host that was read is in normal form: a domain goes by its own name, which is no number, and a
number fits its kind. A host in normal form is read from what is written for it.

Main statements: `isNormal_of_parse`, `IsNormal.parse_render`.
-/

namespace GatewayClient.Host

open Idna (toAscii? isAllowed)

variable {c : Char} {text name : List Char} {host : Host}

/-- A host as it is read. -/
def IsNormal [Idna] : Host → Prop
  | .domain name => toAscii? name = some name ∧ name ≠ [] ∧ Ipv4.endsInNumber name = false
  | .ipv4 address => address < 0x100000000
  | .ipv6 pieces => Ipv6.IsAddress pieces

/-! ## Domains -/

theorem decode?_eq_self (h : ∀ c ∈ text, c.toNat < 0x80 ∧ c ≠ '%') : decode? text = some text := by
  have hencode := Utf8.encode_ascii fun c hmem => (h c hmem).1
  have hpercent : 0x25 ∉ text.map asciiByte := by
    intro hmem
    obtain ⟨c, hmem, hbyte⟩ := List.mem_map.mp hmem
    obtain ⟨hascii, hne⟩ := h c hmem
    exact hne (by rw [← ofNat_asciiByte hascii, hbyte]; rfl)
  have hdecode : Percent.decode (Utf8.encode (String.ofList text)) = Utf8.encode (String.ofList text) := by
    rw [hencode]
    exact Percent.decode_eq_self hpercent
  rw [decode?, hdecode, Utf8.decode?_encode]
  simp

theorem isAllowed_of_digit (h : c = '.' ∨ c ∈ Digits.all) : isAllowed c = true ∧ c.toLower = c := by
  have hall : ∀ c ∈ '.' :: Digits.all, isAllowed c = true ∧ c.toLower = c :=
    List.all_iff_forall_prop.mp (by decide)
  exact hall c (List.mem_cons.mpr h)

/-! ## Reading -/

variable [Idna]

theorem isNormal_of_parseBracketed (h : parseBracketed text = .ok host) : host.IsNormal := by
  unfold parseBracketed at h
  split at h
  case h_1 pieces _ hpieces =>
    cases h
    exact Ipv6.isAddress_of_parse? hpieces
  case h_2 => cases h

/-- A host that was read is in normal form. -/
theorem isNormal_of_parse [LawfulIdna] (h : parse text = .ok host) : host.IsNormal := by
  unfold parse at h
  split at h
  case h_1 => exact isNormal_of_parseBracketed h
  case h_2 =>
    split at h
    case h_1 | h_2 => cases h
    case h_3 name hne hname =>
      obtain ⟨decoded, -, hdomain⟩ := Option.bind_eq_some_iff.mp hname
      split at h
      case isFalse hnumber =>
        cases h
        exact ⟨LawfulIdna.toAscii?_self hdomain, hne, by simpa using hnumber⟩
      case isTrue =>
        split at h
        case h_1 address haddress =>
          cases h
          exact Ipv4.lt_of_parse? haddress
        case h_2 => cases h

/-! ## Writing -/

variable [LawfulIdna]

theorem parse_of_name (hdomain : toAscii? name = some name) (hne : name ≠ []) :
    parse name = if Ipv4.endsInNumber name then
        match Ipv4.parse? name with
        | some address => .ok (.ipv4 address)
        | none => .error .invalidIpv4
      else .ok (.domain name) := by
  have hchars := LawfulIdna.isAllowed_of_mem hdomain
  have hdecode : decode? name = some name := by
    apply decode?_eq_self
    intro c hmem
    have hallowed := hchars c hmem
    exact ⟨Idna.ascii_of_isAllowed hallowed, by rintro rfl; cases hallowed⟩
  unfold parse
  split
  case h_1 rest =>
    have hbracket := hchars '[' List.mem_cons_self
    cases hbracket
  case h_2 =>
    rw [hdecode, Option.bind_some, hdomain]
    split
    case h_1 hnone => cases hnone
    case h_2 hnil => exact absurd (Option.some.inj hnil) hne
    case h_3 name' _ hname =>
      cases hname
      rfl

/-- What is written for a number is also a name. -/
theorem toAscii?_ipv4 (address : Nat) :
    toAscii? (Ipv4.render address) = some (Ipv4.render address) := by
  have hchars := fun c hmem => isAllowed_of_digit (@Ipv4.mem_render address c hmem)
  have hlower : (Ipv4.render address).map Char.toLower = Ipv4.render address :=
    (List.map_congr_left fun c hmem => (hchars c hmem).2).trans (List.map_id _)
  have hlabels : ∀ label ∈ splitAt '.' (Ipv4.render address), ¬"xn--".toList <+: label := by
    rw [Ipv4.splitAt_render]
    rintro label hlabel hprefix
    obtain ⟨byte, -, rfl⟩ := List.mem_map.mp hlabel
    have hmem : 'x' ∈ Nat.toDigits 10 byte := hprefix.subset List.mem_cons_self
    exact Digits.not_mem_toDigits (by decide) (by decide) (by decide) byte hmem
  have hname := LawfulIdna.toAscii?_of_isAllowed (fun c hmem => (hchars c hmem).1) (by rwa [hlower])
  rwa [hlower] at hname

/-- A host in normal form is read from what is written for it. -/
theorem IsNormal.parse_render (h : host.IsNormal) : parse host.render = .ok host := by
  cases host with
  | domain name =>
      obtain ⟨hdomain, hne, hnumber⟩ := h
      rw [render, parse_of_name hdomain hne, hnumber]
      rfl
  | ipv4 address =>
      have hne := Ipv4.render_ne_nil address
      rw [render, parse_of_name (toAscii?_ipv4 address) hne, Ipv4.endsInNumber_render,
        Ipv4.parse?_render h]
      rfl
  | ipv6 pieces =>
      have hpieces := Ipv6.parse?_render h
      simp [render, parse, parseBracketed, hpieces]

omit [LawfulIdna] in
theorem IsNormal.render_ne_nil (h : host.IsNormal) : host.render ≠ [] := by
  cases host with
  | domain name => exact h.2.1
  | ipv4 address => exact Ipv4.render_ne_nil address
  | ipv6 pieces => exact List.cons_ne_nil _ _

end GatewayClient.Host
