import KnxGateway.Text.Hex
import KnxGateway.Text.Numeral

set_option autoImplicit false

/-! # Internet addresses of peers

Peers are known by their IPv4 or IPv6 address and a port. An IPv4 address can also come in the
shape of an IPv6 address, which happens on sockets that serve both families; the canonical form
undoes this. Addresses are shown in the usual notations: four decimal numbers, and eight groups in
base 16 with the longest run of zero groups left out. -/

namespace KnxGateway

open Text

/-! ## Addresses -/

/-- An IPv4 address, by its four numbers. -/
structure Ipv4 where
  a : UInt8
  b : UInt8
  c : UInt8
  d : UInt8
deriving DecidableEq

/-- An IPv6 address. -/
structure Ipv6 where
  /-- The eight groups of the address. -/
  groups : List UInt16
  length_groups : groups.length = 8
deriving DecidableEq

/-- An address of either family. -/
inductive Ip where
  | v4 (address : Ipv4)
  | v6 (address : Ipv6)
deriving DecidableEq

/-- An address with a port. -/
structure SocketAddress where
  ip : Ip
  port : UInt16
deriving DecidableEq

namespace Ipv4

/-- Whether the address names the machine itself. -/
def isLoopback (ip : Ipv4) : Bool :=
  ip.a == 127

/-- The address in decimal notation. -/
def display (ip : Ipv4) : List Char :=
  decimal ip.a.toNat ++ '.' :: decimal ip.b.toNat ++ '.' :: decimal ip.c.toNat ++
    '.' :: decimal ip.d.toNat

/-- The two groups that an IPv4 address takes inside an IPv6 address. -/
def groups (ip : Ipv4) : List UInt16 :=
  [UInt16.ofNat (ip.a.toNat * 256 + ip.b.toNat), UInt16.ofNat (ip.c.toNat * 256 + ip.d.toNat)]

/-- The IPv4 address that two groups of an IPv6 address stand for. -/
def ofGroups (high low : UInt16) : Ipv4 :=
  ⟨UInt8.ofNat (high.toNat / 256), UInt8.ofNat (high.toNat % 256),
    UInt8.ofNat (low.toNat / 256), UInt8.ofNat (low.toNat % 256)⟩

theorem ofGroups_groups (ip : Ipv4) (high low : UInt16) (h : ip.groups = [high, low]) :
    ofGroups high low = ip := by
  obtain ⟨a, b, c, d⟩ := ip
  simp only [groups, List.cons.injEq, and_true] at h
  obtain ⟨rfl, rfl⟩ := h
  have := a.toNat_lt
  have := b.toNat_lt
  have := c.toNat_lt
  have := d.toNat_lt
  simp only [ofGroups, mk.injEq, ← UInt8.toNat_inj]
  simp
  omega

end Ipv4

namespace Ipv6

/-- The address that names the machine itself. -/
def loopback : Ipv6 :=
  ⟨[0, 0, 0, 0, 0, 0, 0, 1], rfl⟩

/-- Whether the address names the machine itself. -/
def isLoopback (ip : Ipv6) : Bool :=
  ip == loopback

/-- The IPv6 shape of an IPv4 address. -/
def ofIpv4 (ip : Ipv4) : Ipv6 :=
  ⟨[0, 0, 0, 0, 0, 0xFFFF] ++ ip.groups, rfl⟩

/-- The IPv4 address whose IPv6 shape this is, if it is one. -/
def toIpv4? (ip : Ipv6) : Option Ipv4 :=
  match ip.groups with
  | [0, 0, 0, 0, 0, 0xFFFF, high, low] => some (.ofGroups high low)
  | _ => none

/-- The number of zero groups from a position on. -/
def zerosFrom (groups : List UInt16) (start : Nat) : Nat :=
  ((groups.drop start).takeWhile fun group => group == 0).length

/-- The start and the length of the first longest run of zero groups. -/
def longestZeros (groups : List UInt16) : Nat × Nat :=
  (List.range groups.length).foldl
    (fun best start =>
      if best.2 < zerosFrom groups start then (start, zerosFrom groups start) else best)
    (0, 0)

/-- Groups in base 16 with colons between. -/
def displayGroups (groups : List UInt16) : List Char :=
  [':'].intercalate (groups.map fun group => hexDigits group.toNat)

/-- The address in base 16, with the first longest run of at least two zero groups left out. The
    IPv6 shape of an IPv4 address ends in decimal notation. -/
def display (ip : Ipv6) : List Char :=
  match ip.toIpv4? with
  | some v4 => "::ffff:".toList ++ v4.display
  | none =>
    let (start, length) := longestZeros ip.groups
    if 1 < length then
      displayGroups (ip.groups.take start) ++ "::".toList ++
        displayGroups (ip.groups.drop (start + length))
    else
      displayGroups ip.groups

theorem toIpv4?_ofIpv4 (ip : Ipv4) : (ofIpv4 ip).toIpv4? = some ip := by
  simp only [ofIpv4, toIpv4?, Ipv4.groups, List.cons_append, List.nil_append]
  exact congrArg some (Ipv4.ofGroups_groups ip _ _ rfl)

end Ipv6

namespace Ip

/-- The address with the IPv6 shape of an IPv4 address undone. -/
def canonical : Ip → Ip
  | v4 ip => .v4 ip
  | v6 ip =>
    match ip.toIpv4? with
    | some ip => .v4 ip
    | none => .v6 ip

/-- Whether the address names the machine itself. -/
def isLoopback : Ip → Bool
  | v4 ip => ip.isLoopback
  | v6 ip => ip.isLoopback

/-- The address as it is shown, as characters. -/
def display : Ip → List Char
  | v4 ip => ip.display
  | v6 ip => ip.display

def text (ip : Ip) : String :=
  String.ofList ip.display

/-- An IPv4 address and its IPv6 shape have one canonical form. -/
theorem canonical_v6_ofIpv4 (ip : Ipv4) : (v6 (.ofIpv4 ip)).canonical = (v4 ip).canonical := by
  simp only [canonical, Ipv6.toIpv4?_ofIpv4]

end Ip

/-- The address and the port, with brackets around an IPv6 address. -/
def SocketAddress.text (s : SocketAddress) : String :=
  match s.ip with
  | .v4 _ => s.ip.text ++ ":" ++ decimalText s.port.toNat
  | .v6 _ => "[" ++ s.ip.text ++ "]:" ++ decimalText s.port.toNat

end KnxGateway
