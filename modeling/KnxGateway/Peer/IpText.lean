import KnxGateway.Peer.Ip

set_option autoImplicit false

/-! # Reading internet addresses

The reader is strict. A number of an IPv4 address has at most three digits and no leading zero. A
group of an IPv6 address has at most four digits; one run of groups may be left out, which stands
for at least one group; and the last two groups may be written as an IPv4 address. There are no
blanks. An IPv6 address in front of a port stands in brackets, where the number of a zone may follow
it; the zone is read and left out. -/

namespace KnxGateway.Ip

open Text

/-- One character. -/
def readSeparator (separator : Char) : List Char → Option (List Char)
  | c :: rest => if c = separator then some rest else none
  | [] => none

/-! ## IPv4 -/

/-- One number of an IPv4 address. -/
def readOctet (s : List Char) : Option (UInt8 × List Char) :=
  let digits := s.takeWhile Char.isDigit
  let value := Nat.ofDigitChars 10 digits 0
  if digits.isEmpty || 3 < digits.length then none
  else if digits.head? == some '0' && 1 < digits.length then none
  else if 255 < value then none
  else some (UInt8.ofNat value, s.dropWhile Char.isDigit)

/-- An IPv4 address at the start of a text. -/
def readIpv4 (s : List Char) : Option (Ipv4 × List Char) := do
  let (a, s) ← readOctet s
  let s ← readSeparator '.' s
  let (b, s) ← readOctet s
  let s ← readSeparator '.' s
  let (c, s) ← readOctet s
  let s ← readSeparator '.' s
  let (d, s) ← readOctet s
  return (⟨a, b, c, d⟩, s)

/-! ## IPv6 -/

/-- One group of an IPv6 address. -/
def readGroup (s : List Char) : Option (UInt16 × List Char) :=
  let digits := s.takeWhile fun c => (hexValue? c).isSome
  let value := (digits.filterMap hexValue?).foldl (fun n digit => n * 16 + digit) 0
  if digits.isEmpty || 4 < digits.length then none
  else some (UInt16.ofNat value, s.dropWhile fun c => (hexValue? c).isSome)

/-- The colon in front of every group but the first. -/
def readColon (first : Bool) (s : List Char) : Option (List Char) :=
  if first then some s else readSeparator ':' s

/-- Groups with colons between. -/
structure GroupRun where
  groups : List UInt16
  /-- Whether the last two of them were written as an IPv4 address. -/
  endsInIpv4 : Bool
  /-- The text behind them. -/
  rest : List Char

/-- As many groups as there are, up to `room`. Where at least two groups have room, an IPv4 address
    is tried first; it ends the run. -/
def readGroups (first : Bool) : Nat → List Char → GroupRun
  | 0, s => ⟨[], false, s⟩
  | room + 1, s =>
    let ipv4 := if room = 0 then none else (readColon first s).bind readIpv4
    match ipv4 with
    | some (ip, rest) => ⟨ip.groups, true, rest⟩
    | none =>
      match (readColon first s).bind readGroup with
      | none => ⟨[], false, s⟩
      | some (group, rest) =>
        let run := readGroups false room rest
        ⟨group :: run.groups, run.endsInIpv4, run.rest⟩

/-- The IPv6 address of the given groups, if they are eight. -/
def ofGroups? (groups : List UInt16) : Option Ipv6 :=
  if h : groups.length = 8 then some ⟨groups, h⟩ else none

/-- An IPv6 address at the start of a text. -/
def readIpv6 (s : List Char) : Option (Ipv6 × List Char) := do
  let head := readGroups true 8 s
  if head.groups.length = 8 then
    return (← ofGroups? head.groups, head.rest)
  else if head.endsInIpv4 then
    none
  else
    let s ← readSeparator ':' head.rest
    let s ← readSeparator ':' s
    let tail := readGroups true (7 - head.groups.length) s
    let zeros := List.replicate (8 - head.groups.length - tail.groups.length) 0
    return (← ofGroups? (head.groups ++ zeros ++ tail.groups), tail.rest)

/-! ## Whole texts -/

/-- What was read, if nothing is left behind it. -/
def atEnd? {α : Type} : α × List Char → Option α
  | (value, []) => some value
  | (_, _ :: _) => none

/-- The address that a text denotes, as characters. -/
def read? (s : List Char) : Option Ip :=
  match readIpv4 s with
  | some found => (atEnd? found).map .v4
  | none => ((readIpv6 s).bind atEnd?).map .v6

/-- The address that a text denotes. -/
def ofText? (s : String) : Option Ip :=
  read? s.toList

/-! ## Addresses with ports -/

/-- A port behind its colon, up to the end of the text. -/
def readPort? (s : List Char) : Option UInt16 :=
  match s with
  | ':' :: digits =>
    if digits.all Char.isDigit then (readUnsigned? maxUInt16 digits).map UInt16.ofNat else none
  | _ => none

/-- The number of a zone. -/
def readZone? (s : List Char) : Option Nat :=
  if s.all Char.isDigit then readUnsigned? maxUInt32 s else none

/-- The text behind the zone, if there is one. -/
def dropZone : List Char → List Char
  | '%' :: s =>
    if (readZone? (s.takeWhile Char.isDigit)).isSome then s.dropWhile Char.isDigit else '%' :: s
  | s => s

/-- The address and port that a text denotes, with brackets around an IPv6 address. -/
def readSocket? (s : List Char) : Option SocketAddress :=
  match s with
  | '[' :: rest => do
    let (ip, rest) ← readIpv6 rest
    let rest ← readSeparator ']' (dropZone rest)
    return ⟨.v6 ip, ← readPort? rest⟩
  | _ => do
    let (ip, rest) ← readIpv4 s
    return ⟨.v4 ip, ← readPort? rest⟩

end KnxGateway.Ip
