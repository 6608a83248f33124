import KnxGateway.Peer.IpText
import KnxGateway.Text.Ascii

set_option autoImplicit false

/-! # Hosts given by number

Where a host is asked for, an address may be written more freely than elsewhere. An IPv4 address
has one to four parts with points between. The last part stands for all bytes that the others
leave, and each part is a number in base 16 behind `0x`, in base 8 behind `0`, and in base 10
otherwise. An IPv6 address may be followed by the number of a zone, which no address that one can
listen on needs. -/

namespace KnxGateway.Ip

open Text

/-! ## IPv4 -/

/-- The value of digits in a base of at most 16, which are at least one. -/
def readDigits? (base : Nat) (s : List Char) : Option Nat :=
  if s.isEmpty then none
  else
    s.foldlM (fun n c => (hexValue? c).bind fun digit =>
      if digit < base then some (n * base + digit) else none) 0

/-- The value of one part of an IPv4 address. -/
def readPart? : List Char → Option Nat
  | '0' :: 'x' :: digits | '0' :: 'X' :: digits => readDigits? 16 digits
  | '0' :: digits => readDigits? 8 ('0' :: digits)
  | digits => readDigits? 10 digits

/-- The number of 32 bits that the parts of an IPv4 address stand for. `bytes` are the bytes that
    the parts share, of which the last part takes all that are left. -/
def joinParts? (bytes : Nat) : List Nat → Option Nat
  | [] => none
  | [last] => if last < byteValues bytes then some last else none
  | part :: rest =>
    if part < 256 ∧ 1 < bytes then
      (joinParts? (bytes - 1) rest).map fun low => part * byteValues (bytes - 1) + low
    else none

/-- The IPv4 address that a host stands for. -/
def readHostIpv4? (s : List Char) : Option Ipv4 := do
  let number ← joinParts? 4 (← (s.splitOn '.').mapM readPart?)
  return .ofGroups (UInt16.ofNat (number / 65536)) (UInt16.ofNat (number % 65536))

/-! ## IPv6 -/

/-- The IPv6 address that a host stands for. -/
def readHostIpv6? (s : List Char) : Option Ipv6 :=
  match cutAt? '%' s with
  | none => (readIpv6 s).bind atEnd?
  | some (address, zone) =>
    if (readZone? zone).isSome then (readIpv6 address).bind atEnd? else none

/-- The address that a host given by number stands for. -/
def readHost? (s : List Char) : Option Ip :=
  ((readHostIpv4? s).map .v4).or ((readHostIpv6? s).map .v6)

end KnxGateway.Ip
