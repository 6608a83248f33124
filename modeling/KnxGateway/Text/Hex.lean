set_option autoImplicit false

/-! # Hexadecimal bytes

Bytes are shown with two digits each, in lower case inside error messages and in upper case in
the display of bus values. Reading accepts both cases. -/

namespace KnxGateway.Text

/-! ## Writing -/

/-- The two lower-case digits of a byte. -/
def hexPair (b : UInt8) : List Char :=
  [Nat.digitChar (b.toNat / 16), Nat.digitChar (b.toNat % 16)]

/-- The two upper-case digits of a byte. -/
def hexPairUpper (b : UInt8) : List Char :=
  (hexPair b).map Char.toUpper

/-- The digits of a number in base 16, in lower case and without leading zeros. -/
def hexDigits (n : Nat) : List Char :=
  Nat.toDigits 16 n

/-- A byte as error messages show it: the mark `0x` and two lower-case digits. -/
def hexCode (b : UInt8) : String :=
  String.ofList ('0' :: 'x' :: hexPair b)

/-! ## Reading -/

/-- The value of a hexadecimal digit of either case. -/
def hexValue? (c : Char) : Option Nat :=
  if '0' ≤ c ∧ c ≤ '9' then some (c.toNat - '0'.toNat)
  else if 'a' ≤ c ∧ c ≤ 'f' then some (c.toNat - 'a'.toNat + 10)
  else if 'A' ≤ c ∧ c ≤ 'F' then some (c.toNat - 'A'.toNat + 10)
  else none

/-- The bytes that pairs of digits stand for. There is no answer when a character is not a digit
    or a digit is left over. -/
def readHexPairs? : List Char → Option (List UInt8)
  | [] => some []
  | [_] => none
  | high :: low :: rest => do
    let h ← hexValue? high
    let l ← hexValue? low
    let bytes ← readHexPairs? rest
    return UInt8.ofNat (16 * h + l) :: bytes

/-- A digit counts less than 16. -/
theorem hexValue?_lt {c : Char} {n : Nat} (h : hexValue? c = some n) : n < 16 := by
  have bound (low high : Char) (le : c ≤ high) :
      c.toNat - low.toNat ≤ high.toNat - low.toNat :=
    Nat.sub_le_sub_right le _
  have digit := bound '0' '9'
  have lower := bound 'a' 'f'
  have upper := bound 'A' 'F'
  grind [hexValue?]

end KnxGateway.Text
