set_option autoImplicit false

/-! # Unsigned numerals

Numbers are written in decimal with the fewest digits. They are read more generously: one plus
sign may stand in front, and leading zeros are allowed. A minus sign is never allowed, not even
in front of zero, and every reader states the greatest value it accepts. -/

namespace KnxGateway.Text

/-- The greatest 16-bit number. -/
def maxUInt16 : Nat := 65535

/-- The greatest 32-bit number. -/
def maxUInt32 : Nat := 4294967295

/-- The greatest 64-bit number. -/
def maxUInt64 : Nat := 18446744073709551615

/-- How many numbers a given number of bytes can hold. -/
def byteValues : Nat → Nat
  | 0 => 1
  | bytes + 1 => 256 * byteValues bytes

/-! ## Writing -/

/-- The decimal digits of a number, without leading zeros. -/
def decimal (n : Nat) : List Char :=
  Nat.toDigits 10 n

/-- The decimal text of a number. -/
def decimalText (n : Nat) : String :=
  String.ofList (decimal n)

/-! ## Reading -/

/-- A numeral without the plus sign that may stand in front of it. -/
def dropPlus : List Char → List Char
  | '+' :: rest => rest
  | digits => digits

/-- The value of a numeral, if the text is one and its value is at most `bound`. -/
def readUnsigned? (bound : Nat) (s : List Char) : Option Nat :=
  let digits := dropPlus s
  if !digits.isEmpty && digits.all Char.isDigit && Nat.ofDigitChars 10 digits 0 ≤ bound then
    some (Nat.ofDigitChars 10 digits 0)
  else
    none

theorem le_of_readUnsigned? {bound n : Nat} {s : List Char} (h : readUnsigned? bound s = some n) :
    n ≤ bound := by
  unfold readUnsigned? at h
  grind

/-! ## Reading what was written -/

theorem decimal_ne_nil (n : Nat) : decimal n ≠ [] :=
  Nat.toDigits_ne_nil

theorem isDigit_of_mem_decimal {n : Nat} {c : Char} (h : c ∈ decimal n) : c.isDigit :=
  Nat.isDigit_of_mem_toDigits (by decide) (by decide) h

/-- The digits of a number have its value. -/
theorem ofDigitChars_decimal (n : Nat) : Nat.ofDigitChars 10 (decimal n) 0 = n :=
  Nat.ofDigitChars_toDigits (by decide) (by decide)

theorem all_isDigit_decimal (n : Nat) : (decimal n).all Char.isDigit = true :=
  List.all_eq_true.2 fun _ hc => isDigit_of_mem_decimal hc

theorem dropPlus_decimal (n : Nat) : dropPlus (decimal n) = decimal n := by
  unfold dropPlus
  split
  · next rest h =>
    have : '+'.isDigit := isDigit_of_mem_decimal (n := n) (by simp [h])
    simp at this
  · rfl

/-- A written number reads back, under every bound it meets. -/
theorem readUnsigned?_decimal {bound n : Nat} (h : n ≤ bound) :
    readUnsigned? bound (decimal n) = some n := by
  simp [readUnsigned?, dropPlus_decimal, ofDigitChars_decimal, all_isDigit_decimal, h,
    decimal_ne_nil]

end KnxGateway.Text
