import KnxGateway.Text.Blank
import KnxGateway.Text.Numeral

set_option autoImplicit false

/-! # Group addresses

A group address names one shared value on the bus. It is a 16-bit word with three fields: a main
group of five bits, a middle group of three and a sub group of eight. The word 0 is reserved for
broadcasts: it can travel in a frame, but no request may name it and no notation yields it.

A person writes an address in one of three notations, `main/middle/sub`, `main/sub` with a sub
group of eleven bits, or the bare word. It is always shown in the first. -/

namespace KnxGateway

/-- The address of a shared value on the bus. -/
structure GroupAddress where
  /-- The word that travels on the bus. -/
  raw : UInt16
deriving DecidableEq

/-- Why a text or a choice of fields names no group address. -/
inductive AddressError where
  | empty
  /-- The text follows none of the notations, or names the reserved address. -/
  | invalid (text : String)
  /-- The main group needs more than five bits. -/
  | mainOverflow (main : Nat)
  /-- The middle group needs more than three bits. -/
  | middleOverflow (middle : Nat)
  /-- The sub group, or the bare word, needs more bits than its notation gives it. -/
  | subOverflow (sub : Nat)
deriving DecidableEq

namespace AddressError

def kind : AddressError → String
  | empty => "Empty"
  | invalid _ => "Invalid"
  | mainOverflow _ => "MainOverflow"
  | middleOverflow _ => "MiddleOverflow"
  | subOverflow _ => "SubOverflow"

def message : AddressError → String
  | empty => "group address is empty"
  | invalid text => "invalid group address: " ++ text
  | mainOverflow main =>
    "main group must be between 0 and 31 but was: " ++ Text.decimalText main
  | middleOverflow middle =>
    "middle group must be between 0 and 7 but was: " ++ Text.decimalText middle
  | subOverflow sub => "sub group out of range: " ++ Text.decimalText sub

end AddressError

namespace GroupAddress

open Text

/-! ## Fields -/

def main (a : GroupAddress) : Nat :=
  a.raw.toNat / 2048

def middle (a : GroupAddress) : Nat :=
  a.raw.toNat / 256 % 8

def sub (a : GroupAddress) : Nat :=
  a.raw.toNat % 256

/-- Whether a request may name the address. -/
def isValid (a : GroupAddress) : Bool :=
  a.raw != 0

theorem main_le (a : GroupAddress) : a.main ≤ 31 := by
  have := a.raw.toNat_lt
  simp only [main]
  omega

theorem middle_le (a : GroupAddress) : a.middle ≤ 7 := by
  simp only [middle]
  omega

theorem sub_le (a : GroupAddress) : a.sub ≤ 255 := by
  simp only [sub]
  omega

/-- The three fields determine the word. -/
theorem raw_eq (a : GroupAddress) : a.raw.toNat = a.main * 2048 + a.middle * 256 + a.sub := by
  simp only [main, middle, sub]
  omega

/-- The address in the notation `main/middle/sub`. -/
def text (a : GroupAddress) : String :=
  String.ofList (decimal a.main ++ '/' :: decimal a.middle ++ '/' :: decimal a.sub)

/-! ## Bytes -/

/-- The two bytes of an address in a frame, high byte first. -/
def bytes (a : GroupAddress) : List UInt8 :=
  [UInt8.ofNat (a.raw.toNat / 256), UInt8.ofNat (a.raw.toNat % 256)]

/-- The address that a high and a low byte stand for. -/
def ofBytes (high low : UInt8) : GroupAddress :=
  ⟨UInt16.ofNat (high.toNat * 256 + low.toNat)⟩

/-! ## Construction -/

/-- The address whose word is `n`, which is to be below 2 ^ 16. -/
def ofNat (n : Nat) : GroupAddress :=
  ⟨UInt16.ofNat n⟩

/-- The address with the given main, middle and sub group. -/
def threeLevel (main middle sub : Nat) : Except AddressError GroupAddress :=
  if 31 < main then .error (.mainOverflow main)
  else if 7 < middle then .error (.middleOverflow middle)
  else if 255 < sub then .error (.subOverflow sub)
  else if main = 0 ∧ middle = 0 ∧ sub = 0 then .error (.invalid "0/0/0")
  else .ok (ofNat (main * 2048 + middle * 256 + sub))

/-- The address with the given main group and a sub group of eleven bits. -/
def twoLevel (main sub : Nat) : Except AddressError GroupAddress :=
  if 31 < main then .error (.mainOverflow main)
  else if 2047 < sub then .error (.subOverflow sub)
  else if main = 0 ∧ sub = 0 then .error (.invalid "0/0")
  else .ok (ofNat (main * 2048 + sub))

/-! ## Reading -/

/-- Reads an address in any of the three notations. Blanks may stand around the text and around
    each of its parts. A part that is no number is reported before a part out of range. -/
def parse (s : String) : Except AddressError GroupAddress :=
  let given := trim s.toList
  if given.isEmpty then .error .empty
  else
    match (given.splitOn '/').mapM fun part => readUnsigned? maxUInt32 (trim part) with
    | some [main, middle, sub] => threeLevel main middle sub
    | some [main, sub] => twoLevel main sub
    | some [word] =>
      if word = 0 then .error (.invalid (String.ofList given))
      else if word ≤ maxUInt16 then .ok (ofNat word)
      else .error (.subOverflow word)
    | _ => .error (.invalid (String.ofList given))

end GroupAddress

end KnxGateway
