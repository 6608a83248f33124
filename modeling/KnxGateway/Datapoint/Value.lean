import KnxGateway.Datapoint.Id
import KnxGateway.Text.Hex

set_option autoImplicit false

/-! # Data point values

A value is what a write sends to the bus: its bytes, together with the type that explains them
and the text that a person gave for it. A rendered value is what a read shows: a text and the unit
of the type. Bytes that no type explains are shown in base 16. -/

namespace KnxGateway

open Text

/-- A value that can be written to the bus. -/
structure DatapointValue where
  /-- The type that explains the bytes. -/
  id : DatapointId
  /-- The bytes that travel on the bus. -/
  bytes : List UInt8
  /-- The value as a person reads it, without its unit. -/
  text : String
deriving DecidableEq

/-- A value as a read shows it. -/
structure RenderedValue where
  /-- The value as a person reads it. -/
  text : String
  /-- The unit of its type, or the empty text. -/
  unit : String
deriving DecidableEq

/-- The text and, if there is one, the unit behind a space. -/
def RenderedValue.display (v : RenderedValue) : String :=
  if v.unit.isEmpty then v.text else v.text ++ " " ++ v.unit

theorem RenderedValue.display_eq (v : RenderedValue) :
    v.display = if v.unit = "" then v.text else v.text ++ " " ++ v.unit := by
  simp only [display, String.isEmpty_iff]

/-! ## Bytes as text -/

/-- The pairs of digits of a byte string with a space between them. -/
def hexDump (bytes : List UInt8) : List Char :=
  match bytes with
  | [] => []
  | _ => '0' :: 'x' :: [' '].intercalate (bytes.map hexPairUpper)

/-- A byte string as a person reads it: `0x0A 03`, or the empty text for no bytes. -/
def formatHex (bytes : List UInt8) : String :=
  String.ofList (hexDump bytes)

/-! ## Numbers as bytes -/

/-- The lowest `width` bytes of a number, high byte first. -/
def bigEndian : Nat → Nat → List UInt8
  | 0, _ => []
  | width + 1, n => bigEndian width (n / 256) ++ [UInt8.ofNat n]

/-- The number that a byte string stands for, high byte first. -/
def ofBigEndian (bytes : List UInt8) : Nat :=
  bytes.foldl (fun n b => n * 256 + b.toNat) 0

@[simp] theorem length_bigEndian (width n : Nat) : (bigEndian width n).length = width := by
  induction width generalizing n with
  | zero => rfl
  | succ width ih => simp [bigEndian, ih]

/-- A number that fits into the bytes reads back from them. -/
theorem ofBigEndian_bigEndian {width n : Nat} (h : n < byteValues width) :
    ofBigEndian (bigEndian width n) = n := by
  induction width generalizing n with
  | zero =>
    have hzero : n = 0 := Nat.lt_one_iff.1 h
    simp [bigEndian, ofBigEndian, hzero]
  | succ width ih =>
    have := ih (n := n / 256) (by rw [byteValues] at h; omega)
    simp only [ofBigEndian] at this ⊢
    simp only [bigEndian, List.foldl_append, this, List.foldl_cons, List.foldl_nil]
    simp
    omega

end KnxGateway
