import KnxGateway.Text.Ascii
import KnxGateway.Text.Blank
import KnxGateway.Text.Numeral

set_option autoImplicit false

/-! # Data point ids

The bytes of a bus value mean nothing without a data point type. A type is named by a major
number, the base type, and a minor number, the variant; minor 0 names the base type itself. The
notations `5`, `5.1`, `dpt-5` and `dpst-5-1` are read in any letter case; ids are shown in the
last two. -/

namespace KnxGateway

/-- The name of a data point type. -/
structure DatapointId where
  /-- The base type. -/
  major : UInt16
  /-- The variant of the base type, or 0 for the base type itself. -/
  minor : UInt16
deriving DecidableEq

/-- A text that names no data point type. -/
structure DatapointIdError where
  given : String
deriving DecidableEq

def DatapointIdError.message (e : DatapointIdError) : String :=
  "wrong data point format, expected #, #.#, dpt-# or dpst-#-#: " ++ e.given

namespace DatapointId

open Text

/-- Whether the id names a base type. -/
def isBase (id : DatapointId) : Bool :=
  id.minor == 0

/-- The base type of the id. -/
def base (id : DatapointId) : DatapointId :=
  ⟨id.major, 0⟩

/-! ## Notation -/

/-- The id as it is shown, as characters. -/
def display (id : DatapointId) : List Char :=
  if id.isBase then
    "dpt-".toList ++ decimal id.major.toNat
  else
    "dpst-".toList ++ decimal id.major.toNat ++ '-' :: decimal id.minor.toNat

/-- The id as it is shown: `dpt-5` for a base type and `dpst-5-1` for a variant. -/
def text (id : DatapointId) : String :=
  String.ofList id.display

/-- One number of an id. -/
def readNumber? (s : List Char) : Option UInt16 :=
  (readUnsigned? maxUInt16 s).map UInt16.ofNat

/-- The two numbers of an id, written around a separator. -/
def readPair? (separator : Char) (s : List Char) : Option DatapointId := do
  let (left, right) ← cutAt? separator s
  return ⟨← readNumber? left, ← readNumber? right⟩

/-- Reads an id in any of the four notations, given without blanks and in lower case. -/
def read? (s : List Char) : Option DatapointId :=
  match "dpst-".toList.isPrefixOf? s with
  | some numbers => readPair? '-' numbers
  | none =>
    match "dpt-".toList.isPrefixOf? s with
    | some number => (readNumber? number).map (⟨·, 0⟩)
    | none => if '.' ∈ s then readPair? '.' s else (readNumber? s).map (⟨·, 0⟩)

/-- Reads an id in any of the four notations, in any letter case and with blanks around it. -/
def parse (s : String) : Except DatapointIdError DatapointId :=
  match read? (lower (trim s.toList)) with
  | some id => .ok id
  | none => .error ⟨s⟩

/-! ## Bytes -/

/-- The four bytes of an id in a frame, each number high byte first. -/
def bytes (id : DatapointId) : List UInt8 :=
  [UInt8.ofNat (id.major.toNat / 256), UInt8.ofNat (id.major.toNat % 256),
    UInt8.ofNat (id.minor.toNat / 256), UInt8.ofNat (id.minor.toNat % 256)]

/-- The id that four bytes stand for. -/
def ofBytes (majorHigh majorLow minorHigh minorLow : UInt8) : DatapointId :=
  ⟨UInt16.ofNat (majorHigh.toNat * 256 + majorLow.toNat),
    UInt16.ofNat (minorHigh.toNat * 256 + minorLow.toNat)⟩

end DatapointId

end KnxGateway
