import KnxGateway.Datapoint.Value

set_option autoImplicit false

/-! # Data point types

A data point type reads the arguments of a write into bytes, and renders the bytes of a read as
text. The gateway brings three families along: booleans with two labels, unsigned numbers, and raw
bytes. Raw bytes are the type of last resort, for every id that is not registered. Whoever runs a
gateway may register foreign types too, of which nothing is known but what the gateway asks of
them.

Percentages are stored in one byte. A percentage of 100 is the byte 255, and both directions round
to the nearest number. -/

namespace KnxGateway

open Text

/-! ## Unsigned numbers -/

/-- How an unsigned type lays out its numbers, and the unit it shows. -/
inductive UnsignedLayout where
  /-- One byte as it is. -/
  | byte (unit : String)
  /-- Two bytes, high byte first. -/
  | word (unit : String)
  /-- A percentage, scaled to one byte. -/
  | percent
deriving DecidableEq

namespace UnsignedLayout

/-- The number of bytes. -/
def width : UnsignedLayout → Nat
  | byte _ | percent => 1
  | word _ => 2

/-- The greatest number that can be written. -/
def maximum : UnsignedLayout → Nat
  | byte _ => 255
  | word _ => 65535
  | percent => 100

/-- The unit shown behind a number. -/
def unit : UnsignedLayout → String
  | byte unit | word unit => unit
  | percent => "%"

/-- The number that is stored for a written one. -/
def scale : UnsignedLayout → Nat → Nat
  | byte _, n | word _, n => n
  | percent, n => (n * 255 + 50) / 100

/-- The number that is shown for a stored one. -/
def unscale : UnsignedLayout → Nat → Nat
  | byte _, n | word _, n => n
  | percent, n => (n * 100 + 127) / 255

/-- A number that can be written fits into the bytes. -/
theorem scale_lt {layout : UnsignedLayout} {n : Nat} (h : n ≤ layout.maximum) :
    layout.scale n < byteValues layout.width := by
  cases layout <;> simp only [maximum] at h <;> simp only [scale, width, byteValues] <;> omega

/-- Scaling loses no number that can be written. -/
theorem unscale_scale {layout : UnsignedLayout} {n : Nat} (h : n ≤ layout.maximum) :
    layout.unscale (layout.scale n) = n := by
  cases layout <;> simp only [maximum] at h <;> simp only [scale, unscale]
  omega

end UnsignedLayout

/-! ## Errors -/

/-- Why arguments or bytes do not fit a data point type. -/
inductive Mismatch where
  /-- The argument is neither of the labels of a boolean type. -/
  | notLabel (off on given : String)
  /-- The bytes of a boolean value are not exactly one. -/
  | notOneByte (actual : Nat)
  /-- The argument is not an unsigned number. -/
  | notNumber (given : String)
  /-- The number is greater than the type allows. -/
  | outOfRange (value maximum : Nat)
  /-- The bytes of an unsigned number are not as many as its type has. -/
  | wrongWidth (expected actual : Nat)
  /-- The argument is not a sequence of hexadecimal bytes. -/
  | notHex (given : String)
  /-- A reason that a foreign type gives. -/
  | other (reason : String)
deriving DecidableEq

def Mismatch.message : Mismatch → String
  | notLabel off on given => "expected '" ++ off ++ "' or '" ++ on ++ "' but got '" ++ given ++ "'"
  | notOneByte actual => "expected 1 byte but got " ++ decimalText actual
  | notNumber given => "not an unsigned number: '" ++ given ++ "'"
  | outOfRange value maximum =>
    decimalText value ++ " is out of range 0..=" ++ decimalText maximum
  | wrongWidth expected actual =>
    "expected " ++ decimalText expected ++ " bytes but got " ++ decimalText actual
  | notHex given => "not a hex byte sequence: '" ++ given ++ "'"
  | other reason => reason

/-- Why a type reads or renders no value. -/
inductive DatapointError where
  /-- The arguments or bytes do not fit the type of the given name. -/
  | incompatible (name : String) (mismatch : Mismatch)
  /-- The type of the given name needs an argument and there is none, or a blank one. -/
  | missingArgument (name : String)
deriving DecidableEq

namespace DatapointError

def kind : DatapointError → String
  | incompatible _ _ => "Incompatible"
  | missingArgument _ => "MissingArgument"

def message : DatapointError → String
  | incompatible name mismatch =>
    "value incompatible with data point type '" ++ name ++ "': " ++ mismatch.message
  | missingArgument name => "missing argument for data point type '" ++ name ++ "'"

end DatapointError

/-! ## Types -/

/-- A data point type that comes from outside, by what the gateway asks of it. -/
structure ForeignType where
  /-- The id under which the type is registered. -/
  id : DatapointId
  name : String
  /-- The unit shown behind a value, or the empty text. -/
  unit : String
  parse : List String → Except DatapointError DatapointValue
  render : List UInt8 → Except DatapointError RenderedValue

/-- A data point type. -/
inductive DatapointType where
  /-- One bit, with a label for each value. -/
  | boolean (id : DatapointId) (off on : String)
  | unsigned (id : DatapointId) (layout : UnsignedLayout)
  /-- Bytes as they are. -/
  | raw
  /-- A type of any other kind. -/
  | foreign (type : ForeignType)

namespace DatapointType

/-- Whether the type is one of the three families that the gateway brings along. -/
def isNative : DatapointType → Bool
  | boolean _ _ _ | unsigned _ _ | raw => true
  | foreign _ => false

/-- The id under which the type is registered. -/
def id : DatapointType → DatapointId
  | boolean id _ _ | unsigned id _ => id
  | raw => ⟨0, 0⟩
  | foreign type => type.id

def name : DatapointType → String
  | boolean id _ _ | unsigned id _ => id.text
  | raw => "raw"
  | foreign type => type.name

/-- The unit shown behind a value, or the empty text. -/
def unit : DatapointType → String
  | unsigned _ layout => layout.unit
  | boolean _ _ _ | raw => ""
  | foreign type => type.unit

end DatapointType

namespace DatapointType

/-! ## Reading arguments -/

/-- The first argument without the blanks around it, if there is one and it is not blank. -/
def firstArgument? (arguments : List String) : Option (List Char) :=
  match arguments with
  | [] => none
  | argument :: _ =>
    let given := trim argument.toList
    if given.isEmpty then none else some given

/-- The value of a boolean argument, which is a label, a digit or a word of truth. Letter case is
    folded in the argument but not in the labels. -/
def readBoolean? (off on : String) (given : String) : Option Bool :=
  if given = "1" ∨ given = "true" ∨ given = on then some true
  else if given = "0" ∨ given = "false" ∨ given = off then some false
  else none

/-- The hexadecimal digits of an argument, without the mark that may stand in front of them. -/
def dropHexMark : List Char → List Char
  | '0' :: 'x' :: digits | '0' :: 'X' :: digits => digits
  | digits => digits

/-- The bytes of one argument of the raw type. -/
def readHex? (argument : String) : Option (List UInt8) :=
  let digits := dropHexMark (trim argument.toList)
  if digits.isEmpty then none else readHexPairs? digits

/-- The bytes of all arguments of the raw type, or the first argument that is no byte sequence. -/
def readHexArguments : List String → Except String (List UInt8)
  | [] => .ok []
  | argument :: rest =>
    match readHex? argument with
    | none => .error argument
    | some bytes => (readHexArguments rest).map (bytes ++ ·)

/-- Reads the arguments of a write. Types other than the raw one use the first argument only. -/
def parse (dpt : DatapointType) (arguments : List String) :
    Except DatapointError DatapointValue :=
  match dpt with
  | boolean id off on =>
    match firstArgument? arguments with
    | none => .error (.missingArgument dpt.name)
    | some argument =>
      let given := String.ofList (lower argument)
      match readBoolean? off on given with
      | some true => .ok ⟨id, [1], on⟩
      | some false => .ok ⟨id, [0], off⟩
      | none => .error (.incompatible dpt.name (.notLabel off on given))
  | unsigned id layout =>
    match firstArgument? arguments with
    | none => .error (.missingArgument dpt.name)
    | some argument =>
      match readUnsigned? maxUInt32 argument with
      | none => .error (.incompatible dpt.name (.notNumber (String.ofList argument)))
      | some n =>
        if layout.maximum < n then
          .error (.incompatible dpt.name (.outOfRange n layout.maximum))
        else
          .ok ⟨id, bigEndian layout.width (layout.scale n), decimalText n⟩
  | raw =>
    if arguments.isEmpty then .error (.missingArgument dpt.name)
    else
      match readHexArguments arguments with
      | .error argument => .error (.incompatible dpt.name (.notHex argument))
      | .ok bytes => .ok ⟨dpt.id, bytes, formatHex bytes⟩
  | foreign type => type.parse arguments

/-! ## Rendering bytes -/

/-- Renders the bytes of a read. -/
def render (dpt : DatapointType) (bytes : List UInt8) : Except DatapointError RenderedValue :=
  match dpt with
  | boolean _ off on =>
    match bytes with
    | [b] => .ok ⟨if b.toNat % 2 = 1 then on else off, dpt.unit⟩
    | _ => .error (.incompatible dpt.name (.notOneByte bytes.length))
  | unsigned _ layout =>
    if bytes.length = layout.width then
      .ok ⟨decimalText (layout.unscale (ofBigEndian bytes)), dpt.unit⟩
    else
      .error (.incompatible dpt.name (.wrongWidth layout.width bytes.length))
  | raw => .ok ⟨formatHex bytes, dpt.unit⟩
  | foreign type => type.render bytes

end DatapointType

end KnxGateway
