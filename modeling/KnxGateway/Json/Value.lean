import KnxGateway.Text.Hex

set_option autoImplicit false

/-! # JSON values

A JSON text denotes a value of six kinds. Two kinds keep more than their meaning, because the
reader of a configuration decides late what it needs: a number keeps its literal, and a string
keeps its characters and escaped code units apart, for two escaped surrogates make one character
and a lone one makes none.

`render` writes a value without blanks. Inside strings it escapes quotes, backslashes and control
characters, and nothing else. -/

namespace KnxGateway

open Text

/-! ## Strings -/

/-- A piece of a JSON string. -/
inductive JsonUnit where
  /-- A character that stands for itself, or its short escape. -/
  | char (c : Char)
  /-- A code unit of 16 bits, escaped as four digits. -/
  | escaped (unit : Nat)
deriving DecidableEq

namespace JsonUnit

/-- Whether a code unit is the first half of a character. -/
def isHigh (unit : Nat) : Bool :=
  0xD800 ≤ unit && unit ≤ 0xDBFF

/-- Whether a code unit is the second half of a character. -/
def isLow (unit : Nat) : Bool :=
  0xDC00 ≤ unit && unit ≤ 0xDFFF

/-- The character of two halves. -/
def pair (high low : Nat) : Char :=
  Char.ofNat (0x10000 + (high - 0xD800) * 0x400 + (low - 0xDC00))

/-- The text of a string, unless half a character stands alone in it. -/
def text? : List JsonUnit → Option (List Char)
  | [] => some []
  | char c :: rest => (text? rest).map (c :: ·)
  | escaped unit :: rest =>
    if isLow unit then none
    else if isHigh unit then
      match rest with
      | escaped low :: rest =>
        if isLow low then (text? rest).map (pair unit low :: ·) else none
      | _ => none
    else (text? rest).map (Char.ofNat unit :: ·)

/-- The string of a text. -/
def ofText (s : List Char) : List JsonUnit :=
  s.map char

/-- A control character as its code unit. -/
def renderEscaped (unit : Nat) : List Char :=
  ['\\', 'u', Nat.digitChar (unit / 4096 % 16), Nat.digitChar (unit / 256 % 16),
    Nat.digitChar (unit / 16 % 16), Nat.digitChar (unit % 16)]

/-- A character inside a string. -/
def renderChar (c : Char) : List Char :=
  if c = '"' ∨ c = '\\' then ['\\', c]
  else if c = '\x08' then ['\\', 'b']
  else if c = '\x0c' then ['\\', 'f']
  else if c = '\n' then ['\\', 'n']
  else if c = '\r' then ['\\', 'r']
  else if c = '\t' then ['\\', 't']
  else if c.toNat < 0x20 then renderEscaped c.toNat
  else [c]

/-- A piece inside a string. -/
def render : JsonUnit → List Char
  | char c => renderChar c
  | escaped unit => renderEscaped unit

/-- A string between double quotes. -/
def renderString (units : List JsonUnit) : List Char :=
  '"' :: units.flatMap render ++ ['"']

end JsonUnit

/-! ## Values -/

/-- What a JSON text denotes. -/
inductive JsonValue where
  | null
  | bool (value : Bool)
  /-- A number, by its literal. -/
  | number (literal : List Char)
  | string (units : List JsonUnit)
  | array (elements : List JsonValue)
  /-- The members in their order; a key may occur several times. -/
  | object (members : List (List JsonUnit × JsonValue))

namespace JsonValue

mutual

/-- The text of a value, without blanks. -/
def render : JsonValue → List Char
  | null => "null".toList
  | bool true => "true".toList
  | bool false => "false".toList
  | number literal => literal
  | string units => JsonUnit.renderString units
  | array elements => '[' :: renderElements elements ++ [']']
  | object members => '\x7b' :: renderMembers members ++ ['\x7d']

def renderElements : List JsonValue → List Char
  | [] => []
  | [element] => render element
  | element :: rest => render element ++ ',' :: renderElements rest

def renderMembers : List (List JsonUnit × JsonValue) → List Char
  | [] => []
  | [(key, value)] => JsonUnit.renderString key ++ ':' :: render value
  | (key, value) :: rest =>
    JsonUnit.renderString key ++ ':' :: render value ++ ',' :: renderMembers rest

end

end JsonValue

end KnxGateway
