import KnxGateway.Json.Value

set_option autoImplicit false

/-! # JSON tokens

A JSON text is first cut into tokens: the six signs, the three words, numbers and strings. Only
the space, the tabulator and the two line ends may stand between tokens. Two tokens may touch,
since no JSON text has two values side by side and the reader of values refuses those.

Numbers have no plus sign, no leading zero, and digits on both sides of the point. Strings hold no
control characters. -/

namespace KnxGateway

open Text

/-- A token of a JSON text. -/
inductive JsonToken where
  | openArray
  | closeArray
  | openObject
  | closeObject
  | comma
  | colon
  | null
  | bool (value : Bool)
  | number (literal : List Char)
  | string (units : List JsonUnit)
deriving DecidableEq

namespace JsonToken

/-- Whether a character may stand between tokens. -/
def isBlank (c : Char) : Bool :=
  c == ' ' || c == '\t' || c == '\n' || c == '\r'

/-! ## Strings -/

/-- The character of a short escape. -/
def shortEscape? : Char → Option Char
  | '"' => some '"'
  | '\\' => some '\\'
  | '/' => some '/'
  | 'b' => some '\x08'
  | 'f' => some '\x0c'
  | 'n' => some '\n'
  | 'r' => some '\r'
  | 't' => some '\t'
  | _ => none

/-- The code unit of four digits. -/
def codeUnit? (a b c d : Char) : Option Nat := do
  return (((← hexValue? a) * 16 + (← hexValue? b)) * 16 + (← hexValue? c)) * 16 + (← hexValue? d)

/-- The string up to the closing quote, and the text behind it. -/
def lexString : List Char → Option (List JsonUnit × List Char)
  | [] => none
  | '"' :: rest => some ([], rest)
  | '\\' :: 'u' :: a :: b :: c :: d :: rest => do
    let unit ← codeUnit? a b c d
    let (units, rest) ← lexString rest
    return (.escaped unit :: units, rest)
  | '\\' :: escape :: rest => do
    let c ← shortEscape? escape
    let (units, rest) ← lexString rest
    return (.char c :: units, rest)
  | c :: rest =>
    if c = '\\' ∨ c.toNat < 0x20 then none
    else do
      let (units, rest) ← lexString rest
      return (.char c :: units, rest)

/-! ## Numbers -/

/-- One or more digits, and the text behind them. -/
def lexDigits (s : List Char) : Option (List Char × List Char) :=
  let digits := s.takeWhile Char.isDigit
  if digits.isEmpty then none else some (digits, s.dropWhile Char.isDigit)

/-- The digits in front of the point. -/
def lexInteger : List Char → Option (List Char × List Char)
  | '0' :: rest => some (['0'], rest)
  | s => lexDigits s

/-- The point and the digits behind it, if there is a point. -/
def lexFraction : List Char → Option (List Char × List Char)
  | '.' :: rest => (lexDigits rest).map fun (digits, rest) => ('.' :: digits, rest)
  | s => some ([], s)

/-- The digits of an exponent, with the sign that may stand in front of them. -/
def lexSignedDigits : List Char → Option (List Char × List Char)
  | '+' :: rest => (lexDigits rest).map fun (digits, rest) => ('+' :: digits, rest)
  | '-' :: rest => (lexDigits rest).map fun (digits, rest) => ('-' :: digits, rest)
  | s => lexDigits s

/-- The exponent, if there is one. -/
def lexExponent : List Char → Option (List Char × List Char)
  | 'e' :: rest => (lexSignedDigits rest).map fun (digits, rest) => ('e' :: digits, rest)
  | 'E' :: rest => (lexSignedDigits rest).map fun (digits, rest) => ('E' :: digits, rest)
  | s => some ([], s)

/-- A number without its sign. -/
def lexMagnitude (s : List Char) : Option (List Char × List Char) := do
  let (integer, s) ← lexInteger s
  let (fraction, s) ← lexFraction s
  let (exponent, s) ← lexExponent s
  return (integer ++ fraction ++ exponent, s)

/-- A number, and the text behind it. -/
def lexNumber : List Char → Option (List Char × List Char)
  | '-' :: rest => (lexMagnitude rest).map fun (literal, rest) => ('-' :: literal, rest)
  | s => lexMagnitude s

/-! ## Texts -/

/-- The first token of a text that starts with one, and the text behind it. -/
def lexOne : List Char → Option (JsonToken × List Char)
  | [] => none
  | '[' :: rest => some (openArray, rest)
  | ']' :: rest => some (closeArray, rest)
  | '\x7b' :: rest => some (openObject, rest)
  | '\x7d' :: rest => some (closeObject, rest)
  | ',' :: rest => some (comma, rest)
  | ':' :: rest => some (colon, rest)
  | 'n' :: 'u' :: 'l' :: 'l' :: rest => some (null, rest)
  | 't' :: 'r' :: 'u' :: 'e' :: rest => some (bool true, rest)
  | 'f' :: 'a' :: 'l' :: 's' :: 'e' :: rest => some (bool false, rest)
  | '"' :: rest => (lexString rest).map fun (units, rest) => (string units, rest)
  | s => (lexNumber s).map fun (literal, rest) => (number literal, rest)

/-- The tokens of a text that has at most the given number of them. -/
def lexSome : Nat → List Char → Option (List JsonToken)
  | 0, s => if (s.dropWhile isBlank).isEmpty then some [] else none
  | fuel + 1, s =>
    let s := s.dropWhile isBlank
    if s.isEmpty then some []
    else do
      let (token, rest) ← lexOne s
      let tokens ← lexSome fuel rest
      return token :: tokens

/-- The tokens of a text. Each takes at least one character. -/
def lex (s : List Char) : Option (List JsonToken) :=
  lexSome s.length s

end JsonToken

end KnxGateway
