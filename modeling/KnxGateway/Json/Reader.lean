import KnxGateway.Json.Token

set_option autoImplicit false

/-! # Reading JSON values

A value is read from tokens by descent. The depth of the descent is bounded by the number of
tokens, which is all that limits the nesting of a value. A text denotes a value when its tokens
are exactly those of one value. -/

namespace KnxGateway.JsonValue

mutual

/-- A value at the start of the tokens, and the tokens behind it. -/
def readValue : Nat → List JsonToken → Option (JsonValue × List JsonToken)
  | 0, _ => none
  | _ + 1, .null :: rest => some (null, rest)
  | _ + 1, .bool value :: rest => some (bool value, rest)
  | _ + 1, .number literal :: rest => some (number literal, rest)
  | _ + 1, .string units :: rest => some (string units, rest)
  | _ + 1, .openArray :: .closeArray :: rest => some (array [], rest)
  | fuel + 1, .openArray :: rest => do
    let (elements, rest) ← readElements fuel rest
    return (array elements, rest)
  | _ + 1, .openObject :: .closeObject :: rest => some (object [], rest)
  | fuel + 1, .openObject :: rest => do
    let (members, rest) ← readMembers fuel rest
    return (object members, rest)
  | _ + 1, _ => none

/-- One or more elements up to the end of their array. -/
def readElements : Nat → List JsonToken → Option (List JsonValue × List JsonToken)
  | 0, _ => none
  | fuel + 1, tokens => do
    let (element, rest) ← readValue fuel tokens
    match rest with
    | .closeArray :: rest => return ([element], rest)
    | .comma :: rest =>
      let (elements, rest) ← readElements fuel rest
      return (element :: elements, rest)
    | _ => none

/-- One or more members up to the end of their object. -/
def readMembers :
    Nat → List JsonToken → Option (List (List JsonUnit × JsonValue) × List JsonToken)
  | 0, _ => none
  | fuel + 1, .string key :: .colon :: tokens => do
    let (value, rest) ← readValue fuel tokens
    match rest with
    | .closeObject :: rest => return ([(key, value)], rest)
    | .comma :: rest =>
      let (members, rest) ← readMembers fuel rest
      return ((key, value) :: members, rest)
    | _ => none
  | _ + 1, _ => none

end

/-- The value of a list of tokens, if they are those of one value. A level of nesting takes two
    turns of the descent and at least one token. -/
def ofTokens? (tokens : List JsonToken) : Option JsonValue :=
  match readValue (2 * tokens.length + 1) tokens with
  | some (value, []) => some value
  | _ => none

/-- The value that a text denotes. -/
def parse? (s : List Char) : Option JsonValue :=
  (JsonToken.lex s).bind ofTokens?

/-! ## Parts of a value -/

/-- The truth value, if it is one. -/
def bool? : JsonValue → Option Bool
  | bool value => some value
  | _ => none

/-- The text, if the value is a string without half characters. -/
def string? : JsonValue → Option String
  | string units => (JsonUnit.text? units).map String.ofList
  | _ => none

/-- The number, if it is written without sign, point and exponent and is at most `bound`. -/
def unsigned? (bound : Nat) : JsonValue → Option Nat
  | number literal =>
    if literal.all Char.isDigit && Nat.ofDigitChars 10 literal 0 ≤ bound then
      some (Nat.ofDigitChars 10 literal 0)
    else none
  | _ => none

/-- The texts, if the value is an array of strings. -/
def strings? : JsonValue → Option (List String)
  | array elements => elements.mapM string?
  | _ => none

end KnxGateway.JsonValue
