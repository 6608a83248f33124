import KnxGateway.Json.Token

set_option autoImplicit false

/-! # The grammar of JSON texts

A value has many texts: blanks may stand between any two tokens, and the characters of a string may
be escaped in several ways. The grammar says which texts a value has, rule by rule and without the
lexer. Numbers are the exception, since a value keeps the literal of a number.

Every text of a value has the same tokens, which can be told from the value alone. -/

namespace KnxGateway

open Text

/-! ## Numbers -/

namespace JsonToken

/-- One or more digits. -/
def IsDigits (s : List Char) : Prop :=
  s ≠ [] ∧ ∀ c ∈ s, c.isDigit = true

/-- The digits in front of the point have no leading zero. -/
inductive IsInteger : List Char → Prop where
  | zero : IsInteger ['0']
  | digits {s : List Char} : IsDigits s → s.head? ≠ some '0' → IsInteger s

inductive IsFraction : List Char → Prop where
  | none : IsFraction []
  | some {digits : List Char} : IsDigits digits → IsFraction ('.' :: digits)

inductive IsExponent : List Char → Prop where
  | none : IsExponent []
  | some {mark : Char} {sign digits : List Char} : mark = 'e' ∨ mark = 'E' →
      sign = [] ∨ sign = ['+'] ∨ sign = ['-'] → IsDigits digits →
      IsExponent (mark :: (sign ++ digits))

/-- The literal of a number. -/
inductive IsNumber : List Char → Prop where
  | mk {sign integer fraction exponent : List Char} : sign = [] ∨ sign = ['-'] →
      IsInteger integer → IsFraction fraction → IsExponent exponent →
      IsNumber (sign ++ (integer ++ fraction ++ exponent))

end JsonToken

/-! ## Strings -/

namespace JsonUnit

/-- The letters of the short escapes, and the characters that they stand for. -/
def shortEscapes : List (Char × Char) :=
  [('"', '"'), ('\\', '\\'), ('/', '/'), ('b', '\x08'), ('f', '\x0c'), ('n', '\n'), ('r', '\r'),
    ('t', '\t')]

/-- The texts of a piece of a string. -/
inductive HasText : JsonUnit → List Char → Prop where
  | plain {c : Char} : c ≠ '"' → c ≠ '\\' → 0x20 ≤ c.toNat → HasText (.char c) [c]
  | short {escape c : Char} : (escape, c) ∈ shortEscapes → HasText (.char c) ['\\', escape]
  | digits {a b c d : Char} {w x y z : Nat} : hexValue? a = some w → hexValue? b = some x →
      hexValue? c = some y → hexValue? d = some z →
      HasText (.escaped (((w * 16 + x) * 16 + y) * 16 + z)) ['\\', 'u', a, b, c, d]

/-- The texts of several pieces behind one another. -/
inductive PiecesHaveText : List JsonUnit → List Char → Prop where
  | nil : PiecesHaveText [] []
  | cons {unit : JsonUnit} {units : List JsonUnit} {s t : List Char} : unit.HasText s →
      PiecesHaveText units t → PiecesHaveText (unit :: units) (s ++ t)

/-- The texts of a string, with its quotes. -/
inductive StringHasText : List JsonUnit → List Char → Prop where
  | mk {units : List JsonUnit} {s : List Char} : PiecesHaveText units s →
      StringHasText units ('"' :: (s ++ ['"']))

end JsonUnit

/-! ## Values -/

namespace JsonValue

/-- A text of nothing but blanks, as they may stand between tokens. -/
def IsGap (s : List Char) : Prop :=
  ∀ c ∈ s, c = ' ' ∨ c = '\t' ∨ c = '\n' ∨ c = '\r'

mutual

/-- The texts of a value, without blanks on either side. -/
inductive HasText : JsonValue → List Char → Prop where
  | null : HasText .null "null".toList
  | true : HasText (.bool Bool.true) "true".toList
  | false : HasText (.bool Bool.false) "false".toList
  | number {literal : List Char} : JsonToken.IsNumber literal → HasText (.number literal) literal
  | string {units : List JsonUnit} {s : List Char} : JsonUnit.StringHasText units s →
      HasText (.string units) s
  | emptyArray {gap : List Char} : IsGap gap → HasText (.array []) ('[' :: (gap ++ [']']))
  | array {elements : List JsonValue} {s : List Char} : ElementsHaveText elements s →
      HasText (.array elements) ('[' :: (s ++ [']']))
  | emptyObject {gap : List Char} : IsGap gap → HasText (.object []) ('\x7b' :: (gap ++ ['\x7d']))
  | object {members : List (List JsonUnit × JsonValue)} {s : List Char} :
      MembersHaveText members s → HasText (.object members) ('\x7b' :: (s ++ ['\x7d']))

/-- The texts of one or more elements, with commas between them. -/
inductive ElementsHaveText : List JsonValue → List Char → Prop where
  | one {element : JsonValue} {before s after : List Char} : IsGap before → element.HasText s →
      IsGap after → ElementsHaveText [element] (before ++ (s ++ after))
  | more {element : JsonValue} {elements : List JsonValue} {before s after t : List Char} :
      IsGap before → element.HasText s → IsGap after → ElementsHaveText elements t →
      ElementsHaveText (element :: elements) (before ++ (s ++ (after ++ ',' :: t)))

/-- The texts of one or more members, with commas between them. -/
inductive MembersHaveText : List (List JsonUnit × JsonValue) → List Char → Prop where
  | one {key : List JsonUnit} {value : JsonValue} {before k mid gap s after : List Char} :
      IsGap before → JsonUnit.StringHasText key k → IsGap mid → IsGap gap → value.HasText s →
      IsGap after →
      MembersHaveText [(key, value)] (before ++ (k ++ (mid ++ ':' :: (gap ++ (s ++ after)))))
  | more {key : List JsonUnit} {value : JsonValue} {members : List (List JsonUnit × JsonValue)}
      {before k mid gap s after t : List Char} :
      IsGap before → JsonUnit.StringHasText key k → IsGap mid → IsGap gap → value.HasText s →
      IsGap after → MembersHaveText members t →
      MembersHaveText ((key, value) :: members)
        (before ++ (k ++ (mid ++ ':' :: (gap ++ (s ++ (after ++ ',' :: t))))))

end

theorem ElementsHaveText.ne_nil {elements : List JsonValue} {s : List Char}
    (h : ElementsHaveText elements s) : elements ≠ [] := by
  cases h <;> exact List.cons_ne_nil _ _

theorem MembersHaveText.ne_nil {members : List (List JsonUnit × JsonValue)} {s : List Char}
    (h : MembersHaveText members s) : members ≠ [] := by
  cases h <;> exact List.cons_ne_nil _ _

/-! ## The tokens of a value -/

mutual

/-- The tokens of a value, whatever its text. -/
def tokens : JsonValue → List JsonToken
  | null => [.null]
  | bool value => [.bool value]
  | number literal => [.number literal]
  | string units => [.string units]
  | array elements => .openArray :: (elementTokens elements ++ [.closeArray])
  | object members => .openObject :: (memberTokens members ++ [.closeObject])

def elementTokens : List JsonValue → List JsonToken
  | [] => []
  | [element] => tokens element
  | element :: rest => tokens element ++ .comma :: elementTokens rest

def memberTokens : List (List JsonUnit × JsonValue) → List JsonToken
  | [] => []
  | [(key, value)] => .string key :: .colon :: tokens value
  | (key, value) :: rest => .string key :: .colon :: (tokens value ++ .comma :: memberTokens rest)

end

theorem elementTokens_cons {element : JsonValue} {rest : List JsonValue} (h : rest ≠ []) :
    elementTokens (element :: rest) = tokens element ++ .comma :: elementTokens rest := by
  cases rest with
  | nil => exact absurd rfl h
  | cons next rest => rfl

theorem memberTokens_cons {key : List JsonUnit} {value : JsonValue}
    {rest : List (List JsonUnit × JsonValue)} (h : rest ≠ []) :
    memberTokens ((key, value) :: rest) =
      .string key :: .colon :: (tokens value ++ .comma :: memberTokens rest) := by
  cases rest with
  | nil => exact absurd rfl h
  | cons next rest => rfl

end JsonValue

end KnxGateway
