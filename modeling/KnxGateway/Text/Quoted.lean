import KnxGateway.Text.Hex
import KnxGateway.Text.Unprintable

set_option autoImplicit false

/-! # Quoted texts

Messages that repeat what a client sent show it between double quotes. Quotes, backslashes and the
common controls are written with a backslash; every character without a picture of its own is
written as its code point in base 16. A list of texts stands in brackets. -/

namespace KnxGateway.Text

/-- A character as its code point. -/
def codePoint (c : Char) : List Char :=
  "\\u\x7b".toList ++ hexDigits c.toNat ++ ['\x7d']

/-- A character inside double quotes. -/
def quotedChar (c : Char) : List Char :=
  if c = '\x00' then ['\\', '0']
  else if c = '\t' then ['\\', 't']
  else if c = '\r' then ['\\', 'r']
  else if c = '\n' then ['\\', 'n']
  else if c = '"' ∨ c = '\\' then ['\\', c]
  else if hasPicture c then [c]
  else codePoint c

/-- A text between double quotes. -/
def quoted (s : List Char) : List Char :=
  '"' :: s.flatMap quotedChar ++ ['"']

/-- A string between double quotes. -/
def quotedText (s : String) : String :=
  String.ofList (quoted s.toList)

/-- A list of strings between brackets, each between double quotes. -/
def quotedList (l : List String) : String :=
  "[" ++ ", ".intercalate (l.map quotedText) ++ "]"

end KnxGateway.Text
