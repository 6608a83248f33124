import KnxGateway.Text.Numeral

set_option autoImplicit false

/-! # Spans of time

A span of time is shown in whole milliseconds below one second, and in seconds from there on, with
as few decimal places as it needs. -/

namespace KnxGateway.Text

/-- The decimal places of a number of thousandths below one, with the point in front of them, or
    nothing when they are all zero. -/
def thousandths (n : Nat) : List Char :=
  if n = 0 then []
  else '.' :: ((decimal (1000 + n)).tail.reverse.dropWhile fun c => c = '0').reverse

/-- The text of a span of time, given in milliseconds. -/
def durationText (milliseconds : Nat) : String :=
  if milliseconds = 0 then "0ns"
  else if milliseconds < 1000 then decimalText milliseconds ++ "ms"
  else
    String.ofList (decimal (milliseconds / 1000) ++ thousandths (milliseconds % 1000)) ++ "s"

end KnxGateway.Text
