set_option autoImplicit false

/-! # Blank characters and trimming

A character is blank when it has the Unicode property `White_Space`. The property is wider than
the four ASCII blanks: it holds the two no-break spaces, the spaces of U+2000, the line and
paragraph separators and the ideographic space. It does not hold the zero-width characters. Every
text that the gateway reads from a person is trimmed by this rule, and the scanner of write
arguments splits by it. -/

namespace KnxGateway.Text

/-! ## The property -/

/-- The code points with the property `White_Space`, as closed ranges in ascending order. -/
def blankRanges : List (Nat × Nat) :=
  [(0x09, 0x0D), (0x20, 0x20), (0x85, 0x85), (0xA0, 0xA0), (0x1680, 0x1680), (0x2000, 0x200A),
    (0x2028, 0x2029), (0x202F, 0x202F), (0x205F, 0x205F), (0x3000, 0x3000)]

/-- Whether a code point lies in one of the given closed ranges. -/
def inRanges (ranges : List (Nat × Nat)) (n : Nat) : Bool :=
  ranges.any fun range => range.1 ≤ n && n ≤ range.2

/-- Whether a character is blank. -/
def isBlank (c : Char) : Bool :=
  inRanges blankRanges c.toNat

/-- No visible ASCII character is blank. -/
theorem isBlank_of_visible {c : Char} (hlow : 0x21 ≤ c.toNat) (hhigh : c.toNat ≤ 0x7E) :
    isBlank c = false := by
  simp [isBlank, inRanges, blankRanges]
  omega

/-! ## Trimming -/

/-- The text without the blanks in front of it. -/
def trimStart (s : List Char) : List Char :=
  s.dropWhile isBlank

/-- The text without the blanks behind it. -/
def trimEnd (s : List Char) : List Char :=
  (s.reverse.dropWhile isBlank).reverse

/-- The text without the blanks on either side of it. -/
def trim (s : List Char) : List Char :=
  trimEnd (trimStart s)

/-- Whether a text has no character that is not blank. -/
def isAllBlank (s : List Char) : Bool :=
  s.all isBlank

/-- A string without the blanks on either side of it. -/
def trimmed (s : String) : String :=
  String.ofList (trim s.toList)

theorem toList_trimmed (s : String) : (trimmed s).toList = trim s.toList := by
  simp [trimmed]

end KnxGateway.Text
