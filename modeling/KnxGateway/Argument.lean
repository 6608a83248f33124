import KnxGateway.Text.Blank
import KnxGateway.Text.Utf8

set_option autoImplicit false

/-! # Argument lists

A write request carries its arguments as one text. Blanks separate the arguments. A backslash in
front of a character takes that character as it is, and a pair of double quotes takes the blanks
between them as they are. Inside double quotes a backslash is an ordinary character unless a
double quote follows it, so that paths and patterns need no doubling.

`tokenize` reads such a text from bytes and `quote` writes one. An empty argument has no written
form: `quote` leaves it out, and `tokenize` never yields one. -/

namespace KnxGateway.Argument

open Text

/-! ## Scanning -/

/-- What the scanner remembers between two characters. -/
structure Mode where
  /-- A double quote is open. -/
  quoted : Bool
  /-- A backslash takes the next character as it is. -/
  escaped : Bool
deriving DecidableEq

/-- The mode at the start of a text, and between arguments. -/
def Mode.plain : Mode :=
  ⟨false, false⟩

/-- What becomes of a character. -/
inductive Effect where
  /-- It belongs to the current argument. -/
  | keep
  /-- It ends the current argument. -/
  | cut
  /-- It only changes the mode. -/
  | drop
deriving DecidableEq

/-- Reads one character, in sight of the one after it. -/
def Mode.step (mode : Mode) (c : Char) (next : Option Char) : Effect × Mode :=
  if c = '\\' then
    if (mode.quoted && next != some '"') || mode.escaped then (.keep, ⟨mode.quoted, false⟩)
    else (.drop, ⟨mode.quoted, true⟩)
  else if c = '"' then
    if mode.escaped then (.keep, ⟨mode.quoted, false⟩) else (.drop, ⟨!mode.quoted, false⟩)
  else if isBlank c then
    if mode.escaped || mode.quoted then (.keep, ⟨mode.quoted, false⟩)
    else (.cut, ⟨mode.quoted, false⟩)
  else
    (.keep, ⟨mode.quoted, false⟩)

/-- The mode after a text. -/
def Mode.after (mode : Mode) : List Char → Mode
  | [] => mode
  | c :: rest => (mode.step c rest.head?).2.after rest

/-- Puts an argument in front of the others, unless it is empty. -/
def consNonempty (word : List Char) (others : List (List Char)) : List (List Char) :=
  if word.isEmpty then others else word :: others

/-- The rest of the current argument, and the arguments after it. -/
def scan (mode : Mode) : List Char → List Char × List (List Char)
  | [] => ([], [])
  | c :: rest =>
    let (effect, mode) := mode.step c rest.head?
    let (word, others) := scan mode rest
    match effect with
    | .keep => (c :: word, others)
    | .cut => ([], consNonempty word others)
    | .drop => (word, others)

/-- The arguments of a text. -/
def words (s : List Char) : List (List Char) :=
  consNonempty (scan .plain s).1 (scan .plain s).2

/-- The arguments that a byte string stands for. Defects of its UTF-8 are kept as replacement
    characters. -/
def tokenize (bytes : List UInt8) : List String :=
  (words (Utf8.decode bytes)).map String.ofList

/-! ## Quoting -/

/-- Whether a character needs a backslash in front of it. -/
def isSpecial (c : Char) : Bool :=
  c == '\\' || c == '"' || isBlank c

/-- One argument with a backslash in front of each special character. -/
def escape (word : List Char) : List Char :=
  word.flatMap fun c => if isSpecial c then ['\\', c] else [c]

/-- The written form of a list of arguments: those that are not empty, with a space between. -/
def join (words : List (List Char)) : List Char :=
  [' '].intercalate ((words.filter fun word => !word.isEmpty).map escape)

/-- The bytes that stand for a list of arguments. -/
def quote (arguments : List String) : List UInt8 :=
  Utf8.encode (join (arguments.map String.toList))

/-! ## The scan and empty arguments -/

theorem not_mem_consNonempty {word : List Char} {others : List (List Char)}
    (h : [] ∉ others) : [] ∉ consNonempty word others := by
  unfold consNonempty
  split
  · exact h
  · next hword =>
    intro hmem
    rcases List.mem_cons.1 hmem with rfl | hmem
    · simp at hword
    · exact h hmem

theorem not_mem_scan (mode : Mode) (s : List Char) : [] ∉ (scan mode s).2 := by
  induction s generalizing mode with
  | nil => simp [scan]
  | cons c rest ih =>
    have := ih (mode.step c rest.head?).2
    simp only [scan]
    cases (mode.step c rest.head?).1 with
    | keep => exact this
    | cut => exact not_mem_consNonempty this
    | drop => exact this

/-- No argument of a text is empty. -/
theorem ne_nil_of_mem_words {s word : List Char} (h : word ∈ words s) : word ≠ [] := by
  rintro rfl
  exact not_mem_consNonempty (not_mem_scan .plain s) h

end KnxGateway.Argument
