import KnxGateway.Text.Ascii

set_option autoImplicit false

/-! # Options in front of values

The arguments of a command are options first and values behind them. An option has a letter and a
name: the value of `-g` is the rest of the argument or the next argument, with or without an
equals sign in the first case, and the value of `--group-address` stands behind an equals sign or
is the next argument. An argument of two hyphens separates options from values.

A command may take values that look like options. An argument is then an option only if its name,
or each of its letters, belongs to an option. From the first value on, everything is a value.

An option may be given once. It is checked when the next option comes, or in the end, so that one
who asks for information gets it in spite of a later fault. -/

namespace KnxGateway

open Text

/-- The options of a command. -/
structure OptionTable where
  /-- The letters and names of the options with a value. -/
  valued : List (Char × String)
  /-- The letters and names of the options that ask for information. -/
  inquiries : List (Char × String)
  /-- Whether values may look like options. -/
  takesAnyValue : Bool

/-- What an argument can be. -/
inductive Word where
  /-- An option, with its value if that is part of the argument. -/
  | option (letter : Char) (value : Option String)
  /-- An option that asks for information. -/
  | inquiry
  | separator
  | value
  /-- Something that looks like an option and is none. -/
  | unknown
deriving DecidableEq

/-- Why a command is not carried out. -/
inductive Halt where
  /-- Information was asked for. -/
  | information
  /-- The arguments are no command. -/
  | misuse
deriving DecidableEq

namespace OptionTable

/-! ## Words -/

/-- Whether a letter belongs to an option. -/
def hasLetter (t : OptionTable) (letter : Char) : Bool :=
  (t.valued ++ t.inquiries).any fun option => option.1 = letter

/-- The word of an argument that looks like an option and is none. -/
def stranger (t : OptionTable) : Word :=
  if t.takesAnyValue then .value else .unknown

/-- The word of an argument that starts with two hyphens. -/
def wordOfName (t : OptionTable) (name : String) (value : Option String) : Word :=
  match t.valued.find? fun option => option.2 = name with
  | some (letter, _) => .option letter value
  | none =>
    if t.inquiries.any fun option => option.2 = name then
      if value.isNone then .inquiry else .unknown
    else t.stranger

/-- The value in an argument behind the letter of its option. -/
def attachedValue? : List Char → Option String
  | [] => none
  | '=' :: value => some (String.ofList value)
  | value => some (String.ofList value)

/-- The word of an argument that starts with one hyphen. -/
def wordOfLetters (t : OptionTable) (letter : Char) (rest : List Char) : Word :=
  if t.takesAnyValue && !(letter :: rest).all t.hasLetter then .value
  else if t.valued.any fun option => option.1 = letter then .option letter (attachedValue? rest)
  else if t.hasLetter letter then .inquiry
  else .unknown

/-- The word of an argument in front of all values. -/
def word (t : OptionTable) (argument : String) : Word :=
  match argument.toList with
  | ['-', '-'] => .separator
  | '-' :: '-' :: named =>
    match cutAt? '=' named with
    | some (name, value) => t.wordOfName (String.ofList name) (some (String.ofList value))
    | none => t.wordOfName (String.ofList named) none
  | '-' :: letter :: rest => t.wordOfLetters letter rest
  | _ => .value

end OptionTable

/-! ## Options that were given -/

/-- The options that were given, of which the latest is still to be checked. -/
structure GivenOptions where
  /-- The letters and values of the options that were checked. -/
  checked : List (Char × String)
  /-- The letter and value of the latest option. -/
  latest : Option (Char × String)

namespace GivenOptions

/-- No options. -/
def none : GivenOptions :=
  ⟨[], .none⟩

/-- Checks the latest option. -/
def check (g : GivenOptions) : Except Halt GivenOptions :=
  match g.latest with
  | .none => .ok g
  | some (letter, value) =>
    if g.checked.any fun option => option.1 = letter then .error .misuse
    else .ok ⟨(letter, value) :: g.checked, .none⟩

/-- Adds an option behind those that were given. -/
def add (g : GivenOptions) (letter : Char) (value : String) : Except Halt GivenOptions :=
  match g.check with
  | .ok g => .ok { g with latest := some (letter, value) }
  | .error e => .error e

/-- The value of an option that was given and checked. -/
def value? (g : GivenOptions) (letter : Char) : Option String :=
  (g.checked.find? fun option => option.1 = letter).map Prod.snd

end GivenOptions

/-- The arguments of a command, taken apart. -/
structure SplitArguments where
  options : GivenOptions
  /-- Whether a separator stands behind them. -/
  isSeparated : Bool
  values : List String

/-- Takes the arguments of a command apart, in order. -/
def OptionTable.split (t : OptionTable) (g : GivenOptions) :
    List String → Except Halt SplitArguments
  | [] => .ok ⟨g, false, []⟩
  | argument :: rest =>
    match t.word argument with
    | .separator => .ok ⟨g, true, rest⟩
    | .value => .ok ⟨g, false, argument :: rest⟩
    | .unknown => .error .misuse
    | .inquiry => do
      let _ ← g.check
      .error .information
    | .option letter (some value) => do
      t.split (← (← g.add letter value).check) rest
    | .option letter .none =>
      match rest with
      | [] => .error .misuse
      | value :: rest =>
        if t.word value = .value then do t.split (← g.add letter value) rest
        else .error .misuse

end KnxGateway
