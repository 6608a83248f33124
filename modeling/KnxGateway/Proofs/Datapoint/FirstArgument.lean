import KnxGateway.Datapoint.Type
import KnxGateway.Proofs.Text.Reading

set_option autoImplicit false

/-! # The first argument

Booleans and numbers are read from the first argument only, without the blanks around it. It is
missing when there is none and when it is blank, and nothing else is decided before it is read. -/

namespace KnxGateway.DatapointType

open Text

/-- There is no first argument, or it is blank. -/
def IsMissing (arguments : List String) : Prop :=
  ∀ first ∈ arguments.head?, isAllBlank first.toList = true

/-- The first argument holds this text between the blanks around it, and is not blank. -/
def IsGiven (arguments : List String) (given : List Char) : Prop :=
  given ≠ [] ∧ ∃ first ∈ arguments.head?, trim first.toList = given

variable {arguments : List String}

theorem firstArgument?_cons (first : String) (rest : List String) :
    firstArgument? (first :: rest) =
      if trim first.toList = [] then none else some (trim first.toList) := by
  simp [firstArgument?]

theorem firstArgument?_eq_none_iff : firstArgument? arguments = none ↔ IsMissing arguments := by
  cases arguments with
  | nil => simp [firstArgument?, IsMissing]
  | cons first rest => simp [firstArgument?_cons, IsMissing, isAllBlank_iff_trim_eq_nil]

theorem firstArgument?_eq_some_iff {given : List Char} :
    firstArgument? arguments = some given ↔ IsGiven arguments given := by
  cases arguments with
  | nil => simp [firstArgument?, IsGiven]
  | cons first rest =>
    simp only [firstArgument?_cons, IsGiven, List.head?_cons, Option.mem_some_iff]
    constructor
    · intro h
      split at h
      · cases h
      · next hne =>
        cases h
        exact ⟨hne, first, rfl, rfl⟩
    · rintro ⟨hne, _, rfl, rfl⟩
      rw [if_neg hne]

theorem isMissing_or_isGiven (arguments : List String) :
    IsMissing arguments ∨ ∃ given, IsGiven arguments given := by
  cases h : firstArgument? arguments with
  | none => exact Or.inl (firstArgument?_eq_none_iff.1 h)
  | some given => exact Or.inr ⟨given, firstArgument?_eq_some_iff.1 h⟩

end KnxGateway.DatapointType
