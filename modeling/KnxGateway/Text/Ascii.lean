set_option autoImplicit false

/-! # ASCII letters and simple cuts

Names that a person may write in either case (data point notations, boolean labels, configuration
words) are compared after folding the ASCII letters; every other letter keeps its case. Texts of
several parts are cut at a separator. -/

namespace KnxGateway.Text

/-! ## Letter case -/

/-- The text with the letters `A` to `Z` in lower case and all else unchanged. -/
def lower (s : List Char) : List Char :=
  s.map Char.toLower

/-- A string with its ASCII letters in lower case. -/
def lowered (s : String) : String :=
  String.ofList (lower s.toList)

/-! ## Cutting -/

/-- The parts before and after the first separator, if there is one. -/
def cutAt? (separator : Char) : List Char → Option (List Char × List Char)
  | [] => none
  | c :: rest =>
    if c = separator then some ([], rest)
    else (cutAt? separator rest).map fun parts => (c :: parts.1, parts.2)

/-- A cut loses only the separator, and the first part holds none. -/
theorem cutAt?_eq_some {separator : Char} {s left right : List Char}
    (h : cutAt? separator s = some (left, right)) :
    s = left ++ separator :: right ∧ separator ∉ left := by
  induction s generalizing left with
  | nil => simp [cutAt?] at h
  | cons c rest ih =>
    by_cases hc : c = separator
    · simp only [cutAt?, hc, if_true, Option.some.injEq, Prod.mk.injEq] at h
      obtain ⟨rfl, rfl⟩ := h
      simp [hc]
    · simp only [cutAt?, hc, if_false, Option.map_eq_some_iff, Prod.mk.injEq] at h
      obtain ⟨⟨l, r⟩, hcut, rfl, rfl⟩ := h
      obtain ⟨rfl, hmem⟩ := ih hcut
      simp [hmem, Ne.symm hc]

/-- A text is cut at the separator behind a part that holds none. -/
theorem cutAt?_append {separator : Char} {left : List Char} (h : separator ∉ left)
    (right : List Char) : cutAt? separator (left ++ separator :: right) = some (left, right) := by
  induction left with
  | nil => simp [cutAt?]
  | cons c left ih =>
    rw [List.mem_cons, not_or] at h
    simp [cutAt?, Ne.symm h.1, ih h.2]

end KnxGateway.Text
