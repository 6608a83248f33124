import KnxGateway.Proofs.Datapoint.FirstArgument

set_option autoImplicit false

/-! # Labels in capital letters

A boolean is written as one of its labels, as a digit or as a word of truth. The argument is read
in small letters and compared with the labels as they are. So a label that is written in small
letters is accepted in any letter case, and a label with a capital letter in none, not even as it
is shown, unless it is a word of truth in capital letters. -/

namespace KnxGateway

open Text

namespace Text

theorem toLower_toLower (c : Char) : c.toLower.toLower = c.toLower := by
  have hlow := toNat_toLower c
  rw [← Char.toNat_inj, toNat_toLower, if_neg]
  split at hlow <;> omega

theorem lower_lower (s : List Char) : lower (lower s) = lower s := by
  rw [lower, lower, List.map_map]
  exact List.map_congr_left fun c _ => toLower_toLower c

theorem lowered_lowered (s : String) : lowered (lowered s) = lowered s := by
  simp [lowered, lower_lower]

theorem dropWhile_isBlank_lower (s : List Char) :
    (lower s).dropWhile isBlank = lower (s.dropWhile isBlank) := by
  have hfold : isBlank ∘ Char.toLower = isBlank := funext isBlank_toLower
  rw [lower, List.dropWhile_map, hfold]
  rfl

/-- Letter case does not tell which characters around a text are blank. -/
theorem trim_lower (s : List Char) : trim (lower s) = lower (trim s) := by
  have hreverse : ∀ t : List Char, (lower t).reverse = lower t.reverse := fun t => by simp [lower]
  rw [trim, trimStart, dropWhile_isBlank_lower, trimEnd, hreverse, dropWhile_isBlank_lower,
    hreverse]
  rfl

end Text

namespace DatapointType

/-! ## Labels -/

/-- The label of a value. -/
def label (off on : String) (value : Bool) : String :=
  if value then on else off

/-- The texts that stand for a value in every boolean type. -/
def truthWords (value : Bool) : List String :=
  if value then ["1", "true"] else ["0", "false"]

/-- The byte of a value. -/
def bit (value : Bool) : UInt8 :=
  if value then 1 else 0

/-- Two labels that can be told apart from each other and from the words for the other value, in
    every letter case. -/
structure AreLabels (off on : String) : Prop where
  not_blank : ∀ value, isAllBlank (label off on value).toList = false
  trimmed_eq : ∀ value, trimmed (label off on value) = label off on value
  apart : lowered off ≠ lowered on
  not_opposite : ∀ value, lowered (label off on value) ∉ truthWords (!value)

/-- An argument is a word in any letter case, with any blanks around it. -/
def Writes (argument word : String) : Prop :=
  ∃ before s after, isAllBlank before = true ∧ isAllBlank after = true ∧
    argument.toList = before ++ s ++ after ∧ lower s = lower word.toList

/-- A label is accepted when it has no capital letters or stands for its value in every type. -/
def IsAccepted (off on : String) (value : Bool) : Prop :=
  lowered (label off on value) = label off on value ∨
    lowered (label off on value) ∈ truthWords value

instance (off on : String) (value : Bool) : Decidable (IsAccepted off on value) :=
  inferInstanceAs (Decidable (_ ∨ _))

variable {off on : String} {id : DatapointId} {arguments : List String}

/-! ## Reading -/

theorem parse_boolean_of_given {given : List Char} (h : IsGiven arguments given) :
    (boolean id off on).parse arguments =
      match readBoolean? off on (String.ofList (lower given)) with
      | some value => .ok ⟨id, [bit value], label off on value⟩
      | none => .error (.incompatible id.text (.notLabel off on (String.ofList (lower given)))) := by
  simp only [parse, firstArgument?_eq_some_iff.2 h]
  cases readBoolean? off on (String.ofList (lower given)) with
  | none => rfl
  | some value => cases value <;> rfl

/-- A label in small letters is read when it is accepted, and otherwise it is neither label. -/
theorem AreLabels.readBoolean?_lowered (h : AreLabels off on) (value : Bool) :
    readBoolean? off on (lowered (label off on value)) =
      if IsAccepted off on value then some value else none := by
  have hopposite := h.not_opposite value
  have hother : lowered (label off on value) ≠ label off on (!value) := by
    intro heq
    have hsame := congrArg lowered heq
    rw [lowered_lowered] at hsame
    cases value
    · exact h.apart hsame
    · exact h.apart hsame.symm
  cases value with
  | false =>
    simp only [truthWords, label, Bool.not_false, Bool.false_eq_true, if_true, if_false,
      List.mem_cons, List.not_mem_nil, or_false, not_or] at hopposite hother
    simp only [readBoolean?, IsAccepted, truthWords, label, Bool.false_eq_true, if_false,
      List.mem_cons, List.not_mem_nil, or_false, hopposite.1, hopposite.2, hother]
    grind
  | true =>
    simp only [truthWords, label, Bool.not_true, Bool.false_eq_true, if_true, if_false,
      List.mem_cons, List.not_mem_nil, or_false, not_or] at hopposite hother
    simp only [readBoolean?, IsAccepted, truthWords, label, if_true,
      List.mem_cons, List.not_mem_nil, or_false, hopposite.1, hopposite.2, hother]
    grind

/-- What is given with a label in some letter case is the label in that letter case. -/
theorem AreLabels.isGiven_of_writes (h : AreLabels off on) {value : Bool} {argument : String}
    (hwrites : Writes argument (label off on value)) (rest : List String) :
    ∃ given, IsGiven (argument :: rest) given ∧
      String.ofList (lower given) = lowered (label off on value) := by
  obtain ⟨before, s, after, hbefore, hafter, hargument, hs⟩ := hwrites
  have hlabel : trim (label off on value).toList = (label off on value).toList := by
    rw [← toList_trimmed, h.trimmed_eq]
  have hlower : lower (trim argument.toList) = lower (label off on value).toList := by
    rw [hargument, trim_padded hbefore hafter, ← trim_lower, hs, trim_lower, hlabel]
  have hne : trim argument.toList ≠ [] := by
    intro hnil
    have hempty : (label off on value).toList = [] := by simpa [hnil, lower] using hlower
    have hvisible := h.not_blank value
    rw [hempty] at hvisible
    cases hvisible
  exact ⟨_, ⟨hne, argument, rfl, rfl⟩, congrArg String.ofList hlower⟩

/-- A label in some letter case is read as its value when the label is accepted, and reported as
    neither label otherwise. -/
theorem AreLabels.parse_of_writes (h : AreLabels off on) {value : Bool} {argument : String}
    (hwrites : Writes argument (label off on value)) (rest : List String) :
    (boolean id off on).parse (argument :: rest) =
      if IsAccepted off on value then .ok ⟨id, [bit value], label off on value⟩
      else
        .error (.incompatible id.text (.notLabel off on (lowered (label off on value)))) := by
  obtain ⟨given, hgiven, hlower⟩ := h.isGiven_of_writes hwrites rest
  rw [parse_boolean_of_given hgiven, hlower, h.readBoolean?_lowered]
  by_cases haccepted : IsAccepted off on value
  · simp only [if_pos haccepted]
  · simp only [if_neg haccepted]

theorem AreLabels.exists_parse_iff (h : AreLabels off on) {value : Bool} {argument : String}
    (hwrites : Writes argument (label off on value)) (rest : List String) :
    (∃ v, (boolean id off on).parse (argument :: rest) = .ok v ∧ v.bytes = [bit value]) ↔
      IsAccepted off on value := by
  rw [h.parse_of_writes hwrites]
  by_cases haccepted : IsAccepted off on value
  · simp [haccepted]
  · simp [haccepted]

/-! ## Shown labels -/

theorem writes_self (word : String) : Writes word word :=
  ⟨[], word.toList, [], rfl, rfl, by simp, rfl⟩

/-- A byte is shown as the label of its lowest bit. -/
theorem render_boolean {b : UInt8} {value : Bool} (h : b &&& 1 = bit value) :
    (boolean id off on).render [b] = .ok ⟨label off on value, ""⟩ := by
  have hbit : b.toNat % 2 = (bit value).toNat := by
    rw [← h, UInt8.toNat_and]
    exact (Nat.and_one_is_mod _).symm
  cases value with
  | false =>
    have hzero : ¬ b.toNat % 2 = 1 := by
      rw [hbit]
      decide
    simp only [render, if_neg hzero]
    rfl
  | true =>
    have hone : b.toNat % 2 = 1 := hbit
    simp only [render, if_pos hone]
    rfl

/-- A label is read back in all its spellings, and in the one that is shown, exactly when it has no
    capital letters or stands for its value in every type. -/
theorem label_accepted_iff (h : AreLabels off on) (id : DatapointId) (value : Bool) :
    (∀ argument rest, Writes argument (label off on value) →
      ((∃ v, (boolean id off on).parse (argument :: rest) = .ok v ∧ v.bytes = [bit value]) ↔
        IsAccepted off on value)) ∧
      ∀ b, b &&& 1 = bit value → ∃ r, (boolean id off on).render [b] = .ok r ∧
        ((∃ v, (boolean id off on).parse [r.text] = .ok v ∧ v.bytes = [b &&& 1]) ↔
          IsAccepted off on value) := by
  constructor
  · intro argument rest hwrites
    exact h.exists_parse_iff hwrites rest
  · intro b hb
    refine ⟨_, render_boolean hb, ?_⟩
    rw [hb]
    exact h.exists_parse_iff (writes_self _) []

/-- Of these labels one is in small letters and is accepted in capital ones, and the other one is
    refused as it is shown. -/
theorem label_accepted_iff_one_of_two :
    (∃ v, (boolean ⟨1, 1⟩ "aus" "An").parse ["\u3000AuS\n"] = .ok v ∧ v.bytes = [0]) ∧
      ∃ r, (boolean ⟨1, 1⟩ "aus" "An").render [3] = .ok r ∧
        ¬ ∃ v, (boolean ⟨1, 1⟩ "aus" "An").parse [r.text] = .ok v ∧ v.bytes = [1] := by
  have hlabels : AreLabels "aus" "An" := ⟨by decide, by decide, by decide, by decide⟩
  have hwrites : Writes "\u3000AuS\n" "aus" :=
    ⟨['\u3000'], "AuS".toList, ['\n'], by decide, by decide, by decide, by decide⟩
  obtain ⟨r, hr, hshown⟩ := (label_accepted_iff hlabels ⟨1, 1⟩ true).2 3 (by decide)
  refine ⟨((label_accepted_iff hlabels ⟨1, 1⟩ false).1 _ [] hwrites).2 (by decide), r, hr, ?_⟩
  exact fun haccepted => absurd (hshown.1 haccepted) (by decide)

/-- Labels with a capital letter are refused as they are shown, and the error asks for the very
    text that was given. -/
theorem capital_labels_refused :
    AreLabels "Off" "On" ∧ Writes "On" "On" ∧
      (boolean ⟨1, 1⟩ "Off" "On").render [1] = .ok ⟨"On", ""⟩ ∧
      ¬ (∃ v, (boolean ⟨1, 1⟩ "Off" "On").parse ["On"] = .ok v ∧ v.bytes = [1]) ∧
      ∃ e, (boolean ⟨1, 1⟩ "Off" "On").parse ["On"] = .error e ∧
        e.message = "value incompatible with data point type 'dpst-1-1': " ++
          "expected 'Off' or 'On' but got 'on'" := by
  have hparse : (boolean ⟨1, 1⟩ "Off" "On").parse ["On"] =
      .error (.incompatible "dpst-1-1" (.notLabel "Off" "On" "on")) := by decide
  refine ⟨⟨by decide, by decide, by decide, by decide⟩, writes_self _, by decide, ?_, _, hparse,
    by decide⟩
  rintro ⟨v, hv, -⟩
  rw [hparse] at hv
  cases hv

end DatapointType

end KnxGateway
