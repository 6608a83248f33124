import KnxGateway.Datapoint.Id
import KnxGateway.Proofs.Text.Reading

set_option autoImplicit false

/-! # The notations of a data point id

An id is written in one of four notations, which differ by the word in front and by the character
between the numbers. Neither of them is part of a numeral, so no text follows two notations, and
the reader, which looks for the words first and then for the character, finds the one that a text
follows. What is shown for an id is one of them. -/

namespace KnxGateway.DatapointId

open Text

/-! ## Notations -/

/-- A text in lower case, without blanks around it, is an id in one of the notations. Each number
    of the id stands there as a numeral. -/
inductive Denotes : List Char → DatapointId → Prop where
  | base {s : List Char} {major : UInt16} (number : IsNumeral s major.toNat) :
      Denotes s ⟨major, 0⟩
  | variant {s t : List Char} {major minor : UInt16} (first : IsNumeral s major.toNat)
      (second : IsNumeral t minor.toNat) :
      Denotes (s ++ '.' :: t) ⟨major, minor⟩
  | namedBase {s : List Char} {major : UInt16} (number : IsNumeral s major.toNat) :
      Denotes ("dpt-".toList ++ s) ⟨major, 0⟩
  | namedVariant {s t : List Char} {major minor : UInt16} (first : IsNumeral s major.toNat)
      (second : IsNumeral t minor.toNat) :
      Denotes ("dpst-".toList ++ (s ++ '-' :: t)) ⟨major, minor⟩

/-! ## Numbers -/

theorem readNumber?_eq_some_iff {s : List Char} {n : UInt16} :
    readNumber? s = some n ↔ IsNumeral s n.toNat := by
  simp only [readNumber?, Option.map_eq_some_iff, readUnsigned?_eq_some_iff]
  constructor
  · rintro ⟨k, ⟨hk, hle⟩, rfl⟩
    have hlt : k < 65536 := Nat.lt_succ_of_le hle
    rwa [UInt16.toNat_ofNat_of_lt' hlt]
  · intro h
    exact ⟨n.toNat, ⟨h, Nat.le_of_lt_succ n.toNat_lt⟩, UInt16.ofNat_toNat⟩

/-- Two numbers are read around a character that is part of no numeral. -/
theorem readPair?_eq_some_iff {mark : Char} (hplus : mark ≠ '+') (hdigit : mark.isDigit = false)
    {s : List Char} {id : DatapointId} :
    readPair? mark s = some id ↔ ∃ left right, s = left ++ mark :: right ∧
      IsNumeral left id.major.toNat ∧ IsNumeral right id.minor.toNat := by
  constructor
  · intro h
    simp only [readPair?, Option.bind_eq_bind, Option.bind_eq_some_iff] at h
    obtain ⟨⟨left, right⟩, hcut, major, hmajor, minor, hminor, hid⟩ := h
    obtain rfl := Option.some.inj hid
    exact ⟨left, right, (cutAt?_eq_some hcut).1, readNumber?_eq_some_iff.1 hmajor,
      readNumber?_eq_some_iff.1 hminor⟩
  · rintro ⟨left, right, rfl, hleft, hright⟩
    simp only [readPair?, cutAt?_append (hleft.not_mem hplus hdigit),
      readNumber?_eq_some_iff.2 hleft, readNumber?_eq_some_iff.2 hright, Option.bind_eq_bind,
      Option.bind_some]
    rfl

/-! ## Words -/

theorem isPrefixOf?_append (word s : List Char) : word.isPrefixOf? (word ++ s) = some s :=
  List.isPrefixOf?_eq_some_iff_append_eq.2 rfl

/-- A text without a letter `d` starts with neither of the words. -/
theorem isPrefixOf?_of_not_mem {word s : List Char} (hword : 'd' ∈ word) (hs : 'd' ∉ s) :
    word.isPrefixOf? s = none := by
  rw [Option.eq_none_iff_forall_ne_some]
  intro rest hrest
  rw [← List.isPrefixOf?_eq_some_iff_append_eq.1 hrest] at hs
  exact hs (List.mem_append_left _ hword)

theorem read?_of_not_mem {s : List Char} (h : 'd' ∉ s) :
    read? s = if '.' ∈ s then readPair? '.' s else (readNumber? s).map (⟨·, 0⟩) := by
  have hdpst := isPrefixOf?_of_not_mem (by decide : 'd' ∈ "dpst-".toList) h
  have hdpt := isPrefixOf?_of_not_mem (by decide : 'd' ∈ "dpt-".toList) h
  simp only [read?, hdpst, hdpt]

theorem read?_dpst (s : List Char) : read? ("dpst-".toList ++ s) = readPair? '-' s := by
  simp only [read?, isPrefixOf?_append]

theorem read?_dpt (s : List Char) :
    read? ("dpt-".toList ++ s) = (readNumber? s).map (⟨·, 0⟩) := by
  have hother : "dpst-".toList.isPrefixOf? ("dpt-".toList ++ s) = none := by
    simp [List.isPrefixOf?]
  simp only [read?, hother, isPrefixOf?_append]

/-! ## Reading -/

theorem map_readNumber?_eq_some_iff {s : List Char} {id : DatapointId} :
    (readNumber? s).map (⟨·, 0⟩) = some id ↔ IsNumeral s id.major.toNat ∧ id.minor = 0 := by
  simp only [Option.map_eq_some_iff, readNumber?_eq_some_iff]
  constructor
  · rintro ⟨major, hmajor, rfl⟩
    exact ⟨hmajor, rfl⟩
  · rintro ⟨hmajor, hminor⟩
    obtain ⟨major, minor⟩ := id
    obtain rfl : minor = 0 := hminor
    exact ⟨major, hmajor, rfl⟩

theorem Denotes.read?_eq {s : List Char} {id : DatapointId} (h : Denotes s id) :
    read? s = some id := by
  cases h with
  | base number =>
    -- a numeral holds neither the first letter of the words nor a point
    have hpoint : '.' ∉ s := number.not_mem (by decide) (by decide)
    rw [read?_of_not_mem (number.not_mem (by decide) (by decide)), if_neg hpoint]
    exact map_readNumber?_eq_some_iff.2 ⟨number, rfl⟩
  | @variant left right major minor first second =>
    have hd : 'd' ∉ left ++ '.' :: right := by
      simp [first.not_mem (c := 'd') (by decide) (by decide),
        second.not_mem (c := 'd') (by decide) (by decide)]
    rw [read?_of_not_mem hd, if_pos (by simp)]
    exact (readPair?_eq_some_iff (by decide) (by decide)).2 ⟨left, right, rfl, first, second⟩
  | namedBase number =>
    rw [read?_dpt]
    exact map_readNumber?_eq_some_iff.2 ⟨number, rfl⟩
  | @namedVariant left right major minor first second =>
    rw [read?_dpst]
    exact (readPair?_eq_some_iff (by decide) (by decide)).2 ⟨left, right, rfl, first, second⟩

/-- What is read as an id is written in one of the notations. -/
theorem denotes_of_read? {s : List Char} {id : DatapointId} (h : read? s = some id) :
    Denotes s id := by
  obtain ⟨major, minor⟩ := id
  cases hdpst : "dpst-".toList.isPrefixOf? s with
  | some numbers =>
    obtain rfl := List.isPrefixOf?_eq_some_iff_append_eq.1 hdpst
    rw [read?_dpst, readPair?_eq_some_iff (by decide) (by decide)] at h
    obtain ⟨left, right, rfl, hleft, hright⟩ := h
    exact .namedVariant hleft hright
  | none =>
    cases hdpt : "dpt-".toList.isPrefixOf? s with
    | some number =>
      obtain rfl := List.isPrefixOf?_eq_some_iff_append_eq.1 hdpt
      rw [read?_dpt, map_readNumber?_eq_some_iff] at h
      obtain ⟨hnumber, rfl⟩ := h
      exact .namedBase hnumber
    | none =>
      simp only [read?, hdpst, hdpt] at h
      split at h
      · rw [readPair?_eq_some_iff (by decide) (by decide)] at h
        obtain ⟨left, right, rfl, hleft, hright⟩ := h
        exact .variant hleft hright
      · rw [map_readNumber?_eq_some_iff] at h
        obtain ⟨hnumber, rfl⟩ := h
        exact .base hnumber

theorem read?_eq_some_iff {s : List Char} {id : DatapointId} :
    read? s = some id ↔ Denotes s id := by
  constructor
  · exact denotes_of_read?
  · exact Denotes.read?_eq

theorem parse_eq_ok_iff {s : String} {id : DatapointId} :
    parse s = .ok id ↔ Denotes (lower (trim s.toList)) id := by
  rw [← read?_eq_some_iff, parse]
  cases read? (lower (trim s.toList)) <;> simp

theorem parse_eq_error_iff {s : String} {e : DatapointIdError} :
    parse s = .error e ↔ e = ⟨s⟩ ∧ ∀ id, ¬ Denotes (lower (trim s.toList)) id := by
  simp only [← read?_eq_some_iff, parse]
  cases read? (lower (trim s.toList)) <;> simp [eq_comm]

/-! ## Shown ids -/

theorem denotes_display (id : DatapointId) : Denotes id.display id := by
  obtain ⟨major, minor⟩ := id
  unfold display
  split
  · next hbase =>
    obtain rfl : minor = 0 := by simpa [isBase] using hbase
    exact .namedBase (isNumeral_decimal _)
  · rw [List.append_assoc]
    exact .namedVariant (isNumeral_decimal _) (isNumeral_decimal _)

/-- An id is shown with digits and the characters of the longer word. -/
theorem mem_display {id : DatapointId} {c : Char} (h : c ∈ id.display) :
    c.isDigit = true ∨ c ∈ "dpst-".toList := by
  have hword : ∀ d ∈ "dpt-".toList, d ∈ "dpst-".toList := by simp
  have hdigits : ∀ {n : Nat}, c ∈ decimal n → c.isDigit = true := isDigit_of_mem_decimal
  unfold display at h
  split at h
  · rcases List.mem_append.1 h with h | h
    · exact Or.inr (hword c h)
    · exact Or.inl (hdigits h)
  · rcases List.mem_append.1 h with h | h
    · rcases List.mem_append.1 h with h | h
      · exact Or.inr h
      · exact Or.inl (hdigits h)
    · rcases List.mem_cons.1 h with rfl | h
      · exact Or.inr (by decide)
      · exact Or.inl (hdigits h)

theorem lower_display (id : DatapointId) : lower id.display = id.display := by
  have hword : ∀ d ∈ "dpst-".toList, d.toLower = d := by simp
  have hkept : ∀ c ∈ id.display, c.toLower = c := by
    intro c hc
    exact (mem_display hc).elim toLower_of_isDigit (hword c)
  rw [lower, List.map_congr_left hkept, List.map_id']

theorem isBlank_of_mem_display {id : DatapointId} {c : Char} (h : c ∈ id.display) :
    isBlank c = false := by
  have hword : ∀ d ∈ "dpst-".toList, isBlank d = false := by
    simp [isBlank, inRanges, blankRanges]
  exact (mem_display h).elim isBlank_of_isDigit (hword c)

/-- The letter case of a shown id and the blanks around it do not count. -/
theorem parse_of_shown (id : DatapointId) {before after s : List Char}
    (hbefore : isAllBlank before = true) (hafter : isAllBlank after = true)
    (hs : lower s = lower id.display) : parse (String.ofList (before ++ s ++ after)) = .ok id := by
  have hblank : ∀ c ∈ s, isBlank c = false := by
    intro c hc
    have hlower : c.toLower ∈ lower id.display := hs ▸ List.mem_map_of_mem hc
    rw [lower_display] at hlower
    rw [← isBlank_toLower]
    exact isBlank_of_mem_display hlower
  rw [parse_eq_ok_iff, String.toList_ofList, trim_padded hbefore hafter, trim_of_no_blank hblank,
    hs, lower_display]
  exact denotes_display id

theorem parse_text (id : DatapointId) : parse id.text = .ok id := by
  have hshown := parse_of_shown id isAllBlank_nil isAllBlank_nil (Eq.refl (lower id.display))
  rwa [List.nil_append, List.append_nil] at hshown

/-- A text is read as an id exactly when it is one of the four notations of that id, in any letter
    case and with any blanks around it, and all other texts are refused as they were given. An id
    reads back from the text that it is shown as, and so does every id that was read. -/
theorem parse_id_exact :
    (∀ s id, parse s = .ok id ↔ Denotes (lower (trim s.toList)) id) ∧
      (∀ s e, parse s = .error e ↔
        e = ⟨s⟩ ∧ ∀ id, ¬ Denotes (lower (trim s.toList)) id) ∧
      (∀ id before s after, isAllBlank before = true → isAllBlank after = true →
        lower s = lower (display id) →
          parse (String.ofList (before ++ s ++ after)) = .ok id) ∧
      ∀ s id, parse s = .ok id → parse id.text = .ok id := by
  refine ⟨?_, ?_, ?_, ?_⟩
  · intro s id
    exact parse_eq_ok_iff
  · intro s e
    exact parse_eq_error_iff
  · intro id before s after hbefore hafter hs
    exact parse_of_shown id hbefore hafter hs
  · intro s id _
    exact parse_text id

/-- Letters of both cases between a no-break space and a line end. -/
theorem parse_id_exact_mixed_case : parse "\u00a0DpSt-9-1\n" = .ok ⟨9, 1⟩ :=
  parse_id_exact.2.2.1 ⟨9, 1⟩ ['\u00a0'] "DpSt-9-1".toList ['\n'] (by decide) (by decide)
    (by decide)

end KnxGateway.DatapointId
