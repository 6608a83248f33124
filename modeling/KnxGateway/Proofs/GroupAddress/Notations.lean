import KnxGateway.Proofs.GroupAddress.Reading
import KnxGateway.Proofs.Text.Reading

set_option autoImplicit false

/-! # The notations of a group address

Each notation is a row of fields, and a text is read by the row of as many fields as it has parts.
What comes of it is told here from outside: which texts hold numbers at all, which number is the
first that its field does not allow, and which word the numbers make. Blanks around the parts,
plus signs and leading zeros do not count. So every valid address can be written in each of the
three notations, and its own text is one of them. -/

namespace KnxGateway.GroupAddress

open Text

/-! ## Fields -/

/-- What a number stands for. -/
inductive Group where
  | main
  | middle
  | sub

/-- The error for a number that is too great. -/
def Group.overflow : Group → Nat → AddressError
  | main => .mainOverflow
  | middle => .middleOverflow
  | sub => .subOverflow

/-- A number of a notation, with the greatest value that it may have. -/
structure Field where
  group : Group
  bound : Nat

/-- The fields of the notation with a given number of parts. -/
def fields : Nat → List Field
  | 1 => [⟨.sub, 65535⟩]
  | 2 => [⟨.main, 31⟩, ⟨.sub, 2047⟩]
  | 3 => [⟨.main, 31⟩, ⟨.middle, 7⟩, ⟨.sub, 255⟩]
  | _ => []

/-- The word that the numbers of a notation make. -/
def word : List Nat → Nat
  | [n] => n
  | [main, sub] => main * 2048 + sub
  | [main, middle, sub] => main * 2048 + middle * 256 + sub
  | _ => 0

/-- Each number is one that its field allows. -/
def InRange (numbers : List Nat) : Prop :=
  ∀ entry ∈ numbers.zip (fields numbers.length), entry.1 ≤ entry.2.bound

/-- The first number that its field does not allow, with the field. -/
def firstExcess? (numbers : List Nat) : Option (Nat × Field) :=
  (numbers.zip (fields numbers.length)).find? fun entry => entry.2.bound < entry.1

theorem firstExcess?_eq_none_iff {numbers : List Nat} :
    firstExcess? numbers = none ↔ InRange numbers := by
  simp [firstExcess?, InRange, List.find?_eq_none]

/-! ## Parts -/

/-- The parts of a text between slashes, without the blanks around them. -/
def parts (s : String) : List (List Char) :=
  ((trim s.toList).splitOn '/').map trim

/-- A part is a numeral for a number of at most 32 bits. -/
def IsNumber (part : List Char) (n : Nat) : Prop :=
  IsNumeral part n ∧ n ≤ maxUInt32

/-- The parts of a text are the given numbers. -/
def Holds (s : String) (numbers : List Nat) : Prop :=
  List.Forall₂ IsNumber (parts s) numbers

/-- A text of one to three numbers follows one of the notations. -/
theorem notation_cases {numbers : List Nat} (hne : numbers ≠ []) (hlength : numbers.length ≤ 3) :
    (∃ n, numbers = [n]) ∨ (∃ main sub, numbers = [main, sub]) ∨
      ∃ main middle sub, numbers = [main, middle, sub] := by
  obtain _ | ⟨a, _ | ⟨b, _ | ⟨c, _ | ⟨d, rest⟩⟩⟩⟩ := numbers
  · exact absurd rfl hne
  · exact Or.inl ⟨a, rfl⟩
  · exact Or.inr (Or.inl ⟨a, b, rfl⟩)
  · exact Or.inr (Or.inr ⟨a, b, c, rfl⟩)
  · simp only [List.length_cons] at hlength
    omega

theorem parts_ne_nil (s : String) : parts s ≠ [] := by
  simp [parts, List.splitOn_ne_nil]

theorem numbers_eq_some_iff {s : String} {numbers : List Nat} :
    (((trim s.toList).splitOn '/').mapM fun part => readUnsigned? maxUInt32 (trim part)) =
      some numbers ↔ Holds s numbers := by
  simp only [mapM_eq_some_iff, readUnsigned?_eq_some_iff, Holds, parts,
    List.forall₂_map_left_iff, IsNumber]

theorem Holds.not_blank {s : String} {numbers : List Nat} (h : Holds s numbers) :
    isAllBlank s.toList = false := by
  by_contra hblank
  rw [Bool.not_eq_false] at hblank
  have hparts : parts s = [[]] := by
    rw [parts, trim_eq_nil hblank, List.splitOn_nil]
    rfl
  rw [Holds, hparts] at h
  obtain _ | ⟨⟨⟨digits, hdigits, hne, -⟩, -⟩, -⟩ := h
  simp [eq_comm, hne] at hdigits

theorem Holds.ne_nil {s : String} {numbers : List Nat} (h : Holds s numbers) : numbers ≠ [] := by
  rintro rfl
  exact parts_ne_nil s (List.forall₂_nil_right_iff.1 h)

/-! ## What is read -/

theorem parse_of_blank {s : String} (h : isAllBlank s.toList = true) :
    parse s = .error .empty := by
  simp [parse, trim_eq_nil h]

variable {s : String}

theorem isEmpty_trim_of_not_blank (h : isAllBlank s.toList = false) :
    (trim s.toList).isEmpty = false := by
  rw [List.isEmpty_eq_false_iff]
  intro hnil
  rw [isAllBlank_iff_trim_eq_nil.2 hnil] at h
  cases h

theorem Holds.parse_one {n : Nat} (h : Holds s [n]) :
    parse s =
      if n = 0 then .error (.invalid (trimmed s))
      else if n ≤ 65535 then .ok (ofNat n)
      else .error (.subOverflow n) := by
  simp only [parse, isEmpty_trim_of_not_blank h.not_blank, numbers_eq_some_iff.2 h]
  rfl

theorem Holds.parse_two {main sub : Nat} (h : Holds s [main, sub]) :
    parse s = twoLevel main sub := by
  simp only [parse, isEmpty_trim_of_not_blank h.not_blank, numbers_eq_some_iff.2 h]
  rfl

theorem Holds.parse_three {main middle sub : Nat} (h : Holds s [main, middle, sub]) :
    parse s = threeLevel main middle sub := by
  simp only [parse, isEmpty_trim_of_not_blank h.not_blank, numbers_eq_some_iff.2 h]
  rfl

theorem Holds.parse_many {numbers : List Nat} (h : Holds s numbers) (hlength : 3 < numbers.length) :
    parse s = .error (.invalid (trimmed s)) := by
  simp only [parse, isEmpty_trim_of_not_blank h.not_blank, numbers_eq_some_iff.2 h]
  obtain _ | ⟨a, _ | ⟨b, _ | ⟨c, _ | ⟨d, rest⟩⟩⟩⟩ := numbers
  iterate 4 · simp at hlength
  rfl

theorem parse_of_no_numbers (hblank : isAllBlank s.toList = false)
    (h : ∀ numbers, ¬ Holds s numbers) : parse s = .error (.invalid (trimmed s)) := by
  have hnone : (((trim s.toList).splitOn '/').mapM fun part =>
      readUnsigned? maxUInt32 (trim part)) = none := by
    rw [Option.eq_none_iff_forall_ne_some]
    intro numbers hnumbers
    exact h numbers (numbers_eq_some_iff.1 hnumbers)
  simp only [parse, isEmpty_trim_of_not_blank hblank, hnone]
  rfl

/-! ## Numbers out of range -/

theorem firstExcess?_one (n : Nat) :
    firstExcess? [n] = if 65535 < n then some (n, ⟨.sub, 65535⟩) else none := by
  by_cases h : 65535 < n <;> simp [firstExcess?, fields, h]

theorem firstExcess?_two (main sub : Nat) :
    firstExcess? [main, sub] =
      if 31 < main then some (main, ⟨.main, 31⟩)
      else if 2047 < sub then some (sub, ⟨.sub, 2047⟩)
      else none := by
  by_cases hmain : 31 < main <;> by_cases hsub : 2047 < sub <;>
    simp [firstExcess?, fields, hmain, hsub]

theorem firstExcess?_three (main middle sub : Nat) :
    firstExcess? [main, middle, sub] =
      if 31 < main then some (main, ⟨.main, 31⟩)
      else if 7 < middle then some (middle, ⟨.middle, 7⟩)
      else if 255 < sub then some (sub, ⟨.sub, 255⟩)
      else none := by
  by_cases hmain : 31 < main <;> by_cases hmiddle : 7 < middle <;> by_cases hsub : 255 < sub <;>
    simp [firstExcess?, fields, hmain, hmiddle, hsub]

/-- A number out of range is reported, and the first one if there are several. -/
theorem Holds.parse_of_excess {numbers : List Nat} {n : Nat} {field : Field}
    (h : Holds s numbers) (hlength : numbers.length ≤ 3)
    (hfirst : firstExcess? numbers = some (n, field)) :
    parse s = .error (field.group.overflow n) := by
  obtain ⟨n, rfl⟩ | ⟨main, sub, rfl⟩ | ⟨main, middle, sub, rfl⟩ := notation_cases h.ne_nil hlength
  · rw [firstExcess?_one] at hfirst
    rw [h.parse_one]
    split_ifs at hfirst with hexcess
    cases hfirst
    rw [if_neg (by omega), if_neg (by omega)]
    rfl
  · -- the guards of the reader are the bounds of the fields, from the left
    rw [firstExcess?_two] at hfirst
    rw [h.parse_two, twoLevel]
    split_ifs at hfirst ⊢ <;> cases hfirst <;> rfl
  · rw [firstExcess?_three] at hfirst
    rw [h.parse_three, threeLevel]
    split_ifs at hfirst ⊢ <;> cases hfirst <;> rfl

/-! ## Numbers in range -/

theorem eq_ofNat_of_raw {a : GroupAddress} {n : Nat} (h : a.raw.toNat = n) : a = ofNat n := by
  subst h
  simp [ofNat]

theorem inRange_one {n : Nat} : InRange [n] ↔ n ≤ 65535 := by
  simp [InRange, fields]

theorem inRange_two {main sub : Nat} : InRange [main, sub] ↔ main ≤ 31 ∧ sub ≤ 2047 := by
  simp [InRange, fields]

theorem inRange_three {main middle sub : Nat} :
    InRange [main, middle, sub] ↔ main ≤ 31 ∧ middle ≤ 7 ∧ sub ≤ 255 := by
  simp [InRange, fields]

theorem word_lt {numbers : List Nat} (hne : numbers ≠ []) (hlength : numbers.length ≤ 3)
    (h : InRange numbers) : word numbers < 65536 := by
  obtain ⟨n, rfl⟩ | ⟨main, sub, rfl⟩ | ⟨main, middle, sub, rfl⟩ := notation_cases hne hlength
  · rw [inRange_one] at h
    simp only [word]
    omega
  · rw [inRange_two] at h
    simp only [word]
    omega
  · rw [inRange_three] at h
    simp only [word]
    omega

/-- Numbers within their fields make the word that they stand for, unless all of them are zero. -/
theorem Holds.parse_of_inRange {numbers : List Nat} (h : Holds s numbers)
    (hlength : numbers.length ≤ 3) (hrange : InRange numbers) (hzero : ∃ n ∈ numbers, n ≠ 0) :
    parse s = .ok (ofNat (word numbers)) := by
  obtain ⟨n, rfl⟩ | ⟨main, sub, rfl⟩ | ⟨main, middle, sub, rfl⟩ := notation_cases h.ne_nil hlength
  · have hn : n ≠ 0 := by simpa using hzero
    rw [h.parse_one, if_neg hn, if_pos (inRange_one.1 hrange)]
    rfl
  · obtain ⟨hmain, hsub⟩ := inRange_two.1 hrange
    have hsome : main ≠ 0 ∨ sub ≠ 0 := by simpa using hzero
    rw [h.parse_two, twoLevel, if_neg (by omega), if_neg (by omega), if_neg (by omega)]
    rfl
  · obtain ⟨hmain, hmiddle, hsub⟩ := inRange_three.1 hrange
    have hsome : main ≠ 0 ∨ middle ≠ 0 ∨ sub ≠ 0 := by simpa using hzero
    rw [h.parse_three, threeLevel, if_neg (by omega), if_neg (by omega), if_neg (by omega),
      if_neg (by omega)]
    rfl

/-! ## The reserved address -/

/-- The text that an error gives for numbers that are all zero. -/
def zeroText (s : String) : Nat → String
  | 2 => "0/0"
  | 3 => "0/0/0"
  | _ => trimmed s

/-- Numbers that are all zero are as many zeros. -/
theorem eq_replicate_zero {numbers : List Nat} (h : ∀ n ∈ numbers, n = 0) :
    numbers = List.replicate numbers.length 0 :=
  List.eq_replicate_iff.2 ⟨rfl, h⟩

/-- The reserved address is refused in every notation. -/
theorem Holds.parse_of_zero {numbers : List Nat} (h : Holds s numbers)
    (hlength : numbers.length ≤ 3) (hzero : ∀ n ∈ numbers, n = 0) :
    parse s = .error (.invalid (zeroText s numbers.length)) := by
  obtain ⟨n, rfl⟩ | ⟨main, sub, rfl⟩ | ⟨main, middle, sub, rfl⟩ := notation_cases h.ne_nil hlength
  · obtain rfl : n = 0 := by simpa using hzero
    rw [h.parse_one]
    rfl
  · obtain ⟨rfl, rfl⟩ : main = 0 ∧ sub = 0 := by simpa using hzero
    rw [h.parse_two]
    rfl
  · obtain ⟨rfl, rfl, rfl⟩ : main = 0 ∧ middle = 0 ∧ sub = 0 := by simpa using hzero
    rw [h.parse_three]
    rfl

/-! ## Outcomes -/

/-- What comes of reading a text. -/
inductive Outcome (s : String) : Except AddressError GroupAddress → Prop where
  /-- The text is blank. -/
  | blank (blank : isAllBlank s.toList = true) : Outcome s (.error .empty)
  /-- A part is no number, or there are more parts than any notation has. -/
  | malformed (not_blank : isAllBlank s.toList = false)
      (unreadable : (∃ part ∈ parts s, ∀ n, ¬ IsNumber part n) ∨ 3 < (parts s).length) :
      Outcome s (.error (.invalid (trimmed s)))
  /-- All numbers are zero. -/
  | reserved {numbers : List Nat} (holds : Holds s numbers) (length_le : numbers.length ≤ 3)
      (zero : ∀ n ∈ numbers, n = 0) :
      Outcome s (.error (.invalid (zeroText s numbers.length)))
  /-- A number is too great for its field, and the first such number is reported. -/
  | excess {numbers : List Nat} {n : Nat} {field : Field} (holds : Holds s numbers)
      (length_le : numbers.length ≤ 3) (first : firstExcess? numbers = some (n, field)) :
      Outcome s (.error (field.group.overflow n))
  /-- The numbers make the word of an address. -/
  | address {numbers : List Nat} {a : GroupAddress} (holds : Holds s numbers)
      (length_le : numbers.length ≤ 3) (in_range : InRange numbers)
      (not_reserved : ∃ n ∈ numbers, n ≠ 0) (raw_eq : a.raw.toNat = word numbers) :
      Outcome s (.ok a)

/-- There is always an outcome. -/
theorem outcome_parse (s : String) : Outcome s (parse s) := by
  by_cases hblank : isAllBlank s.toList = true
  · rw [parse_of_blank hblank]
    exact .blank hblank
  rw [Bool.not_eq_true] at hblank
  by_cases hholds : ∃ numbers, Holds s numbers
  · obtain ⟨numbers, h⟩ := hholds
    by_cases hlength : numbers.length ≤ 3
    · cases hfirst : firstExcess? numbers with
      | some entry =>
        rw [h.parse_of_excess hlength hfirst]
        exact .excess h hlength hfirst
      | none =>
        rw [firstExcess?_eq_none_iff] at hfirst
        by_cases hzero : ∀ n ∈ numbers, n = 0
        · rw [h.parse_of_zero hlength hzero]
          exact .reserved h hlength hzero
        · have hsome : ∃ n ∈ numbers, n ≠ 0 := by simpa using hzero
          rw [h.parse_of_inRange hlength hfirst hsome]
          exact .address h hlength hfirst hsome (toNat_raw_ofNat (word_lt h.ne_nil hlength hfirst))
    · rw [h.parse_many (by omega)]
      have hparts : 3 < (parts s).length := by
        rw [List.Forall₂.length_eq h]
        omega
      exact .malformed hblank (Or.inr hparts)
  · have hpart : ∃ part ∈ parts s, ∀ n, ¬ IsNumber part n := by
      simpa [Holds, exists_forall₂_iff] using hholds
    rw [parse_of_no_numbers hblank (not_exists.1 hholds)]
    exact .malformed hblank (Or.inl hpart)

/-- There is only one outcome. -/
theorem Outcome.parse_eq {result : Except AddressError GroupAddress} (h : Outcome s result) :
    parse s = result := by
  cases h with
  | blank hblank => exact parse_of_blank hblank
  | malformed hblank hno =>
    by_cases hholds : ∃ numbers, Holds s numbers
    · obtain ⟨numbers, h⟩ := hholds
      have hparts : ¬ ∃ part ∈ parts s, ∀ n, ¬ IsNumber part n := by
        simpa using exists_forall₂_iff.1 ⟨numbers, h⟩
      have hmany := hno.resolve_left hparts
      rw [List.Forall₂.length_eq h] at hmany
      exact h.parse_many hmany
    · exact parse_of_no_numbers hblank (not_exists.1 hholds)
  | reserved h hlength hzero => exact h.parse_of_zero hlength hzero
  | excess h hlength hfirst => exact h.parse_of_excess hlength hfirst
  | address h hlength hrange hzero hraw =>
    rw [h.parse_of_inRange hlength hrange hzero, eq_ofNat_of_raw hraw]

theorem parse_eq_iff_outcome (result : Except AddressError GroupAddress) :
    parse s = result ↔ Outcome s result := by
  constructor
  · rintro rfl
    exact outcome_parse s
  · intro h
    exact h.parse_eq

/-! ## Written addresses -/

/-- The numbers of an address in each of its notations. -/
def written (a : GroupAddress) : List (List Nat) :=
  [[a.raw.toNat], [a.main, a.raw.toNat % 2048], [a.main, a.middle, a.sub]]

/-- A text is a number without leading zeros, with blanks around it. -/
def Pads (text : List Char) (n : Nat) : Prop :=
  ∃ before after, isAllBlank before = true ∧ isAllBlank after = true ∧
    text = before ++ decimal n ++ after

theorem Pads.trim_eq {text : List Char} {n : Nat} (h : Pads text n) : trim text = decimal n := by
  obtain ⟨before, after, hbefore, hafter, rfl⟩ := h
  rw [trim_padded hbefore hafter]
  refine trim_of_no_blank ?_
  intro c hc
  exact isBlank_of_isDigit (isDigit_of_mem_decimal hc)

theorem Pads.not_mem_slash {text : List Char} {n : Nat} (h : Pads text n) : '/' ∉ text := by
  obtain ⟨before, after, hbefore, hafter, rfl⟩ := h
  have hdigits : '/' ∉ decimal n := by
    intro hc
    exact absurd (isDigit_of_mem_decimal hc) (by decide)
  have hslash : isBlank '/' = false := by decide
  simp [hdigits, not_mem_of_isAllBlank hslash hbefore, not_mem_of_isAllBlank hslash hafter]

/-- Numbers with slashes between them, each with blanks around it, are the parts of that text. -/
theorem holds_of_pads {texts : List (List Char)} {numbers : List Nat}
    (h : List.Forall₂ Pads texts numbers) (hne : numbers ≠ [])
    (hbound : ∀ n ∈ numbers, n ≤ maxUInt32) :
    Holds (String.ofList (['/'].intercalate texts)) numbers := by
  have hslash : ∀ text ∈ texts, '/' ∉ text := by
    intro text htext
    obtain ⟨n, hn⟩ := exists_forall₂_iff.1 ⟨numbers, h⟩ text htext
    exact hn.not_mem_slash
  have htexts : texts ≠ [] := by
    rintro rfl
    exact hne (List.forall₂_nil_left_iff.1 h)
  have hparts : parts (String.ofList (['/'].intercalate texts)) = texts.map trim := by
    rw [parts, String.toList_ofList, map_trim_splitOn_trim (by decide),
      List.splitOn_intercalate '/' hslash htexts]
  rw [Holds, hparts, List.forall₂_map_left_iff]
  clear hparts hslash htexts hne
  induction h with
  | nil => exact .nil
  | @cons text n texts numbers hpads _ ih =>
    rw [List.forall_mem_cons] at hbound
    refine .cons ⟨?_, hbound.1⟩ (ih hbound.2)
    rw [hpads.trim_eq]
    exact isNumeral_decimal n

/-- The numbers of an address are within the fields of their notation and make its word. -/
theorem fits_of_mem_written {a : GroupAddress} {numbers : List Nat}
    (h : numbers ∈ a.written) :
    numbers.length ≤ 3 ∧ numbers ≠ [] ∧ InRange numbers ∧ word numbers = a.raw.toNat ∧
      ∀ n ∈ numbers, n ≤ maxUInt32 := by
  have hraw := a.raw.toNat_lt
  have hmain := a.main_le
  have hmiddle := a.middle_le
  have hsub := a.sub_le
  have hword := a.raw_eq
  simp only [written, List.mem_cons, List.not_mem_nil, or_false] at h
  rcases h with rfl | rfl | rfl
  · simp [inRange_one, word, maxUInt32]
    omega
  · simp [inRange_two, word, maxUInt32, main]
    omega
  · simp [inRange_three, word, maxUInt32]
    omega

theorem word_replicate_zero (count : Nat) : word (List.replicate count 0) = 0 := by
  obtain _ | _ | _ | _ | count := count <;> rfl

/-- A valid address is read from each of its notations. -/
theorem parse_of_pads {a : GroupAddress} (ha : a.isValid = true) {numbers : List Nat}
    (hnumbers : numbers ∈ a.written) {texts : List (List Char)}
    (h : List.Forall₂ Pads texts numbers) :
    parse (String.ofList (['/'].intercalate texts)) = .ok a := by
  obtain ⟨hlength, hne, hrange, hword, hbound⟩ := fits_of_mem_written hnumbers
  have hzero : ∃ n ∈ numbers, n ≠ 0 := by
    by_contra hall
    have hnone : ∀ n ∈ numbers, n = 0 := by simpa using hall
    rw [eq_replicate_zero hnone, word_replicate_zero] at hword
    have hraw : a.raw = 0 := UInt16.toNat_inj.1 hword.symm
    simp [isValid, hraw] at ha
  rw [(holds_of_pads h hne hbound).parse_of_inRange hlength hrange hzero, hword]
  exact congrArg Except.ok (eq_ofNat_of_raw rfl).symm

/-- An address is shown as its three numbers, with nothing around them. -/
theorem pads_decimal (n : Nat) : Pads (decimal n) n :=
  ⟨[], [], rfl, rfl, by simp⟩

theorem parse_text {a : GroupAddress} (ha : a.isValid = true) : parse a.text = .ok a := by
  have htext : a.text =
      String.ofList (['/'].intercalate [decimal a.main, decimal a.middle, decimal a.sub]) := by
    simp [text, List.intercalate]
  rw [htext]
  exact parse_of_pads ha (by simp [written])
    (.cons (pads_decimal _) (.cons (pads_decimal _) (.cons (pads_decimal _) .nil)))

/-- A text is read exactly as its parts tell. Its numbers make an address when each of them is
    within its field and one of them is not zero, and otherwise the outcome is the error of the
    first fault. The address is never the reserved one. So a valid address is read from its text,
    and from each of its notations with any blanks around the numbers. -/
theorem parse_exact :
    (∀ s result, parse s = result ↔ Outcome s result) ∧
      (∀ s a, parse s = .ok a → a.isValid = true) ∧
      ∀ a : GroupAddress, a.isValid = true → parse a.text = .ok a ∧
        ∀ numbers ∈ a.written, ∀ texts, List.Forall₂ Pads texts numbers →
          parse (String.ofList (['/'].intercalate texts)) = .ok a := by
  refine ⟨?_, ?_, ?_⟩
  · intro s result
    exact parse_eq_iff_outcome result
  · intro s a h
    exact isValid_of_parse h
  · intro a ha
    refine ⟨parse_text ha, ?_⟩
    intro numbers hnumbers texts h
    exact parse_of_pads ha hnumbers h

/-- The second notation with blanks of two kinds around its numbers. -/
theorem parse_exact_padded : parse "\u300020 /\t1223" = .ok ⟨0xA4C7⟩ :=
  (parse_exact.2.2 ⟨0xA4C7⟩ (by decide)).2 [20, 1223] (by decide)
    [['\u3000', '2', '0', ' '], ['\t', '1', '2', '2', '3']]
    (.cons ⟨['\u3000'], [' '], by decide, by decide, by decide⟩
      (.cons ⟨['\t'], [], by decide, by decide, by decide⟩ .nil))

end KnxGateway.GroupAddress
