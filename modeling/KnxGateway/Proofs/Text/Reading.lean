import KnxGateway.Text.Ascii
import KnxGateway.Text.Blank
import KnxGateway.Text.Numeral
import Mathlib.Data.List.Forall2
import Mathlib.Data.List.TakeWhile

set_option autoImplicit false

/-! # How short texts are read

Three rules stand behind the texts that a person writes: blanks around a text do not count, a
numeral may start with a plus sign and with zeros, and a word may be written in capital letters.
Here each rule is stated without its reader, and the reader is shown to follow it. -/

namespace KnxGateway.Text

/-! ## Blanks around a text -/

theorem isAllBlank_nil : isAllBlank [] = true :=
  rfl

theorem trimStart_append {before : List Char} (h : isAllBlank before = true) (s : List Char) :
    trimStart (before ++ s) = trimStart s :=
  List.dropWhile_append_of_pos (List.all_eq_true.1 h)

theorem trimEnd_append {after : List Char} (h : isAllBlank after = true) (s : List Char) :
    trimEnd (s ++ after) = trimEnd s := by
  rw [trimEnd, List.reverse_append,
    List.dropWhile_append_of_pos fun c hc => List.all_eq_true.1 h c (List.mem_reverse.1 hc)]
  rfl

/-- Blanks on either side of a text do not count. -/
theorem trim_padded {before after : List Char} (hbefore : isAllBlank before = true)
    (hafter : isAllBlank after = true) (s : List Char) : trim (before ++ s ++ after) = trim s := by
  rw [List.append_assoc, trim, trimStart_append hbefore, trim]
  by_cases hblank : isAllBlank s = true
  · have hall : ∀ t : List Char, isAllBlank t = true → trimStart t = [] := fun t ht =>
      List.dropWhile_eq_nil_iff.2 (List.all_eq_true.1 ht)
    rw [hall s hblank, trimStart_append hblank, hall after hafter]
  · have hkept : trimStart (s ++ after) = trimStart s ++ after := by
      rw [trimStart, List.dropWhile_append, if_neg]
      · rfl
      · rw [List.isEmpty_iff, List.dropWhile_eq_nil_iff]
        exact fun hall => hblank (List.all_eq_true.2 hall)
    rw [hkept, trimEnd_append hafter]

theorem exists_padding (s : List Char) :
    ∃ before after, isAllBlank before = true ∧ isAllBlank after = true ∧
      s = before ++ trim s ++ after := by
  have hblank : ∀ t : List Char, isAllBlank (t.takeWhile isBlank) = true := fun _ =>
    List.all_takeWhile
  refine ⟨s.takeWhile isBlank, ((trimStart s).reverse.takeWhile isBlank).reverse, hblank s, ?_, ?_⟩
  · rw [isAllBlank, List.all_reverse]
    exact hblank _
  · rw [List.append_assoc, trim, trimEnd, ← List.reverse_append, List.takeWhile_append_dropWhile,
      List.reverse_reverse, trimStart, List.takeWhile_append_dropWhile]

theorem trim_trim (s : List Char) : trim (trim s) = trim s := by
  obtain ⟨before, after, hbefore, hafter, hs⟩ := exists_padding s
  rw [← trim_padded hbefore hafter (trim s), ← hs]

theorem trim_eq_nil {s : List Char} (h : isAllBlank s = true) : trim s = [] := by
  rw [trim, trimStart, List.dropWhile_eq_nil_iff.2 (List.all_eq_true.1 h)]
  rfl

theorem trim_of_no_blank {s : List Char} (h : ∀ c ∈ s, isBlank c = false) : trim s = s := by
  have hkept : ∀ t : List Char, (∀ c ∈ t, isBlank c = false) → t.dropWhile isBlank = t := by
    intro t ht
    cases t with
    | nil => rfl
    | cons c t => exact List.dropWhile_cons_of_neg (by simp [ht c List.mem_cons_self])
  rw [trim, trimStart, hkept s h, trimEnd, hkept _ fun c hc => h c (List.mem_reverse.1 hc),
    List.reverse_reverse]

theorem isAllBlank_iff_trim_eq_nil {s : List Char} : isAllBlank s = true ↔ trim s = [] := by
  constructor
  · exact trim_eq_nil
  · intro h
    obtain ⟨before, after, hbefore, hafter, hs⟩ := exists_padding s
    rw [hs, h, isAllBlank, List.all_append, List.all_append]
    simp only [isAllBlank] at hbefore hafter
    simp [hbefore, hafter]

/-! ## Blanks around the parts of a text -/

section Parts

variable {separator : Char} (hseparator : isBlank separator = false)

include hseparator

theorem not_mem_of_isAllBlank {s : List Char} (h : isAllBlank s = true) : separator ∉ s := by
  intro hmem
  rw [List.all_eq_true.1 h separator hmem] at hseparator
  cases hseparator

theorem map_trim_splitOn_append_left {before : List Char} (h : isAllBlank before = true)
    (s : List Char) :
    ((before ++ s).splitOn separator).map trim = (s.splitOn separator).map trim := by
  have hbefore := not_mem_of_isAllBlank hseparator h
  have htrim : ∀ t, trim (before ++ t) = trim t := fun t => by
    simpa using trim_padded h isAllBlank_nil t
  by_cases hs : separator ∈ s
  · obtain ⟨first, rest, rfl, hfirst⟩ := List.eq_append_cons_of_mem hs
    have hmem : separator ∉ before ++ first := by simp [hbefore, hfirst]
    rw [← List.append_assoc, List.splitOn_append_cons_self_of_not_mem hmem,
      List.splitOn_append_cons_self_of_not_mem hfirst, List.map_cons, List.map_cons, htrim]
  · rw [List.splitOn_eq_singleton hs, List.splitOn_eq_singleton (by simp [hbefore, hs])]
    simp [htrim]

theorem map_trim_splitOn_append_right {after : List Char} (h : isAllBlank after = true)
    (s : List Char) :
    ((s ++ after).splitOn separator).map trim = (s.splitOn separator).map trim := by
  have hafter := not_mem_of_isAllBlank hseparator h
  have htrim : ∀ t, trim (t ++ after) = trim t := fun t => by
    simpa using trim_padded isAllBlank_nil h t
  by_cases hs : separator ∈ s
  · obtain ⟨last, front, hsplit, hlast⟩ := List.eq_append_cons_of_mem (List.mem_reverse.2 hs)
    have hs' : s = front.reverse ++ separator :: last.reverse := by
      rw [← List.reverse_reverse s, hsplit]
      simp
    have hmem : separator ∉ last.reverse ++ after := by simp [hafter, hlast]
    rw [hs', List.append_assoc, List.cons_append, List.splitOn_append_cons_self,
      List.splitOn_append_cons_self, List.splitOn_eq_singleton hmem,
      List.splitOn_eq_singleton (fun h => hlast (List.mem_reverse.1 h))]
    simp [htrim]
  · rw [List.splitOn_eq_singleton hs, List.splitOn_eq_singleton (by simp [hafter, hs])]
    simp [htrim]

/-- Blanks around a text of several parts count as little as those around each part. -/
theorem map_trim_splitOn_padded {before after : List Char} (hbefore : isAllBlank before = true)
    (hafter : isAllBlank after = true) (s : List Char) :
    ((before ++ s ++ after).splitOn separator).map trim = (s.splitOn separator).map trim := by
  rw [List.append_assoc, map_trim_splitOn_append_left hseparator hbefore,
    map_trim_splitOn_append_right hseparator hafter]

theorem map_trim_splitOn_trim (s : List Char) :
    ((trim s).splitOn separator).map trim = (s.splitOn separator).map trim := by
  obtain ⟨before, after, hbefore, hafter, hs⟩ := exists_padding s
  conv_rhs => rw [hs]
  rw [map_trim_splitOn_padded hseparator hbefore hafter]

end Parts

/-! ## Lists that are read one element after the other -/

/-- A list is read when each of its elements is. -/
theorem mapM_eq_some_iff {α β : Type} {f : α → Option β} {xs : List α} {ys : List β} :
    xs.mapM f = some ys ↔ List.Forall₂ (fun x y => f x = some y) xs ys := by
  induction xs generalizing ys with
  | nil => cases ys <;> simp
  | cons x xs ih =>
    rw [List.mapM_cons]
    cases hx : f x with
    | none => cases ys <;> simp [hx]
    | some y =>
      cases hxs : xs.mapM f with
      | none => cases ys <;> simp [hx, ← ih, hxs]
      | some ys' => cases ys <;> simp [hx, ← ih, hxs]

theorem exists_forall₂_iff {α β : Type} {R : α → β → Prop} {xs : List α} :
    (∃ ys, List.Forall₂ R xs ys) ↔ ∀ x ∈ xs, ∃ y, R x y := by
  induction xs with
  | nil => simp
  | cons x xs ih =>
    rw [List.forall_mem_cons, ← ih]
    constructor
    · rintro ⟨_, hys⟩
      obtain _ | ⟨hx, hxs⟩ := hys
      exact ⟨⟨_, hx⟩, ⟨_, hxs⟩⟩
    · rintro ⟨⟨y, hx⟩, ⟨ys, hxs⟩⟩
      exact ⟨y :: ys, .cons hx hxs⟩

/-! ## Numerals -/

/-- A text is a numeral for a number: decimal digits, with a plus sign in front of them or not. -/
def IsNumeral (s : List Char) (n : Nat) : Prop :=
  ∃ digits, (s = digits ∨ s = '+' :: digits) ∧ digits ≠ [] ∧ (∀ c ∈ digits, c.isDigit = true) ∧
    Nat.ofDigitChars 10 digits 0 = n

theorem dropPlus_of_digits {digits : List Char} (h : ∀ c ∈ digits, c.isDigit = true) :
    dropPlus digits = digits := by
  cases digits with
  | nil => rfl
  | cons c digits =>
    have hc : c ≠ '+' := by
      rintro rfl
      exact absurd (h '+' List.mem_cons_self) (by decide)
    unfold dropPlus
    split
    · next heq => exact absurd (List.cons.inj heq).1 hc
    · rfl

theorem toNat_of_isDigit {c : Char} (h : c.isDigit = true) : 48 ≤ c.toNat ∧ c.toNat ≤ 57 := by
  simpa [Char.isDigit, UInt32.le_iff_toNat_le] using h

theorem isBlank_of_isDigit {c : Char} (h : c.isDigit = true) : isBlank c = false := by
  obtain ⟨hlow, hhigh⟩ := toNat_of_isDigit h
  exact isBlank_of_visible (by omega) (by omega)

/-- A numeral holds only digits and a plus sign. -/
theorem IsNumeral.not_mem {s : List Char} {n : Nat} (h : IsNumeral s n) {c : Char}
    (hplus : c ≠ '+') (hdigit : c.isDigit = false) : c ∉ s := by
  obtain ⟨digits, hs, -, hdigits, -⟩ := h
  have hnot : c ∉ digits := by
    intro hc
    rw [hdigits c hc] at hdigit
    cases hdigit
  rcases hs with rfl | rfl
  · exact hnot
  · simp [hplus, hnot]

theorem isNumeral_decimal (n : Nat) : IsNumeral (decimal n) n :=
  ⟨decimal n, Or.inl rfl, decimal_ne_nil n, fun _ hc => isDigit_of_mem_decimal hc,
    ofDigitChars_decimal n⟩

/-- Exactly the numerals up to the bound are read, each as its number. -/
theorem readUnsigned?_eq_some_iff {bound n : Nat} {s : List Char} :
    readUnsigned? bound s = some n ↔ IsNumeral s n ∧ n ≤ bound := by
  constructor
  · intro h
    have hbound := le_of_readUnsigned? h
    simp only [readUnsigned?] at h
    split at h
    · next hcond =>
      simp only [Bool.and_eq_true, Bool.not_eq_true', List.isEmpty_eq_false_iff,
        List.all_eq_true] at hcond
      refine ⟨⟨dropPlus s, ?_, hcond.1.1, hcond.1.2, Option.some.inj h⟩, hbound⟩
      unfold dropPlus
      split
      · exact Or.inr rfl
      · exact Or.inl rfl
    · cases h
  · rintro ⟨⟨digits, hs, hne, hdigits, rfl⟩, hbound⟩
    have hdrop : dropPlus s = digits := by
      rcases hs with rfl | rfl
      · exact dropPlus_of_digits hdigits
      · rfl
    have hall : digits.all Char.isDigit = true := List.all_eq_true.2 hdigits
    simp [readUnsigned?, hdrop, hne, hall, hbound]

/-! ## Words in either letter case -/

theorem toNat_toLower (c : Char) :
    c.toLower.toNat = if 65 ≤ c.toNat ∧ c.toNat ≤ 90 then c.toNat + 32 else c.toNat := by
  have hrange : c.val ≥ 'A'.val ∧ c.val ≤ 'Z'.val ↔ 65 ≤ c.toNat ∧ c.toNat ≤ 90 := Iff.rfl
  unfold Char.toLower
  split
  · next h =>
    have hc := hrange.1 h
    rw [if_pos hc]
    show (c.val + ('a'.val - 'A'.val)).toNat = c.val.toNat + 32
    rw [UInt32.toNat_add]
    exact Nat.mod_eq_of_lt (show c.toNat + 32 < 4294967296 by omega)
  · next h => rw [if_neg fun hc => h (hrange.2 hc)]

theorem toNat_toUpper (c : Char) :
    c.toUpper.toNat = if 97 ≤ c.toNat ∧ c.toNat ≤ 122 then c.toNat - 32 else c.toNat := by
  have hrange : 'a'.val ≤ c.val ∧ c.val ≤ 'z'.val ↔ 97 ≤ c.toNat ∧ c.toNat ≤ 122 := Iff.rfl
  unfold Char.toUpper
  split
  · next h =>
    have hc := hrange.1 h
    rw [if_pos hc]
    show (c.val + ('A'.val - 'a'.val)).toNat = c.val.toNat - 32
    rw [UInt32.toNat_add]
    -- the difference of the two letters wraps around
    show (c.toNat + 4294967264) % 4294967296 = c.toNat - 32
    omega
  · next h => rw [if_neg fun hc => h (hrange.2 hc)]

/-- No letter is blank, so that the letter case of a character does not tell whether it is. -/
theorem isBlank_toLower (c : Char) : isBlank c.toLower = isBlank c := by
  have hvalue := toNat_toLower c
  split at hvalue
  · next h =>
    have hcapital : isBlank c = false := isBlank_of_visible (by omega) (by omega)
    rw [isBlank_of_visible (by omega) (by omega), hcapital]
  · rw [Char.toNat_inj.1 hvalue]

theorem toLower_of_isDigit {c : Char} (h : c.isDigit = true) : c.toLower = c := by
  have hrange := toNat_of_isDigit h
  rw [← Char.toNat_inj, toNat_toLower, if_neg (by omega)]

/-- A small letter comes from itself and from its capital letter only. -/
theorem toLower_eq_iff {letter c : Char} (h : letter.isLower = true) :
    c.toLower = letter ↔ c = letter ∨ c = letter.toUpper := by
  have hbounds : (decide (letter.val ≥ 97) && decide (letter.val ≤ 122)) = true := h
  have hletter : 97 ≤ letter.toNat ∧ letter.toNat ≤ 122 := by
    simpa [UInt32.le_iff_toNat_le, ← Char.toNat_val] using hbounds
  rw [← Char.toNat_inj, ← Char.toNat_inj, ← Char.toNat_inj, toNat_toLower, toNat_toUpper,
    if_pos hletter]
  split <;> omega

/-- A text spells a word of small letters: each letter is itself or its capital letter. -/
def Spells (word s : List Char) : Prop :=
  List.Forall₂ (fun letter c => c = letter ∨ c = letter.toUpper) word s

theorem lower_eq_iff {word s : List Char} (h : ∀ letter ∈ word, letter.isLower = true) :
    lower s = word ↔ Spells word s := by
  induction word generalizing s with
  | nil => simp [lower, Spells]
  | cons letter word ih =>
    have hletter := h letter List.mem_cons_self
    have hword := fun other hother => h other (List.mem_cons_of_mem _ hother)
    cases s with
    | nil => simp [lower, Spells]
    | cons c s =>
      have ih' := ih (s := s) hword
      simp only [lower, Spells] at ih'
      simp only [lower, Spells, List.map_cons, List.cons.injEq, List.forall₂_cons,
        toLower_eq_iff hletter, ih']

end KnxGateway.Text
