import KnxGateway.Proofs.Datapoint.Exactness
import KnxGateway.Proofs.Datapoint.FirstArgument
import Mathlib.Algebra.Order.Round
import Mathlib.Data.List.Induction
import Mathlib.Data.Nat.Digits.Defs
import Mathlib.Data.Rat.Floor
import Mathlib.Tactic.FieldSimp
import Mathlib.Tactic.Ring

set_option autoImplicit false

/-! # Which arguments are numbers

An unsigned type takes a numeral for a number up to its maximum, however many zeros stand in front
of it. Which bytes it stores for the number, and which number it shows for bytes, is said here from
outside: the bytes are digits in base 256, and a percentage is rounded to the nearest number of the
other scale. -/

namespace KnxGateway

open Text

/-! ## Bytes as digits -/

/-- The number with the given bytes as its digits in base 256, high byte first. -/
def byteNumber (bytes : List UInt8) : Nat :=
  Nat.ofDigits 256 (bytes.reverse.map UInt8.toNat)

theorem ofBigEndian_append (bytes : List UInt8) (b : UInt8) :
    ofBigEndian (bytes ++ [b]) = ofBigEndian bytes * 256 + b.toNat := by
  simp [ofBigEndian]

theorem ofBigEndian_eq_byteNumber (bytes : List UInt8) : ofBigEndian bytes = byteNumber bytes := by
  induction bytes using List.reverseRecOn with
  | nil => rfl
  | append_singleton bytes b ih =>
    rw [byteNumber] at ih
    rw [ofBigEndian_append, ih, byteNumber, List.reverse_append, List.reverse_singleton,
      List.singleton_append, List.map_cons, Nat.ofDigits_cons]
    omega

/-- Bytes are the digits of their number. -/
theorem bigEndian_ofBigEndian (bytes : List UInt8) :
    bigEndian bytes.length (ofBigEndian bytes) = bytes := by
  induction bytes using List.reverseRecOn with
  | nil => rfl
  | append_singleton bytes b ih =>
    have hb := b.toNat_lt
    have hfront : (ofBigEndian bytes * 256 + b.toNat) / 256 = ofBigEndian bytes := by omega
    have hlast : UInt8.ofNat (ofBigEndian bytes * 256 + b.toNat) = b := by
      rw [← UInt8.toNat_inj, UInt8.toNat_ofNat']
      omega
    rw [List.length_append, List.length_singleton, ofBigEndian_append, bigEndian, hfront, ih,
      hlast]

/-! ## Nearest numbers -/

/-- The whole number that is nearest to a fraction, and the greater one of two. -/
theorem round_natCast_div (a : Nat) {b : Nat} (h : 0 < b) :
    round ((a : ℚ) / b) = ((2 * a + b) / (2 * b) : Nat) := by
  have hb : (b : ℚ) ≠ 0 := Nat.cast_ne_zero.2 (Nat.ne_of_gt h)
  have hsum : (a : ℚ) / b + 1 / 2 = ((2 * a + b : Nat) : ℤ) / ((2 * b : Nat) : ℚ) := by
    push_cast
    field_simp
  rw [round_eq, hsum, Rat.floor_intCast_div_natCast]
  norm_cast

namespace UnsignedLayout

/-- What is stored for a written number. -/
def IsStoredAs : UnsignedLayout → Nat → Nat → Prop
  | byte _, n, k | word _, n, k => k = n
  | percent, n, k => (k : ℤ) = round ((255 * n : ℚ) / 100)

/-- What is shown for a stored number. -/
def IsShownAs : UnsignedLayout → Nat → Nat → Prop
  | byte _, k, n | word _, k, n => n = k
  | percent, k, n => (n : ℤ) = round ((100 * k : ℚ) / 255)

variable {layout : UnsignedLayout} {n k : Nat}

theorem isStoredAs_iff : layout.IsStoredAs n k ↔ k = layout.scale n := by
  cases layout with
  | byte unit | word unit => rfl
  | percent =>
    have hround := round_natCast_div (255 * n) (show 0 < 100 by decide)
    push_cast at hround
    have hscale : (2 * (255 * n) + 100) / (2 * 100) = (n * 255 + 50) / 100 := by omega
    simp only [IsStoredAs, scale, hround]
    omega

theorem isShownAs_iff : layout.IsShownAs k n ↔ n = layout.unscale k := by
  cases layout with
  | byte unit | word unit => rfl
  | percent =>
    have hround := round_natCast_div (100 * k) (show 0 < 255 by decide)
    push_cast at hround
    simp only [IsShownAs, unscale, hround]
    omega

theorem maximum_le (layout : UnsignedLayout) : layout.maximum ≤ maxUInt32 := by
  cases layout <;> simp [maximum, maxUInt32]

/-- What is shown for bytes of the right number can be written. -/
theorem unscale_le (h : k < byteValues layout.width) : layout.unscale k ≤ layout.maximum := by
  cases layout <;> simp only [width, byteValues] at h <;> simp only [unscale, maximum] <;> omega

/-- The bytes of a written number. -/
def Encodes (layout : UnsignedLayout) (n : Nat) (bytes : List UInt8) : Prop :=
  bytes.length = layout.width ∧ layout.IsStoredAs n (byteNumber bytes)

theorem encodes_iff {bytes : List UInt8} (h : n ≤ layout.maximum) :
    layout.Encodes n bytes ↔ bytes = bigEndian layout.width (layout.scale n) := by
  rw [Encodes, isStoredAs_iff, ← ofBigEndian_eq_byteNumber]
  constructor
  · rintro ⟨hlength, hnumber⟩
    rw [← hnumber, ← hlength, bigEndian_ofBigEndian]
  · rintro rfl
    exact ⟨length_bigEndian _ _, ofBigEndian_bigEndian (scale_lt h)⟩

end UnsignedLayout

namespace DatapointType

variable {id : DatapointId} {layout : UnsignedLayout} {arguments : List String}

/-! ## Arguments -/

/-- The first argument is a numeral, with blanks around it or not. -/
def GivesNumber (arguments : List String) (n : Nat) : Prop :=
  ∃ given, IsGiven arguments given ∧ IsNumeral given n

/-- Why a text is no number of an unsigned type. -/
inductive IsNumberFault (layout : UnsignedLayout) (given : List Char) : Mismatch → Prop where
  | notNumber (not_number : ∀ n ≤ maxUInt32, ¬ IsNumeral given n) :
      IsNumberFault layout given (.notNumber (String.ofList given))
  | outOfRange {n : Nat} (numeral : IsNumeral given n) (le_word : n ≤ maxUInt32)
      (excess : layout.maximum < n) :
      IsNumberFault layout given (.outOfRange n layout.maximum)

/-- The value of a number. -/
structure IsValueOf (id : DatapointId) (layout : UnsignedLayout) (n : Nat) (v : DatapointValue) :
    Prop where
  id_eq : v.id = id
  text_eq : v.text = decimalText n
  encodes : layout.Encodes n v.bytes

theorem parse_unsigned_of_missing (h : IsMissing arguments) :
    (unsigned id layout).parse arguments = .error (.missingArgument id.text) := by
  simp only [parse, firstArgument?_eq_none_iff.2 h]
  rfl

theorem parse_unsigned_of_number {n : Nat} (h : GivesNumber arguments n)
    (hle : n ≤ layout.maximum) :
    (unsigned id layout).parse arguments =
      .ok ⟨id, bigEndian layout.width (layout.scale n), decimalText n⟩ := by
  obtain ⟨given, hgiven, hn⟩ := h
  have hread : readUnsigned? maxUInt32 given = some n :=
    readUnsigned?_eq_some_iff.2 ⟨hn, Nat.le_trans hle layout.maximum_le⟩
  simp only [parse, firstArgument?_eq_some_iff.2 hgiven, hread, if_neg (Nat.not_lt.2 hle)]

theorem IsNumberFault.parse_eq {given : List Char} {mismatch : Mismatch}
    (h : IsNumberFault layout given mismatch) (hgiven : IsGiven arguments given) :
    (unsigned id layout).parse arguments = .error (.incompatible id.text mismatch) := by
  simp only [parse, firstArgument?_eq_some_iff.2 hgiven]
  cases h with
  | notNumber hno =>
    have hread : readUnsigned? maxUInt32 given = none := by
      rw [Option.eq_none_iff_forall_ne_some]
      intro n hn
      obtain ⟨hnumeral, hle⟩ := readUnsigned?_eq_some_iff.1 hn
      exact hno n hle hnumeral
    rw [hread]
    rfl
  | outOfRange hnumeral hle hexcess =>
    simp only [readUnsigned?_eq_some_iff.2 ⟨hnumeral, hle⟩, if_pos hexcess]
    rfl

/-- Either an argument is missing, or the first one is a number of the type or has a fault. -/
theorem unsigned_cases (layout : UnsignedLayout) (arguments : List String) :
    IsMissing arguments ∨ (∃ n ≤ layout.maximum, GivesNumber arguments n) ∨
      ∃ given mismatch, IsGiven arguments given ∧ IsNumberFault layout given mismatch := by
  obtain hmissing | ⟨given, hgiven⟩ := isMissing_or_isGiven arguments
  · exact Or.inl hmissing
  refine Or.inr ?_
  by_cases hword : ∃ n ≤ maxUInt32, IsNumeral given n
  · obtain ⟨n, hle, hn⟩ := hword
    rcases Nat.lt_or_ge layout.maximum n with hexcess | hmax
    · exact Or.inr ⟨given, _, hgiven, .outOfRange hn hle hexcess⟩
    · exact Or.inl ⟨n, hmax, given, hgiven, hn⟩
  · refine Or.inr ⟨given, _, hgiven, .notNumber ?_⟩
    intro n hle hn
    exact hword ⟨n, hle, hn⟩

theorem isValueOf_iff {n : Nat} {v : DatapointValue} (h : n ≤ layout.maximum) :
    IsValueOf id layout n v ↔
      v = ⟨id, bigEndian layout.width (layout.scale n), decimalText n⟩ := by
  obtain ⟨vid, bytes, text⟩ := v
  rw [DatapointValue.mk.injEq, ← UnsignedLayout.encodes_iff h]
  constructor
  · rintro ⟨hid, htext, hbytes⟩
    exact ⟨hid, hbytes, htext⟩
  · rintro ⟨hid, hbytes, htext⟩
    exact ⟨hid, htext, hbytes⟩

theorem parse_unsigned_eq_ok_iff {v : DatapointValue} :
    (unsigned id layout).parse arguments = .ok v ↔
      ∃ n ≤ layout.maximum, GivesNumber arguments n ∧ IsValueOf id layout n v := by
  constructor
  · intro h
    obtain hmissing | ⟨n, hle, hn⟩ | ⟨given, mismatch, hgiven, hfault⟩ :=
      unsigned_cases layout arguments
    · rw [parse_unsigned_of_missing hmissing] at h
      cases h
    · rw [parse_unsigned_of_number hn hle] at h
      exact ⟨n, hle, hn, (isValueOf_iff hle).2 (Except.ok.inj h).symm⟩
    · rw [hfault.parse_eq hgiven] at h
      cases h
  · rintro ⟨n, hle, hn, hv⟩
    rw [parse_unsigned_of_number hn hle, (isValueOf_iff hle).1 hv]

theorem parse_unsigned_eq_error_iff {e : DatapointError} :
    (unsigned id layout).parse arguments = .error e ↔
      IsMissing arguments ∧ e = .missingArgument id.text ∨
      ∃ given mismatch, IsGiven arguments given ∧ IsNumberFault layout given mismatch ∧
        e = .incompatible id.text mismatch := by
  constructor
  · intro h
    obtain hmissing | ⟨n, hle, hn⟩ | ⟨given, mismatch, hgiven, hfault⟩ :=
      unsigned_cases layout arguments
    · rw [parse_unsigned_of_missing hmissing] at h
      exact Or.inl ⟨hmissing, (Except.error.inj h).symm⟩
    · rw [parse_unsigned_of_number hn hle] at h
      cases h
    · rw [hfault.parse_eq hgiven] at h
      exact Or.inr ⟨given, mismatch, hgiven, hfault, (Except.error.inj h).symm⟩
  · rintro (⟨hmissing, rfl⟩ | ⟨given, mismatch, hgiven, hfault, rfl⟩)
    · exact parse_unsigned_of_missing hmissing
    · exact hfault.parse_eq hgiven

/-! ## Values in words -/

/-- The value of a number is computed in words without loss. It is the end of the word that is
    stored, and what is in front of it is zero. -/
theorem IsValueOf.computed {n : Nat} {v : DatapointValue} (h : IsValueOf id layout n v)
    (hle : n ≤ layout.maximum) :
    ∃ stored, layout.scaleInWords? n = some stored ∧ layout.width ≤ 4 ∧
      (bigEndian 4 stored).drop (4 - layout.width) = v.bytes ∧
      (bigEndian 4 stored).take (4 - layout.width) = List.replicate (4 - layout.width) 0 := by
  obtain rfl := (isValueOf_iff hle).1 h
  have hwidth := layout.width_le
  have hword := bigEndian_add (UnsignedLayout.scale_lt hle) (4 - layout.width)
  rw [Nat.sub_add_cancel hwidth] at hword
  refine ⟨layout.scale n, UnsignedLayout.scaleInWords?_eq hle, hwidth, ?_, ?_⟩
  · rw [hword, List.drop_left' (List.length_replicate ..)]
  · rw [hword, List.take_left' (List.length_replicate ..)]

/-! ## Bytes -/

/-- Bytes of the right number are shown as a number that can be written. Unless it is a percentage,
    they are the bytes of that number. -/
theorem render_unsigned_of_length (id : DatapointId) {bytes : List UInt8}
    (h : bytes.length = layout.width) :
    ∃ n ≤ layout.maximum, layout.IsShownAs (byteNumber bytes) n ∧
      (layout ≠ .percent → layout.Encodes n bytes) ∧
      (wordOfBytes? bytes).bind layout.unscaleInWords? = some n ∧
      (unsigned id layout).render bytes = .ok ⟨decimalText n, layout.unit⟩ := by
  have hlt : ofBigEndian bytes < byteValues layout.width := by
    rw [← h]
    exact ofBigEndian_lt (h ▸ layout.width_le)
  have hmax := UnsignedLayout.unscale_le hlt
  refine ⟨_, hmax, ?_, ?_, UnsignedLayout.unscaleInWords?_of_length h, ?_⟩
  · rw [UnsignedLayout.isShownAs_iff, ofBigEndian_eq_byteNumber]
  · intro hpercent
    refine ⟨h, ?_⟩
    rw [UnsignedLayout.isStoredAs_iff, ← ofBigEndian_eq_byteNumber]
    cases layout with
    | byte unit | word unit => rfl
    | percent => exact absurd rfl hpercent
  · simp only [render, if_pos h]
    rfl

theorem render_unsigned_of_length_ne {bytes : List UInt8} (h : bytes.length ≠ layout.width) :
    (unsigned id layout).render bytes =
      .error (.incompatible id.text (.wrongWidth layout.width bytes.length)) := by
  simp only [render, if_neg h]
  rfl

/-- An unsigned type misses an argument when the first one is missing or blank. It takes a numeral
    for a number up to its maximum and stores the digits of that number in base 256, or of the
    nearest number in the scale of a byte, and it reports any other text. The arithmetic in words
    behind it is exact. Bytes of the right number are shown as the number that they are the bytes
    of, or as the nearest percentage, and bytes of any other number are reported. -/
theorem parse_unsigned_exact (id : DatapointId) (layout : UnsignedLayout) :
    (∀ arguments, (unsigned id layout).parse arguments = .error (.missingArgument id.text) ↔
      IsMissing arguments) ∧
    (∀ arguments v, (unsigned id layout).parse arguments = .ok v ↔
      ∃ n ≤ layout.maximum, GivesNumber arguments n ∧ IsValueOf id layout n v) ∧
    (∀ arguments e, (unsigned id layout).parse arguments = .error e ↔
      IsMissing arguments ∧ e = .missingArgument id.text ∨
      ∃ given mismatch, IsGiven arguments given ∧ IsNumberFault layout given mismatch ∧
        e = .incompatible id.text mismatch) ∧
    (∀ n v, n ≤ layout.maximum → IsValueOf id layout n v →
      ∃ stored, layout.scaleInWords? n = some stored ∧ layout.width ≤ 4 ∧
        (bigEndian 4 stored).drop (4 - layout.width) = v.bytes ∧
        (bigEndian 4 stored).take (4 - layout.width) = List.replicate (4 - layout.width) 0) ∧
    (∀ bytes, bytes.length = layout.width →
      ∃ n ≤ layout.maximum, layout.IsShownAs (byteNumber bytes) n ∧
        (layout ≠ .percent → layout.Encodes n bytes) ∧
        (wordOfBytes? bytes).bind layout.unscaleInWords? = some n ∧
        (unsigned id layout).render bytes = .ok ⟨decimalText n, layout.unit⟩) ∧
    ∀ bytes, bytes.length ≠ layout.width →
      (unsigned id layout).render bytes =
        .error (.incompatible id.text (.wrongWidth layout.width bytes.length)) := by
  refine ⟨?_, ?_, ?_, ?_, ?_, ?_⟩
  · intro arguments
    simp [parse_unsigned_eq_error_iff]
  · intro arguments v
    exact parse_unsigned_eq_ok_iff
  · intro arguments e
    exact parse_unsigned_eq_error_iff
  · intro n v hle hv
    exact hv.computed hle
  · intro bytes h
    exact render_unsigned_of_length id h
  · intro bytes h
    exact render_unsigned_of_length_ne h

/-- Ten percent is halfway between 25 and 26 of 255. It is given with a plus sign and zeros, between
    an ideographic space and a line end. -/
theorem parse_unsigned_exact_halfway :
    (unsigned ⟨5, 1⟩ .percent).parse ["\u3000+0010\n", "x"] = .ok ⟨⟨5, 1⟩, [26], "10"⟩ ∧
      (∃ stored, UnsignedLayout.percent.scaleInWords? 10 = some stored ∧
        (bigEndian 4 stored).drop 3 = [26]) ∧
      (∃ n ≤ 100, (unsigned ⟨5, 1⟩ .percent).render [26] = .ok ⟨decimalText n, "%"⟩) ∧
      (unsigned ⟨5, 1⟩ .percent).render [0, 26] =
        .error (.incompatible "dpst-5-1" (.wrongWidth 1 2)) := by
  have hgiven : GivesNumber ["\u3000+0010\n", "x"] 10 :=
    ⟨"+0010".toList, ⟨by decide, _, rfl, by decide⟩,
      "0010".toList, Or.inr (by decide), by decide, List.all_eq_true.1 (by decide), by decide⟩
  have hle : 10 ≤ UnsignedLayout.percent.maximum := by decide
  have hvalue : IsValueOf ⟨5, 1⟩ .percent 10 ⟨⟨5, 1⟩, [26], "10"⟩ :=
    ⟨rfl, by decide, (UnsignedLayout.encodes_iff hle).2 (by decide)⟩
  obtain ⟨-, hok, -, hcomputed, hrender, hwidth⟩ := parse_unsigned_exact ⟨5, 1⟩ .percent
  obtain ⟨stored, hstored, -, hbytes, -⟩ := hcomputed 10 _ hle hvalue
  obtain ⟨n, hn, -, -, -, hshown⟩ := hrender [26] rfl
  exact ⟨(hok _ _).2 ⟨10, hle, hgiven, hvalue⟩, ⟨stored, hstored, hbytes⟩, ⟨n, hn, hshown⟩,
    hwidth [0, 26] (by decide)⟩

end DatapointType

end KnxGateway
