import KnxGateway.Proofs.Text.Digits
import KnxGateway.Proofs.Text.Reading

set_option autoImplicit false

/-! # Pairs of hexadecimal digits

A digit in base 16 is one of sixteen characters, of which six have a second form as capital
letters. A pair of digits stands for a byte, and a text of such pairs for a byte string. Here this
is said without the reader, and the reader is shown to follow it. Every byte reads back from the
pair that it is written as. -/

namespace KnxGateway.Text

/-! ## Digits -/

/-- A character is the digit of a number, as a small letter or as a capital one. -/
def IsHexDigit (c : Char) (d : Nat) : Prop :=
  d < 16 ∧ (c = Nat.digitChar d ∨ c = (Nat.digitChar d).toUpper)

instance (c : Char) (d : Nat) : Decidable (IsHexDigit c d) :=
  inferInstanceAs (Decidable (_ ∧ _))

theorem isHexDigit_of_hexValue? {c : Char} {d : Nat} (h : hexValue? c = some d) :
    IsHexDigit c d := by
  -- a digit is an ASCII character, and each of those is checked
  have hchars : ∀ n < 128, ∀ d ∈ hexValue? (Char.ofNat n), IsHexDigit (Char.ofNat n) d := by
    decide
  have hbound : c.toNat < 128 := by
    have hle (high : Char) (le : c ≤ high) : c.toNat ≤ high.toNat := le
    have hdigit := hle '9'
    have hsmall := hle 'f'
    have hcapital := hle 'F'
    grind [hexValue?]
  have hc := hchars c.toNat hbound d
  rw [Char.ofNat_toNat] at hc
  exact hc h

/-- Exactly the digits have a value, each its own. -/
theorem hexValue?_eq_some_iff {c : Char} {d : Nat} : hexValue? c = some d ↔ IsHexDigit c d := by
  constructor
  · exact isHexDigit_of_hexValue?
  · rintro ⟨hd, hc⟩
    have hdigits : ∀ d < 16, hexValue? (Nat.digitChar d) = some d ∧
        hexValue? (Nat.digitChar d).toUpper = some d := by decide
    rcases hc with rfl | rfl
    · exact (hdigits d hd).1
    · exact (hdigits d hd).2

/-- A digit is an ASCII character that is neither blank nor a mark. -/
theorem IsHexDigit.ordinary {c : Char} {d : Nat} (h : IsHexDigit c d) :
    c.toNat < 0x80 ∧ isBlank c = false ∧ c ∉ ['\\', '"', '+', 'x', 'X'] := by
  obtain ⟨hd, hc⟩ := h
  have hdigits : ∀ d < 16, [Nat.digitChar d, (Nat.digitChar d).toUpper].all (fun c =>
      c.toNat < 0x80 ∧ isBlank c = false ∧ c ∉ ['\\', '"', '+', 'x', 'X']) = true := by decide
  have hall := List.all_eq_true.1 (hdigits d hd) c (by simpa using hc)
  exact of_decide_eq_true hall

/-! ## Pairs -/

/-- A text of pairs of digits, and the bytes that they stand for. -/
inductive IsHexText : List Char → List UInt8 → Prop where
  | nil : IsHexText [] []
  | cons {high low : Char} {h l : Nat} {b : UInt8} {s : List Char} {bytes : List UInt8}
      (first : IsHexDigit high h) (second : IsHexDigit low l) (value : b.toNat = 16 * h + l)
      (rest : IsHexText s bytes) : IsHexText (high :: low :: s) (b :: bytes)

theorem toNat_ofNat_pair {h l : Nat} (hh : h < 16) (hl : l < 16) :
    (UInt8.ofNat (16 * h + l)).toNat = 16 * h + l := by
  rw [UInt8.toNat_ofNat_of_lt']
  show 16 * h + l < 256
  omega

/-- Exactly the texts of pairs of digits are read, each as its bytes. -/
theorem readHexPairs?_eq_some_iff {s : List Char} {bytes : List UInt8} :
    readHexPairs? s = some bytes ↔ IsHexText s bytes := by
  constructor
  · intro h
    fun_induction readHexPairs? s generalizing bytes with
    | case1 =>
      cases h
      exact .nil
    | case2 => cases h
    | case3 high low s ih =>
      simp only [Option.bind_eq_bind, Option.bind_eq_some_iff, Option.pure_def,
        Option.some.injEq] at h
      obtain ⟨a, ha, b, hb, rest, hrest, rfl⟩ := h
      exact .cons (hexValue?_eq_some_iff.1 ha) (hexValue?_eq_some_iff.1 hb)
        (toNat_ofNat_pair (hexValue?_lt ha) (hexValue?_lt hb)) (ih hrest)
  · intro h
    induction h with
    | nil => rfl
    | @cons high low a l b s bytes first second value rest ih =>
      have hb : UInt8.ofNat (16 * a + l) = b := by
        rw [← value, UInt8.ofNat_toNat]
      simp only [readHexPairs?, hexValue?_eq_some_iff.2 first, hexValue?_eq_some_iff.2 second, ih,
        hb, Option.bind_eq_bind, Option.bind_some, Option.pure_def]

/-- Digits stand for as many bytes as there are pairs of them. -/
theorem IsHexText.length_eq {s : List Char} {bytes : List UInt8} (h : IsHexText s bytes) :
    s.length = 2 * bytes.length := by
  induction h with
  | nil => rfl
  | cons first second value rest ih =>
    simp only [List.length_cons, ih]
    omega

theorem IsHexText.isHexDigit {s : List Char} {bytes : List UInt8} (h : IsHexText s bytes) :
    ∀ c ∈ s, ∃ d, IsHexDigit c d := by
  induction h with
  | nil => simp
  | cons first second value rest ih =>
    simp only [List.forall_mem_cons]
    exact ⟨⟨_, first⟩, ⟨_, second⟩, ih⟩

/-- An even number of digits is a text of pairs. -/
theorem exists_isHexText_of_digits {s : List Char} (heven : s.length % 2 = 0)
    (hdigits : ∀ c ∈ s, ∃ d, IsHexDigit c d) : ∃ bytes, IsHexText s bytes := by
  fun_induction readHexPairs? s with
  | case1 => exact ⟨[], .nil⟩
  | case2 => simp at heven
  | case3 high low s ih =>
    simp only [List.forall_mem_cons] at hdigits
    obtain ⟨⟨h, hhigh⟩, ⟨l, hlow⟩, hrest⟩ := hdigits
    have hlength : s.length % 2 = 0 := by
      simp only [List.length_cons] at heven
      omega
    obtain ⟨bytes, hbytes⟩ := ih hlength hrest
    exact ⟨_, .cons hhigh hlow (toNat_ofNat_pair hhigh.1 hlow.1) hbytes⟩

theorem exists_isHexText_iff {s : List Char} :
    (∃ bytes, IsHexText s bytes) ↔ s.length % 2 = 0 ∧ ∀ c ∈ s, ∃ d, IsHexDigit c d := by
  constructor
  · rintro ⟨bytes, h⟩
    have hlength := h.length_eq
    exact ⟨by omega, h.isHexDigit⟩
  · rintro ⟨heven, hdigits⟩
    exact exists_isHexText_of_digits heven hdigits

/-- A byte reads back from its pair. -/
theorem isHexText_hexPairUpper (b : UInt8) : IsHexText (hexPairUpper b) [b] := by
  have hb := b.toNat_lt
  exact .cons ⟨by omega, Or.inr rfl⟩ ⟨Nat.mod_lt _ (by decide), Or.inr rfl⟩
    (Nat.div_add_mod b.toNat 16).symm .nil

end KnxGateway.Text
