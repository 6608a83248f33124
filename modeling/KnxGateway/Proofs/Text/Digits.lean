import KnxGateway.Text.Hex
import KnxGateway.Text.Numeral

set_option autoImplicit false

/-! # Digits

What a written number looks like from outside: its digits have its value, it starts with a zero
only if it is zero, and the run of its digits ends where another character follows. -/

namespace KnxGateway.Text

theorem hexValue?_digitChar {d : Nat} (h : d < 16) :
    hexValue? (Nat.digitChar d) = some d := by
  revert d
  decide

theorem exists_of_mem_hexDigits {n : Nat} {c : Char} (h : c ∈ hexDigits n) :
    ∃ d < 16, c = Nat.digitChar d := by
  induction n using Nat.strongRecOn with
  | _ n ih =>
  rw [hexDigits, Nat.toDigits_eq_if (by decide)] at h
  split at h
  · next hn => exact ⟨n, hn, List.mem_singleton.1 h⟩
  · next hn =>
    rcases List.mem_append.1 h with hfront | hlast
    · exact ih (n / 16) (by omega) hfront
    · exact ⟨n % 16, Nat.mod_lt _ (by decide), List.mem_singleton.1 hlast⟩

theorem isSome_hexValue?_of_mem {n : Nat} {c : Char} (h : c ∈ hexDigits n) :
    (hexValue? c).isSome = true := by
  obtain ⟨d, hd, rfl⟩ := exists_of_mem_hexDigits h
  rw [hexValue?_digitChar hd]
  rfl

/-- The digits of a number in base 16 have its value. -/
theorem foldl_hexDigits (n : Nat) :
    ((hexDigits n).filterMap hexValue?).foldl (fun n digit => n * 16 + digit) 0 = n := by
  induction n using Nat.strongRecOn with
  | _ n ih =>
  rw [hexDigits, Nat.toDigits_eq_if (by decide)]
  split
  · next hn => simp [hexValue?_digitChar hn]
  · next hn =>
    have hfront := ih (n / 16) (by omega)
    rw [hexDigits] at hfront
    rw [List.filterMap_append, List.foldl_append, hfront]
    simp only [List.filterMap_cons, hexValue?_digitChar (Nat.mod_lt n (by decide : 16 > 0)),
      List.filterMap_nil, List.foldl_cons, List.foldl_nil]
    omega

/-- A number that is not zero is written without a zero in front. -/
theorem head?_decimal_ne {n : Nat} (h : 0 < n) : (decimal n).head? ≠ some '0' := by
  induction n using Nat.strongRecOn with
  | _ n ih =>
  rw [decimal, Nat.toDigits_eq_if (by decide)]
  split
  · next hn =>
    have hdigit : ∀ d < 10, 0 < d → Nat.digitChar d ≠ '0' := by decide
    simpa using hdigit n hn h
  · next hn =>
    have hfront := ih (n / 10) (by omega) (by omega)
    rw [decimal] at hfront
    rw [List.head?_append]
    cases hhead : (Nat.toDigits 10 (n / 10)).head? with
    | none => exact absurd (List.head?_eq_none_iff.1 hhead) Nat.toDigits_ne_nil
    | some c => simpa [hhead] using hfront

theorem takeWhile_eq_nil_of_head? {p : Char → Bool} {rest : List Char}
    (h : ∀ c, rest.head? = some c → p c = false) : rest.takeWhile p = [] := by
  cases rest with
  | nil => rfl
  | cons c rest => simp [h c rfl]

/-- A text in front of which nothing is to be taken loses all of a front that is to be taken. -/
theorem takeWhile_append_of_stop {p : Char → Bool} {front rest : List Char}
    (hfront : ∀ c ∈ front, p c = true) (hrest : rest.takeWhile p = []) :
    (front ++ rest).takeWhile p = front ∧ (front ++ rest).dropWhile p = rest := by
  have hdrop : rest.dropWhile p = rest := by
    simpa [hrest] using List.takeWhile_append_dropWhile (p := p) (l := rest)
  rw [List.takeWhile_append_of_pos hfront, List.dropWhile_append_of_pos hfront, hrest, hdrop]
  simp

end KnxGateway.Text
