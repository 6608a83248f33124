import KnxGateway.GroupAddress
import Mathlib.Tactic.SplitIfs

set_option autoImplicit false

/-! # Addresses that are read from texts

Each notation keeps its numbers within the fields of the word and refuses to make all of them
zero, so that the word of an address that was read is never the reserved one. -/

namespace KnxGateway.GroupAddress

open Text

/-! ## The reserved address -/

theorem toNat_raw_ofNat {n : Nat} (h : n < 65536) : (ofNat n).raw.toNat = n := by
  simp [ofNat, Nat.mod_eq_of_lt h]

/-- Every word but the reserved one is valid. -/
theorem isValid_ofNat {n : Nat} (hpos : 0 < n) (hle : n ≤ maxUInt16) :
    (ofNat n).isValid = true := by
  have hraw := toNat_raw_ofNat (Nat.lt_succ_of_le hle)
  have hne : (ofNat n).raw ≠ 0 := by
    intro hzero
    rw [hzero] at hraw
    exact absurd hraw (Nat.ne_of_lt hpos)
  exact bne_iff_ne.2 hne

theorem isValid_of_threeLevel {main middle sub : Nat} {a : GroupAddress}
    (h : threeLevel main middle sub = .ok a) : a.isValid = true := by
  unfold threeLevel at h
  split_ifs at h with hmain hmiddle hsub hzero
  cases h
  exact isValid_ofNat (by omega) (by simp only [maxUInt16]; omega)

theorem isValid_of_twoLevel {main sub : Nat} {a : GroupAddress}
    (h : twoLevel main sub = .ok a) : a.isValid = true := by
  unfold twoLevel at h
  split_ifs at h with hmain hsub hzero
  cases h
  exact isValid_ofNat (by omega) (by simp only [maxUInt16]; omega)

/-- No text is read as the reserved address. -/
theorem isValid_of_parse {s : String} {a : GroupAddress} (h : parse s = .ok a) :
    a.isValid = true := by
  simp only [parse] at h
  split_ifs at h
  split at h
  · exact isValid_of_threeLevel h
  · exact isValid_of_twoLevel h
  · next word _ =>
    split_ifs at h with hzero hle
    cases h
    exact isValid_ofNat (Nat.pos_of_ne_zero hzero) hle
  · cases h

end KnxGateway.GroupAddress
