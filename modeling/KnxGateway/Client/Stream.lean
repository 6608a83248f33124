set_option autoImplicit false

/-! # Streams in segments

The bytes of a stream arrive in segments whose ends mean nothing: a segment may hold parts of
several frames, and a frame may lie in several segments. The view of a stream is the sequence of
its bytes, `flatten`, and taking bytes from the front of a stream is taking them from the view. -/

namespace KnxGateway

/-- The bytes of a stream, as they arrived. -/
abbrev Segments := List (List UInt8)

namespace Segments

/-- The first bytes of a stream and the stream behind them, unless it has fewer bytes. -/
def takeBytes? : Nat → Segments → Option (List UInt8 × Segments)
  | 0, s => some ([], s)
  | _ + 1, [] => none
  | n + 1, segment :: s =>
    if n + 1 ≤ segment.length then some (segment.take (n + 1), segment.drop (n + 1) :: s)
    else (takeBytes? (n + 1 - segment.length) s).map fun (bytes, rest) => (segment ++ bytes, rest)

/-- A stream has too few bytes exactly when its segments together have. -/
theorem takeBytes?_eq_none_iff (n : Nat) (s : Segments) :
    takeBytes? n s = none ↔ s.flatten.length < n := by
  fun_induction takeBytes? n s with
  | case1 => simp
  | case2 => simp
  | case3 n segment s fits =>
    simp only [reduceCtorEq, List.flatten_cons, List.length_append, false_iff]
    omega
  | case4 n segment s fits ih =>
    simp only [Option.map_eq_none_iff, ih, List.flatten_cons, List.length_append]
    omega

/-- The bytes that are taken and those that are left are the bytes of the stream. -/
theorem append_flatten_of_takeBytes? {n : Nat} {s rest : Segments} {bytes : List UInt8}
    (h : takeBytes? n s = some (bytes, rest)) : bytes ++ rest.flatten = s.flatten := by
  fun_induction takeBytes? n s generalizing bytes rest with
  | case1 => simp_all
  | case2 => simp at h
  | case3 n segment s fits =>
    obtain ⟨rfl, rfl⟩ := by simpa using h
    simp [← List.append_assoc]
  | case4 n segment s fits ih =>
    obtain ⟨⟨more, rest⟩, taken, eq⟩ := Option.map_eq_some_iff.mp h
    obtain ⟨rfl, rfl⟩ := by simpa using eq
    simp [ih taken]

/-- As many bytes are taken as were asked for. -/
theorem length_of_takeBytes? {n : Nat} {s rest : Segments} {bytes : List UInt8}
    (h : takeBytes? n s = some (bytes, rest)) : bytes.length = n := by
  fun_induction takeBytes? n s generalizing bytes rest with
  | case1 => simp_all
  | case2 => simp at h
  | case3 n segment s fits =>
    obtain ⟨rfl, rfl⟩ := by simpa using h
    exact List.length_take_of_le fits
  | case4 n segment s fits ih =>
    obtain ⟨⟨more, rest⟩, taken, eq⟩ := Option.map_eq_some_iff.mp h
    obtain ⟨rfl, rfl⟩ := by simpa using eq
    simp only [List.length_append, ih taken]
    omega

end Segments

end KnxGateway
