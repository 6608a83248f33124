set_option autoImplicit false

/-! # Writing in pieces

A stream need not take all the bytes of a write. Who has more writes the rest again, until nothing
is left or the stream fails. How the bytes were cut does not show in the end: the stream has taken
the first bytes up to its room, and the writer learns whether these were all. -/

namespace KnxGateway

/-- What a stream does with the writes to come. -/
structure ByteSink where
  /-- The greatest number of bytes that each write takes, where a write that takes none fails.
      Later writes are taken whole. -/
  pieces : List Nat

namespace ByteSink

/-- A stream that takes everything. -/
def accepting : ByteSink :=
  ⟨[]⟩

/-- A stream that fails at once. -/
def broken : ByteSink :=
  ⟨[0]⟩

/-- Writes bytes piece by piece: whether all were taken, and the bytes that were. -/
def writePieces : List Nat → List UInt8 → Bool × List UInt8
  | _, [] => (true, [])
  | [], bytes => (true, bytes)
  | 0 :: _, _ => (false, [])
  | piece :: pieces, bytes =>
    let (complete, taken) := writePieces pieces (bytes.drop piece)
    (complete, bytes.take piece ++ taken)

/-- Writes bytes until all are taken or the stream fails. -/
def writeAll (s : ByteSink) (bytes : List UInt8) : Bool × List UInt8 :=
  writePieces s.pieces bytes

/-- How many bytes are taken before the first failure, if there is one. -/
def roomOf : List Nat → Option Nat
  | [] => none
  | 0 :: _ => some 0
  | piece :: pieces => (roomOf pieces).map fun room => piece + room

/-- How many bytes the stream takes before it fails, if it ever does. -/
def room? (s : ByteSink) : Option Nat :=
  roomOf s.pieces

/-- Pieces do not show: the bytes taken are the first ones, as many as there is room for. -/
theorem writePieces_eq (pieces : List Nat) (bytes : List UInt8) :
    writePieces pieces bytes =
      match roomOf pieces with
      | none => (true, bytes)
      | some room => (decide (bytes.length ≤ room), bytes.take room) := by
  fun_induction writePieces pieces bytes with
  | case1 pieces => cases roomOf pieces <;> simp
  | case2 => rfl
  | case3 pieces bytes nonempty => simp_all [roomOf]
  | case4 piece pieces bytes nonempty positive complete taken rest ih =>
    rw [rest] at ih
    cases hroom : roomOf pieces with
    | none =>
      obtain ⟨rfl, rfl⟩ : complete = true ∧ taken = bytes.drop piece := by simpa [hroom] using ih
      simp [roomOf, hroom]
    | some room =>
      obtain ⟨rfl, rfl⟩ : complete = decide ((bytes.drop piece).length ≤ room) ∧
          taken = (bytes.drop piece).take room := by simpa only [hroom, Prod.mk.injEq] using ih
      have hfits : (bytes.drop piece).length ≤ room ↔ bytes.length ≤ piece + room := by
        rw [List.length_drop, Nat.sub_le_iff_le_add']
      simp only [roomOf, hroom, Option.map_some, List.take_add, hfits]

theorem writeAll_eq (s : ByteSink) (bytes : List UInt8) :
    s.writeAll bytes =
      match s.room? with
      | none => (true, bytes)
      | some room => (decide (bytes.length ≤ room), bytes.take room) :=
  writePieces_eq s.pieces bytes

@[simp] theorem writeAll_accepting (bytes : List UInt8) :
    accepting.writeAll bytes = (true, bytes) :=
  writeAll_eq accepting bytes

@[simp] theorem writeAll_broken (bytes : List UInt8) :
    broken.writeAll bytes = (bytes.isEmpty, []) := by
  rw [writeAll_eq]
  cases bytes <;> rfl

end ByteSink

end KnxGateway
