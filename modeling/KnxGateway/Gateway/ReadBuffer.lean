set_option autoImplicit false

/-! # Read buffers

A reader reads into a fresh buffer of zeros, and then cuts the buffer off behind the bytes that it
got. Buffers may be great and are blank for the most part, so that the zeros at the end of a buffer
are only counted. -/

namespace KnxGateway

/-- A buffer. -/
structure ReadBuffer where
  /-- The bytes in front. -/
  front : List UInt8
  /-- The number of zeros behind them. -/
  blanks : Nat

namespace ReadBuffer

/-- A fresh buffer of the given size, with nothing but zeros in it. -/
def ofSize (size : Nat) : ReadBuffer :=
  ⟨[], size⟩

/-- All bytes of a buffer. -/
def contents (b : ReadBuffer) : List UInt8 :=
  b.front ++ List.replicate b.blanks 0

/-- The buffer with bytes written over its beginning. -/
def fill (b : ReadBuffer) (bytes : List UInt8) : ReadBuffer :=
  ⟨bytes ++ b.front.drop bytes.length, b.blanks - (bytes.length - b.front.length)⟩

/-- The buffer without what is behind its first bytes. -/
def truncate (b : ReadBuffer) (length : Nat) : ReadBuffer :=
  ⟨b.front.take length, min (length - b.front.length) b.blanks⟩

theorem contents_fill (b : ReadBuffer) (bytes : List UInt8) :
    (b.fill bytes).contents = bytes ++ b.contents.drop bytes.length := by
  rw [contents, contents, List.drop_append, List.drop_replicate, fill, List.append_assoc]

theorem contents_truncate (b : ReadBuffer) (length : Nat) :
    (b.truncate length).contents = b.contents.take length := by
  rw [contents, contents, List.take_append, List.take_replicate, truncate]

/-- What a reader with a buffer of the given size makes of the bytes that it gets in one go. -/
def chunk (size : Nat) (bytes : List UInt8) : List UInt8 :=
  (((ofSize size).fill bytes).truncate bytes.length).contents

/-- Nothing of the blank buffer stays behind the bytes. -/
theorem chunk_eq (size : Nat) (bytes : List UInt8) : chunk size bytes = bytes := by
  rw [chunk, contents_truncate, contents_fill, List.take_left]

end ReadBuffer

end KnxGateway
