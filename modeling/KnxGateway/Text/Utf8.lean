set_option autoImplicit false

/-! # UTF-8

Texts travel as UTF-8. Encoding is exact. Decoding accepts every byte string: each maximal prefix
of a character that no further byte can complete, and each byte that no character starts with,
becomes one replacement character. Overlong forms and surrogates count as such defects.

The decoder reads one byte at a time. Its state is either between two characters or inside one,
and in the second case it knows how many bytes are owed and which values the next may have. A
byte outside that range ends the unfinished character and is then read as a first byte. -/

namespace KnxGateway.Text.Utf8

/-! ## Encoding -/

/-- The bytes of one character. -/
def encodeChar (c : Char) : List UInt8 :=
  let n := c.toNat
  if n < 0x80 then
    [UInt8.ofNat n]
  else if n < 0x800 then
    [UInt8.ofNat (0xC0 + n / 64), UInt8.ofNat (0x80 + n % 64)]
  else if n < 0x10000 then
    [UInt8.ofNat (0xE0 + n / 4096), UInt8.ofNat (0x80 + n / 64 % 64), UInt8.ofNat (0x80 + n % 64)]
  else
    [UInt8.ofNat (0xF0 + n / 262144), UInt8.ofNat (0x80 + n / 4096 % 64),
      UInt8.ofNat (0x80 + n / 64 % 64), UInt8.ofNat (0x80 + n % 64)]

def encode (s : List Char) : List UInt8 :=
  s.flatMap encodeChar

/-- The number of bytes of a character. -/
def charSize (c : Char) : Nat :=
  (encodeChar c).length

/-- The number of bytes of a text. -/
def size (s : List Char) : Nat :=
  (encode s).length

theorem encode_append (s t : List Char) : encode (s ++ t) = encode s ++ encode t := by
  simp [encode]

theorem size_cons (c : Char) (s : List Char) : size (c :: s) = charSize c + size s := by
  simp [size, encode, charSize]

theorem codePoint_lt (c : Char) : c.toNat < 0x110000 := by
  rcases c.valid with h | h
  · exact Nat.lt_trans h (by decide)
  · exact h.2

/-- The bytes of a character are those that Lean itself uses for it. -/
theorem encodeChar_eq_utf8EncodeChar (c : Char) : encodeChar c = String.utf8EncodeChar c := by
  have bound := codePoint_lt c
  simp only [encodeChar, String.utf8EncodeChar, Char.toNat] at bound ⊢
  generalize c.val.toNat = n at *
  -- the two encoders write the same bounds differently
  have one : n < 0x80 ↔ n ≤ 127 := by omega
  have two : n < 0x800 ↔ n ≤ 2047 := by omega
  have three : n < 0x10000 ↔ n ≤ 65535 := by omega
  simp only [one, two, three]
  split
  · rfl
  split
  · have lead : 0xC0 + n / 64 = n / 64 % 32 + 192 := by omega
    simp only [lead, Nat.add_comm 0x80]
  split
  · have lead : 0xE0 + n / 4096 = n / 4096 % 16 + 224 := by omega
    simp only [lead, Nat.add_comm 0x80]
  · have lead : 0xF0 + n / 262144 = n / 262144 % 8 + 240 := by omega
    simp only [lead, Nat.add_comm 0x80]

theorem encode_eq_flatMap (s : List Char) : encode s = s.flatMap String.utf8EncodeChar := by
  rw [encode, funext encodeChar_eq_utf8EncodeChar]

/-- An ASCII character is one byte. -/
theorem encodeChar_of_ascii {c : Char} (h : c.toNat < 0x80) :
    encodeChar c = [UInt8.ofNat c.toNat] :=
  if_pos h

theorem size_of_ascii {s : List Char} (h : ∀ c ∈ s, c.toNat < 0x80) : size s = s.length := by
  induction s with
  | nil => rfl
  | cons c rest ih =>
    rw [List.forall_mem_cons] at h
    rw [size_cons, charSize, encodeChar_of_ascii h.1, ih h.2, List.length_cons, Nat.add_comm]
    rfl

/-! ## Cutting to a size -/

/-- The longest prefix of whole characters that takes at most `limit` bytes. -/
def takeBytes (limit : Nat) : List Char → List Char
  | [] => []
  | c :: rest =>
    if charSize c ≤ limit then c :: takeBytes (limit - charSize c) rest else []

theorem size_takeBytes_le (limit : Nat) (s : List Char) : size (takeBytes limit s) ≤ limit := by
  induction s generalizing limit with
  | nil => simp [takeBytes, size, encode]
  | cons c rest ih =>
    by_cases h : charSize c ≤ limit
    · have := ih (limit - charSize c)
      simp only [takeBytes, h, if_true, size_cons]
      omega
    · simp [takeBytes, h, size, encode]

theorem takeBytes_isInitial (limit : Nat) (s : List Char) : takeBytes limit s <+: s := by
  induction s generalizing limit with
  | nil => simp [takeBytes]
  | cons c rest ih =>
    by_cases h : charSize c ≤ limit
    · simpa [takeBytes, h] using ih _
    · simp [takeBytes, h]

theorem takeBytes_eq_self {limit : Nat} {s : List Char} (h : size s ≤ limit) :
    takeBytes limit s = s := by
  induction s generalizing limit with
  | nil => rfl
  | cons c rest ih =>
    rw [size_cons] at h
    have hc : charSize c ≤ limit := by omega
    simp only [takeBytes, hc, if_true]
    rw [ih (by omega)]

/-! ## Decoding -/

/-- The character that stands for a defect. -/
def replacement : Char :=
  '\ufffd'

/-- Where the decoder stands between two bytes. -/
inductive State where
  /-- Between two characters. -/
  | ready
  /-- Inside a character: `owed` more bytes after the next, which is to lie from `low` to `high`;
      `value` holds the bits read so far. -/
  | inside (owed low high value : Nat)
deriving DecidableEq

/-- Reads a first byte: the characters it completes and the state after it. -/
def readFirst (b : UInt8) : List Char × State :=
  let n := b.toNat
  if n < 0x80 then ([Char.ofNat n], .ready)
  else if n < 0xC2 then ([replacement], .ready)
  else if n < 0xE0 then ([], .inside 0 0x80 0xBF (n - 0xC0))
  else if n = 0xE0 then ([], .inside 1 0xA0 0xBF 0)
  else if n = 0xED then ([], .inside 1 0x80 0x9F 0xD)
  else if n < 0xF0 then ([], .inside 1 0x80 0xBF (n - 0xE0))
  else if n = 0xF0 then ([], .inside 2 0x90 0xBF 0)
  else if n < 0xF4 then ([], .inside 2 0x80 0xBF (n - 0xF0))
  else if n = 0xF4 then ([], .inside 2 0x80 0x8F 4)
  else ([replacement], .ready)

/-- Reads one byte: the characters it completes and the state after it. -/
def State.step : State → UInt8 → List Char × State
  | .ready, b => readFirst b
  | .inside owed low high value, b =>
    if low ≤ b.toNat ∧ b.toNat ≤ high then
      let value := value * 64 + (b.toNat - 0x80)
      match owed with
      | 0 => ([Char.ofNat value], .ready)
      | owed + 1 => ([], .inside owed 0x80 0xBF value)
    else
      (replacement :: (readFirst b).1, (readFirst b).2)

/-- What the end of the bytes completes: an unfinished character is a defect. -/
def State.finish : State → List Char
  | .ready => []
  | .inside _ _ _ _ => [replacement]

/-- The text of the remaining bytes, from a given state. -/
def decodeFrom : State → List UInt8 → List Char
  | state, [] => state.finish
  | state, b :: rest => (state.step b).1 ++ decodeFrom (state.step b).2 rest

/-- The text of a byte string, with a replacement character for every defect. -/
def decode (bytes : List UInt8) : List Char :=
  decodeFrom .ready bytes

/-! ## Decoding what was encoded -/

private theorem toNat_ofNat_of_lt {n : Nat} (h : n < 256) : (UInt8.ofNat n).toNat = n := by
  simpa using h

private theorem step_last {low high value : Nat} {b : UInt8} (h : low ≤ b.toNat ∧ b.toNat ≤ high) :
    (State.inside 0 low high value).step b =
      ([Char.ofNat (value * 64 + (b.toNat - 0x80))], .ready) := by
  simp [State.step, h]

private theorem step_more {owed low high value : Nat} {b : UInt8}
    (h : low ≤ b.toNat ∧ b.toNat ≤ high) :
    (State.inside (owed + 1) low high value).step b =
      ([], .inside owed 0x80 0xBF (value * 64 + (b.toNat - 0x80))) := by
  simp [State.step, h]

/-- From between two characters, the bytes of a character read as that character. -/
theorem decodeFrom_encodeChar (c : Char) (rest : List UInt8) :
    decodeFrom .ready (encodeChar c ++ rest) = c :: decodeFrom .ready rest := by
  have valid : c.toNat < 0xD800 ∨ 0xDFFF < c.toNat ∧ c.toNat < 0x110000 := c.valid
  have back : Char.ofNat c.toNat = c := Char.ofNat_toNat c
  unfold encodeChar
  generalize c.toNat = n at *
  simp only
  split
  · next h =>
    simp [decodeFrom, State.step, readFirst, toNat_ofNat_of_lt (show n < 256 by omega), h, back]
  split
  · next h =>
    have e0 := toNat_ofNat_of_lt (show 0xC0 + n / 64 < 256 by omega)
    have e1 := toNat_ofNat_of_lt (show 0x80 + n % 64 < 256 by omega)
    generalize UInt8.ofNat (0xC0 + n / 64) = b0, UInt8.ofNat (0x80 + n % 64) = b1 at *
    have first : readFirst b0 = ([], .inside 0 0x80 0xBF (n / 64)) := by grind [readFirst]
    have value : n / 64 * 64 + (b1.toNat - 0x80) = n := by omega
    simp [decodeFrom, State.step.eq_1, first, step_last (show 0x80 ≤ b1.toNat ∧ b1.toNat ≤ 0xBF by omega),
      value, back]
  split
  · next h =>
    have e0 := toNat_ofNat_of_lt (show 0xE0 + n / 4096 < 256 by omega)
    have e1 := toNat_ofNat_of_lt (show 0x80 + n / 64 % 64 < 256 by omega)
    have e2 := toNat_ofNat_of_lt (show 0x80 + n % 64 < 256 by omega)
    generalize UInt8.ofNat (0xE0 + n / 4096) = b0, UInt8.ofNat (0x80 + n / 64 % 64) = b1,
      UInt8.ofNat (0x80 + n % 64) = b2 at *
    obtain ⟨low, high, first, second⟩ : ∃ low high,
        readFirst b0 = ([], .inside 1 low high (n / 4096)) ∧ low ≤ b1.toNat ∧ b1.toNat ≤ high := by
      simp only [readFirst, e0, e1]
      by_cases h0 : n / 4096 = 0
      · exact ⟨0xA0, 0xBF, by simp [h0], by omega, by omega⟩
      by_cases hD : n / 4096 = 0xD
      · exact ⟨0x80, 0x9F, by simp [hD], by omega, by omega⟩
      · exact ⟨0x80, 0xBF, by grind, by omega, by omega⟩
    have value : (n / 4096 * 64 + (b1.toNat - 0x80)) * 64 + (b2.toNat - 0x80) = n := by omega
    simp [decodeFrom, State.step.eq_1, first, step_more second,
      step_last (show 0x80 ≤ b2.toNat ∧ b2.toNat ≤ 0xBF by omega), value, back]
  · have e0 := toNat_ofNat_of_lt (show 0xF0 + n / 262144 < 256 by omega)
    have e1 := toNat_ofNat_of_lt (show 0x80 + n / 4096 % 64 < 256 by omega)
    have e2 := toNat_ofNat_of_lt (show 0x80 + n / 64 % 64 < 256 by omega)
    have e3 := toNat_ofNat_of_lt (show 0x80 + n % 64 < 256 by omega)
    generalize UInt8.ofNat (0xF0 + n / 262144) = b0, UInt8.ofNat (0x80 + n / 4096 % 64) = b1,
      UInt8.ofNat (0x80 + n / 64 % 64) = b2, UInt8.ofNat (0x80 + n % 64) = b3 at *
    obtain ⟨low, high, first, second⟩ : ∃ low high,
        readFirst b0 = ([], .inside 2 low high (n / 262144)) ∧
          low ≤ b1.toNat ∧ b1.toNat ≤ high := by
      simp only [readFirst, e0, e1]
      by_cases h0 : n / 262144 = 0
      · exact ⟨0x90, 0xBF, by simp [h0], by omega, by omega⟩
      by_cases h4 : n / 262144 = 4
      · exact ⟨0x80, 0x8F, by simp [h4], by omega, by omega⟩
      · exact ⟨0x80, 0xBF, by grind, by omega, by omega⟩
    have value : ((n / 262144 * 64 + (b1.toNat - 0x80)) * 64 + (b2.toNat - 0x80)) * 64 +
        (b3.toNat - 0x80) = n := by omega
    simp [decodeFrom, State.step.eq_1, first, step_more second,
      step_more (show 0x80 ≤ b2.toNat ∧ b2.toNat ≤ 0xBF by omega),
      step_last (show 0x80 ≤ b3.toNat ∧ b3.toNat ≤ 0xBF by omega), value, back]

/-- A text reads back from its bytes, whatever follows them. -/
theorem decode_encode_append (s : List Char) (rest : List UInt8) :
    decode (encode s ++ rest) = s ++ decode rest := by
  induction s with
  | nil => rfl
  | cons c s ih =>
    rw [show encode (c :: s) = encodeChar c ++ encode s by simp [encode], List.append_assoc]
    simp only [decode] at ih ⊢
    rw [decodeFrom_encodeChar, ih, List.cons_append]

/-- A text reads back from its bytes. -/
theorem decode_encode (s : List Char) : decode (encode s) = s := by
  simpa [decode, decodeFrom, State.finish] using decode_encode_append s []

end KnxGateway.Text.Utf8
