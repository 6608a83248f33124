import KnxGateway.Proofs.Datapoint.Rendering
import KnxGateway.Proofs.Text.HexPairs

set_option autoImplicit false

/-! # Values keep what was given

A value that was read from the arguments of a write names its type, has as many bytes as the type
asks for, and is rendered as the text that it was given. Numbers are computed in words of 32 bits:
no result on the way is too great for a word, and the bytes of a word that are left out of a value
are zero. So nothing is lost between the digits of an argument and the digits that are shown. -/

namespace KnxGateway

open Text

/-! ## Numbers and the bytes they fit into -/

theorem byteValues_le_of_le {a b : Nat} (h : a ≤ b) : byteValues a ≤ byteValues b := by
  induction h with
  | refl => exact Nat.le_refl _
  | step _ ih =>
    rw [byteValues]
    omega

/-- A number that fits into four bytes fits into a word. -/
theorem le_maxUInt32_of_lt {n width : Nat} (h : n < byteValues width) (hwidth : width ≤ 4) :
    n ≤ maxUInt32 := by
  have hword : byteValues 4 = maxUInt32 + 1 := rfl
  have hle := byteValues_le_of_le hwidth
  omega

/-- The bytes in front of those that a number needs are zero. -/
theorem bigEndian_add {n width : Nat} (h : n < byteValues width) (more : Nat) :
    bigEndian (more + width) n = List.replicate more 0 ++ bigEndian width n := by
  induction width generalizing n with
  | zero =>
    obtain rfl : n = 0 := Nat.lt_one_iff.1 h
    induction more with
    | zero => rfl
    | succ more ih =>
      have hzeros : bigEndian more 0 = List.replicate more 0 := ih.trans (List.append_nil _)
      simp [bigEndian, hzeros, List.replicate_succ']
  | succ width ih =>
    have hrest : n / 256 < byteValues width := by
      rw [byteValues] at h
      omega
    rw [← Nat.add_assoc, bigEndian, ih hrest, bigEndian, List.append_assoc]

/-! ## Arithmetic in words -/

/-- A result in a word of 32 bits, if it is not too great for one. -/
def word? (n : Nat) : Option Nat :=
  if n ≤ maxUInt32 then some n else none

theorem word?_of_le {n : Nat} (h : n ≤ maxUInt32) : word? n = some n :=
  if_pos h

/-- A word shifted by one byte, with a byte put in. -/
def appendByte? (n : Nat) (b : UInt8) : Option Nat := do
  word? ((← word? (n * 256)) + b.toNat)

/-- The number of a byte string, high byte first, computed in words. -/
def wordOfBytes? (bytes : List UInt8) : Option Nat :=
  bytes.foldlM appendByte? 0

/-- Up to four bytes are put into a word without loss, behind those that are in it. -/
theorem foldlM_appendByte? {bytes : List UInt8} {n width : Nat} (h : n < byteValues width)
    (hlength : width + bytes.length ≤ 4) :
    bytes.foldlM appendByte? n = some (bytes.foldl (fun n b => n * 256 + b.toNat) n) ∧
      bytes.foldl (fun n b => n * 256 + b.toNat) n < byteValues (width + bytes.length) := by
  induction bytes generalizing n width with
  | nil => exact ⟨rfl, h⟩
  | cons b bytes ih =>
    rw [List.length_cons] at hlength ⊢
    have hnext : n * 256 + b.toNat < byteValues (width + 1) := by
      have hb := b.toNat_lt
      rw [byteValues]
      omega
    have hsum := le_maxUInt32_of_lt hnext (by omega)
    have happend : appendByte? n b = some (n * 256 + b.toNat) := by
      simp [appendByte?, word?_of_le hsum, word?_of_le (Nat.le_of_add_right_le hsum)]
    obtain ⟨hfold, hlt⟩ := ih hnext (by omega)
    rw [List.foldlM_cons, happend, List.foldl_cons]
    exact ⟨hfold, by rwa [Nat.add_right_comm] at hlt⟩

theorem wordOfBytes?_eq {bytes : List UInt8} (h : bytes.length ≤ 4) :
    wordOfBytes? bytes = some (ofBigEndian bytes) :=
  (foldlM_appendByte? (show 0 < byteValues 0 from Nat.one_pos) (by rwa [Nat.zero_add])).1

theorem ofBigEndian_lt {bytes : List UInt8} (h : bytes.length ≤ 4) :
    ofBigEndian bytes < byteValues bytes.length := by
  have hlt := (foldlM_appendByte? (show 0 < byteValues 0 from Nat.one_pos)
    (by rwa [Nat.zero_add])).2
  rwa [Nat.zero_add] at hlt

namespace UnsignedLayout

/-- The number that is stored for a written one, computed in words. -/
def scaleInWords? : UnsignedLayout → Nat → Option Nat
  | byte _, n | word _, n => some n
  | percent, n => do return (← word? ((← word? (n * 255)) + 50)) / 100

/-- The number that is shown for a stored one, computed in words. -/
def unscaleInWords? : UnsignedLayout → Nat → Option Nat
  | byte _, n | word _, n => some n
  | percent, n => do return (← word? ((← word? (n * 100)) + 127)) / 255

variable {layout : UnsignedLayout} {n : Nat}

theorem width_le (layout : UnsignedLayout) : layout.width ≤ 4 := by
  cases layout <;> simp [width]

theorem scaleInWords?_eq (h : n ≤ layout.maximum) :
    layout.scaleInWords? n = some (layout.scale n) := by
  cases layout with
  | byte unit | word unit => rfl
  | percent =>
    have hn : n ≤ 100 := h
    have hsum : n * 255 + 50 ≤ maxUInt32 := by unfold maxUInt32; omega
    simp [scaleInWords?, word?_of_le (Nat.le_of_add_right_le hsum), word?_of_le hsum, scale]

theorem unscaleInWords?_eq (h : n < byteValues layout.width) :
    layout.unscaleInWords? n = some (layout.unscale n) := by
  cases layout with
  | byte unit | word unit => rfl
  | percent =>
    have hn : n < 256 := by simpa [width, byteValues] using h
    have hsum : n * 100 + 127 ≤ maxUInt32 := by unfold maxUInt32; omega
    simp [unscaleInWords?, word?_of_le (Nat.le_of_add_right_le hsum), word?_of_le hsum, unscale]

/-- What is shown for bytes of the right width, computed in words. -/
theorem unscaleInWords?_of_length {bytes : List UInt8} (h : bytes.length = layout.width) :
    (wordOfBytes? bytes).bind layout.unscaleInWords? =
      some (layout.unscale (ofBigEndian bytes)) := by
  have hle : bytes.length ≤ 4 := h ▸ layout.width_le
  rw [wordOfBytes?_eq hle, Option.bind_some, unscaleInWords?_eq (h ▸ ofBigEndian_lt hle)]

end UnsignedLayout

/-! ## Raw bytes -/

namespace DatapointType

/-- An argument that is read as bytes stands for a byte at least. -/
theorem ne_nil_of_readHex? {argument : String} {bytes : List UInt8}
    (h : readHex? argument = some bytes) : bytes ≠ [] := by
  simp only [readHex?] at h
  split_ifs at h with hempty
  rintro rfl
  have hlength := (readHexPairs?_eq_some_iff.1 h).length_eq
  exact hempty (List.isEmpty_iff.2 (List.eq_nil_of_length_eq_zero hlength))

theorem ne_nil_of_readHexArguments {arguments : List String} {bytes : List UInt8}
    (hne : arguments ≠ []) (h : readHexArguments arguments = .ok bytes) : bytes ≠ [] := by
  obtain ⟨argument, rest, rfl⟩ := List.exists_cons_of_ne_nil hne
  unfold readHexArguments at h
  split at h
  · cases h
  · next first hfirst =>
    cases hrest : readHexArguments rest with
    | error argument => rw [hrest] at h; cases h
    | ok later =>
      rw [hrest] at h
      cases h
      exact List.append_ne_nil_of_left_ne_nil (ne_nil_of_readHex? hfirst) later

/-! ## Widths and exactness -/

/-- Whether there are as many bytes as values of a type have. -/
def HasWidth (dpt : DatapointType) (bytes : List UInt8) : Prop :=
  match dpt with
  | boolean _ _ _ => bytes.length = 1
  | unsigned _ layout => bytes.length = layout.width
  | raw => bytes ≠ []
  | foreign _ => True

/-- The arithmetic behind a value that was read from arguments is exact. -/
def IsExact (dpt : DatapointType) (arguments : List String) (v : DatapointValue) : Prop :=
  match dpt with
  | unsigned _ layout => ∃ argument n,
      firstArgument? arguments = some argument ∧ readUnsigned? maxUInt32 argument = some n ∧
      v.text = decimalText n ∧
      -- what the bytes of a word have in front of those of the value is zero
      (∃ stored, layout.scaleInWords? n = some stored ∧
        bigEndian 4 stored = List.replicate (4 - layout.width) 0 ++ v.bytes) ∧
      (wordOfBytes? v.bytes).bind layout.unscaleInWords? = some n
  | boolean _ _ _ | raw | foreign _ => True

variable {arguments : List String} {v : DatapointValue}

theorem exact_of_parse_unsigned {id : DatapointId} {layout : UnsignedLayout}
    (h : (unsigned id layout).parse arguments = .ok v) :
    v.id = id ∧ v.bytes.length = layout.width ∧ (unsigned id layout).IsExact arguments v := by
  simp only [parse] at h
  split at h
  · cases h
  · next argument hargument =>
    split at h
    · cases h
    · next n hn =>
      split_ifs at h with hmax
      cases h
      have hle : n ≤ layout.maximum := Nat.le_of_not_lt hmax
      have hlt := UnsignedLayout.scale_lt hle
      have hlength : (bigEndian layout.width (layout.scale n)).length = layout.width :=
        length_bigEndian ..
      refine ⟨rfl, hlength, argument, n, hargument, hn, rfl,
        ⟨_, UnsignedLayout.scaleInWords?_eq hle, ?_⟩, ?_⟩
      · rw [← bigEndian_add hlt, Nat.sub_add_cancel layout.width_le]
      · rw [UnsignedLayout.unscaleInWords?_of_length hlength, ofBigEndian_bigEndian hlt,
          UnsignedLayout.unscale_scale hle]

/-- A value names its type and has the bytes that its type asks for. -/
theorem exact_of_parse {dpt : DatapointType} (hnative : dpt.isNative = true)
    (h : dpt.parse arguments = .ok v) :
    v.id = dpt.id ∧ dpt.HasWidth v.bytes ∧ dpt.IsExact arguments v := by
  cases dpt with
  | boolean id off on =>
    simp only [parse] at h
    split at h
    · cases h
    · split at h
      · cases h
        exact ⟨rfl, rfl, trivial⟩
      · cases h
        exact ⟨rfl, rfl, trivial⟩
      · cases h
  | unsigned id layout => exact exact_of_parse_unsigned h
  | raw =>
    simp only [parse] at h
    split_ifs at h with hempty
    split at h
    · cases h
    · next bytes hbytes =>
      cases h
      have hne : arguments ≠ [] := fun hnil => hempty (List.isEmpty_iff.2 hnil)
      exact ⟨rfl, ne_nil_of_readHexArguments hne hbytes, trivial⟩
  | foreign type => cases hnative

/-- A value that a type reads from arguments names the type, has the type's number of bytes, and
    is rendered as the text that it was given. No result of the arithmetic is too great for a word,
    no byte of a word is lost that is not zero, and the scaling of percentages keeps every value;
    the arithmetic of rendering is exact for all bytes of the right number. -/
theorem render_undoes_parse {dpt : DatapointType} (hnative : dpt.isNative = true)
    (hparse : dpt.parse arguments = .ok v) :
    v.id = dpt.id ∧ dpt.HasWidth v.bytes ∧
      (∃ r, dpt.render v.bytes = .ok r ∧ r.text = v.text ∧ r.unit = dpt.unit) ∧
      dpt.IsExact arguments v ∧
      ∀ id layout bytes, dpt = unsigned id layout → bytes.length = layout.width →
        ∃ n, (wordOfBytes? bytes).bind layout.unscaleInWords? = some n ∧
          dpt.render bytes = .ok ⟨decimalText n, dpt.unit⟩ := by
  obtain ⟨hid, hwidth, hexact⟩ := exact_of_parse hnative hparse
  refine ⟨hid, hwidth, ⟨_, render_of_parse hnative hparse, rfl, rfl⟩, hexact, ?_⟩
  rintro id layout bytes rfl hlength
  exact ⟨_, UnsignedLayout.unscaleInWords?_of_length hlength, by simp [render, hlength]⟩

/-- A percentage with blanks and a sign in front of it. It is stored as 94 of 255 and comes back
    as 37. -/
theorem render_undoes_parse_percent :
    ∃ v, (unsigned ⟨5, 1⟩ .percent).parse [" +37", "more"] = .ok v ∧ v.bytes = [94] ∧
      v.text = "37" ∧ v.id = ⟨5, 1⟩ ∧
      (∃ r, (unsigned ⟨5, 1⟩ .percent).render [94] = .ok r ∧ r.text = "37" ∧ r.unit = "%") ∧
      (unsigned ⟨5, 1⟩ .percent).IsExact [" +37", "more"] v := by
  have hparse : (unsigned ⟨5, 1⟩ .percent).parse [" +37", "more"] = .ok ⟨⟨5, 1⟩, [94], "37"⟩ :=
    rfl
  obtain ⟨hid, -, hrender, hexact, -⟩ := render_undoes_parse rfl hparse
  exact ⟨_, hparse, rfl, rfl, hid, hrender, hexact⟩

end DatapointType

end KnxGateway
