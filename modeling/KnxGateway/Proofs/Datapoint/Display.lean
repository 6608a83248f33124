import KnxGateway.Proofs.Argument.Conservation
import KnxGateway.Proofs.Datapoint.ByteSequences
import KnxGateway.Proofs.Datapoint.Numbers

set_option autoImplicit false

/-! # Shown values can be written

What a read shows of a number is its digits and, behind a space, its unit. Taken as the text of a
write, it is cut at the space, and whatever the unit then becomes, the first argument is the
number. A dump of bytes is cut into one argument for each byte, of which the first has the mark in
front. So a person may write what was read, and the bytes come back; of a percentage the bytes of
the nearest number come back, which is shown as before. -/

namespace KnxGateway

open Text

namespace Argument

/-! ## Texts with a run in front -/

/-- A run without anything special, in front of a blank or at the end, is the first argument. -/
theorem tokenize_run_append {run rest : List Char} (hne : run ≠ [])
    (hrun : ∀ c ∈ run, isSpecial c = false)
    (hrest : ∀ c, rest.head? = some c → isBlank c = true) :
    tokenize (Utf8.encode (run ++ rest)) =
      String.ofList run :: tokenize (Utf8.encode rest) := by
  rw [tokenize, Utf8.decode_encode, words_run_append hne hrun hrest, tokenize, Utf8.decode_encode]
  rfl

/-- Runs without anything special, with a space between them, are the arguments. -/
theorem tokenize_intercalate {runs : List (List Char)}
    (h : ∀ run ∈ runs, run ≠ [] ∧ ∀ c ∈ run, isSpecial c = false) :
    tokenize (Utf8.encode ([' '].intercalate runs)) = runs.map String.ofList := by
  have hescape : runs.map escape = runs := by
    rw [List.map_congr_left fun run hrun => escape_of_ordinary (h run hrun).2, List.map_id']
  have hwords := words_intercalate runs fun run hrun => (h run hrun).1
  rw [hescape] at hwords
  rw [tokenize, Utf8.decode_encode, hwords]

end Argument

open Argument

/-! ## Numbers with a unit -/

theorem isSpecial_of_isDigit {c : Char} (h : c.isDigit = true) : isSpecial c = false := by
  obtain ⟨hlow, hhigh⟩ := toNat_of_isDigit h
  have hback : c ≠ '\\' := by
    rintro rfl
    simp at hhigh
  have hquote : c ≠ '"' := by
    rintro rfl
    simp at hlow
  simp [isSpecial, hback, hquote, isBlank_of_isDigit h]

/-- The first argument of a shown number is the number. -/
theorem exists_tokenize_display (n : Nat) (unit : String) :
    ∃ others, tokenize (Utf8.encode (RenderedValue.display ⟨decimalText n, unit⟩).toList) =
      decimalText n :: others := by
  have hrun : ∀ c ∈ decimal n, isSpecial c = false := fun c hc =>
    isSpecial_of_isDigit (isDigit_of_mem_decimal hc)
  by_cases hunit : unit.isEmpty = true
  · have htext : (RenderedValue.display ⟨decimalText n, unit⟩).toList = decimal n ++ [] := by
      simp [RenderedValue.display, hunit, decimalText]
    rw [htext, tokenize_run_append (decimal_ne_nil n) hrun (by simp)]
    exact ⟨_, rfl⟩
  · have htext : (RenderedValue.display ⟨decimalText n, unit⟩).toList =
        decimal n ++ ' ' :: unit.toList := by
      simp [RenderedValue.display, hunit, decimalText]
    have hspace : ∀ c, (' ' :: unit.toList).head? = some c → isBlank c = true := by
      intro c hc
      obtain rfl := Option.some.inj hc
      decide
    rw [htext, tokenize_run_append (decimal_ne_nil n) hrun hspace]
    exact ⟨_, rfl⟩

/-! ## Dumps of bytes -/

theorem Text.IsHexDigit.not_special {c : Char} {d : Nat} (h : IsHexDigit c d) : isSpecial c = false := by
  obtain ⟨-, hblank, hmark⟩ := h.ordinary
  simp only [List.mem_cons, not_or] at hmark
  simp [isSpecial, hblank, hmark.1, hmark.2.1]

/-- Neither the digits of a byte nor the mark in front of them are special. -/
theorem not_special_of_mem_pair {mark : String} (hmark : mark ∈ ["", "0x"]) {b : UInt8} {c : Char}
    (hc : c ∈ mark.toList ++ hexPairUpper b) : isSpecial c = false := by
  rcases List.mem_append.1 hc with hc | hc
  · have hmarks : ∀ mark ∈ ["", "0x"], mark.toList.all (!isSpecial ·) = true := by decide
    simpa using List.all_eq_true.1 (hmarks mark hmark) c hc
  · obtain ⟨d, hd⟩ := (isHexText_hexPairUpper b).isHexDigit c hc
    exact hd.not_special

/-- The arguments of a dump: one for each byte, with the mark in front of the first one. -/
def dumpArguments : List UInt8 → List (List Char)
  | [] => []
  | b :: bytes => ('0' :: 'x' :: hexPairUpper b) :: bytes.map hexPairUpper

theorem hexDump_eq (bytes : List UInt8) :
    hexDump bytes = [' '].intercalate (dumpArguments bytes) := by
  cases bytes with
  | nil => rfl
  | cons b bytes => cases bytes <;> simp [hexDump, dumpArguments, List.intercalate]

theorem mem_dumpArguments {bytes : List UInt8} {run : List Char} (h : run ∈ dumpArguments bytes) :
    ∃ mark ∈ ["", "0x"], ∃ b, run = mark.toList ++ hexPairUpper b := by
  cases bytes with
  | nil => cases h
  | cons b bytes =>
    rcases List.mem_cons.1 h with rfl | h
    · exact ⟨"0x", by simp, b, by simp⟩
    · obtain ⟨other, -, rfl⟩ := List.mem_map.1 h
      exact ⟨"", by simp, other, by simp⟩

theorem not_special_of_mem_dumpArguments {bytes : List UInt8} {run : List Char}
    (h : run ∈ dumpArguments bytes) : run ≠ [] ∧ ∀ c ∈ run, isSpecial c = false := by
  obtain ⟨mark, hmark, b, rfl⟩ := mem_dumpArguments h
  refine ⟨by simp [hexPairUpper, hexPair], ?_⟩
  intro c hc
  exact not_special_of_mem_pair hmark hc

theorem tokenize_formatHex (bytes : List UInt8) :
    tokenize (Utf8.encode (formatHex bytes).toList) =
      (dumpArguments bytes).map String.ofList := by
  rw [formatHex, String.toList_ofList, hexDump_eq,
    tokenize_intercalate fun run hrun => not_special_of_mem_dumpArguments hrun]

namespace DatapointType

/-- An argument of a dump stands for its byte. -/
theorem isHexArgument_pair (mark : String) (hmark : mark ∈ ["", "0x"]) (b : UInt8) :
    IsHexArgument (String.ofList (mark.toList ++ hexPairUpper b)) [b] := by
  have hblank : ∀ c ∈ mark.toList ++ hexPairUpper b, isBlank c = false := by
    intro c hc
    have hspecial := not_special_of_mem_pair hmark hc
    simp only [isSpecial, Bool.or_eq_false_iff] at hspecial
    exact hspecial.2
  refine ⟨hexPairUpper b, ⟨by simp [hexPairUpper, hexPair], mark, ?_, ?_⟩,
    isHexText_hexPairUpper b⟩
  · exact List.mem_append_left ["0X"] hmark
  · rw [String.toList_ofList, trim_of_no_blank hblank]

/-- The arguments of a dump stand for its bytes, one by one. -/
theorem forall₂_dumpArguments (bytes : List UInt8) :
    List.Forall₂ IsHexArgument ((dumpArguments bytes).map String.ofList)
      (bytes.map fun b => [b]) := by
  have hrest : ∀ rest : List UInt8, List.Forall₂ IsHexArgument
      ((rest.map hexPairUpper).map String.ofList) (rest.map fun b => [b]) := by
    intro rest
    simp only [List.forall₂_map_left_iff, List.forall₂_map_right_iff, List.forall₂_same]
    intro b _
    exact isHexArgument_pair "" (by simp) b
  cases bytes with
  | nil => exact .nil
  | cons b bytes => exact .cons (isHexArgument_pair "0x" (by simp) b) (hrest bytes)

/-- A dump is read as its bytes. -/
theorem parse_formatHex {bytes : List UInt8} (h : bytes ≠ []) :
    raw.parse (tokenize (Utf8.encode (formatHex bytes).toList)) =
      .ok ⟨⟨0, 0⟩, bytes, formatHex bytes⟩ := by
  rw [tokenize_formatHex]
  refine parse_raw_eq_ok_iff.2 ⟨?_, _, forall₂_dumpArguments bytes, ?_⟩
  · cases bytes with
    | nil => exact absurd rfl h
    | cons b bytes => simp [dumpArguments]
  · have hflatten : (bytes.map fun b => [b]).flatten = bytes := by
      rw [← List.flatMap_def, List.flatMap_singleton']
    rw [hflatten]

/-- A shown number is read as that number. -/
theorem parse_display {layout : UnsignedLayout} {n : Nat} (h : n ≤ layout.maximum)
    (id : DatapointId) (unit : String) :
    (unsigned id layout).parse
        (tokenize (Utf8.encode (RenderedValue.display ⟨decimalText n, unit⟩).toList)) =
      .ok ⟨id, bigEndian layout.width (layout.scale n), decimalText n⟩ := by
  obtain ⟨others, htokens⟩ := exists_tokenize_display n unit
  have htrim : trim (decimalText n).toList = decimal n := by
    rw [decimalText, String.toList_ofList]
    exact trim_of_no_blank fun c hc => isBlank_of_isDigit (isDigit_of_mem_decimal hc)
  have hgiven : IsGiven (decimalText n :: others) (decimal n) :=
    ⟨decimal_ne_nil n, _, rfl, htrim⟩
  rw [htokens]
  exact parse_unsigned_of_number ⟨decimal n, hgiven, isNumeral_decimal n⟩ h

/-- What is shown of an unsigned value can be written back, whatever its unit is. The bytes come
    back, and those of a percentage are shown as before. A dump of bytes can be written back as raw
    bytes, and is the text of the value. -/
theorem parse_shown :
    (∀ id layout bytes, bytes.length = UnsignedLayout.width layout →
      ∃ r v, (unsigned id layout).render bytes = .ok r ∧
        (unsigned id layout).parse (tokenize (Utf8.encode r.display.toList)) = .ok v ∧
        (layout ≠ .percent → v.bytes = bytes) ∧ (unsigned id layout).render v.bytes = .ok r) ∧
      ∀ bytes, bytes ≠ [] →
        ∃ v, raw.parse (tokenize (Utf8.encode (formatHex bytes).toList)) = .ok v ∧
          v.bytes = bytes ∧ v.text = formatHex bytes := by
  constructor
  · intro id layout bytes hlength
    obtain ⟨n, hle, -, hencodes, -, hrender⟩ := render_unsigned_of_length id hlength
    have hparse := parse_display hle id layout.unit
    refine ⟨_, _, hrender, hparse, ?_, render_of_parse rfl hparse⟩
    intro hpercent
    exact ((UnsignedLayout.encodes_iff hle).1 (hencodes hpercent)).symm
  · intro bytes hne
    exact ⟨_, parse_formatHex hne, rfl, rfl⟩

/-- A unit that opens a double quote and ends in a backslash, and a dump of three bytes. -/
theorem parse_shown_odd_unit :
    (∃ r v, (unsigned ⟨7, 600⟩ (.word "\"K \\")).render [0x12, 0x67] = .ok r ∧
      (unsigned ⟨7, 600⟩ (.word "\"K \\")).parse (tokenize (Utf8.encode r.display.toList)) =
        .ok v ∧ v.bytes = [0x12, 0x67]) ∧
      ∃ v, raw.parse (tokenize (Utf8.encode (formatHex [0x0A, 0x00, 0xFF]).toList)) = .ok v ∧
        v.bytes = [0x0A, 0x00, 0xFF] := by
  obtain ⟨r, v, hrender, hparse, hbytes, -⟩ :=
    parse_shown.1 ⟨7, 600⟩ (.word "\"K \\") [0x12, 0x67] rfl
  obtain ⟨w, hraw, hrawBytes, -⟩ := parse_shown.2 [0x0A, 0x00, 0xFF] (by decide)
  exact ⟨⟨r, v, hrender, hparse, hbytes (by decide)⟩, w, hraw, hrawBytes⟩

end DatapointType

end KnxGateway
