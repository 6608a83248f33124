import KnxGateway.Datapoint.Type
import KnxGateway.Proofs.Text.HexPairs
import KnxGateway.Text.Utf8

set_option autoImplicit false

/-! # Which arguments are bytes

The raw type takes every argument as a sequence of bytes: pairs of hexadecimal digits, with a mark
in front of them or not. Which arguments are such sequences is said here from outside, and the
first one that is none decides the error.

The digits can also be read in two passes over their bytes. The first pass checks that there is an
even number of bytes, that there are some and that all of them are digits. The second one converts
pair after pair through a text and a reader of numbers, which would take a plus sign in place of a
digit. Each step of the second pass could fail, and behind the first one none does. -/

namespace KnxGateway

open Text

namespace Text

/-! ## Bytes of a text -/

namespace Utf8

/-- The text of a byte string without defects. -/
def decodeStrict? (bytes : List UInt8) : Option (List Char) :=
  if encode (decode bytes) = bytes then some (decode bytes) else none

/-- Exactly the bytes of texts have no defect. -/
theorem decodeStrict?_eq_some_iff {bytes : List UInt8} {s : List Char} :
    decodeStrict? bytes = some s ↔ bytes = encode s := by
  constructor
  · intro h
    simp only [decodeStrict?] at h
    split at h
    · next hback =>
      cases h
      exact hback.symm
    · cases h
  · rintro rfl
    simp [decodeStrict?, decode_encode]

/-- A character that takes several bytes starts with a byte that is no ASCII character. -/
theorem exists_lead_of_not_ascii {c : Char} (h : ¬ c.toNat < 0x80) :
    ∃ first others, encodeChar c = first :: others ∧ 0xC0 ≤ first.toNat := by
  have hbound := codePoint_lt c
  simp only [encodeChar]
  generalize c.toNat = n at *
  rw [if_neg h]
  split
  · exact ⟨_, _, rfl, by simp; omega⟩
  split
  · exact ⟨_, _, rfl, by simp; omega⟩
  · exact ⟨_, _, rfl, by simp; omega⟩

end Utf8

/-- Whether a byte is a hexadecimal digit in ASCII. -/
def isHexByte (b : UInt8) : Bool :=
  (0x30 ≤ b.toNat && b.toNat ≤ 0x39) || (0x41 ≤ b.toNat && b.toNat ≤ 0x46) ||
    (0x61 ≤ b.toNat && b.toNat ≤ 0x66)

/-- A digit is one byte. -/
theorem IsHexDigit.encodeChar_eq {c : Char} {d : Nat} (h : IsHexDigit c d) :
    Utf8.encodeChar c = [UInt8.ofNat c.toNat] :=
  Utf8.encodeChar_of_ascii h.ordinary.1

/-- The bytes of a character are digits exactly when the character is one. -/
theorem all_isHexByte_encodeChar (c : Char) :
    (Utf8.encodeChar c).all isHexByte = true ↔ ∃ d, IsHexDigit c d := by
  by_cases hascii : c.toNat < 0x80
  · have hchars : ∀ n < 0x80, (Utf8.encodeChar (Char.ofNat n)).all isHexByte =
        (hexValue? (Char.ofNat n)).isSome := by decide
    have hc := hchars c.toNat hascii
    rw [Char.ofNat_toNat] at hc
    rw [hc, Option.isSome_iff_exists]
    simp only [hexValue?_eq_some_iff]
  · have hno : ¬ ∃ d, IsHexDigit c d := fun ⟨_, hd⟩ => hascii hd.ordinary.1
    obtain ⟨first, others, hchar, hfirst⟩ := Utf8.exists_lead_of_not_ascii hascii
    have hlead : isHexByte first = false := by
      simp [isHexByte]
      omega
    simp [hchar, hlead, hno]

theorem all_isHexByte_encode (s : List Char) :
    (Utf8.encode s).all isHexByte = true ↔ ∀ c ∈ s, ∃ d, IsHexDigit c d := by
  simp only [Utf8.encode, List.all_flatMap, List.all_eq_true (l := s), all_isHexByte_encodeChar]

theorem encode_of_digits {s : List Char} (h : ∀ c ∈ s, ∃ d, IsHexDigit c d) :
    Utf8.encode s = s.map fun c => UInt8.ofNat c.toNat := by
  induction s with
  | nil => rfl
  | cons c s ih =>
    rw [List.forall_mem_cons] at h
    obtain ⟨⟨d, hd⟩, hs⟩ := h
    have hrest := ih hs
    rw [Utf8.encode] at hrest
    rw [Utf8.encode, List.flatMap_cons, hd.encodeChar_eq, hrest]
    rfl

/-! ## Two passes over the bytes -/

/-- The first pass. -/
def isHexSequence (bytes : List UInt8) : Bool :=
  !bytes.isEmpty && bytes.length % 2 == 0 && bytes.all isHexByte

/-- The bytes two by two. One byte may be left over. -/
def pairs : List UInt8 → List (List UInt8)
  | first :: second :: rest => [first, second] :: pairs rest
  | [last] => [[last]]
  | [] => []

/-- A number of one byte in base 16. A plus sign may stand in front of it. -/
def readHexByte? (s : List Char) : Option UInt8 := do
  let digits := dropPlus s
  let values ← if digits.isEmpty then none else digits.mapM hexValue?
  let n := values.foldl (fun n d => 16 * n + d) 0
  if n < 256 then some (UInt8.ofNat n) else none

/-- What the two passes fail on. -/
inductive HexFault where
  /-- The first pass fails. -/
  | notDigits
  /-- A pair of bytes is no text. -/
  | notText
  /-- The text of a pair is no number of one byte. -/
  | notNumber
deriving DecidableEq

/-- The second pass, for one pair. -/
def convertPair (pair : List UInt8) : Except HexFault UInt8 :=
  match Utf8.decodeStrict? pair with
  | none => .error .notText
  | some text =>
    match readHexByte? text with
    | none => .error .notNumber
    | some b => .ok b

/-- Both passes. -/
def convertHex (bytes : List UInt8) : Except HexFault (List UInt8) :=
  if isHexSequence bytes then (pairs bytes).mapM convertPair else .error .notDigits

/-- The first pass accepts the pairs of digits, unless there are none. -/
theorem isHexSequence_encode_iff {s : List Char} :
    isHexSequence (Utf8.encode s) = true ↔ s ≠ [] ∧ ∃ bytes, IsHexText s bytes := by
  simp only [isHexSequence, Bool.and_eq_true, all_isHexByte_encode, exists_isHexText_iff,
    Bool.not_eq_true', List.isEmpty_eq_false_iff, beq_iff_eq, and_assoc]
  by_cases hdigits : ∀ c ∈ s, ∃ d, IsHexDigit c d
  · simp [encode_of_digits hdigits]
  · simp only [hdigits, and_false]

theorem readHexByte?_pair {high low : Char} {h l : Nat} {b : UInt8} (first : IsHexDigit high h)
    (second : IsHexDigit low l) (value : b.toNat = 16 * h + l) :
    readHexByte? [high, low] = some b := by
  have hplus : dropPlus [high, low] = [high, low] := by
    unfold dropPlus
    split
    · next heq =>
      obtain rfl := (List.cons.inj heq).1
      exact absurd first.ordinary.2.2 (by simp)
    · rfl
  have hlt := b.toNat_lt
  have hb : UInt8.ofNat (16 * h + l) = b := by
    rw [← value, UInt8.ofNat_toNat]
  have hvalues : [high, low].mapM hexValue? = some [h, l] :=
    mapM_eq_some_iff.2 (.cons (hexValue?_eq_some_iff.2 first)
      (.cons (hexValue?_eq_some_iff.2 second) .nil))
  have hfold : [h, l].foldl (fun n d => 16 * n + d) 0 = 16 * h + l := by simp
  simp only [readHexByte?, hplus, List.isEmpty_cons, hvalues, Option.bind_eq_bind,
    Option.bind_some, hfold, hb]
  exact if_pos (value ▸ hlt)

/-- No step of the second pass fails on pairs of digits. -/
theorem mapM_convertPair {s : List Char} {bytes : List UInt8} (h : IsHexText s bytes) :
    (pairs (Utf8.encode s)).mapM convertPair = .ok bytes := by
  induction h with
  | nil => rfl
  | @cons high low h l b s bytes first second value rest ih =>
    have hencode : Utf8.encode (high :: low :: s) =
        UInt8.ofNat high.toNat :: UInt8.ofNat low.toNat :: Utf8.encode s := by
      simp [Utf8.encode, first.encodeChar_eq, second.encodeChar_eq]
    have hpair : Utf8.decodeStrict? [UInt8.ofNat high.toNat, UInt8.ofNat low.toNat] =
        some [high, low] := by
      rw [Utf8.decodeStrict?_eq_some_iff]
      simp [Utf8.encode, first.encodeChar_eq, second.encodeChar_eq]
    have hconvert : convertPair [UInt8.ofNat high.toNat, UInt8.ofNat low.toNat] = .ok b := by
      simp only [convertPair, hpair, readHexByte?_pair first second value]
    rw [hencode, pairs, List.mapM_cons, hconvert, ih]
    rfl

/-- The two passes read what is read in one, and only the first of them fails. -/
theorem convertHex_encode (s : List Char) :
    convertHex (Utf8.encode s) =
      if s.isEmpty then .error .notDigits
      else
        match readHexPairs? s with
        | some bytes => .ok bytes
        | none => .error .notDigits := by
  by_cases hpasses : s ≠ [] ∧ ∃ bytes, IsHexText s bytes
  · obtain ⟨hne, bytes, hbytes⟩ := hpasses
    rw [convertHex, if_pos (isHexSequence_encode_iff.2 ⟨hne, bytes, hbytes⟩),
      mapM_convertPair hbytes, if_neg (by simpa using hne), readHexPairs?_eq_some_iff.2 hbytes]
  · rw [convertHex, if_neg (mt isHexSequence_encode_iff.1 hpasses)]
    split
    · rfl
    · next hne =>
      cases hread : readHexPairs? s with
      | none => rfl
      | some bytes =>
        have hs : s ≠ [] := by simpa using hne
        exact absurd ⟨hs, bytes, readHexPairs?_eq_some_iff.1 hread⟩ hpasses

end Text

namespace DatapointType

/-! ## Arguments -/

/-- The digits of an argument: what stands between the blanks around it, behind a mark or not. -/
def IsDigitsOf (argument : String) (digits : List Char) : Prop :=
  digits ≠ [] ∧ ∃ mark ∈ ["", "0x", "0X"], trim argument.toList = mark.toList ++ digits

/-- An argument is a sequence of bytes. -/
def IsHexArgument (argument : String) (bytes : List UInt8) : Prop :=
  ∃ digits, IsDigitsOf argument digits ∧ IsHexText digits bytes

/-- Behind its mark a sequence of digits has no other mark. -/
theorem dropHexMark_of_isHexText {digits : List Char} {bytes : List UInt8}
    (h : IsHexText digits bytes) : dropHexMark digits = digits := by
  unfold dropHexMark
  split
  · next rest =>
    obtain ⟨d, hd⟩ := h.isHexDigit 'x' (by simp)
    exact absurd hd.ordinary.2.2 (by simp)
  · next rest =>
    obtain ⟨d, hd⟩ := h.isHexDigit 'X' (by simp)
    exact absurd hd.ordinary.2.2 (by simp)
  · rfl

theorem exists_mark (s : List Char) :
    ∃ mark ∈ ["", "0x", "0X"], s = mark.toList ++ dropHexMark s := by
  unfold dropHexMark
  split
  · exact ⟨"0x", by simp, by simp⟩
  · exact ⟨"0X", by simp, by simp⟩
  · exact ⟨"", by simp, by simp⟩

/-- Exactly the sequences of bytes are read. -/
theorem readHex?_eq_some_iff {argument : String} {bytes : List UInt8} :
    readHex? argument = some bytes ↔ IsHexArgument argument bytes := by
  constructor
  · intro h
    simp only [readHex?] at h
    split at h
    · cases h
    · next hne =>
      exact ⟨_, ⟨by simpa using hne, exists_mark _⟩, readHexPairs?_eq_some_iff.1 h⟩
  · rintro ⟨digits, ⟨hne, mark, hmark, htrim⟩, hdigits⟩
    have hdrop : dropHexMark (trim argument.toList) = digits := by
      rw [htrim]
      simp only [List.mem_cons, List.not_mem_nil, or_false] at hmark
      rcases hmark with rfl | rfl | rfl
      · exact dropHexMark_of_isHexText hdigits
      · rfl
      · rfl
    simp only [readHex?, hdrop, readHexPairs?_eq_some_iff.2 hdigits]
    exact if_neg (by simpa using hne)

/-- An argument is a sequence of bytes when it has an even number of digits and nothing else. -/
theorem exists_isHexArgument_iff {argument : String} :
    (∃ bytes, IsHexArgument argument bytes) ↔
      ∃ digits, IsDigitsOf argument digits ∧ digits.length % 2 = 0 ∧
        ∀ c ∈ digits, ∃ d, IsHexDigit c d := by
  simp only [← exists_isHexText_iff, IsHexArgument]
  constructor
  · rintro ⟨bytes, digits, hof, hbytes⟩
    exact ⟨digits, hof, bytes, hbytes⟩
  · rintro ⟨digits, hof, bytes, hbytes⟩
    exact ⟨bytes, digits, hof, hbytes⟩

/-- The two passes over the digits of an argument do what its reader does. -/
theorem convertHex_argument (argument : String) :
    convertHex (Utf8.encode (dropHexMark (trim argument.toList))) =
      match readHex? argument with
      | some bytes => .ok bytes
      | none => .error .notDigits := by
  rw [convertHex_encode, readHex?]
  split <;> rfl

/-! ## Lists of arguments -/

theorem readHexArguments_cons (argument : String) (rest : List String) :
    readHexArguments (argument :: rest) =
      match readHex? argument with
      | none => .error argument
      | some bytes => (readHexArguments rest).map (bytes ++ ·) :=
  rfl

theorem readHexArguments_eq_ok_iff {arguments : List String} {bytes : List UInt8} :
    readHexArguments arguments = .ok bytes ↔
      ∃ groups, List.Forall₂ IsHexArgument arguments groups ∧ bytes = groups.flatten := by
  induction arguments generalizing bytes with
  | nil => simp [readHexArguments, eq_comm]
  | cons argument rest ih =>
    rw [readHexArguments_cons]
    constructor
    · intro h
      cases hfirst : readHex? argument with
      | none =>
        rw [hfirst] at h
        cases h
      | some first =>
        cases hlater : readHexArguments rest with
        | error other =>
          rw [hfirst, hlater] at h
          cases h
        | ok later =>
          rw [hfirst, hlater] at h
          cases h
          obtain ⟨groups, hgroups, rfl⟩ := ih.1 hlater
          exact ⟨first :: groups, .cons (readHex?_eq_some_iff.1 hfirst) hgroups, rfl⟩
    · rintro ⟨_, hgroups, rfl⟩
      cases hgroups with
      | @cons _ first _ groups hfirst hrest =>
        rw [readHex?_eq_some_iff.2 hfirst, ih.2 ⟨groups, hrest, rfl⟩]
        rfl

/-- The first argument that is no sequence of bytes is reported. -/
theorem readHexArguments_eq_error_iff {arguments : List String} {culprit : String} :
    readHexArguments arguments = .error culprit ↔
      ∃ before after, arguments = before ++ culprit :: after ∧
        (∀ argument ∈ before, ∃ bytes, IsHexArgument argument bytes) ∧
        ¬ ∃ bytes, IsHexArgument culprit bytes := by
  induction arguments with
  | nil => simp [readHexArguments]
  | cons argument rest ih =>
    rw [readHexArguments_cons]
    cases hfirst : readHex? argument with
    | none =>
      have hno : ¬ ∃ bytes, IsHexArgument argument bytes := by
        simp [← readHex?_eq_some_iff, hfirst]
      constructor
      · intro h
        cases h
        exact ⟨[], rest, rfl, by simp, hno⟩
      · rintro ⟨before, after, hsplit, hbefore, -⟩
        cases before with
        | nil =>
          obtain rfl := (List.cons.inj hsplit).1
          rfl
        | cons other before =>
          obtain rfl := (List.cons.inj hsplit).1
          exact absurd (hbefore argument List.mem_cons_self) hno
    | some first =>
      have hyes : ∃ bytes, IsHexArgument argument bytes :=
        ⟨first, readHex?_eq_some_iff.1 hfirst⟩
      have hmap : (readHexArguments rest).map (first ++ ·) = .error culprit ↔
          readHexArguments rest = .error culprit := by
        cases readHexArguments rest <;> simp [Except.map]
      simp only [hmap, ih]
      constructor
      · rintro ⟨before, after, rfl, hbefore, hno⟩
        exact ⟨argument :: before, after, rfl, List.forall_mem_cons.2 ⟨hyes, hbefore⟩, hno⟩
      · rintro ⟨before, after, hsplit, hbefore, hno⟩
        cases before with
        | nil =>
          obtain rfl := (List.cons.inj hsplit).1
          exact absurd hyes hno
        | cons other before =>
          obtain ⟨-, rfl⟩ := List.cons.inj hsplit
          exact ⟨before, after, rfl, (List.forall_mem_cons.1 hbefore).2, hno⟩

/-! ## The raw type -/

theorem parse_raw_nil : raw.parse [] = .error (.missingArgument "raw") :=
  rfl

theorem parse_raw_of_ne_nil {arguments : List String} (h : arguments ≠ []) :
    raw.parse arguments =
      match readHexArguments arguments with
      | .error culprit => .error (.incompatible "raw" (.notHex culprit))
      | .ok bytes => .ok ⟨⟨0, 0⟩, bytes, formatHex bytes⟩ := by
  have hne : ¬ arguments.isEmpty = true := by simpa using h
  simp only [parse, if_neg hne]
  rfl

theorem parse_raw_eq_ok_iff {arguments : List String} {v : DatapointValue} :
    raw.parse arguments = .ok v ↔ arguments ≠ [] ∧ ∃ groups,
      List.Forall₂ IsHexArgument arguments groups ∧
        v = ⟨⟨0, 0⟩, groups.flatten, formatHex groups.flatten⟩ := by
  by_cases hne : arguments = []
  · subst hne
    simp [parse_raw_nil]
  rw [parse_raw_of_ne_nil hne]
  constructor
  · intro h
    cases hread : readHexArguments arguments with
    | error culprit =>
      rw [hread] at h
      cases h
    | ok bytes =>
      rw [hread] at h
      cases h
      obtain ⟨groups, hgroups, rfl⟩ := readHexArguments_eq_ok_iff.1 hread
      exact ⟨hne, groups, hgroups, rfl⟩
  · rintro ⟨-, groups, hgroups, rfl⟩
    rw [readHexArguments_eq_ok_iff.2 ⟨groups, hgroups, rfl⟩]

theorem parse_raw_eq_error_iff {arguments : List String} {e : DatapointError} :
    raw.parse arguments = .error e ↔
      arguments = [] ∧ e = .missingArgument "raw" ∨
      ∃ before culprit after, arguments = before ++ culprit :: after ∧
        (∀ argument ∈ before, ∃ bytes, IsHexArgument argument bytes) ∧
        (¬ ∃ bytes, IsHexArgument culprit bytes) ∧
        e = .incompatible "raw" (.notHex culprit) := by
  by_cases hne : arguments = []
  · subst hne
    simp [parse_raw_nil, eq_comm]
  rw [parse_raw_of_ne_nil hne]
  constructor
  · intro h
    cases hread : readHexArguments arguments with
    | error culprit =>
      rw [hread] at h
      cases h
      obtain ⟨before, after, hsplit, hbefore, hno⟩ := readHexArguments_eq_error_iff.1 hread
      exact Or.inr ⟨before, culprit, after, hsplit, hbefore, hno, rfl⟩
    | ok bytes =>
      rw [hread] at h
      cases h
  · rintro (⟨hnil, -⟩ | ⟨before, culprit, after, hsplit, hbefore, hno, rfl⟩)
    · exact absurd hnil hne
    · rw [readHexArguments_eq_error_iff.2 ⟨before, after, hsplit, hbefore, hno⟩]

theorem exists_parse_raw_iff {arguments : List String} :
    (∃ v, raw.parse arguments = .ok v) ↔
      arguments ≠ [] ∧ ∀ argument ∈ arguments, ∃ bytes, IsHexArgument argument bytes := by
  simp only [parse_raw_eq_ok_iff, ← exists_forall₂_iff]
  constructor
  · rintro ⟨v, hne, groups, hgroups, -⟩
    exact ⟨hne, groups, hgroups⟩
  · rintro ⟨hne, groups, hgroups⟩
    exact ⟨_, hne, groups, hgroups, rfl⟩

/-- The raw type misses an argument when there is none. It takes a list of arguments when each of
    them is, between blanks and behind a mark or not, an even number of digits, and the bytes are
    those of all digits, two by two. Otherwise it reports the first argument that is not. Reading
    the digits in two passes comes to the same, and the second pass never fails. -/
theorem parse_raw_exact :
    (∀ arguments, raw.parse arguments = .error (.missingArgument "raw") ↔ arguments = []) ∧
      (∀ arguments, (∃ v, raw.parse arguments = .ok v) ↔ arguments ≠ [] ∧
        ∀ argument ∈ arguments, ∃ digits, IsDigitsOf argument digits ∧ digits.length % 2 = 0 ∧
          ∀ c ∈ digits, ∃ d, IsHexDigit c d) ∧
      (∀ arguments v, raw.parse arguments = .ok v ↔ arguments ≠ [] ∧ ∃ groups,
        List.Forall₂ IsHexArgument arguments groups ∧
          v = ⟨⟨0, 0⟩, groups.flatten, formatHex groups.flatten⟩) ∧
      (∀ arguments e, raw.parse arguments = .error e ↔
        arguments = [] ∧ e = .missingArgument "raw" ∨
        ∃ before culprit after, arguments = before ++ culprit :: after ∧
          (∀ argument ∈ before, ∃ bytes, IsHexArgument argument bytes) ∧
          (¬ ∃ bytes, IsHexArgument culprit bytes) ∧
          e = .incompatible "raw" (.notHex culprit)) ∧
      ∀ argument, convertHex (Utf8.encode (dropHexMark (trim argument.toList))) =
        match readHex? argument with
        | some bytes => .ok bytes
        | none => .error .notDigits := by
  refine ⟨?_, ?_, ?_, ?_, convertHex_argument⟩
  · intro arguments
    simp [parse_raw_eq_error_iff]
  · intro arguments
    simp only [exists_parse_raw_iff, exists_isHexArgument_iff]
  · intro arguments v
    exact parse_raw_eq_ok_iff
  · intro arguments e
    exact parse_raw_eq_error_iff

/-- Behind digits of both cases, one of them between an ideographic space and a line end, a second
    mark is reported. -/
theorem parse_raw_exact_second_mark :
    raw.parse ["0x0a03", "\u3000fF\n"] = .ok ⟨⟨0, 0⟩, [0x0A, 0x03, 0xFF], "0x0A 03 FF"⟩ ∧
      raw.parse ["0x0a03", "0x0X12", "+1"] = .error (.incompatible "raw" (.notHex "0x0X12")) := by
  have hfirst : IsHexArgument "0x0a03" [0x0A, 0x03] := readHex?_eq_some_iff.1 (by decide)
  have hsecond : IsHexArgument "\u3000fF\n" [0xFF] := readHex?_eq_some_iff.1 (by decide)
  have hnone : readHex? "0x0X12" = none := by decide
  have hno : ¬ ∃ bytes, IsHexArgument "0x0X12" bytes := by
    simp [← readHex?_eq_some_iff, hnone]
  constructor
  · exact (parse_raw_exact.2.2.1 _ _).2
      ⟨by decide, [[0x0A, 0x03], [0xFF]], .cons hfirst (.cons hsecond .nil), by decide⟩
  · exact (parse_raw_exact.2.2.2.1 _ _).2 (Or.inr
      ⟨["0x0a03"], "0x0X12", ["+1"], rfl, by simpa using ⟨_, hfirst⟩, hno, rfl⟩)

end DatapointType

end KnxGateway
