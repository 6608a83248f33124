import KnxGateway.Argument

set_option autoImplicit false

/-! # Quoted arguments read back

Quoting puts a backslash in front of every special character, and the scanner keeps the character
behind a backslash whatever it is. A quoted argument is therefore scanned as one word, and the
spaces between quoted arguments are the only blanks that cut. -/

namespace KnxGateway.Argument

open Text

/-! ## One argument -/

/-- A backslash between arguments only takes the next character as it is. -/
theorem step_backslash (next : Option Char) :
    Mode.plain.step '\\' next = (.drop, ⟨false, true⟩) := by
  simp [Mode.step, Mode.plain]

/-- Behind a backslash every special character is kept. -/
theorem step_escaped {c : Char} (hc : isSpecial c = true) (next : Option Char) :
    (Mode.mk false true).step c next = (.keep, .plain) := by
  unfold Mode.step
  by_cases hback : c = '\\'
  · simp [hback, Mode.plain]
  by_cases hquote : c = '"'
  · simp [hquote, Mode.plain]
  have hblank : isBlank c = true := by simpa [isSpecial, hback, hquote] using hc
  simp [hback, hquote, hblank, Mode.plain]

/-- A character that is not special is kept. -/
theorem step_ordinary {c : Char} (hc : isSpecial c = false) (next : Option Char) :
    Mode.plain.step c next = (.keep, .plain) := by
  simp only [isSpecial, Bool.or_eq_false_iff, beq_eq_false_iff_ne] at hc
  obtain ⟨⟨hback, hquote⟩, hblank⟩ := hc
  simp [Mode.step, hback, hquote, hblank, Mode.plain]

/-- A quoted argument belongs to one word, and the scan goes on behind it as at the start. -/
theorem scan_escape_append (word rest : List Char) :
    scan .plain (escape word ++ rest) =
      (word ++ (scan .plain rest).1, (scan .plain rest).2) := by
  induction word with
  | nil => rfl
  | cons c word ih =>
    cases hc : isSpecial c with
    | true =>
      -- the backslash is dropped and saves what is behind it
      have hcons : escape (c :: word) = '\\' :: c :: escape word := by simp [escape, hc]
      rw [hcons, List.cons_append, List.cons_append]
      simp only [scan, step_backslash, step_escaped hc, ih, List.cons_append]
    | false =>
      have hcons : escape (c :: word) = c :: escape word := by simp [escape, hc]
      rw [hcons, List.cons_append]
      simp only [scan, step_ordinary hc, ih, List.cons_append]

/-! ## Lists of arguments -/

/-- A blank between arguments cuts. -/
theorem scan_blank {c : Char} (hc : isBlank c = true) (rest : List Char) :
    scan .plain (c :: rest) = ([], words rest) := by
  have hback : c ≠ '\\' := by
    rintro rfl
    exact absurd hc (by decide)
  have hquote : c ≠ '"' := by
    rintro rfl
    exact absurd hc (by decide)
  have hstep : Mode.plain.step c rest.head? = (.cut, .plain) := by
    simp [Mode.step, Mode.plain, hback, hquote, hc]
  rw [scan, hstep]
  rfl

/-- Quoted arguments with spaces between them are scanned as those arguments. -/
theorem words_intercalate (l : List (List Char)) (hl : ∀ word ∈ l, word ≠ []) :
    words ([' '].intercalate (l.map escape)) = l := by
  induction l with
  | nil => rfl
  | cons word l ih =>
    have hword : word ≠ [] := hl word List.mem_cons_self
    have hrest := ih fun other hother => hl other (List.mem_cons_of_mem _ hother)
    cases l with
    | nil =>
      -- behind the last argument there is no space
      have hscan := scan_escape_append word []
      rw [List.append_nil] at hscan
      simp [List.intercalate, words, hscan, scan, consNonempty, hword]
    | cons next l =>
      have hjoin : [' '].intercalate ((word :: next :: l).map escape) =
          escape word ++ ' ' :: [' '].intercalate ((next :: l).map escape) := by
        simp [List.intercalate]
      rw [hjoin, words, scan_escape_append, scan_blank (by decide), hrest]
      simp [consNonempty, hword]

/-- Reading a written list of arguments yields the arguments that are not empty. -/
theorem tokenize_quote (arguments : List String) :
    tokenize (quote arguments) = arguments.filter (· ≠ "") := by
  have hwords : words (join (arguments.map String.toList)) =
      (arguments.map String.toList).filter fun word => !word.isEmpty :=
    words_intercalate _ fun word hword => by
      simpa using (List.mem_filter.1 hword).2
  rw [tokenize, quote, Utf8.decode_encode, hwords, List.filter_map, List.map_map]
  have hback : String.ofList ∘ String.toList = id := by
    funext s
    exact String.ofList_toList
  rw [hback, List.map_id]
  refine List.filter_congr fun s _ => ?_
  rw [Bool.eq_iff_iff]
  simp

/-! ## Both ways -/

/-- Whatever the bytes are, no argument that is read from them is empty. -/
theorem ne_empty_of_mem_tokenize {bytes : List UInt8} {argument : String}
    (h : argument ∈ tokenize bytes) : argument ≠ "" := by
  obtain ⟨word, hword, rfl⟩ := List.mem_map.1 h
  intro hempty
  have hnil : word = [] := by simpa using congrArg String.toList hempty
  exact ne_nil_of_mem_words hword hnil

/-- Quoting keeps everything but empty arguments, and there are none in what is read. So what was
    read from any bytes reads back after it was quoted, also where the bytes were no UTF-8. -/
theorem tokenize_quote_inverse :
    (∀ arguments, tokenize (quote arguments) = arguments.filter (· ≠ "")) ∧
      ∀ bytes, (∀ argument ∈ tokenize bytes, argument ≠ "") ∧
        tokenize (quote (tokenize bytes)) = tokenize bytes := by
  refine ⟨tokenize_quote, fun bytes => ?_⟩
  have hnonempty : ∀ argument ∈ tokenize bytes, argument ≠ "" :=
    fun _ hmem => ne_empty_of_mem_tokenize hmem
  refine ⟨hnonempty, ?_⟩
  have hkept : (tokenize bytes).filter (· ≠ "") = tokenize bytes :=
    List.filter_eq_self.2 fun argument hmem => decide_eq_true (hnonempty argument hmem)
  rw [tokenize_quote, hkept]

end KnxGateway.Argument
