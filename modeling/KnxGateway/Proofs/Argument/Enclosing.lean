import KnxGateway.Proofs.Argument.Quoting

set_option autoImplicit false

/-! # Arguments between double quotes

An argument can also be written between double quotes. Inside them only a double quote needs a
backslash, since a backslash in front of any other character stands for itself. So every argument
can be written in this form but for those that end in a backslash, which would save the closing
quote. Enclosed arguments are read back whatever blanks stand around and between them. -/

namespace KnxGateway.Argument

open Text

/-! ## The written form -/

/-- The text between the double quotes: a backslash in front of each double quote, and all else as
    it is. -/
def saveQuotes (word : List Char) : List Char :=
  word.flatMap fun c => if c = '"' then ['\\', '"'] else [c]

/-- An argument between double quotes. -/
def enclose (word : List Char) : List Char :=
  '"' :: saveQuotes word ++ ['"']

/-- A text of enclosed arguments. Each is given with the characters in front of it, and `after`
    holds those behind the last one. -/
def layOut (items : List (List Char × String)) (after : List Char) : List Char :=
  items.flatMap (fun item => item.1 ++ enclose item.2.toList) ++ after

/-- Only blanks stand around arguments, and at least one between two of them. -/
structure IsSpaced (items : List (List Char × String)) (after : List Char) : Prop where
  blank_before : ∀ item ∈ items, isAllBlank item.1 = true
  blank_after : isAllBlank after = true
  apart : ∀ item ∈ items.tail, item.1 ≠ []

theorem saveQuotes_cons_quote (word : List Char) :
    saveQuotes ('"' :: word) = '\\' :: '"' :: saveQuotes word :=
  rfl

theorem saveQuotes_cons {c : Char} (hc : c ≠ '"') (word : List Char) :
    saveQuotes (c :: word) = c :: saveQuotes word := by
  simp [saveQuotes, hc]

theorem layOut_cons (item : List Char × String) (items : List (List Char × String))
    (after : List Char) :
    layOut (item :: items) after = item.1 ++ (enclose item.2.toList ++ layOut items after) := by
  simp [layOut]

/-! ## Inside double quotes -/

/-- Inside double quotes every character but a double quote is kept, and a backslash as well if no
    double quote follows it. -/
theorem step_quoted {c : Char} {next : Option Char} (hc : c ≠ '"')
    (hnext : c = '\\' → next ≠ some '"') :
    (Mode.mk true false).step c next = (.keep, ⟨true, false⟩) := by
  by_cases hback : c = '\\'
  · simp [Mode.step, hback, hnext hback]
  · simp [Mode.step, hback, hc]

/-- A text with its quotes saved never starts with a double quote. -/
theorem head?_saveQuotes_append {word : List Char} (hword : word ≠ []) (rest : List Char) :
    (saveQuotes word ++ rest).head? ≠ some '"' := by
  cases word with
  | nil => exact absurd rfl hword
  | cons c word =>
    by_cases hc : c = '"'
    · subst hc
      simp [saveQuotes_cons_quote]
    · simp [saveQuotes_cons hc, hc]

/-- Up to the closing quote everything belongs to the argument, and the scan goes on behind it as
    at the start. -/
theorem scan_saveQuotes_append (word rest : List Char) (hlast : word.getLast? ≠ some '\\') :
    scan ⟨true, false⟩ (saveQuotes word ++ '"' :: rest) =
      (word ++ (scan .plain rest).1, (scan .plain rest).2) := by
  induction word with
  | nil =>
    have hstep : (Mode.mk true false).step '"' rest.head? = (.drop, .plain) := by
      simp [Mode.step, Mode.plain]
    simp [saveQuotes, scan, hstep]
  | cons c word ih =>
    have hrest : word.getLast? ≠ some '\\' := by
      intro h
      cases word with
      | nil => simp at h
      | cons d word => exact hlast (by rwa [List.getLast?_cons_cons])
    by_cases hc : c = '"'
    · -- the backslash in front is dropped, and the quote behind it is kept
      subst hc
      have hback : (Mode.mk true false).step '\\' (some '"') = (.drop, ⟨true, true⟩) := by
        simp [Mode.step]
      have hquote : ∀ next, (Mode.mk true true).step '"' next = (.keep, ⟨true, false⟩) := by
        intro next
        simp [Mode.step]
      rw [saveQuotes_cons_quote, List.cons_append, List.cons_append]
      simp only [scan, List.head?_cons, hback, hquote, ih hrest, List.cons_append]
    · have hnext : c = '\\' → (saveQuotes word ++ '"' :: rest).head? ≠ some '"' := by
        intro hback
        -- the backslash is not the last character, so no closing quote follows it
        have hword : word ≠ [] := by
          rintro rfl
          exact hlast (by simp [hback])
        exact head?_saveQuotes_append hword _
      rw [saveQuotes_cons hc, List.cons_append]
      simp only [scan, step_quoted hc hnext, ih hrest, List.cons_append]

/-- An enclosed argument belongs to one word. -/
theorem scan_enclose_append {word : List Char} (hlast : word.getLast? ≠ some '\\')
    (rest : List Char) :
    scan .plain (enclose word ++ rest) =
      (word ++ (scan .plain rest).1, (scan .plain rest).2) := by
  have hstep : ∀ next, Mode.plain.step '"' next = (.drop, ⟨true, false⟩) := by
    intro next
    simp [Mode.step, Mode.plain]
  have hshape : enclose word ++ rest = '"' :: (saveQuotes word ++ '"' :: rest) := by
    simp [enclose]
  rw [hshape]
  simp only [scan, hstep, scan_saveQuotes_append word rest hlast]

/-! ## Between arguments -/

/-- Blanks in front of a text do not count. -/
theorem words_append_of_blank {before : List Char} (h : isAllBlank before = true)
    (rest : List Char) : words (before ++ rest) = words rest := by
  induction before with
  | nil => rfl
  | cons c before ih =>
    simp only [isAllBlank, List.all_cons, Bool.and_eq_true] at h
    rw [List.cons_append, words, scan_blank h.1]
    exact ih h.2

/-- In front of a blank, or at the end, no argument is under way. -/
theorem scan_of_head?_blank {s : List Char} (h : ∀ c, s.head? = some c → isBlank c = true) :
    scan .plain s = ([], words s) := by
  cases s with
  | nil => rfl
  | cons c rest =>
    have hscan := scan_blank (h c rfl) rest
    rw [words, hscan]
    rfl

/-- What follows an argument starts with a blank, if there is anything. -/
theorem IsSpaced.head?_layOut {item : List Char × String} {items : List (List Char × String)}
    {after : List Char} (h : IsSpaced (item :: items) after) :
    ∀ c, (layOut items after).head? = some c → isBlank c = true := by
  intro c hc
  cases items with
  | nil =>
    have hmem : c ∈ after := List.mem_of_mem_head? (by simpa [layOut] using hc)
    exact List.all_eq_true.1 h.blank_after c hmem
  | cons next items =>
    have hgap : next.1 ≠ [] := h.apart next (by simp)
    have hmem : c ∈ next.1 := by
      rw [layOut_cons, List.head?_append, Option.or_of_isSome (by simpa using hgap)] at hc
      exact List.mem_of_mem_head? hc
    exact List.all_eq_true.1 (h.blank_before next (by simp)) c hmem

theorem IsSpaced.tail {item : List Char × String} {items : List (List Char × String)}
    {after : List Char} (h : IsSpaced (item :: items) after) : IsSpaced items after :=
  ⟨fun other hother => h.blank_before other (List.mem_cons_of_mem _ hother), h.blank_after,
    fun other hother => h.apart other (List.mem_of_mem_tail hother)⟩

/-! ## Lists of arguments -/

/-- The words of a text of enclosed arguments. -/
theorem words_layOut {items : List (List Char × String)} {after : List Char}
    (h : IsSpaced items after)
    (hwords : ∀ item ∈ items, item.2 ≠ "" ∧ item.2.toList.getLast? ≠ some '\\') :
    words (layOut items after) = items.map fun item => item.2.toList := by
  induction items with
  | nil =>
    have hempty : words (after ++ []) = [] := words_append_of_blank h.blank_after []
    simpa [layOut] using hempty
  | cons item items ih =>
    obtain ⟨hne, hlast⟩ := hwords item List.mem_cons_self
    have hnil : item.2.toList ≠ [] := by simpa using hne
    have hrest := ih h.tail fun other hother => hwords other (List.mem_cons_of_mem _ hother)
    rw [layOut_cons, words_append_of_blank (h.blank_before item List.mem_cons_self), words,
      scan_enclose_append hlast, scan_of_head?_blank h.head?_layOut, hrest]
    simp [consNonempty, hnil]

/-- Enclosed arguments read back, with any blanks around them and at least one blank between two
    of them, if none is empty and none ends in a backslash. -/
theorem tokenize_layOut {items : List (List Char × String)} {after : List Char}
    (h : IsSpaced items after)
    (hwords : ∀ item ∈ items, item.2 ≠ "" ∧ item.2.toList.getLast? ≠ some '\\') :
    tokenize (Utf8.encode (layOut items after)) = items.map Prod.snd := by
  rw [tokenize, Utf8.decode_encode, words_layOut h hwords, List.map_map]
  refine List.map_congr_left fun item _ => ?_
  exact String.ofList_toList

/-- Backslashes in front of a double quote, of another backslash and of a blank, with a line end
    and an ideographic space between the arguments. -/
theorem tokenize_layOut_backslashes :
    tokenize (Utf8.encode (layOut
      [([' '], "a\\\"b"), (['\n', '\u3000'], "\\\\ c\\\t"), (['\t'], "\"")] ['\u2003'])) =
      ["a\\\"b", "\\\\ c\\\t", "\""] :=
  tokenize_layOut ⟨by decide, by decide, by decide⟩ (by decide)

end KnxGateway.Argument
