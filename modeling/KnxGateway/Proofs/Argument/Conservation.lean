import KnxGateway.Proofs.Argument.Enclosing
import Mathlib.Data.List.TakeWhile

set_option autoImplicit false

/-! # What becomes of the characters of a text

The scanner keeps characters in their order and drops only backslashes, double quotes and blanks.
So what the arguments hold, one behind the other, is what is left of the text when some of those
are taken out. Where a text has neither a backslash nor a double quote, nothing but the blanks is
taken out, and the arguments are the runs of characters between blanks. -/

namespace KnxGateway.Argument

open Text
open scoped List

/-! ## Characters that are taken out -/

/-- Only special characters are taken out of a text. -/
theorem step_effect (mode : Mode) (c : Char) (next : Option Char) :
    (mode.step c next).1 = .keep ∨ isSpecial c = true := by
  unfold Mode.step
  by_cases hback : c = '\\'
  · exact Or.inr (by simp [isSpecial, hback])
  by_cases hquote : c = '"'
  · exact Or.inr (by simp [isSpecial, hquote])
  by_cases hblank : isBlank c = true
  · exact Or.inr (by simp [isSpecial, hblank])
  · simp [hback, hquote, hblank]

theorem flatten_consNonempty (word : List Char) (others : List (List Char)) :
    (consNonempty word others).flatten = word ++ others.flatten := by
  cases word <;> rfl

/-- What a scan keeps is the text without some of its special characters. -/
theorem scan_keeps (mode : Mode) (s : List Char) :
    (scan mode s).1 ++ (scan mode s).2.flatten <+ s ∧
      ((scan mode s).1 ++ (scan mode s).2.flatten).filter (!isSpecial ·) =
        s.filter (!isSpecial ·) := by
  induction s generalizing mode with
  | nil => simp [scan]
  | cons c s ih =>
    obtain ⟨hsub, hfilter⟩ := ih (mode.step c s.head?).2
    -- a character that is taken out is special, so that the filter does not miss it
    have htaken : (mode.step c s.head?).1 ≠ .keep →
        (c :: s).filter (!isSpecial ·) = s.filter (!isSpecial ·) := by
      intro hne
      have hspecial := (step_effect mode c s.head?).resolve_left hne
      simp [hspecial]
    simp only [scan]
    cases heffect : (mode.step c s.head?).1 with
    | keep =>
      refine ⟨hsub.cons_cons c, ?_⟩
      rw [List.cons_append, List.filter_cons, List.filter_cons, hfilter]
    | cut =>
      simp only [List.nil_append, flatten_consNonempty]
      exact ⟨hsub.cons c, by rw [hfilter, htaken (by simp [heffect])]⟩
    | drop => exact ⟨hsub.cons c, by rw [hfilter, htaken (by simp [heffect])]⟩

/-- The words of a text, one behind the other. -/
theorem words_keep (s : List Char) :
    (words s).flatten <+ s ∧ (words s).flatten.filter (!isSpecial ·) = s.filter (!isSpecial ·) := by
  rw [words, flatten_consNonempty]
  exact scan_keeps .plain s

/-! ## Runs between blanks -/

/-- The maximal runs of characters that are not blank, from the first to the last. In front of a
    run are only blanks, and behind it is a blank or the end. -/
inductive Runs : List Char → List (List Char) → Prop where
  | blanks {s : List Char} (blank : isAllBlank s = true) : Runs s []
  | run {before run rest : List Char} {runs : List (List Char)}
      (blank_before : isAllBlank before = true) (ne_nil : run ≠ [])
      (no_blank : ∀ c ∈ run, isBlank c = false)
      (maximal : ∀ c, rest.head? = some c → isBlank c = true) (others : Runs rest runs) :
      Runs (before ++ run ++ rest) (run :: runs)

/-- Behind the blanks in front of a text, its first run reaches up to the next blank. -/
theorem exists_first_run {s : List Char} (h : isAllBlank s = false) :
    ∃ before run rest, s = before ++ run ++ rest ∧ isAllBlank before = true ∧ run ≠ [] ∧
      (∀ c ∈ run, isBlank c = false) ∧ ∀ c, rest.head? = some c → isBlank c = true := by
  obtain ⟨c, more, hfound⟩ : ∃ c more, s.dropWhile isBlank = c :: more := by
    refine List.exists_cons_of_ne_nil ?_
    intro hnil
    have hall : isAllBlank s = true := List.all_eq_true.2 (List.dropWhile_eq_nil_iff.1 hnil)
    rw [hall] at h
    cases h
  have hc : isBlank c = false := by
    simpa [hfound] using List.head?_dropWhile_not isBlank s
  refine ⟨s.takeWhile isBlank, (c :: more).takeWhile (!isBlank ·),
    (c :: more).dropWhile (!isBlank ·), ?_, List.all_takeWhile, ?_, ?_, ?_⟩
  · rw [List.append_assoc, List.takeWhile_append_dropWhile, ← hfound,
      List.takeWhile_append_dropWhile]
  · simp [hc]
  · intro d hd
    simpa using List.all_eq_true.1 List.all_takeWhile d hd
  · intro d hd
    simpa [hd] using List.head?_dropWhile_not (!isBlank ·) (c :: more)

/-- Every text has its runs. -/
theorem exists_runs (s : List Char) : ∃ runs, Runs s runs := by
  induction hn : s.length using Nat.strongRecOn generalizing s with
  | _ n ih =>
  cases hblank : isAllBlank s with
  | true => exact ⟨[], .blanks hblank⟩
  | false =>
    obtain ⟨before, run, rest, rfl, hbefore, hne, hrun, hmaximal⟩ := exists_first_run hblank
    have hpos : 0 < run.length := List.length_pos_iff.2 hne
    have hshorter : rest.length < n := by
      rw [← hn, List.length_append, List.length_append]
      omega
    obtain ⟨runs, hruns⟩ := ih rest.length hshorter rest rfl
    exact ⟨run :: runs, .run hbefore hne hrun hmaximal hruns⟩

theorem escape_of_ordinary {word : List Char} (h : ∀ c ∈ word, isSpecial c = false) :
    escape word = word := by
  induction word with
  | nil => rfl
  | cons c word ih =>
    have hrest := ih fun d hd => h d (List.mem_cons_of_mem _ hd)
    rw [escape] at hrest ⊢
    rw [List.flatMap_cons, h c List.mem_cons_self, hrest]
    rfl

/-- A run that holds nothing special is one word. -/
theorem words_run_append {run rest : List Char} (hne : run ≠ [])
    (hrun : ∀ c ∈ run, isSpecial c = false)
    (hrest : ∀ c, rest.head? = some c → isBlank c = true) :
    words (run ++ rest) = run :: words rest := by
  have hscan := scan_escape_append run rest
  rw [escape_of_ordinary hrun, scan_of_head?_blank hrest, List.append_nil] at hscan
  simp [words, hscan, consNonempty, hne]

/-- The words of a text without backslashes and double quotes are its runs. -/
theorem Runs.words_eq {s : List Char} {runs : List (List Char)} (h : Runs s runs)
    (hback : '\\' ∉ s) (hquote : '"' ∉ s) : words s = runs := by
  induction h with
  | @blanks s hblank =>
    have hwords := words_append_of_blank hblank []
    rwa [List.append_nil] at hwords
  | @run before run rest runs hbefore hne hrun hmaximal _ ih =>
    have hspecial : ∀ c ∈ run, isSpecial c = false := by
      intro c hc
      have hcback : c ≠ '\\' := by
        rintro rfl
        exact hback (by simp [hc])
      have hcquote : c ≠ '"' := by
        rintro rfl
        exact hquote (by simp [hc])
      simp [isSpecial, hcback, hcquote, hrun c hc]
    have hrest := ih (fun hc => hback (List.mem_append_right _ hc))
      (fun hc => hquote (List.mem_append_right _ hc))
    rw [List.append_assoc, words_append_of_blank hbefore, words_run_append hne hspecial hmaximal,
      hrest]

theorem runs_iff_words_eq {s : List Char} (hback : '\\' ∉ s) (hquote : '"' ∉ s)
    (runs : List (List Char)) : Runs s runs ↔ words s = runs := by
  constructor
  · intro h
    exact h.words_eq hback hquote
  · rintro rfl
    obtain ⟨runs, hruns⟩ := exists_runs s
    rwa [hruns.words_eq hback hquote]

/-! ## Byte strings -/

theorem map_toList_tokenize (bytes : List UInt8) :
    (tokenize bytes).map String.toList = words (Utf8.decode bytes) := by
  simp [tokenize, Function.comp_def]

/-- Reading arguments loses, repeats and moves nothing. Put one behind the other they are the text
    without some of its characters, and without none but backslashes, double quotes and blanks.
    Where the text has neither of the first two, the arguments are the runs between its blanks. -/
theorem tokenize_conserves (bytes : List UInt8) :
    (tokenize bytes).flatMap String.toList <+ Utf8.decode bytes ∧
      ((tokenize bytes).flatMap String.toList).filter (!isSpecial ·) =
        (Utf8.decode bytes).filter (!isSpecial ·) ∧
      ('\\' ∉ Utf8.decode bytes → '"' ∉ Utf8.decode bytes → ∀ runs,
        Runs (Utf8.decode bytes) runs ↔ (tokenize bytes).map String.toList = runs) := by
  rw [List.flatMap_def, map_toList_tokenize]
  obtain ⟨hsub, hfilter⟩ := words_keep (Utf8.decode bytes)
  exact ⟨hsub, hfilter, runs_iff_words_eq⟩

/-- A stray byte stands in a run, and a line end next to an ideographic space between two. -/
theorem tokenize_conserves_stray_byte :
    Runs (Utf8.decode ([0x20, 0x61, 0xFF] ++ Utf8.encode ['\n', '\u3000', 'b', '\t']))
      [['a', '\ufffd'], ['b']] :=
  ((tokenize_conserves _).2.2 (by decide) (by decide) _).2 (by decide)

end KnxGateway.Argument
