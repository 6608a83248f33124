import KnxGateway.Proofs.Argument.Enclosing
import KnxGateway.Proofs.Frame.Message

set_option autoImplicit false

/-! # Texts of arguments one behind the other

A blank that stands outside double quotes and behind no backslash cuts its text in two, and the
arguments of the whole are those of the front and then those of the back. Nothing passes the cut,
on neither of the two levels. The first byte of a character also ends an unfinished character in
front of it, so the decoder goes on behind the blank as at the start, and so does the scanner,
which looks ahead only for a double quote. -/

namespace KnxGateway

namespace Text.Utf8

/-! ## A character between two byte strings -/

/-- Inside a character only a continuation is awaited. -/
def State.AwaitsContinuation : State → Prop
  | .ready => True
  | .inside _ low high _ => 0x80 ≤ low ∧ high ≤ 0xBF

theorem State.awaitsContinuation_readFirst (b : UInt8) :
    (readFirst b).2.AwaitsContinuation := by
  simp only [readFirst]
  repeat' split
  all_goals simp [AwaitsContinuation]

theorem State.AwaitsContinuation.step {state : State} (h : state.AwaitsContinuation)
    (b : UInt8) : (state.step b).2.AwaitsContinuation := by
  cases state with
  | ready => exact awaitsContinuation_readFirst b
  | inside owed low high value =>
    simp only [State.step]
    split
    · cases owed <;> simp [AwaitsContinuation]
    · exact awaitsContinuation_readFirst b

/-- A byte that continues no character is read as a first byte, behind whatever the bytes in
    front of it leave unfinished. -/
theorem decodeFrom_append_first {first : UInt8} (hfirst : isContinuation first = false)
    (after : List UInt8) {state : State} (hstate : state.AwaitsContinuation)
    (before : List UInt8) :
    decodeFrom state (before ++ first :: after) =
      decodeFrom state before ++ decode (first :: after) := by
  induction before generalizing state with
  | nil =>
    cases state with
    | ready => rfl
    | inside owed low high value =>
      have hrefused : ¬ (low ≤ first.toNat ∧ first.toNat ≤ high) := by
        obtain ⟨hlow, hhigh⟩ := hstate
        simp [isContinuation] at hfirst
        omega
      simp [decodeFrom, decode, State.step, hrefused, State.finish]
  | cons b before ih =>
    rw [List.cons_append, decodeFrom, ih (hstate.step b), decodeFrom, List.append_assoc]

/-- A text between two byte strings reads as that text, whatever stands on either side of it. -/
theorem decode_append_encode_append (before after : List UInt8) {s : List Char} (hs : s ≠ []) :
    decode (before ++ encode s ++ after) = decode before ++ s ++ decode after := by
  obtain ⟨c, rest, rfl⟩ := List.exists_cons_of_ne_nil hs
  obtain ⟨first, others, hchar, hfirst, -⟩ := encodeChar_eq_cons c
  have hbytes : encode (c :: rest) ++ after = first :: (others ++ encode rest ++ after) := by
    simp [encode, hchar]
  have hready : State.ready.AwaitsContinuation := trivial
  calc decode (before ++ encode (c :: rest) ++ after)
      = decode before ++ decode (encode (c :: rest) ++ after) := by
        rw [List.append_assoc, hbytes]
        exact decodeFrom_append_first hfirst _ hready before
    _ = decode before ++ (c :: rest) ++ decode after := by
        rw [decode_encode_append, List.append_assoc]

end Text.Utf8

namespace Argument

open Text

/-! ## A blank between two texts -/

/-- The scanner looks ahead for a double quote only. -/
theorem step_of_next_ne_quote (mode : Mode) (c : Char) {next : Option Char}
    (h : next ≠ some '"') : mode.step c next = mode.step c none := by
  have hnext : (next != some '"') = (none != some '"') := bne_iff_ne.2 h
  simp only [Mode.step, hnext]

theorem consNonempty_append (word : List Char) (others more : List (List Char)) :
    consNonempty word (others ++ more) = consNonempty word others ++ more := by
  cases word <;> rfl

/-- A blank that is reached between arguments ends the scan of what is in front of it. -/
theorem scan_append_blank {blank : Char} (hblank : isBlank blank = true) (rest : List Char)
    {mode : Mode} {s : List Char} (h : mode.after s = .plain) :
    scan mode (s ++ blank :: rest) = ((scan mode s).1, (scan mode s).2 ++ words rest) := by
  induction s generalizing mode with
  | nil =>
    obtain rfl : mode = .plain := h
    exact scan_blank hblank rest
  | cons c s ih =>
    have hstep : mode.step c (s ++ blank :: rest).head? = mode.step c s.head? := by
      cases s with
      | nil =>
        -- the last character has the blank behind it, and alone it has nothing behind it
        refine step_of_next_ne_quote mode c ?_
        intro hquote
        obtain rfl : blank = '"' := Option.some.inj hquote
        exact absurd hblank (by decide)
      | cons d s => rfl
    have hend : (mode.step c s.head?).2.after s = .plain := h
    have hrest := ih hend
    rw [List.cons_append]
    simp only [scan, hstep, hrest]
    cases (mode.step c s.head?).1 with
    | keep => rfl
    | cut => simp only [consNonempty_append]
    | drop => rfl

/-- One blank or more of them between two texts separate their words. -/
theorem words_append_blanks {s blanks : List Char} (h : Mode.plain.after s = .plain)
    (hblanks : isAllBlank blanks = true) (hne : blanks ≠ []) (rest : List Char) :
    words (s ++ blanks ++ rest) = words s ++ words rest := by
  obtain ⟨blank, more, rfl⟩ := List.exists_cons_of_ne_nil hne
  simp only [isAllBlank, List.all_cons, Bool.and_eq_true] at hblanks
  have hmore : words (more ++ rest) = words rest := words_append_of_blank hblanks.2 rest
  rw [List.append_assoc, List.cons_append, words, scan_append_blank hblanks.1 _ h, hmore,
    consNonempty_append]
  rfl

/-! ## A blank between two byte strings -/

theorem tokenize_append_blanks {before : List UInt8} {blanks : List Char}
    (h : Mode.plain.after (Utf8.decode before) = .plain) (hblanks : isAllBlank blanks = true)
    (hne : blanks ≠ []) (after : List UInt8) :
    tokenize (before ++ Utf8.encode blanks ++ after) = tokenize before ++ tokenize after := by
  rw [tokenize, Utf8.decode_append_encode_append _ _ hne, words_append_blanks h hblanks hne,
    List.map_append]
  rfl

/-- Outside double quotes and behind no backslash a blank separates the arguments of what is in
    front of it from those of what is behind it, whatever the bytes on either side are. So blanks
    in front of a text, behind it and next to other blanks do not count. -/
theorem tokenize_separated :
    (∀ before after : List UInt8, ∀ blank : Char,
      isBlank blank = true → Mode.plain.after (Utf8.decode before) = .plain →
        tokenize (before ++ Utf8.encodeChar blank ++ after) =
          tokenize before ++ tokenize after) ∧
    ∀ blanks : List Char, isAllBlank blanks = true →
      (∀ after : List UInt8, tokenize (Utf8.encode blanks ++ after) = tokenize after) ∧
      ∀ before : List UInt8, Mode.plain.after (Utf8.decode before) = .plain →
        tokenize (before ++ Utf8.encode blanks) = tokenize before ∧
        (blanks ≠ [] → ∀ after : List UInt8,
          tokenize (before ++ Utf8.encode blanks ++ after) =
            tokenize before ++ tokenize after) := by
  have hnil : tokenize [] = [] := rfl
  constructor
  · intro before after blank hblank hbefore
    have hone : Utf8.encode [blank] = Utf8.encodeChar blank := by simp [Utf8.encode]
    rw [← hone]
    exact tokenize_append_blanks hbefore (by simpa [isAllBlank] using hblank)
      (List.cons_ne_nil _ _) after
  · intro blanks hblanks
    constructor
    · intro after
      rw [tokenize, Utf8.decode_encode_append, words_append_of_blank hblanks]
      rfl
    · intro before hbefore
      refine ⟨?_, fun hne after => tokenize_append_blanks hbefore hblanks hne after⟩
      by_cases hne : blanks = []
      · subst hne
        simp [Utf8.encode]
      · have hsplit := tokenize_append_blanks hbefore hblanks hne []
        rwa [List.append_nil, hnil, List.append_nil] at hsplit

/-- An ideographic space between the first two bytes of a character and the last one, which are
    defects on either side, behind a quoted argument and a saved backslash. -/
theorem tokenize_separated_inside_character :
    tokenize (Utf8.encode "\"a b\"\\\\".toList ++ [0xE2, 0x80] ++ Utf8.encodeChar '\u3000' ++
      ([0x94] ++ Utf8.encode "\\ c".toList)) = ["a b\\\ufffd", "\ufffd c"] :=
  (tokenize_separated.1 _ _ '\u3000' (by decide) (by decide)).trans (by decide)

end Argument

end KnxGateway
