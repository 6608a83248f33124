import KnxGateway.Proofs.Json.Grammar
import KnxGateway.Proofs.Text.Digits

set_option autoImplicit false

/-! # The tokens of a text

The lexer cuts a text of a value into the tokens of that value, and goes on with what follows it.
Only a number needs a look at what follows: its literal ends where no character comes that could
belong to it, and in a JSON text none ever does. -/

namespace KnxGateway

open Text

/-! ## Numbers -/

namespace JsonToken

/-- What follows a number cannot be a part of it. -/
def EndsNumber (rest : List Char) : Prop :=
  ∀ c, rest.head? = some c → c.isDigit = false ∧ c ≠ '.' ∧ c ≠ 'e' ∧ c ≠ 'E'

theorem endsNumber_nil : EndsNumber [] := by
  intro c hc
  cases hc

theorem endsNumber_cons {c : Char} (h : c.isDigit = false ∧ c ≠ '.' ∧ c ≠ 'e' ∧ c ≠ 'E')
    (rest : List Char) : EndsNumber (c :: rest) := by
  intro d hd
  cases hd
  exact h

theorem EndsNumber.takeWhile_eq_nil {rest : List Char} (h : EndsNumber rest) :
    rest.takeWhile Char.isDigit = [] :=
  takeWhile_eq_nil_of_head? fun c hc => (h c hc).1

theorem lexDigits_append {digits rest : List Char} (h : IsDigits digits)
    (hrest : rest.takeWhile Char.isDigit = []) :
    lexDigits (digits ++ rest) = some (digits, rest) := by
  obtain ⟨htake, hdrop⟩ := takeWhile_append_of_stop h.2 hrest
  simp [lexDigits, htake, hdrop, h.1]

theorem IsDigits.exists_cons {s : List Char} (h : IsDigits s) :
    ∃ c tail, s = c :: tail ∧ c.isDigit = true := by
  cases s with
  | nil => exact absurd rfl h.1
  | cons c tail => exact ⟨c, tail, rfl, h.2 c List.mem_cons_self⟩

theorem IsInteger.exists_cons {s : List Char} (h : IsInteger s) :
    ∃ c tail, s = c :: tail ∧ c.isDigit = true := by
  cases h with
  | zero => exact ⟨'0', [], rfl, by decide⟩
  | digits hdigits => exact hdigits.exists_cons

theorem lexInteger_append {integer rest : List Char} (h : IsInteger integer)
    (hrest : rest.takeWhile Char.isDigit = []) :
    lexInteger (integer ++ rest) = some (integer, rest) := by
  cases h with
  | zero => rfl
  | digits hdigits hzero =>
    unfold lexInteger
    split
    · next heq =>
      obtain ⟨c, tail, rfl, -⟩ := hdigits.exists_cons
      obtain rfl : c = '0' := (List.cons.inj heq).1
      exact absurd rfl hzero
    · exact lexDigits_append hdigits hrest

theorem lexFraction_append {fraction rest : List Char} (h : IsFraction fraction)
    (hrest : rest.takeWhile Char.isDigit = []) (hpoint : rest.head? ≠ some '.') :
    lexFraction (fraction ++ rest) = some (fraction, rest) := by
  cases h with
  | none =>
    rw [List.nil_append, lexFraction.eq_def]
    split
    · exact absurd rfl hpoint
    · rfl
  | some hdigits => simp [lexFraction, lexDigits_append hdigits hrest]

theorem lexSignedDigits_append {sign digits rest : List Char}
    (hsign : sign = [] ∨ sign = ['+'] ∨ sign = ['-']) (h : IsDigits digits)
    (hrest : rest.takeWhile Char.isDigit = []) :
    lexSignedDigits (sign ++ digits ++ rest) = some (sign ++ digits, rest) := by
  have hlex := lexDigits_append h hrest
  rcases hsign with rfl | rfl | rfl
  · obtain ⟨c, tail, rfl, hc⟩ := h.exists_cons
    rw [List.nil_append, lexSignedDigits.eq_def]
    split
    · next heq =>
      cases heq
      exact absurd hc (by decide)
    · next heq =>
      cases heq
      exact absurd hc (by decide)
    · exact hlex
  · simp [lexSignedDigits, hlex]
  · simp [lexSignedDigits, hlex]

theorem lexExponent_append {exponent rest : List Char} (h : IsExponent exponent)
    (hrest : EndsNumber rest) : lexExponent (exponent ++ rest) = some (exponent, rest) := by
  cases h with
  | none =>
    rw [List.nil_append, lexExponent.eq_def]
    split
    · exact absurd rfl (hrest _ rfl).2.2.1
    · exact absurd rfl (hrest _ rfl).2.2.2
    · rfl
  | some hmark hsign hdigits =>
    have hlex := lexSignedDigits_append hsign hdigits hrest.takeWhile_eq_nil
    rcases hmark with rfl | rfl
    · rw [List.cons_append, lexExponent, hlex]
      rfl
    · rw [List.cons_append, lexExponent, hlex]
      rfl

/-- Behind the digits of a number, neither a fraction nor an exponent starts with a digit, and no
    exponent with a point. -/
theorem head?_of_isExponent {exponent rest : List Char} (h : IsExponent exponent)
    (hrest : EndsNumber rest) :
    ∀ c, (exponent ++ rest).head? = some c → c.isDigit = false ∧ c ≠ '.' := by
  intro c hc
  cases h with
  | none => exact ⟨(hrest c hc).1, (hrest c hc).2.1⟩
  | some hmark =>
    rcases hmark with rfl | rfl <;> cases hc <;> decide

theorem head?_of_isFraction {fraction rest : List Char} (h : IsFraction fraction)
    (hrest : ∀ c, rest.head? = some c → c.isDigit = false) :
    ∀ c, (fraction ++ rest).head? = some c → c.isDigit = false := by
  intro c hc
  cases h with
  | none => exact hrest c hc
  | some =>
    cases hc
    decide

theorem lexMagnitude_append {integer fraction exponent rest : List Char} (hi : IsInteger integer)
    (hf : IsFraction fraction) (he : IsExponent exponent) (hrest : EndsNumber rest) :
    lexMagnitude (integer ++ fraction ++ exponent ++ rest) =
      some (integer ++ fraction ++ exponent, rest) := by
  have hbehind := head?_of_isExponent he hrest
  have hexponent := takeWhile_eq_nil_of_head? fun c hc => (hbehind c hc).1
  have hpoint : (exponent ++ rest).head? ≠ some '.' := fun h => (hbehind '.' h).2 rfl
  have hfraction := takeWhile_eq_nil_of_head? (head?_of_isFraction hf fun c hc => (hbehind c hc).1)
  have hinteger := lexInteger_append hi hfraction
  simp only [List.append_assoc]
  simp [lexMagnitude, hinteger, lexFraction_append hf hexponent hpoint, lexExponent_append he hrest]

/-- A literal is lexed as it stands. -/
theorem lexNumber_append {literal rest : List Char} (h : IsNumber literal)
    (hrest : EndsNumber rest) : lexNumber (literal ++ rest) = some (literal, rest) := by
  obtain ⟨hsign, hi, hf, he⟩ := h
  have hlex := lexMagnitude_append hi hf he hrest
  rcases hsign with rfl | rfl
  · rw [List.nil_append, lexNumber.eq_def]
    split
    · next heq =>
      -- a number without a sign starts with a digit
      obtain ⟨c, tail, rfl, hc⟩ := hi.exists_cons
      obtain rfl : c = '-' := (List.cons.inj heq).1
      exact absurd hc (by decide)
    · exact hlex
  · rw [List.cons_append, List.cons_append, List.nil_append, lexNumber, hlex]
    rfl

/-- A literal starts with its sign or with a digit. -/
theorem IsNumber.exists_cons {literal : List Char} (h : IsNumber literal) :
    ∃ c tail, literal = c :: tail ∧ (c = '-' ∨ c.isDigit = true) := by
  obtain ⟨hsign, hi, hf, he⟩ := h
  rcases hsign with rfl | rfl
  · obtain ⟨c, tail, rfl, hc⟩ := hi.exists_cons
    exact ⟨c, _, rfl, Or.inr hc⟩
  · exact ⟨'-', _, rfl, Or.inl rfl⟩

/-! ## Strings -/

theorem lexString_plain {c : Char} (hquote : c ≠ '"') (hback : c ≠ '\\') (hc : 0x20 ≤ c.toNat)
    (rest : List Char) :
    lexString (c :: rest) = (lexString rest).map fun p => (.char c :: p.1, p.2) := by
  rw [lexString.eq_def]
  split
  · next heq => cases heq
  · next heq => exact absurd (List.cons.inj heq).1 hquote
  · next heq => exact absurd (List.cons.inj heq).1 hback
  · next heq => exact absurd (List.cons.inj heq).1 hback
  · next heq =>
    cases heq
    rw [if_neg (by simp [hback]; omega)]
    cases lexString rest <;> rfl

theorem lexString_short {escape c : Char} (h : (escape, c) ∈ JsonUnit.shortEscapes)
    (rest : List Char) :
    lexString ('\\' :: escape :: rest) = (lexString rest).map fun p => (.char c :: p.1, p.2) := by
  simp only [JsonUnit.shortEscapes, List.mem_cons, Prod.mk.injEq, List.not_mem_nil, or_false] at h
  rcases h with ⟨rfl, rfl⟩ | ⟨rfl, rfl⟩ | ⟨rfl, rfl⟩ | ⟨rfl, rfl⟩ | ⟨rfl, rfl⟩ | ⟨rfl, rfl⟩ |
    ⟨rfl, rfl⟩ | ⟨rfl, rfl⟩ <;> cases hrest : lexString rest <;> simp [lexString, shortEscape?, hrest]

theorem lexString_digits {a b c d : Char} {w x y z : Nat} (ha : hexValue? a = some w)
    (hb : hexValue? b = some x) (hc : hexValue? c = some y) (hd : hexValue? d = some z)
    (rest : List Char) :
    lexString ('\\' :: 'u' :: a :: b :: c :: d :: rest) =
      (lexString rest).map fun p => (.escaped (((w * 16 + x) * 16 + y) * 16 + z) :: p.1, p.2) := by
  cases hrest : lexString rest <;> simp [lexString, codeUnit?, ha, hb, hc, hd, hrest]

theorem lexString_append {units : List JsonUnit} {s : List Char}
    (h : JsonUnit.PiecesHaveText units s) (rest : List Char) :
    lexString (s ++ '"' :: rest) = some (units, rest) := by
  induction h with
  | nil => rfl
  | cons hunit hunits ih =>
    rw [List.append_assoc]
    cases hunit with
    | plain hquote hback hc =>
      rw [List.cons_append, List.nil_append, lexString_plain hquote hback hc, ih]
      rfl
    | short hmem =>
      simp only [List.cons_append, List.nil_append]
      rw [lexString_short hmem, ih]
      rfl
    | digits ha hb hc hd =>
      simp only [List.cons_append, List.nil_append]
      rw [lexString_digits ha hb hc hd, ih]
      rfl

/-! ## One token -/

theorem lexOne_number {literal rest : List Char} (h : IsNumber literal) (hrest : EndsNumber rest) :
    lexOne (literal ++ rest) = some (.number literal, rest) := by
  have hlex := lexNumber_append h hrest
  obtain ⟨c, tail, rfl, hc⟩ := h.exists_cons
  have hne : ∀ d : Char, d.isDigit = false → d ≠ '-' → c ≠ d := by
    rintro d hdigit hminus rfl
    rcases hc with rfl | hc
    · exact hminus rfl
    · simp [hdigit] at hc
  rw [List.cons_append] at hlex ⊢
  rw [lexOne.eq_def]
  split
  case h_1 heq => cases heq
  case h_12 => rw [hlex]; rfl
  all_goals
    next heq => exact absurd (List.cons.inj heq).1 (hne _ (by decide) (by decide))

/-- Tokens that a text is cut into, in no more steps than it has characters. -/
def Lexes (s : List Char) (tokens : List JsonToken) : Prop :=
  ∃ fuel ≤ s.length, lexSome fuel s = some tokens

theorem lexSome_succ {fuel : Nat} {s : List Char} {tokens : List JsonToken}
    (h : lexSome fuel s = some tokens) : lexSome (fuel + 1) s = some tokens := by
  induction fuel generalizing s tokens with
  | zero =>
    simp only [lexSome] at h ⊢
    split at h
    · next hblank => rw [if_pos hblank, h]
    · cases h
  | succ fuel ih =>
    rw [lexSome] at h ⊢
    split at h
    · next hblank => rw [if_pos hblank, h]
    · next hblank =>
      rw [if_neg hblank]
      cases hone : lexOne (s.dropWhile isBlank) with
      | none => simp [hone] at h
      | some first =>
        obtain ⟨token, rest⟩ := first
        cases hsome : lexSome fuel rest with
        | none => simp [hone, hsome] at h
        | some others => simpa [hone, hsome, ih hsome] using h

theorem Lexes.lex_eq {s : List Char} {tokens : List JsonToken} (h : Lexes s tokens) :
    lex s = some tokens := by
  obtain ⟨fuel, hfuel, hlex⟩ := h
  have hmore : ∀ more, lexSome (fuel + more) s = some tokens := by
    intro more
    induction more with
    | zero => exact hlex
    | succ more ih => exact lexSome_succ ih
  have hlength := hmore (s.length - fuel)
  rwa [Nat.add_sub_cancel' hfuel] at hlength

theorem lexes_nil : Lexes [] [] :=
  ⟨0, Nat.le_refl 0, rfl⟩

variable {rest : List Char} {others : List JsonToken}

/-- Blanks in front of a token are skipped. -/
theorem Lexes.gap {gap : List Char} (hgap : JsonValue.IsGap gap) (h : Lexes rest others) :
    Lexes (gap ++ rest) others := by
  obtain ⟨fuel, hfuel, hlex⟩ := h
  have hblank : ∀ c ∈ gap, isBlank c = true := by
    intro c hc
    rcases hgap c hc with rfl | rfl | rfl | rfl <;> decide
  refine ⟨fuel, by rw [List.length_append]; omega, ?_⟩
  rw [← hlex]
  cases fuel <;> simp only [lexSome, List.dropWhile_append_of_pos hblank]

/-- A token in front of a text. -/
theorem Lexes.token {s : List Char} {token : JsonToken} (h : Lexes rest others)
    (hone : lexOne (s ++ rest) = some (token, rest))
    (hs : ∃ c tail, s = c :: tail ∧ isBlank c = false) : Lexes (s ++ rest) (token :: others) := by
  obtain ⟨fuel, hfuel, hlex⟩ := h
  obtain ⟨c, tail, rfl, hc⟩ := hs
  refine ⟨fuel + 1, ?_, ?_⟩
  · simp only [List.cons_append, List.length_cons, List.length_append]
    omega
  · have hdrop : (c :: tail ++ rest).dropWhile isBlank = c :: tail ++ rest := by
      simp [hc]
    have hne : (c :: tail ++ rest).isEmpty = false := rfl
    simp only [lexSome, hdrop, hne, hone, Bool.false_eq_true, if_false, Option.bind_eq_bind,
      Option.bind_some, hlex]
    rfl

/-- A token of one character in front of a text. -/
theorem Lexes.sign (h : Lexes rest others) (c : Char) (token : JsonToken)
    (hone : lexOne (c :: rest) = some (token, rest)) (hc : isBlank c = false) :
    Lexes (c :: rest) (token :: others) :=
  h.token (s := [c]) hone ⟨c, [], rfl, hc⟩

theorem Lexes.string {units : List JsonUnit} {s : List Char} (hs : JsonUnit.StringHasText units s)
    (h : Lexes rest others) : Lexes (s ++ rest) (.string units :: others) := by
  obtain ⟨hpieces⟩ := hs
  refine h.token ?_ ⟨'"', _, rfl, by decide⟩
  have hlex := lexString_append hpieces rest
  simp [lexOne, hlex]

theorem Lexes.number {literal : List Char} (hliteral : IsNumber literal) (hrest : EndsNumber rest)
    (h : Lexes rest others) : Lexes (literal ++ rest) (.number literal :: others) := by
  refine h.token (lexOne_number hliteral hrest) ?_
  obtain ⟨c, tail, rfl, hc⟩ := hliteral.exists_cons
  refine ⟨c, tail, rfl, ?_⟩
  rcases hc with rfl | hc
  · decide
  · have hne : ∀ d : Char, d.isDigit = false → c ≠ d := by
      rintro d hd rfl
      simp [hd] at hc
    simp [isBlank, hne ' ' (by decide), hne '\t' (by decide), hne '\n' (by decide),
      hne '\r' (by decide)]

theorem EndsNumber.gap {gap : List Char} (hgap : JsonValue.IsGap gap) (h : EndsNumber rest) :
    EndsNumber (gap ++ rest) := by
  cases gap with
  | nil => exact h
  | cons c gap =>
    refine endsNumber_cons ?_ _
    rcases hgap c List.mem_cons_self with rfl | rfl | rfl | rfl <;> decide

end JsonToken

/-! ## Values -/

namespace JsonValue

open JsonToken

mutual

/-- A text of a value is cut into the tokens of the value. -/
theorem HasText.lexes {value : JsonValue} {s rest : List Char} {others : List JsonToken} :
    HasText value s → EndsNumber rest → Lexes rest others →
      Lexes (s ++ rest) (value.tokens ++ others)
  | .null, _, h => h.token rfl ⟨'n', _, rfl, by decide⟩
  | .true, _, h => h.token rfl ⟨'t', _, rfl, by decide⟩
  | .false, _, h => h.token rfl ⟨'f', _, rfl, by decide⟩
  | .number hliteral, hrest, h => h.number hliteral hrest
  | .string hs, _, h => h.string hs
  | .emptyArray hgap, _, h => by
    have hinside := (h.sign ']' .closeArray rfl (by decide)).gap hgap
    simpa [tokens, elementTokens] using hinside.sign '[' .openArray rfl (by decide)
  | .array helements, _, h => by
    have hclose := h.sign ']' .closeArray rfl (by decide)
    have hinside := helements.lexes (endsNumber_cons (by decide) _) hclose
    simpa [tokens] using hinside.sign '[' .openArray rfl (by decide)
  | .emptyObject hgap, _, h => by
    have hinside := (h.sign '\x7d' .closeObject rfl (by decide)).gap hgap
    simpa [tokens, memberTokens] using hinside.sign '\x7b' .openObject rfl (by decide)
  | .object hmembers, _, h => by
    have hclose := h.sign '\x7d' .closeObject rfl (by decide)
    have hinside := hmembers.lexes (endsNumber_cons (by decide) _) hclose
    simpa [tokens] using hinside.sign '\x7b' .openObject rfl (by decide)

theorem ElementsHaveText.lexes {elements : List JsonValue} {s rest : List Char}
    {others : List JsonToken} :
    ElementsHaveText elements s → EndsNumber rest → Lexes rest others →
      Lexes (s ++ rest) (elementTokens elements ++ others)
  | .one hbefore helement hafter, hrest, h => by
    have hend := helement.lexes (hrest.gap hafter) (h.gap hafter)
    simpa [elementTokens] using hend.gap hbefore
  | .more hbefore helement hafter hmore, hrest, h => by
    have hcomma := (hmore.lexes hrest h).sign ',' .comma rfl (by decide)
    have hend := helement.lexes ((endsNumber_cons (by decide) _).gap hafter) (hcomma.gap hafter)
    simpa [elementTokens_cons hmore.ne_nil] using hend.gap hbefore

theorem MembersHaveText.lexes {members : List (List JsonUnit × JsonValue)} {s rest : List Char}
    {others : List JsonToken} :
    MembersHaveText members s → EndsNumber rest → Lexes rest others →
      Lexes (s ++ rest) (memberTokens members ++ others)
  | .one hbefore hkey hmid hgap hvalue hafter, hrest, h => by
    have hend := (hvalue.lexes (hrest.gap hafter) (h.gap hafter)).gap hgap
    have hcolon := (hend.sign ':' .colon rfl (by decide)).gap hmid
    simpa [memberTokens] using (hcolon.string hkey).gap hbefore
  | .more hbefore hkey hmid hgap hvalue hafter hmore, hrest, h => by
    have hcomma := (hmore.lexes hrest h).sign ',' .comma rfl (by decide)
    have hend := (hvalue.lexes ((endsNumber_cons (by decide) _).gap hafter)
      (hcomma.gap hafter)).gap hgap
    have hcolon := (hend.sign ':' .colon rfl (by decide)).gap hmid
    simpa [memberTokens_cons hmore.ne_nil] using (hcolon.string hkey).gap hbefore

end

/-- The tokens of a text of a value, with blanks on either side. -/
theorem HasText.lex_eq {value : JsonValue} {s before after : List Char} (h : HasText value s)
    (hbefore : IsGap before) (hafter : IsGap after) :
    lex (before ++ (s ++ after)) = some value.tokens := by
  have hend : Lexes (after ++ []) [] := lexes_nil.gap hafter
  have hvalue := h.lexes (endsNumber_nil.gap hafter) hend
  simpa using (hvalue.gap hbefore).lex_eq

end JsonValue

end KnxGateway
