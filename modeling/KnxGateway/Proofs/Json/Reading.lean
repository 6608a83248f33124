import KnxGateway.Json.Reader
import KnxGateway.Proofs.Json.Lexing

set_option autoImplicit false

/-! # Every text of a value is read as that value

Between the tokens of a value no other value can be read, and their number bounds the depth of its
nesting. So the reader finds the value in its tokens, and a value in all of its texts. One of these
texts is the one that is written without blanks and with as few escapes as possible. -/

namespace KnxGateway

open Text

namespace JsonValue

open JsonToken

/-! ## From tokens to values -/

theorem exists_tokens_cons (value : JsonValue) :
    ∃ first others, value.tokens = first :: others ∧ first ≠ .closeArray := by
  cases value <;> exact ⟨_, _, rfl, by simp⟩

theorem exists_elementTokens_cons {elements : List JsonValue} (h : elements ≠ []) :
    ∃ first others, elementTokens elements = first :: others ∧ first ≠ .closeArray := by
  cases elements with
  | nil => exact absurd rfl h
  | cons element elements =>
    obtain ⟨first, others, hfirst, hne⟩ := exists_tokens_cons element
    cases elements with
    | nil => exact ⟨first, others, hfirst, hne⟩
    | cons next elements =>
      refine ⟨first, others ++ .comma :: elementTokens (next :: elements), ?_, hne⟩
      rw [elementTokens_cons (List.cons_ne_nil _ _), hfirst, List.cons_append]

theorem exists_memberTokens_cons {members : List (List JsonUnit × JsonValue)} (h : members ≠ []) :
    ∃ key others, memberTokens members = .string key :: others := by
  match members, h with
  | [(key, value)], _ => exact ⟨key, _, rfl⟩
  | (key, value) :: next :: members, _ => exact ⟨key, _, rfl⟩

theorem readValue_openArray {fuel : Nat} {first : JsonToken} {others : List JsonToken}
    (h : first ≠ .closeArray) :
    readValue (fuel + 1) (.openArray :: first :: others) =
      (readElements fuel (first :: others)).map fun p => (.array p.1, p.2) := by
  rw [readValue.eq_7 fuel (first :: others) fun rest heq => h (List.cons.inj heq).1]
  cases readElements fuel (first :: others) <;> rfl

theorem readValue_openObject {fuel : Nat} {key : List JsonUnit} {others : List JsonToken} :
    readValue (fuel + 1) (.openObject :: .string key :: others) =
      (readMembers fuel (.string key :: others)).map fun p => (.object p.1, p.2) := by
  cases hread : readMembers fuel (.string key :: others) <;> simp [readValue, hread]

mutual

/-- The reader finds a value at the start of its tokens and stops behind them. -/
theorem readValue_tokens (value : JsonValue) (fuel : Nat) (rest : List JsonToken)
    (h : 2 * value.tokens.length ≤ fuel + 1) :
    readValue fuel (value.tokens ++ rest) = some (value, rest) := by
  obtain ⟨fuel, rfl⟩ : ∃ n, fuel = n + 1 := by
    obtain ⟨first, others, hfirst, -⟩ := exists_tokens_cons value
    rw [hfirst, List.length_cons] at h
    exact ⟨fuel - 1, by omega⟩
  match value, h with
  | .null, _ => rfl
  | .bool _, _ => rfl
  | .number _, _ => rfl
  | .string _, _ => rfl
  | .array [], _ => rfl
  | .object [], _ => rfl
  | .array (element :: elements), h =>
    obtain ⟨first, others, hfirst, hne⟩ :=
      exists_elementTokens_cons (List.cons_ne_nil element elements)
    have hread := readElements_tokens (element :: elements) fuel rest (List.cons_ne_nil _ _)
      (by simp only [tokens, List.length_cons, List.length_append] at h; omega)
    simp only [tokens, hfirst, List.cons_append, List.append_assoc, List.nil_append] at hread ⊢
    rw [readValue_openArray hne, hread]
    rfl
  | .object (member :: members), h =>
    obtain ⟨key, others, hkey⟩ := exists_memberTokens_cons (List.cons_ne_nil member members)
    have hread := readMembers_tokens (member :: members) fuel rest (List.cons_ne_nil _ _)
      (by simp only [tokens, List.length_cons, List.length_append] at h; omega)
    simp only [tokens, hkey, List.cons_append, List.append_assoc, List.nil_append] at hread ⊢
    rw [readValue_openObject, hread]
    rfl

theorem readElements_tokens (elements : List JsonValue) (fuel : Nat) (rest : List JsonToken)
    (hne : elements ≠ []) (h : 2 * (elementTokens elements).length ≤ fuel) :
    readElements fuel (elementTokens elements ++ .closeArray :: rest) = some (elements, rest) := by
  match elements, hne, h with
  | [element], _, h =>
    obtain ⟨first, others, hfirst, -⟩ := exists_tokens_cons element
    obtain ⟨fuel, rfl⟩ : ∃ n, fuel = n + 1 := by
      rw [elementTokens, hfirst, List.length_cons] at h
      exact ⟨fuel - 1, by omega⟩
    have hread := readValue_tokens element fuel (.closeArray :: rest) h
    simp [elementTokens, readElements, hread]
  | element :: next :: elements, _, h =>
    rw [elementTokens_cons (List.cons_ne_nil _ _), List.length_append, List.length_cons] at h
    obtain ⟨fuel, rfl⟩ : ∃ n, fuel = n + 1 := ⟨fuel - 1, by omega⟩
    have hread := readValue_tokens element fuel
      (.comma :: (elementTokens (next :: elements) ++ .closeArray :: rest)) (by omega)
    have hmore := readElements_tokens (next :: elements) fuel rest (List.cons_ne_nil _ _) (by omega)
    rw [elementTokens_cons (List.cons_ne_nil _ _), List.append_assoc, List.cons_append]
    simp [readElements, hread, hmore]

theorem readMembers_tokens (members : List (List JsonUnit × JsonValue)) (fuel : Nat)
    (rest : List JsonToken) (hne : members ≠ []) (h : 2 * (memberTokens members).length ≤ fuel) :
    readMembers fuel (memberTokens members ++ .closeObject :: rest) = some (members, rest) := by
  match members, hne, h with
  | [(key, value)], _, h =>
    simp only [memberTokens, List.length_cons] at h
    obtain ⟨fuel, rfl⟩ : ∃ n, fuel = n + 1 := ⟨fuel - 1, by omega⟩
    have hread := readValue_tokens value fuel (.closeObject :: rest) (by omega)
    simp [memberTokens, readMembers, hread]
  | (key, value) :: next :: members, _, h =>
    rw [memberTokens_cons (List.cons_ne_nil _ _)] at h ⊢
    simp only [List.length_cons, List.length_append] at h
    obtain ⟨fuel, rfl⟩ : ∃ n, fuel = n + 1 := ⟨fuel - 1, by omega⟩
    have hread := readValue_tokens value fuel
      (.comma :: (memberTokens (next :: members) ++ .closeObject :: rest)) (by omega)
    have hmore := readMembers_tokens (next :: members) fuel rest (List.cons_ne_nil _ _) (by omega)
    simp [readMembers, hread, hmore]

end

theorem ofTokens?_tokens (value : JsonValue) : ofTokens? value.tokens = some value := by
  have hread := readValue_tokens value (2 * value.tokens.length + 1) [] (by omega)
  rw [List.append_nil] at hread
  rw [ofTokens?, hread]

/-- A text of a value denotes that value, with any blanks on either side. -/
theorem HasText.parse?_eq {value : JsonValue} {s before after : List Char} (h : HasText value s)
    (hbefore : IsGap before) (hafter : IsGap after) :
    parse? (before ++ (s ++ after)) = some value := by
  rw [parse?, h.lex_eq hbefore hafter, Option.bind_some, ofTokens?_tokens]

end JsonValue

/-! ## The written text -/

namespace JsonUnit

/-- A piece that a text can have: a code unit has no more than 16 bits. -/
def IsProper : JsonUnit → Prop
  | char _ => True
  | escaped unit => unit < 0x10000

/-- What a piece is read as when it was written. Control characters without a short escape are
    written as their code units. -/
def written : JsonUnit → JsonUnit
  | char c =>
    if c.toNat < 0x20 ∧ c ∉ ['\x08', '\x0c', '\n', '\r', '\t'] then escaped c.toNat else char c
  | escaped unit => escaped unit

theorem hasText_renderEscaped {unit : Nat} (h : unit < 0x10000) :
    HasText (escaped unit) (renderEscaped unit) := by
  have hvalue : ((unit / 4096 % 16 * 16 + unit / 256 % 16) * 16 + unit / 16 % 16) * 16 + unit % 16 =
      unit := by omega
  have hdigits := HasText.digits (hexValue?_digitChar (Nat.mod_lt (unit / 4096) (by decide)))
    (hexValue?_digitChar (Nat.mod_lt (unit / 256) (by decide)))
    (hexValue?_digitChar (Nat.mod_lt (unit / 16) (by decide)))
    (hexValue?_digitChar (Nat.mod_lt unit (by decide)))
  rwa [hvalue] at hdigits

theorem hasText_renderChar (c : Char) : HasText (written (char c)) (renderChar c) := by
  unfold renderChar
  split
  · next h => rcases h with rfl | rfl <;> exact .short (by decide)
  split
  · next h => exact h ▸ .short (by decide)
  split
  · next h => exact h ▸ .short (by decide)
  split
  · next h => exact h ▸ .short (by decide)
  split
  · next h => exact h ▸ .short (by decide)
  split
  · next h => exact h ▸ .short (by decide)
  split
  · next hback hform hline hreturn htab h =>
    rw [written, if_pos (by simp [*])]
    exact hasText_renderEscaped (by omega)
  · next hsign hback hform hline hreturn htab h =>
    rw [written, if_neg fun hc => h hc.1]
    exact .plain (fun hc => hsign (Or.inl hc)) (fun hc => hsign (Or.inr hc)) (by omega)

theorem hasText_render {unit : JsonUnit} (h : unit.IsProper) :
    HasText unit.written unit.render := by
  cases unit with
  | char c => exact hasText_renderChar c
  | escaped unit => exact hasText_renderEscaped h

theorem stringHasText_render {units : List JsonUnit} (h : ∀ unit ∈ units, unit.IsProper) :
    StringHasText (units.map written) (renderString units) := by
  refine .mk ?_
  induction units with
  | nil => exact .nil
  | cons unit units ih =>
    rw [List.map_cons, List.flatMap_cons]
    exact .cons (hasText_render (h unit List.mem_cons_self))
      (ih fun other hother => h other (List.mem_cons_of_mem _ hother))

/-- A code unit that is no half of a character is one. -/
theorem text?_escaped {unit : Nat} (hlow : isLow unit = false) (hhigh : isHigh unit = false)
    (rest : List JsonUnit) :
    text? (escaped unit :: rest) = (text? rest).map (Char.ofNat unit :: ·) := by
  cases rest with
  | nil => simp [text?, hlow, hhigh]
  | cons next rest => cases next <;> simp [text?, hlow, hhigh]

/-- The text of a string is read as it was written. -/
theorem text?_map_written (s : List Char) : text? ((ofText s).map written) = some s := by
  induction s with
  | nil => rfl
  | cons c s ih =>
    simp only [ofText, List.map_cons] at ih ⊢
    by_cases hc : c.toNat < 0x20 ∧ c ∉ ['\x08', '\x0c', '\n', '\r', '\t']
    · have hlow : isLow c.toNat = false := by
        simp [isLow]
        omega
      have hhigh : isHigh c.toNat = false := by
        simp [isHigh]
        omega
      rw [written, if_pos hc, text?_escaped hlow hhigh, ih, Char.ofNat_toNat]
      rfl
    · rw [written, if_neg hc, text?, ih]
      rfl

end JsonUnit

namespace JsonValue

mutual

/-- A value that a text can have: its numbers are literals, and so on for its parts. -/
def IsProper : JsonValue → Prop
  | null => True
  | bool _ => True
  | number literal => JsonToken.IsNumber literal
  | string units => ∀ unit ∈ units, unit.IsProper
  | array elements => ElementsAreProper elements
  | object members => MembersAreProper members

def ElementsAreProper : List JsonValue → Prop
  | [] => True
  | element :: rest => element.IsProper ∧ ElementsAreProper rest

def MembersAreProper : List (List JsonUnit × JsonValue) → Prop
  | [] => True
  | (key, value) :: rest => (∀ unit ∈ key, unit.IsProper) ∧ value.IsProper ∧ MembersAreProper rest

end

mutual

/-- What a value is read as when it was written. -/
def written : JsonValue → JsonValue
  | null => null
  | bool value => bool value
  | number literal => number literal
  | string units => string (units.map JsonUnit.written)
  | array elements => array (writtenElements elements)
  | object members => object (writtenMembers members)

def writtenElements : List JsonValue → List JsonValue
  | [] => []
  | element :: rest => written element :: writtenElements rest

def writtenMembers : List (List JsonUnit × JsonValue) → List (List JsonUnit × JsonValue)
  | [] => []
  | (key, value) :: rest => (key.map JsonUnit.written, written value) :: writtenMembers rest

end

theorem isGap_nil : IsGap [] := by
  intro c hc
  cases hc

mutual

/-- The written text of a value is one of its texts. -/
theorem hasText_render (value : JsonValue) (h : value.IsProper) :
    HasText value.written value.render := by
  match value, h with
  | .null, _ => exact .null
  | .bool true, _ => exact .true
  | .bool false, _ => exact .false
  | .number _, h => exact .number h
  | .string _, h => exact .string (JsonUnit.stringHasText_render h)
  | .array [], _ => exact .emptyArray isGap_nil
  | .object [], _ => exact .emptyObject isGap_nil
  | .array (element :: elements), h =>
    exact .array (elementsHaveText_render (element :: elements) (List.cons_ne_nil _ _) h)
  | .object (member :: members), h =>
    exact .object (membersHaveText_render (member :: members) (List.cons_ne_nil _ _) h)

theorem elementsHaveText_render (elements : List JsonValue) (hne : elements ≠ [])
    (h : ElementsAreProper elements) :
    ElementsHaveText (writtenElements elements) (renderElements elements) := by
  match elements, hne, h with
  | [element], _, h =>
    have hone := ElementsHaveText.one isGap_nil (hasText_render element h.1) isGap_nil
    simpa [writtenElements, renderElements] using hone
  | element :: next :: elements, _, h =>
    have hmore := ElementsHaveText.more isGap_nil (hasText_render element h.1) isGap_nil
      (elementsHaveText_render (next :: elements) (List.cons_ne_nil _ _) h.2)
    simpa [writtenElements, renderElements] using hmore

theorem membersHaveText_render (members : List (List JsonUnit × JsonValue)) (hne : members ≠ [])
    (h : MembersAreProper members) :
    MembersHaveText (writtenMembers members) (renderMembers members) := by
  match members, hne, h with
  | [(key, value)], _, h =>
    have hone := MembersHaveText.one isGap_nil (JsonUnit.stringHasText_render h.1) isGap_nil
      isGap_nil (hasText_render value h.2.1) isGap_nil
    simpa [writtenMembers, renderMembers] using hone
  | (key, value) :: next :: members, _, h =>
    have hmore := MembersHaveText.more isGap_nil (JsonUnit.stringHasText_render h.1) isGap_nil
      isGap_nil (hasText_render value h.2.1) isGap_nil
      (membersHaveText_render (next :: members) (List.cons_ne_nil _ _) h.2.2)
    simpa [writtenMembers, renderMembers] using hmore

end

end JsonValue

/-- A number is written as the literal of a number. -/
theorem JsonToken.isNumber_decimal (n : Nat) : IsNumber (decimal n) := by
  have hdigits : IsDigits (decimal n) := ⟨decimal_ne_nil n, fun c hc => isDigit_of_mem_decimal hc⟩
  have hinteger : IsInteger (decimal n) := by
    by_cases hn : n = 0
    · subst hn
      exact .zero
    · exact .digits hdigits (head?_decimal_ne (Nat.pos_of_ne_zero hn))
  simpa using IsNumber.mk (Or.inl rfl) hinteger .none .none

end KnxGateway
