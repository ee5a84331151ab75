import Tint.Proofs.Reserved
import Tint.Structured

/-!
# A plain scanner for keys and values

What the tokenizer should give, said without placeholders and without passes.  A scan from left to
right cuts a text into literals and the gaps between them.  A literal is classed by what comes
behind it, and each gap is scanned for numbers, constants and punctuation as a text of its own.

A character that is left plain stands for a token that `shown` gives, which is the character itself
for the scanner proper.
-/

namespace Tint.Structured

open Tint.Regex Tint.Unicode

/-! ## Literals -/

/-- What may stand between the quotes of a literal. -/
inductive Units : List Char → Prop where
  | nil : Units []
  | plain {c : Char} {units : List Char} (notQuote : c ≠ '"') (notBackslash : c ≠ '\\')
      (rest : Units units) : Units (c :: units)
  | escaped {c : Char} {units : List Char} (notFeed : c ≠ '\n') (rest : Units units) :
      Units ('\\' :: c :: units)

/-- The number of characters up to the quote that closes a literal, the quote counted; `none` if no
quote does. -/
def closing? : List Char → Option Nat
  | [] => none
  | c :: rest =>
      if c = '"' then some 1
      else if c = '\\' then
        match rest with
        | [] => none
        | escaped :: rest => if escaped = '\n' then none else (closing? rest).map (· + 2)
      else (closing? rest).map (· + 1)

theorem closing?_quote (rest : List Char) : closing? ('"' :: rest) = some 1 := by
  cases rest <;> rfl

theorem closing?_plain {c : Char} (notQuote : c ≠ '"') (notBackslash : c ≠ '\\')
    (rest : List Char) : closing? (c :: rest) = (closing? rest).map (· + 1) := by
  cases rest <;> simp [closing?, notQuote, notBackslash]

theorem closing?_escaped (c : Char) (rest : List Char) :
    closing? ('\\' :: c :: rest) =
      if c = '\n' then none else (closing? rest).map (· + 2) := by
  rw [closing?, if_neg (by decide), if_pos rfl]

/-- A quote closes a literal if and only if there are units in front of it. -/
theorem closing?_eq_some_iff {text : List Char} {length : Nat} :
    closing? text = some length ↔
      ∃ units rest, Units units ∧ text = units ++ '"' :: rest ∧ length = units.length + 1 := by
  constructor
  · intro found
    fun_induction closing? text generalizing length with
    | case1 => cases found
    | case2 rest =>
        rw [Option.some_inj] at found
        exact ⟨[], rest, .nil, rfl, found.symm⟩
    | case3 => cases found
    | case4 => cases found
    | case5 escaped rest notFeed notQuote ih =>
        obtain ⟨inner, isInner, rfl⟩ := Option.map_eq_some_iff.mp found
        obtain ⟨units, after, isUnits, rfl, rfl⟩ := ih isInner
        exact ⟨'\\' :: escaped :: units, after, .escaped notFeed isUnits, rfl, rfl⟩
    | case6 c rest notQuote notBackslash ih =>
        obtain ⟨inner, isInner, rfl⟩ := Option.map_eq_some_iff.mp found
        obtain ⟨units, after, isUnits, rfl, rfl⟩ := ih isInner
        exact ⟨c :: units, after, .plain notQuote notBackslash isUnits, rfl, rfl⟩
  · rintro ⟨units, rest, isUnits, rfl, rfl⟩
    induction isUnits with
    | nil => exact closing?_quote rest
    | plain notQuote notBackslash _ ih =>
        rw [List.cons_append, closing?_plain notQuote notBackslash, ih]
        rfl
    | escaped notFeed _ ih =>
        rw [List.cons_append, List.cons_append, closing?_escaped, if_neg notFeed, ih]
        rfl

theorem take_units (units rest : List Char) :
    (units ++ '"' :: rest).take (units.length + 1) = units ++ ['"'] := by
  simp [List.take_append]

theorem drop_units (units rest : List Char) :
    (units ++ '"' :: rest).drop (units.length + 1) = rest := by
  simp [List.drop_append]

/-! ## Literals and gaps -/

/-- A text cut into literals, each with its class, and the gaps around them. -/
inductive Parts where
  | last (gap : List Char)
  | next (gap : List Char) (tokenClass : TokenClass) (literal : List Char) (rest : Parts)

namespace Parts

/-- Puts a character in front of the first gap. -/
def push (c : Char) : Parts → Parts
  | last gap => last (c :: gap)
  | next gap tokenClass literal rest => next (c :: gap) tokenClass literal rest

/-- The text of the parts. -/
def text : Parts → List Char
  | last gap => gap
  | next gap _ literal rest => gap ++ (literal ++ rest.text)

/-- The spans of the literals; `offset` counts the characters in front of the parts. -/
def literals (offset : Nat) : Parts → List (Span × TokenClass)
  | last _ => []
  | next gap tokenClass literal rest =>
      let start := offset + gap.length
      let stop := start + literal.length
      (⟨start, stop⟩, tokenClass) :: rest.literals stop

@[simp] theorem text_push (c : Char) (parts : Parts) : (parts.push c).text = c :: parts.text := by
  cases parts <;> rfl

@[simp] theorem literals_push (c : Char) (parts : Parts) (offset : Nat) :
    (parts.push c).literals offset = parts.literals (offset + 1) := by
  cases parts with
  | last gap => rfl
  | next gap tokenClass literal rest => simp [push, literals, Nat.add_comm, Nat.add_left_comm]

end Parts

/-- Cuts a text into literals and gaps.  A quote opens a literal if another one closes it; the scan
goes on behind the literal, or else with the next character. -/
def cut : List Char → Parts
  | [] => .last []
  | c :: rest =>
      match if c = '"' then closing? rest else none with
      | some length =>
          .next [] (if isKey (rest.drop length) then .property else .string)
            (c :: rest.take length) (cut (rest.drop length))
      | none => (cut rest).push c
termination_by text => text.length

theorem cut_literal {rest : List Char} {length : Nat} (closes : closing? rest = some length) :
    cut ('"' :: rest) = .next [] (if isKey (rest.drop length) then .property else .string)
      ('"' :: rest.take length) (cut (rest.drop length)) := by
  rw [cut, if_pos rfl, closes]

theorem cut_skip {c : Char} {rest : List Char} (opens : c = '"' → closing? rest = none) :
    cut (c :: rest) = (cut rest).push c := by
  have noLiteral : (if c = '"' then closing? rest else none) = none := by
    split
    · exact opens ‹_›
    · rfl
  rw [cut, noLiteral]

/-- A quote opens a literal if units and another quote come behind it. -/
theorem cut_units {units rest : List Char} (isUnits : Units units) :
    cut ('"' :: (units ++ '"' :: rest)) =
      .next [] (if isKey rest then .property else .string) ('"' :: (units ++ ['"']))
        (cut rest) := by
  have closes : closing? (units ++ '"' :: rest) = some (units.length + 1) :=
    closing?_eq_some_iff.mpr ⟨units, rest, isUnits, rfl, rfl⟩
  rw [cut_literal closes, take_units, drop_units]

/-- A quote opens no other literals. -/
theorem cut_skip_of_no_units {c : Char} {rest : List Char}
    (opens : c = '"' → ¬∃ units after, Units units ∧ rest = units ++ '"' :: after) :
    cut (c :: rest) = (cut rest).push c := by
  refine cut_skip fun isQuote => ?_
  rw [Option.eq_none_iff_forall_ne_some]
  intro length closes
  obtain ⟨units, after, isUnits, isRest, -⟩ := closing?_eq_some_iff.mp closes
  exact opens isQuote ⟨units, after, isUnits, isRest⟩

/-- To show something of all texts, it is enough to show it of a text that begins with a literal,
from what is behind the literal, and of one that does not, from what is behind the first character.
-/
theorem cut_induction {motive : List Char → Prop} (nil : motive [])
    (literal : ∀ rest length, closing? rest = some length → motive (rest.drop length) →
      motive ('"' :: rest))
    (skip : ∀ c rest, (c = '"' → closing? rest = none) → motive rest → motive (c :: rest))
    (text : List Char) : motive text := by
  induction text using cut.induct with
  | case1 => exact nil
  | case2 c rest length closes ih =>
      split at closes
      · subst c
        exact literal rest length closes ih
      · cases closes
  | case3 c rest noLiteral ih =>
      refine skip c rest (fun isQuote => ?_) ih
      rwa [dif_pos isQuote] at noLiteral

@[simp] theorem text_cut (text : List Char) : (cut text).text = text := by
  induction text using cut_induction with
  | nil => rw [cut, Parts.text]
  | literal rest length closes ih => simp [cut_literal closes, Parts.text, ih]
  | skip c rest opens ih => rw [cut_skip opens, Parts.text_push, ih]

/-- Literals begin and end with a quote and have one of the classes for literals. -/
def Parts.WellFormed : Parts → Prop
  | last _ => True
  | next _ tokenClass literal rest =>
      tokenClass ∈ [.property, .string] ∧ literal.head? = some '"' ∧ literal.getLast? = some '"' ∧
        rest.WellFormed

theorem Parts.WellFormed.push {parts : Parts} (wellFormed : parts.WellFormed) (c : Char) :
    (parts.push c).WellFormed := by
  cases parts with
  | last gap => trivial
  | next gap tokenClass literal rest => exact wellFormed

theorem wellFormed_cut (text : List Char) : (cut text).WellFormed := by
  induction text using cut_induction with
  | nil =>
      rw [cut]
      trivial
  | literal rest length closes ih =>
      obtain ⟨units, after, -, rfl, rfl⟩ := closing?_eq_some_iff.mp closes
      rw [cut_literal closes, take_units]
      refine ⟨?_, rfl, ?_, ih⟩
      · split <;> simp
      · rw [← List.cons_append, List.getLast?_append]
        rfl
  | skip c rest opens ih =>
      rw [cut_skip opens]
      exact ih.push c

/-! ## Tokens -/

/-- The runs of ordinary characters of a text, as long as they can be, and each of its reserved
characters by itself. -/
def runs (text : List Char) : List (List Char) :=
  text.splitBy fun c d => !isReserved c && !isReserved d

section

variable (shown : Char → Token)

/-- The tokens of a literal: its runs of ordinary characters.  If there are reserved characters in
it, blanks alone stay plain. -/
def literalTokens (tokenClass : TokenClass) (literal : List Char) : List Token :=
  (runs literal).flatMap fun run =>
    if run.any isReserved || (literal.any isReserved && run.all isSpace) then run.map shown
    else [.classified tokenClass (String.ofList run)]

/-- The tokens of a text in which some spans are classified.  `offset` counts the characters in
front of the text. -/
def spanTokens (offset : Nat) (text : List Char) : List (Span × TokenClass) → List Token
  | [] => text.map shown
  | (span, tokenClass) :: spans =>
      let (before, text) := text.splitAt (span.start - offset)
      let (found, text) := text.splitAt (span.stop - span.start)
      before.map shown ++
        .classified tokenClass (String.ofList found) :: spanTokens span.stop text spans

/-- The tokens of a gap, which is scanned on its own. -/
def gapTokens (gap : List Char) : List Token :=
  spanTokens shown 0 gap (scalarSpans gap)

/-- The tokens of all parts. -/
def Parts.tokens : Parts → List Token
  | last gap => gapTokens shown gap
  | next gap tokenClass literal rest =>
      gapTokens shown gap ++ (literalTokens shown tokenClass literal ++ rest.tokens)

end

/-- The tokens that a plain scan of a text gives. -/
def scanned (text : String) : List Token :=
  Token.join ((cut text.toList).tokens .single)

/-! ## The tokens are the text -/

@[simp] theorem chars_literalTokens (tokenClass : TokenClass) (literal : List Char) :
    Token.chars (literalTokens .single tokenClass literal) = literal := by
  have each (runs : List (List Char)) :
      Token.chars (runs.flatMap fun run =>
        if run.any isReserved || (literal.any isReserved && run.all isSpace) then
          run.map Token.single
        else [.classified tokenClass (String.ofList run)]) = runs.flatten := by
    induction runs with
    | nil => rfl
    | cons run runs ih =>
        rw [List.flatMap_cons, Token.chars_append, ih, List.flatten_cons]
        split
        · rw [Token.chars_map_single]
        · simp [Token.classified]
  rw [literalTokens, each, runs, List.flatten_splitBy]

@[simp] theorem chars_spanTokens (offset : Nat) (text : List Char)
    (spans : List (Span × TokenClass)) :
    Token.chars (spanTokens .single offset text spans) = text := by
  induction spans generalizing offset text with
  | nil => exact Token.chars_map_single text
  | cons entry spans ih =>
      simp only [spanTokens, List.splitAt_eq, Token.chars_append, Token.chars_cons,
        Token.chars_map_single, Token.classified, String.toList_ofList, ih, List.take_append_drop]

@[simp] theorem chars_gapTokens (gap : List Char) :
    Token.chars (gapTokens .single gap) = gap :=
  chars_spanTokens 0 gap _

@[simp] theorem Parts.chars_tokens (parts : Parts) :
    Token.chars (parts.tokens .single) = parts.text := by
  induction parts with
  | last gap => simp [tokens, text]
  | next gap tokenClass literal rest ih => simp [tokens, text, ih]

theorem chars_scanned (text : String) : Token.chars (scanned text) = text.toList := by
  simp [scanned, Token.join]

end Tint.Structured
