import Tint.Proofs.Json.Lexical
import Tint.Proofs.Unicode.Blank

/-!
# The patterns on lexical tokens

Each pattern takes the lexical tokens that it is for, and takes them whole, if their neighbours are
as they should be.  Every loop in a pattern is followed by something that its body refuses, so that
what it takes first is never taken back.
-/

namespace Tint.Json

open Tint.Regex Tint.Structured Tint.Unicode

variable {before : Option Char} {rest : List Char}

/-! ## Strings -/

/-- What one round of the loop in a literal takes. -/
def literalUnit : Ways :=
  (Ways.one (.compl (.ofList ['"', '\\']))).orElse
    ((Ways.one (.single '\\')).andThen (.one (.compl (.single '\n'))))

theorem contains_plain (c : Char) :
    (CharSet.compl (.ofList ['"', '\\'])).contains c = !(c == '"' || c == '\\') := by
  simp [CharSet.contains, CharSet.ofList]

/-- A character other than the quote and the backslash is taken by itself. -/
theorem literalUnit_plain {c : Char} {more : List Char} (notQuote : c ≠ '"')
    (notBackslash : c ≠ '\\') (again : (literalUnit.rounds true).Prefers (some c) more rest) :
    (literalUnit.rounds true).Prefers before (c :: more) rest := by
  have holds : (CharSet.compl (.ofList ['"', '\\'])).contains c := by
    simp [contains_plain, notQuote, notBackslash]
  have taken : literalUnit.Prefers before [c] (more ++ rest) := (Ways.prefers_one holds).orElse
  exact taken.rounds (by simp) again

/-- A backslash takes the character behind it. -/
theorem literalUnit_escaped {c : Char} {more : List Char} (notFeed : c ≠ '\n')
    (again : (literalUnit.rounds true).Prefers (some c) more rest) :
    (literalUnit.rounds true).Prefers before ('\\' :: c :: more) rest := by
  have notPlain : (Ways.one (.compl (.ofList ['"', '\\']))).Refuses before
      (['\\', c] ++ (more ++ rest)) := by
    apply Ways.refuses_one
    simp [contains_plain]
  have backslash : (Ways.one (.single '\\')).Prefers before ['\\'] ([c] ++ (more ++ rest)) :=
    Ways.prefers_one (by simp)
  have behind : (Ways.one (.compl (.single '\n'))).Prefers (some '\\') [c] (more ++ rest) :=
    Ways.prefers_one (by simpa [CharSet.contains] using notFeed)
  have taken : literalUnit.Prefers before ['\\', c] (more ++ rest) :=
    notPlain.orElse_prefers (backslash.andThen behind)
  exact taken.rounds (by simp) again

theorem literalUnit_isUnit {unit more : List Char} (isUnit : IsUnit unit)
    (again : ∀ before, (literalUnit.rounds true).Prefers before more rest) :
    (literalUnit.rounds true).Prefers before (unit ++ more) rest := by
  cases isUnit with
  | unescaped notControl notQuote notBackslash =>
      exact literalUnit_plain notQuote notBackslash (again _)
  | @escaped c known =>
      have notFeed : c ≠ '\n' := by
        rintro rfl
        simp at known
      exact literalUnit_escaped notFeed (again _)
  | @unicode first second third fourth hex =>
      have notSpecial (c : Char) (isHex : (hexDigit? c).isSome) : c ≠ '"' ∧ c ≠ '\\' := by
        constructor <;> rintro rfl <;> exact absurd isHex (by decide)
      have isFirst := notSpecial first (hex first (by simp))
      have isSecond := notSpecial second (hex second (by simp))
      have isThird := notSpecial third (hex third (by simp))
      have isFourth := notSpecial fourth (hex fourth (by simp))
      exact literalUnit_escaped (by decide)
        (literalUnit_plain isFirst.1 isFirst.2
          (literalUnit_plain isSecond.1 isSecond.2
            (literalUnit_plain isThird.1 isThird.2
              (literalUnit_plain isFourth.1 isFourth.2 (again _)))))

/-- The loop in a literal takes nothing in front of a quote. -/
theorem literalUnit_stops : (literalUnit.rounds true).Prefers before [] ('"' :: rest) := by
  apply Ways.Refuses.rounds
  apply Ways.Refuses.orElse
  · apply Ways.refuses_one
    simp [contains_plain]
  · apply Ways.Refuses.andThen
    apply Ways.refuses_one
    simp

/-- The loop in a literal takes all units and stops at the quote. -/
theorem literalUnit_isUnits {units : List Char} (isUnits : IsUnits units) :
    (literalUnit.rounds true).Prefers before units ('"' :: rest) := by
  induction isUnits generalizing before with
  | nil => exact literalUnit_stops
  | cons first isRest ih => exact literalUnit_isUnit first fun before => ih

/-- The pattern for literals takes two quotes and what the loop takes between them. -/
theorem quoted_prefers_of_units {units : List Char}
    (inner : (literalUnit.rounds true).Prefers (some '"') units ('"' :: rest)) :
    quoted.ways.Prefers before ('"' :: (units ++ ['"'])) rest := by
  have opening : (Ways.one (.single '"')).Prefers before ['"'] ((units ++ ['"']) ++ rest) :=
    Ways.prefers_one (by simp)
  have closing : (Ways.one (.single '"')).Prefers (lastOf (some '"') units) ['"'] rest :=
    Ways.prefers_one (by simp)
  have between : (literalUnit.rounds true).Prefers (some '"') units (['"'] ++ rest) := inner
  exact opening.andThen (between.andThen closing)

/-- The pattern for literals takes a string whole. -/
theorem quoted_prefers {text : List Char} (isString : IsString text) :
    quoted.ways.Prefers before text rest := by
  cases isString with
  | quoted isUnits => exact quoted_prefers_of_units (literalUnit_isUnits isUnits)

/-! ## Characters that tokens end at -/

/-- A character that no word runs into is no part of a word. -/
theorem holds_of_isApart {neighbour : Option Char} (apart : IsApart neighbour) :
    WordKind.unicode.holds neighbour = false := by
  cases neighbour with
  | none => rfl
  | some c =>
      have known := apart c rfl
      simp only [blanks, marks, List.cons_append, List.nil_append, List.mem_cons,
        List.not_mem_nil, or_false] at known
      rcases known with rfl | rfl | rfl | rfl | rfl | rfl | rfl | rfl | rfl | rfl <;> rfl

/-- What may come behind the digits of a number, in the number or behind it. -/
def digitEnds : List Char :=
  ['.', 'e', 'E'] ++ (blanks ++ marks)

theorem isDigit_of_mem_digitEnds {c : Char} (isEnd : c ∈ digitEnds) : isDigit c = false := by
  simp only [digitEnds, blanks, marks, List.cons_append, List.nil_append, List.mem_cons,
    List.not_mem_nil, or_false] at isEnd
  rcases isEnd with rfl | rfl | rfl | rfl | rfl | rfl | rfl | rfl | rfl | rfl | rfl | rfl | rfl <;>
    rfl

/-! ## Numbers -/

/-- A digit comes last. -/
def EndsInDigit (last : Option Char) : Prop :=
  ∃ digit, last = some digit ∧ isAsciiDigit digit

theorem IsDigits.endsInDigit {digits : List Char} (isDigits : IsDigits digits) :
    EndsInDigit (lastOf before digits) := by
  refine ⟨digits.getLast isDigits.nonempty, ?_, isDigits.all _ (List.getLast_mem _)⟩
  simp [lastOf, List.getLast?_eq_some_getLast isDigits.nonempty]

theorem IsInteger.isDigits {integer : List Char} (isInteger : IsInteger integer) :
    IsDigits integer := by
  cases isInteger with
  | zero =>
      refine ⟨by simp, ?_⟩
      intro c member
      rw [List.mem_singleton.mp member]
      rfl
  | positive digit notZero rest =>
      refine ⟨by simp, ?_⟩
      intro c member
      rcases List.mem_cons.mp member with rfl | later
      · exact digit
      · exact rest c later

theorem IsFraction.endsInDigit {fraction : List Char} (isFraction : IsFraction fraction)
    (ends : EndsInDigit before) : EndsInDigit (lastOf before fraction) := by
  cases isFraction with
  | none => exact ends
  | some isDigits =>
      rw [lastOf_cons]
      exact isDigits.endsInDigit

theorem IsExponent.endsInDigit {exponent : List Char} (isExponent : IsExponent exponent)
    (ends : EndsInDigit before) : EndsInDigit (lastOf before exponent) := by
  cases isExponent with
  | none => exact ends
  | some isLetter isSign isDigits =>
      rw [lastOf_cons, lastOf_append]
      exact isDigits.endsInDigit

/-- The pattern for digits takes all of them. -/
theorem digits_prefers {digits : List Char} (isDigits : IsDigits digits)
    (ends : ∀ c ∈ rest.head?, c ∈ digitEnds) :
    (Pattern.many1 (.set .digit)).ways.Prefers before digits rest := by
  apply Ways.prefers_many1_set isDigits.nonempty
  · intro c member
    exact isDigit_of_isAsciiDigit (isDigits.all c member)
  · intro c isHead
    exact isDigit_of_mem_digitEnds (ends c isHead)

theorem isAsciiDigit_of_head? {digits : List Char} (isDigits : IsDigits digits) :
    ∀ c ∈ (digits ++ rest).head?, isAsciiDigit c := by
  intro c isHead
  cases digits with
  | nil => exact absurd rfl isDigits.nonempty
  | cons first digits =>
      rw [List.cons_append, List.head?_cons, Option.mem_some_iff] at isHead
      exact isHead ▸ isDigits.all first (by simp)

/-- An optional sign is taken if it is there. -/
theorem sign_prefers {set : CharSet} {sign digits : List Char}
    (isSign : sign = [] ∨ ∃ c, sign = [c] ∧ set.contains c) (isDigits : IsDigits digits)
    (noDigits : ∀ c, isAsciiDigit c → set.contains c = false) :
    (Pattern.set set).optional.ways.Prefers before sign (digits ++ rest) := by
  rw [Pattern.ways_optional]
  rcases isSign with rfl | ⟨c, rfl, holds⟩
  · apply Ways.Refuses.optional
    apply Ways.refuses_one
    intro c isHead
    exact noDigits c (isAsciiDigit_of_head? isDigits c isHead)
  · exact Ways.Prefers.optional (Ways.prefers_one holds)

theorem minus_prefers {sign digits : List Char} (isSign : sign ∈ [[], ['-']])
    (isDigits : IsDigits digits) :
    (Pattern.char '-').optional.ways.Prefers before sign (digits ++ rest) := by
  apply sign_prefers _ isDigits
  · intro c isDigit
    have notMinus : c ≠ '-' := by
      rintro rfl
      exact absurd isDigit (by decide)
    simpa using notMinus
  · simp only [List.mem_cons, List.not_mem_nil, or_false] at isSign
    rcases isSign with rfl | rfl
    · exact .inl rfl
    · exact .inr ⟨'-', rfl, by decide⟩

theorem plusOrMinus_prefers {sign digits : List Char} (isSign : sign ∈ [[], ['+'], ['-']])
    (isDigits : IsDigits digits) :
    (Pattern.oneOf ['+', '-']).optional.ways.Prefers before sign (digits ++ rest) := by
  apply sign_prefers _ isDigits
  · intro c isDigit
    have noSign : ¬(c = '+' ∨ c = '-') := by
      rintro (rfl | rfl) <;> exact absurd isDigit (by decide)
    simpa [CharSet.ofList, CharSet.contains] using noSign
  · simp only [List.mem_cons, List.not_mem_nil, or_false] at isSign
    rcases isSign with rfl | rfl | rfl
    · exact .inl rfl
    · exact .inr ⟨'+', rfl, by decide⟩
    · exact .inr ⟨'-', rfl, by decide⟩

/-- The pattern for a fraction. -/
def fractionPattern : Pattern :=
  .concat (.char '.') (.many1 (.set .digit))

/-- The pattern for an exponent. -/
def exponentPattern : Pattern :=
  .sequence [.oneOf ['e', 'E'], .optional (.oneOf ['+', '-']), .many1 (.set .digit)]

theorem fraction_prefers {fraction : List Char} (isFraction : IsFraction fraction)
    (ends : ∀ c ∈ rest.head?, c ∈ ['e', 'E'] ++ (blanks ++ marks)) :
    fractionPattern.optional.ways.Prefers before fraction rest := by
  rw [Pattern.ways_optional]
  cases isFraction with
  | none =>
      apply Ways.Refuses.optional
      apply Pattern.refuses rfl
      intro c isHead
      have isEnd := ends c isHead
      have notPoint : c ≠ '.' := by
        rintro rfl
        simp [blanks, marks] at isEnd
      simpa [fractionPattern, Pattern.begins, Pattern.char, Pattern.nullable] using notPoint
  | @some digits isDigits =>
      have point : (Pattern.char '.').ways.Prefers before ['.'] (digits ++ rest) :=
        Ways.prefers_one (by simp)
      have taken : (Pattern.many1 (.set .digit)).ways.Prefers (some '.') digits rest :=
        digits_prefers isDigits fun c isHead => List.mem_cons_of_mem _ (ends c isHead)
      exact (point.andThen taken).optional

theorem exponent_prefers {exponent : List Char} (isExponent : IsExponent exponent)
    (ends : IsApart rest.head?) :
    exponentPattern.optional.ways.Prefers before exponent rest := by
  rw [Pattern.ways_optional]
  cases isExponent with
  | none =>
      apply Ways.Refuses.optional
      apply Pattern.refuses rfl
      intro c isHead
      have isEnd := ends c isHead
      have notLetter : ¬(c = 'e' ∨ c = 'E') := by
        rintro (rfl | rfl) <;> simp [blanks, marks] at isEnd
      simpa [exponentPattern, Pattern.sequence, Pattern.begins, Pattern.oneOf, Pattern.nullable,
        CharSet.ofList, CharSet.contains] using notLetter
  | @some letter sign digits isLetter isSign isDigits =>
      have letterTaken : (Pattern.oneOf ['e', 'E']).ways.Prefers before [letter]
          ((sign ++ digits) ++ rest) := by
        apply Ways.prefers_one
        simpa [CharSet.ofList, CharSet.contains] using isLetter
      have signTaken : (Pattern.oneOf ['+', '-']).optional.ways.Prefers (some letter) sign
          (digits ++ rest) :=
        plusOrMinus_prefers isSign isDigits
      have taken : (Pattern.many1 (.set .digit)).ways.Prefers
          (lastOf (some letter) sign) digits rest :=
        digits_prefers isDigits fun c isHead =>
          List.mem_append_right _ (ends c isHead)
      exact (letterTaken.andThen (signTaken.andThen taken)).optional

theorem IsExponent.ends {exponent : List Char} (isExponent : IsExponent exponent)
    (apart : IsApart rest.head?) :
    ∀ c ∈ (exponent ++ rest).head?, c ∈ ['e', 'E'] ++ (blanks ++ marks) := by
  intro c isHead
  cases isExponent with
  | none => exact List.mem_append_right _ (apart c isHead)
  | some isLetter isSign isDigits =>
      rw [List.cons_append, List.head?_cons, Option.mem_some_iff] at isHead
      exact List.mem_append_left _ (isHead ▸ isLetter)

theorem IsFraction.ends {fraction : List Char} (isFraction : IsFraction fraction)
    (ends : ∀ c ∈ rest.head?, c ∈ ['e', 'E'] ++ (blanks ++ marks)) :
    ∀ c ∈ (fraction ++ rest).head?, c ∈ digitEnds := by
  intro c isHead
  cases isFraction with
  | none => exact List.mem_cons_of_mem _ (ends c isHead)
  | some isDigits =>
      rw [List.cons_append, List.head?_cons, Option.mem_some_iff] at isHead
      exact isHead ▸ List.mem_cons_self

theorem EndsInDigit.holds {last : Option Char} (ends : EndsInDigit last) :
    WordKind.unicode.holds last = true := by
  rcases ends with ⟨digit, rfl, isDigit⟩
  exact isWord_of_isAsciiDigit isDigit

theorem IsDigits.holds_head? {digits : List Char} (isDigits : IsDigits digits) :
    WordKind.unicode.holds (digits ++ rest).head? = true := by
  rcases List.exists_cons_of_ne_nil isDigits.nonempty with ⟨first, digits, rfl⟩
  exact isWord_of_isAsciiDigit (isDigits.all first (by simp))

/-- There is a boundary between a word and what is no part of it. -/
theorem boundary_prefers
    (differ : WordKind.unicode.holds before = !WordKind.unicode.holds rest.head?) :
    (Pattern.look (.boundary .unicode)).ways.Prefers before [] rest := by
  apply Ways.prefers_look
  simp only [Look.holds, differ, bne_iff_ne, ne_eq, Bool.not_eq_eq_eq_not]
  cases WordKind.unicode.holds rest.head? <;> decide

theorem boundary_prefers_digits {digits : List Char}
    (outside : WordKind.unicode.holds before = false) (isDigits : IsDigits digits) :
    (Pattern.look (.boundary .unicode)).ways.Prefers before [] (digits ++ rest) := by
  apply boundary_prefers
  rw [outside, isDigits.holds_head?]
  rfl

theorem EndsInDigit.boundary_prefers (ends : EndsInDigit before) (apart : IsApart rest.head?) :
    (Pattern.look (.boundary .unicode)).ways.Prefers before [] rest := by
  apply Json.boundary_prefers
  rw [ends.holds, holds_of_isApart apart]
  rfl

/-- A minus is no part of a word. -/
theorem holds_lastOf_minus {sign : List Char} (isSign : sign ∈ [[], ['-']])
    (outside : WordKind.unicode.holds before = false) :
    WordKind.unicode.holds (lastOf before sign) = false := by
  simp only [List.mem_cons, List.not_mem_nil, or_false] at isSign
  rcases isSign with rfl | rfl
  · exact outside
  · rfl

/-- The pattern for numbers takes a number whole. -/
theorem number_prefers {text : List Char} (isNumber : IsNumber text)
    (outside : WordKind.unicode.holds before = false) (apart : IsApart rest.head?) :
    number.ways.Prefers before text rest := by
  cases isNumber with
  | @mk sign integer fraction exponent isSign isInteger isFraction isExponent =>
      have isDigits := isInteger.isDigits
      have integerEnds : EndsInDigit (lastOf (lastOf before sign) integer) := isDigits.endsInDigit
      have endsInDigit := isExponent.endsInDigit (isFraction.endsInDigit integerEnds)
      have signTaken : (Pattern.char '-').optional.ways.Prefers before sign
          ((integer ++ (fraction ++ exponent)) ++ rest) := by
        rw [List.append_assoc]
        exact minus_prefers isSign isDigits
      have boundaryBefore : (Pattern.look (.boundary .unicode)).ways.Prefers (lastOf before sign) []
          ((integer ++ (fraction ++ exponent)) ++ rest) := by
        rw [List.append_assoc]
        exact boundary_prefers_digits (holds_lastOf_minus isSign outside) isDigits
      have integerTaken : (Pattern.many1 (.set .digit)).ways.Prefers (lastOf before sign) integer
          ((fraction ++ exponent) ++ rest) := by
        rw [List.append_assoc]
        exact digits_prefers isDigits (isFraction.ends (isExponent.ends apart))
      have fractionTaken : fractionPattern.optional.ways.Prefers
          (lastOf (lastOf before sign) integer) fraction (exponent ++ rest) :=
        fraction_prefers isFraction (isExponent.ends apart)
      have exponentTaken : exponentPattern.optional.ways.Prefers
          (lastOf (lastOf (lastOf before sign) integer) fraction) exponent rest :=
        exponent_prefers isExponent apart
      have behindFraction := exponentTaken.andThen (endsInDigit.boundary_prefers apart)
      rw [List.append_nil] at behindFraction
      exact signTaken.andThen (boundaryBefore.andThen
        (integerTaken.andThen (fractionTaken.andThen behindFraction)))

/-! ## Constants -/

/-- The pattern for a row of characters takes them one by one. -/
theorem sequence_char_prefers (chars : List Char) :
    (Pattern.sequence (chars.map .char)).ways.Prefers before chars rest := by
  induction chars generalizing before with
  | nil => exact Ways.prefers_stay
  | cons c chars ih =>
      cases chars with
      | nil => exact Ways.prefers_one (by simp)
      | cons other chars =>
          have first : (Pattern.char c).ways.Prefers before [c] ((other :: chars) ++ rest) :=
            Ways.prefers_one (by simp)
          exact first.andThen ih

theorem word_prefers (name : String) :
    (Pattern.word name).ways.Prefers before name.toList rest :=
  sequence_char_prefers name.toList

/-- The pattern for a word refuses what begins with another character. -/
theorem word_refuses {name : String} {first : Char} {others text : List Char}
    (spelled : name.toList = first :: others) (other : ∀ c ∈ text.head?, c ≠ first) :
    (Pattern.word name).ways.Refuses before text := by
  have firstRefuses : (Pattern.char first).ways.Refuses before text := by
    apply Ways.refuses_one
    intro c isHead
    simpa using other c isHead
  rw [Pattern.word, spelled]
  cases others with
  | nil => exact firstRefuses
  | cons second others => exact firstRefuses.andThen

/-- The choice between the constants. -/
def anyConstant : Pattern :=
  .firstOf [.word "true", .word "false", .word "null"]

theorem anyConstant_prefers {name : String} (known : name ∈ ["true", "false", "null"]) :
    anyConstant.ways.Prefers before name.toList rest := by
  have trueSpelled : "true".toList = 't' :: ['r', 'u', 'e'] := rfl
  have falseSpelled : "false".toList = 'f' :: ['a', 'l', 's', 'e'] := rfl
  simp only [List.mem_cons, List.not_mem_nil, or_false] at known
  rcases known with rfl | rfl | rfl
  · exact (word_prefers "true").orElse
  · have notTrue : (Pattern.word "true").ways.Refuses before ("false".toList ++ rest) :=
      word_refuses trueSpelled (by simp)
    exact notTrue.orElse_prefers (word_prefers "false").orElse
  · have notTrue : (Pattern.word "true").ways.Refuses before ("null".toList ++ rest) :=
      word_refuses trueSpelled (by simp)
    have notFalse : (Pattern.word "false").ways.Refuses before ("null".toList ++ rest) :=
      word_refuses falseSpelled (by simp)
    exact notTrue.orElse_prefers (notFalse.orElse_prefers (word_prefers "null"))

/-- The pattern for constants takes a constant whole. -/
theorem constant_prefers {name : String} (known : name ∈ ["true", "false", "null"])
    (outside : WordKind.unicode.holds before = false) (apart : IsApart rest.head?) :
    constant.ways.Prefers before name.toList rest := by
  have inside : WordKind.unicode.holds (name.toList ++ rest).head? = true ∧
      WordKind.unicode.holds (lastOf before name.toList) = true := by
    simp only [List.mem_cons, List.not_mem_nil, or_false] at known
    rcases known with rfl | rfl | rfl <;> exact ⟨rfl, rfl⟩
  have boundaryBefore : (Pattern.look (.boundary .unicode)).ways.Prefers before []
      (name.toList ++ rest) := by
    apply boundary_prefers
    rw [outside, inside.1]
    rfl
  have boundaryAfter : (Pattern.look (.boundary .unicode)).ways.Prefers
      (lastOf before name.toList) [] rest := by
    apply boundary_prefers
    rw [inside.2, holds_of_isApart apart]
    rfl
  have taken := (anyConstant_prefers known).andThen boundaryAfter
  rw [List.append_nil] at taken
  exact boundaryBefore.andThen taken

/-! ## One scan for all but strings -/

/-- The characters that numbers begin with. -/
theorem number_begins (c : Char) : number.begins c = (c == '-' || isDigit c) := by
  simp [number, Pattern.sequence, Pattern.begins, Pattern.optional, Pattern.many1, Pattern.char,
    Pattern.nullable, CharSet.contains]

theorem constant_begins (c : Char) :
    constant.begins c = (c == 't' || (c == 'f' || c == 'n')) := by
  simp [constant, Pattern.sequence, Pattern.begins, Pattern.firstOf, Pattern.word, Pattern.char,
    Pattern.nullable]

theorem punctuation_begins (c : Char) : punctuation.begins c = marks.contains c := by
  rw [Bool.eq_iff_iff]
  simp [punctuation, Pattern.begins, Pattern.oneOf, marks, CharSet.ofList, CharSet.contains]

theorem scalar_begins (c : Char) :
    scalar.begins c = (number.begins c || (constant.begins c || punctuation.begins c)) := by
  simp [scalar, Pattern.begins, Pattern.firstOf]

/-- The scan takes a text whole, through the group with this number. -/
def ScalarTakes (index : Nat) (before : Option Char) (taken rest : List Char) : Prop :=
  ∀ offset, (scalar.ways ⟨before, taken ++ rest, offset⟩).head? =
    some ⟨⟨lastOf before taken, rest, offset + taken.length⟩,
      [(2 * index, offset), (2 * index + 1, offset + taken.length)]⟩

theorem scalar_takes_number {text : List Char} (isNumber : IsNumber text)
    (outside : WordKind.unicode.holds before = false) (apart : IsApart rest.head?) :
    ScalarTakes 1 before text rest := by
  intro offset
  have first := (number_prefers isNumber outside apart).group 1 offset
  change (Ways.orElse (number.ways.group 1) _ _).head? = _
  rw [Ways.orElse, List.head?_append, first, Option.some_or]

/-- A group has no way where its body has none. -/
theorem group_refuses {pattern : Pattern} {text : List Char} (index : Nat)
    (refuses : pattern.ways.Refuses before text) :
    (pattern.ways.group index).Refuses before text := by
  intro offset
  rw [Ways.group, refuses offset, List.map_nil]

theorem scalar_takes_constant {name : String} (known : name ∈ ["true", "false", "null"])
    (outside : WordKind.unicode.holds before = false) (apart : IsApart rest.head?) :
    ScalarTakes 2 before name.toList rest := by
  intro offset
  have noNumber : number.ways.Refuses before (name.toList ++ rest) := by
    apply Pattern.refuses rfl
    simp only [List.mem_cons, List.not_mem_nil, or_false] at known
    rcases known with rfl | rfl | rfl <;>
      · intro c isHead
        cases isHead
        rw [number_begins]
        rfl
  have first := (constant_prefers known outside apart).group 2 offset
  change (Ways.orElse (number.ways.group 1) (Ways.orElse (constant.ways.group 2) _) _).head? = _
  rw [Ways.orElse, group_refuses 1 noNumber offset, List.nil_append, Ways.orElse,
    List.head?_append, first, Option.some_or]

theorem scalar_takes_mark {mark : Char} (isMark : mark ∈ marks) :
    ScalarTakes 3 before [mark] rest := by
  intro offset
  have noOther : number.begins mark = false ∧ constant.begins mark = false ∧
      punctuation.begins mark = true := by
    rw [number_begins, constant_begins, punctuation_begins]
    simp only [marks, List.mem_cons, List.not_mem_nil, or_false] at isMark
    rcases isMark with rfl | rfl | rfl | rfl | rfl | rfl <;> exact ⟨rfl, rfl, rfl⟩
  have noNumber : number.ways.Refuses before ([mark] ++ rest) :=
    Pattern.refuses rfl (by simpa using noOther.1)
  have noConstant : constant.ways.Refuses before ([mark] ++ rest) :=
    Pattern.refuses rfl (by simpa using noOther.2.1)
  have taken : punctuation.ways.Prefers before [mark] rest := Ways.prefers_one noOther.2.2
  have first := taken.group 3 offset
  change (Ways.orElse (number.ways.group 1)
    (Ways.orElse (constant.ways.group 2) (punctuation.ways.group 3)) _).head? = _
  rw [Ways.orElse, group_refuses 1 noNumber offset, List.nil_append, Ways.orElse,
    group_refuses 2 noConstant offset, List.nil_append, first]

theorem scalar_begins_blank {c : Char} (isBlank : c ∈ blanks) : scalar.begins c = false := by
  rw [scalar_begins, number_begins, constant_begins, punctuation_begins]
  simp only [blanks, List.mem_cons, List.not_mem_nil, or_false] at isBlank
  rcases isBlank with rfl | rfl | rfl | rfl <;> rfl

/-- The scan passes over placeholders. -/
theorem scalar_begins_reserved {c : Char} (reserved : isReserved c = true) :
    scalar.begins c = false := by
  have code : 0xF0000 ≤ c.toNat := by simpa [isReserved] using reserved
  have notAscii : ¬c.toNat < 0x80 := by omega
  have noDigit : isDigit c = false := by
    simp only [isDigit, notAscii, ↓reduceIte]
    rw [if_pos (by omega)]
  have other (ascii : Char) (small : ascii.toNat < 0x80) : c ≠ ascii := by
    rintro rfl
    exact notAscii small
  rw [scalar_begins, number_begins, constant_begins, punctuation_begins, noDigit]
  simp [marks, other]

end Tint.Json
