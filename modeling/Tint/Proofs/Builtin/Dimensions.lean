import Tint.Proofs.Builtin.Words

/-!
# Numbers with units

Digits and a unit between white space are one number, though the rule for numbers comes first: there
is no end of a word between the last digit and a letter.  There is one in front of a percent sign,
so that the digits become a number without it; and there is none behind it, so that the rule for
units would not take the sign anyway.
-/

namespace Tint

open Tint.Regex Tint.Unicode

namespace Builtin

/-! ## The patterns -/

/-- Digits and a unit, between the ends of words. -/
def dimension : Pattern :=
  .concat (.look (.boundary .unicode)) (.concat (.many1 (.set .digit))
    (.concat (.firstOf (Css.unitNames.map .word)) (.look (.boundary .unicode))))

/-- A name in front of a colon. -/
def property : Pattern :=
  .concat (.group 1 (.many1 (.set (.union .word (.single '-')))))
    (.concat (.many (.set .space)) (.char ':'))

/-- What is between a colon and a semicolon. -/
def value : Pattern :=
  .concat (.char ':') (.concat (.many (.set .space))
    (.concat (.group 1 (.many1 (.set (.compl (.single ';'))))) (.char ';')))

/-- A name with or without a mark in front of it. -/
def selector : Pattern :=
  .concat (.optional (.set (.union (.single '.') (.single '#'))))
    (.many1 (.set (.union .word (.single '-'))))

/-- Selectors in front of a brace. -/
def selectorList : Pattern :=
  .concat (.group 1 (.concat (.optional (.set (.union (.single '.') (.single '#'))))
      (.concat (.many1 (.set (.union .word (.single '-'))))
        (.many (.concat (.many (.set .space)) (.concat (.char ',')
          (.concat (.many (.set .space)) selector)))))))
    (.concat (.many (.set .space)) (.char '\x7b'))

/-- Words with a meaning of their own. -/
def cssKeywords : List String :=
  ["important", "inherit", "initial", "unset", "auto", "none"]

theorem read_property :
    Pattern.read { carriageReturn := true } "([\\w-]+)\\s*:".toList = .ok property := by
  rw [← toOption_eq_some]
  decide +kernel

theorem read_value :
    Pattern.read { carriageReturn := true } ":\\s*([^;]+);".toList = .ok value := by
  rw [← toOption_eq_some]
  decide +kernel

theorem read_selectors :
    Pattern.read { carriageReturn := true } Css.selectors.toList = .ok selectorList := by
  rw [← toOption_eq_some]
  decide +kernel

theorem read_cssKeywords :
    Pattern.read { carriageReturn := true } (words cssKeywords).toList =
      .ok (anyWord cssKeywords) := by
  rw [toList_words, ← toOption_eq_some]
  decide +kernel

theorem read_cssFunctions :
    Pattern.read { carriageReturn := true } (words Css.functions).toList =
      .ok (anyWord Css.functions) := by
  rw [toList_words, ← toOption_eq_some]
  decide +kernel

theorem read_dimensions :
    Pattern.read { carriageReturn := true } Css.dimensions.toList = .ok dimension := by
  rw [← toOption_eq_some]
  decide +kernel

/-- The rules of CSS in the order in which they are tried. -/
theorem exists_rules_css :
    ∃ comments properties strings keywords functions numbers selectors values units : Rule,
      ∃ lower : List Rule,
      css.rules = [comments, properties, strings, keywords, functions, numbers, selectors, values,
        units] ++ lower ∧
      comments.Seeks .comments 0 blockComment ∧ properties.Seeks .properties 1 property ∧
      strings.Seeks .strings 0 quotedText ∧ keywords.Seeks .keywords 0 (anyWord cssKeywords) ∧
      functions.Seeks .functions 0 (anyWord Css.functions) ∧ numbers.Seeks .numbers 0 numeral ∧
      selectors.Seeks .selectors 1 selectorList ∧ values.Seeks .values 1 value ∧
      units.Seeks .units 0 dimension := by
  obtain ⟨comments, isComments, commentsSeek⟩ :=
    exists_rule_seeks .comments "/\\*[\\s\\S]*?\\*/" ⟨rfl, rfl⟩ read_blockComment
  obtain ⟨strings, isStrings, stringsSeek⟩ :=
    exists_rule_seeks .strings quotedString ⟨rfl, rfl⟩ read_quotedString
  obtain ⟨selectors, isSelectors, selectorsSeek⟩ :=
    exists_contextRule_seeks .selectors Css.selectors ⟨rfl, rfl⟩ read_selectors
  obtain ⟨properties, isProperties, propertiesSeek⟩ :=
    exists_contextRule_seeks .properties "([\\w-]+)\\s*:" ⟨rfl, rfl⟩ read_property
  obtain ⟨values, isValues, valuesSeek⟩ :=
    exists_contextRule_seeks .values ":\\s*([^;]+);" ⟨rfl, rfl⟩ read_value
  obtain ⟨keywords, isKeywords, keywordsSeek⟩ :=
    exists_rule_seeks .keywords (words cssKeywords) ⟨by decide, by decide⟩ read_cssKeywords
  obtain ⟨functions, isFunctions, functionsSeek⟩ :=
    exists_rule_seeks .functions (words Css.functions) ⟨by decide, by decide⟩ read_cssFunctions
  obtain ⟨units, isUnits, unitsSeek⟩ :=
    exists_rule_seeks .units Css.dimensions ⟨by decide, by decide⟩ read_dimensions
  obtain ⟨numbers, isNumbers, numbersSeek⟩ :=
    exists_rule_seeks .numbers number ⟨rfl, rfl⟩ read_number
  refine ⟨comments, properties, strings, keywords, functions, numbers, selectors, values, units,
    [rule .colors "#[0-9a-fA-F]\x7b3,8\x7d\\b"].filterMap Except.toOption, ?_, commentsSeek,
    propertiesSeek, stringsSeek, keywordsSeek, functionsSeek, numbersSeek, selectorsSeek,
    valuesSeek, unitsSeek⟩
  have sorted (a b c d e f g h i j : Read Rule) :
      [a, b, c, d, e, f, g, h, i, j].Perm [a, d, b, f, g, j, c, e, h, i] := by
    classical
    refine List.perm_iff_count.mpr fun x => ?_
    simp only [List.count_cons]
    omega
  rw [css, isComments, isProperties, isStrings, isFunctions, isNumbers, isSelectors, isValues,
    isUnits]
  rw [cssKeywords] at isKeywords
  rw [isKeywords]
  exact rules_language (sorted _ _ _ _ _ _ _ _ _ _)
    (.cons commentsSeek.makes (.cons propertiesSeek.makes (.cons stringsSeek.makes
      (.cons keywordsSeek.makes (.cons functionsSeek.makes (.cons numbersSeek.makes
        (.cons selectorsSeek.makes (.cons valuesSeek.makes (.cons unitsSeek.makes
          (.cons (makes_ofSource _ _) .nil)))))))))) (by decide)

/-! ## A dimension in a text -/

/-- Digits and one of the units. -/
structure IsDimension (digits : List Char) (unit : String) : Prop where
  someDigits : digits ≠ []
  allDigits : ∀ c ∈ digits, isAsciiDigit c = true
  isUnit : unit ∈ Css.unitNames

namespace IsDimension

variable {digits : List Char} {unit : String}

/-- A unit that is no percent sign consists of letters. -/
theorem letters (dimension : IsDimension digits unit) (notPercent : unit ≠ "%") :
    ∀ c ∈ unit.toList, isWord c = true ∧ isDigit c = false ∧ c ≠ '.' := by
  have each : ∀ unit ∈ Css.unitNames, unit ≠ "%" →
      (unit.toList.all fun c => isWord c && !isDigit c && c != '.') = true := by decide
  intro c member
  simpa [and_assoc] using List.all_eq_true.mp (each unit dimension.isUnit notPercent) c member

/-- Then a dimension is a part of a word. -/
theorem words (dimension : IsDimension digits unit) (notPercent : unit ≠ "%") :
    ∀ c ∈ digits ++ unit.toList, isWord c = true := by
  simp only [List.forall_mem_append]
  exact ⟨fun c member => isWord_of_isAsciiDigit (dimension.allDigits c member),
    fun c member => (dimension.letters notPercent c member).1⟩

theorem someUnit (dimension : IsDimension digits unit) : unit.toList ≠ [] := by
  have each : ∀ unit ∈ Css.unitNames, unit.toList ≠ [] := by decide
  exact each unit dimension.isUnit

end IsDimension

/-! ## Spans next to a dimension -/

/-- White space or a placeholder. -/
def isGap (c : Char) : Bool :=
  isSpace c || isReserved c

theorem isGap_of_isReserved (c : Char) (reserved : isReserved c = true) : isGap c = true :=
  Bool.or_eq_true_iff.mpr (.inr reserved)

theorem isWord_of_isGap {c : Char} (gap : isGap c = true) : isWord c = false := by
  rcases Bool.or_eq_true_iff.mp gap with space | reserved
  · exact isWord_of_isSpace space
  · exact isWord_of_isReserved reserved

theorem keepsWords_numeral : numeral.KeepsWords where
  opens a b first second := by
    simp [numeral, Pattern.opens, boundary_of_isWord first second]
  closes a b first second := boundary_of_isWord first second

theorem keepsWords_dimension : dimension.KeepsWords where
  opens a b first second := by
    simp [dimension, Pattern.opens, boundary_of_isWord first second]
  closes a b first second := boundary_of_isWord first second

theorem numeral_takes {c : Char} (taken : numeral.takes c = true) : isDigit c = true ∨ c = '.' := by
  have given : isDigit c = true ∨ c = '.' ∨ isDigit c = true := by
    simpa [numeral, Pattern.takes, Pattern.many, Pattern.many1, Pattern.optional, Pattern.char,
      CharSet.contains] using taken
  rcases given with digit | isPoint | digit
  · exact .inl digit
  · exact .inr isPoint
  · exact .inl digit

theorem dimension_takes {c : Char} (taken : dimension.takes c = true) :
    isWord c = true ∨ c = '%' := by
  have each : ∀ unit ∈ Css.unitNames, (unit.toList.all fun c => isWord c || c == '%') = true := by
    decide
  have given : isDigit c = true ∨ ∃ unit ∈ Css.unitNames, c ∈ unit.toList := by
    simpa [dimension, Pattern.takes, Pattern.many1, CharSet.contains] using taken
  rcases given with digit | ⟨unit, isUnit, member⟩
  · exact .inl (isWord_of_isDigit digit)
  · simpa using List.all_eq_true.mp (each unit isUnit) c member

theorem numeral_takes_of_isGap {c : Char} (gap : isGap c = true) : numeral.takes c = false := by
  rw [← Bool.not_eq_true]
  intro taken
  rcases numeral_takes taken with digit | rfl
  · have notWord := isWord_of_isGap gap
    rw [isWord_of_isDigit digit] at notWord
    cases notWord
  · exact absurd gap (by decide)

theorem dimension_takes_of_isGap {c : Char} (gap : isGap c = true) : dimension.takes c = false := by
  rw [← Bool.not_eq_true]
  intro taken
  rcases dimension_takes taken with word | rfl
  · have notWord := isWord_of_isGap gap
    rw [word] at notWord
    cases notWord
  · exact absurd gap (by decide)

section Spans

variable {front back digits : List Char} {unit : String} {span : Span}
  (dimension : IsDimension digits unit)
include dimension

/-- Words without digits keep away from a dimension. -/
theorem apart_of_anyWord {list : List String}
    (fits : (anyWord list).Fits (front ++ (digits ++ unit.toList ++ back)) span)
    (plain : (list.all fun word => word.toList.all fun c => !isAsciiDigit c && c != '%') = true) :
    span.stop ≤ front.length ∨ front.length + (digits ++ unit.toList).length ≤ span.start := by
  have notTaken (c : Char) (given : isAsciiDigit c = true ∨ c = '%') :
      (anyWord list).takes c = false := by
    rw [anyWord_takes, ← Bool.not_eq_true]
    intro taken
    obtain ⟨word, isWord, inWord⟩ := List.any_eq_true.mp taken
    have each := List.all_eq_true.mp (List.all_eq_true.mp plain word isWord) c
      (by simpa using inWord)
    rcases given with digit | rfl
    · simp [digit] at each
    · simp at each
  by_cases isPercent : unit = "%"
  · refine fits.apart_of_takes (List.append_ne_nil_of_left_ne_nil dimension.someDigits _) ?_
    intro c member
    rcases List.mem_append.mp member with inDigits | inUnit
    · exact notTaken c (.inl (dimension.allDigits c inDigits))
    · rw [isPercent] at inUnit
      exact notTaken c (.inr (by simpa using inUnit))
  · obtain ⟨c, inDigits⟩ := List.exists_mem_of_ne_nil _ dimension.someDigits
    exact fits.apart_of_mem (keepsWords_anyWord list) (dimension.words isPercent)
      (List.mem_append_left _ inDigits) (notTaken c (.inl (dimension.allDigits c inDigits)))

/-- The pattern for numbers keeps away from digits with letters behind them. -/
theorem apart_of_numeral (fits : numeral.Fits (front ++ (digits ++ unit.toList ++ back)) span)
    (notPercent : unit ≠ "%") :
    span.stop ≤ front.length ∨ front.length + (digits ++ unit.toList).length ≤ span.start := by
  obtain ⟨c, inUnit⟩ := List.exists_mem_of_ne_nil _ dimension.someUnit
  refine fits.apart_of_mem keepsWords_numeral (dimension.words notPercent)
    (List.mem_append_right _ inUnit) ?_
  rw [← Bool.not_eq_true]
  intro taken
  obtain ⟨-, notDigit, notPoint⟩ := dimension.letters notPercent c inUnit
  rcases numeral_takes taken with digit | isPoint
  · simp [digit] at notDigit
  · exact notPoint isPoint

/-- Digits with a percent sign behind them are a span of the rule for numbers. -/
theorem digits_mem_spans {numbers : Rule} (seeks : numbers.Seeks .numbers 0 numeral)
    (isPercent : unit = "%") (frontEnds : ∀ c ∈ front.getLast?, isGap c = true) :
    ⟨front.length, front.length + digits.length⟩ ∈
      numbers.spans (front ++ (digits ++ (unit.toList ++ back))) := by
  have words : ∀ c ∈ digits, isWord c = true := fun c member =>
    isWord_of_isAsciiDigit (dimension.allDigits c member)
  have percent : (unit.toList ++ back).head? = some '%' := by rw [isPercent]; rfl
  have notWord : ∀ c ∈ (unit.toList ++ back).head?, isWord c = false := by
    rw [percent]
    rintro _ ⟨⟩
    decide
  have starts := (@boundary_start_iff front digits (unit.toList ++ back) dimension.someDigits
    words).mpr fun c isLast => isWord_of_isGap (frontEnds c isLast)
  have ends := (@boundary_end_iff (lastOf none front) digits _ dimension.someDigits words).mpr
    notWord
  have some : (Pattern.many1 (.set .digit)).Takes (lastOf none front) digits
      ([] ++ (unit.toList ++ back)) :=
    .many1_set dimension.someDigits fun c member =>
      isDigit_of_isAsciiDigit (dimension.allDigits c member)
  have noFraction : (Pattern.concat (.optional (.char '.')) (.concat (.many (.set .digit))
      (.look (.boundary .unicode)))).Takes (lastOf (lastOf none front) digits)
        [] (unit.toList ++ back) :=
    .concat .enough (.concat .enough (.look ends))
  have takes : numeral.Takes (lastOf none front) ([] ++ (digits ++ [])) (unit.toList ++ back) :=
    .concat (.look (by simpa using starts)) (.concat some noFraction)
  rw [List.nil_append, List.append_nil] at takes
  rw [← List.append_assoc]
  refine seeks.mem_spans takes
    (fun c isLast => numeral_takes_of_isGap (frontEnds c isLast)) fun other later same others => ?_
  refine keepsWords_numeral.eq_of_takes others rfl words (fun c isHead => ?_) same
  rw [percent] at isHead
  cases isHead
  decide

/-- Digits with a unit of letters behind them are a span of the rule for units. -/
theorem dimension_mem_spans {units : Rule} (seeks : units.Seeks .units 0 Builtin.dimension)
    (notPercent : unit ≠ "%") (frontEnds : ∀ c ∈ front.getLast?, isGap c = true)
    (backBegins : ∀ c ∈ back.head?, isGap c = true) :
    ⟨front.length, front.length + (digits ++ unit.toList).length⟩ ∈
      units.spans (front ++ (digits ++ unit.toList ++ back)) := by
  have words := dimension.words notPercent
  have nonempty : digits ++ unit.toList ≠ [] :=
    List.append_ne_nil_of_left_ne_nil dimension.someDigits _
  have starts := (@boundary_start_iff front _ back nonempty words).mpr
    fun c isLast => isWord_of_isGap (frontEnds c isLast)
  have ends := (@boundary_end_iff (lastOf none front) _ back nonempty words).mpr
    fun c isHead => isWord_of_isGap (backBegins c isHead)
  have some : (Pattern.many1 (.set .digit)).Takes (lastOf none front) digits
      ((unit.toList ++ []) ++ back) :=
    .many1_set dimension.someDigits fun c member =>
      isDigit_of_isAsciiDigit (dimension.allDigits c member)
  have isUnit : (Pattern.firstOf (Css.unitNames.map .word)).Takes
      (lastOf (lastOf none front) digits) unit.toList ([] ++ back) := by
    rw [Pattern.Takes.firstOf_iff (by simp [Css.unitNames])]
    exact ⟨_, List.mem_map_of_mem dimension.isUnit, Pattern.Takes.word_iff.mpr rfl⟩
  have takes : Builtin.dimension.Takes (lastOf none front)
      ([] ++ (digits ++ (unit.toList ++ []))) back :=
    .concat (.look (by simpa using starts))
      (.concat some (.concat isUnit (.look (by simpa using ends))))
  rw [List.nil_append, List.append_nil] at takes
  rw [← List.append_assoc]
  refine seeks.mem_spans takes
    (fun c isLast => dimension_takes_of_isGap (frontEnds c isLast))
    fun other later same others => ?_
  exact keepsWords_dimension.eq_of_takes others rfl words
    (fun c isHead => dimension_takes_of_isGap (backBegins c isHead)) same

end Spans

/-! ## The passes -/

/-- A part that a rule gets to see becomes a token if the rule has a span for it, or its beginning
if the span is for that. -/
theorem mem_tokenize_of_shows {language : Language} {higher lower : List Rule} {rule : Rule}
    {text : String} {start : Working} {place : Nat} {run more front back : List Char}
    (isRules : language.rules = (higher ++ [rule]) ++ lower)
    (found : Stash.protect text.toList = some start)
    (few : Token.classifiedCount (language.tokenize text) + text.toList.countP isReserved <
      slotLimit)
    (shows : (start.applyRules higher).Shows isGap place (run ++ more) front back)
    (ordinary : ∀ c ∈ run, isReserved c = false)
    (isSpan : ⟨front.length, front.length + run.length⟩ ∈
      rule.spans (front ++ (run ++ (more ++ back)))) :
    (place, .classified rule.tokenClass (String.ofList run)) ∈
      Token.placedFrom 0 (language.tokenize text) := by
  have free := Language.next?_ne_none isRules found few
  have linked := (Stash.protect_consistent found).putsAway
    (Working.applyRules_putsAway higher start)
  refine Language.mem_placedFrom_tokenize isRules found rfl ?_
  rw [Working.applyRules_append] at free ⊢
  generalize start.applyRules higher = working at *
  obtain ⟨stash, seen⟩ := working
  obtain ⟨rfl, rfl, -, -⟩ := shows
  simp only [List.append_assoc] at linked free ⊢
  exact Stash.mem_placedFrom_applyRule linked isSpan ordinary free

/-- The quotes, and the other signs that the rules of CSS for more than words need. -/
def signs : List Char :=
  ['"', '\'', '/', ':', '\x7b']

section Spares

variable {digits : List Char} {unit : String} {rule : Rule} {category : Category} {group : Nat}
  {pattern : Pattern}

theorem spares_anyWord {list : List String} (dimension : IsDimension digits unit)
    (seeks : rule.Seeks category 0 (anyWord list))
    (plain : (list.all fun word => word.toList.all fun c => !isAsciiDigit c && c != '%') = true) :
    rule.Spares isGap signs (digits ++ unit.toList) :=
  fun _ _ _ _ _ _ isSpan => apart_of_anyWord dimension (seeks.fits isSpan) plain

theorem spares_numeral (dimension : IsDimension digits unit) (notPercent : unit ≠ "%")
    (seeks : rule.Seeks category 0 numeral) : rule.Spares isGap signs (digits ++ unit.toList) :=
  fun _ _ _ _ _ _ isSpan => apart_of_numeral dimension (seeks.fits isSpan) notPercent

/-- Without a sign that its pattern takes, a rule finds nothing. -/
theorem spares_of_least (seeks : rule.Seeks category group pattern) {c : Char} (isSign : c ∈ signs)
    (needs : 0 < pattern.least c) : rule.Spares isGap signs (digits ++ unit.toList) := by
  intro front back _ _ noSigns span isSpan
  rw [seeks.spans_eq_nil_of_notMem needs (noSigns c isSign)] at isSpan
  cases isSpan

/-- Without quotes, there are no strings. -/
theorem spares_quotedText (seeks : rule.Seeks category 0 quotedText) :
    rule.Spares isGap signs (digits ++ unit.toList) := by
  intro front back _ _ noSigns span isSpan
  have opens (before after : Option Char) (opens : quotedText.opens before after = true) :
      ∃ c ∈ ['"', '\''], after = some c := by
    simpa [quotedText, quoted, Pattern.char, Pattern.opens] using opens
  have nothing := seeks.spans_eq_nil_of_opens opens fun c isQuote =>
    noSigns c (List.mem_append_left ['/', ':', '\x7b'] isQuote)
  rw [nothing] at isSpan
  cases isSpan

end Spares

section Css

variable {text : String} {before digits after : List Char} {unit : String}

/-- Between blanks in an ordinary text without the signs, what a rule takes of a part becomes a
token if all rules before it spare the part. -/
theorem mem_tokenize_of_spared {language : Language} {higher lower : List Rule} {rule : Rule}
    {run more : List Char} (isRules : language.rules = (higher ++ [rule]) ++ lower)
    (ordinary : ∀ c ∈ text.toList, isReserved c = false)
    (noSigns : ∀ c ∈ signs, c ∉ text.toList)
    (few : Token.classifiedCount (language.tokenize text) < slotLimit)
    (split : text.toList = before ++ (run ++ more ++ after))
    (frontEnds : ∀ c ∈ before.getLast?, isSpace c = true)
    (backBegins : ∀ c ∈ after.head?, isSpace c = true)
    (spared : ∀ other ∈ higher, other.Spares isGap signs (run ++ more))
    (isSpan : ∀ front back : List Char, (∀ c ∈ front.getLast?, isGap c = true) →
      (∀ c ∈ back.head?, isGap c = true) →
      ⟨front.length, front.length + run.length⟩ ∈ rule.spans (front ++ (run ++ (more ++ back)))) :
    (before.length, .classified rule.tokenClass (String.ofList run)) ∈
      Token.placedFrom 0 (language.tokenize text) := by
  have found := Stash.protect_of_ordinary ordinary
  have linked := Stash.protect_consistent found
  have few : Token.classifiedCount (language.tokenize text) + text.toList.countP isReserved <
      slotLimit := by
    have none : text.toList.countP isReserved = 0 :=
      List.countP_eq_zero.mpr fun c member => by simp [ordinary c member]
    rwa [none]
  have inPart : ∀ c ∈ run ++ more, isReserved c = false := fun c member =>
    ordinary c (by rw [split]; exact List.mem_append_right _ (List.mem_append_left _ member))
  obtain ⟨front, back, shows⟩ := Working.exists_shows_protect isGap_of_isReserved found split
    inPart (fun c isLast => Bool.or_eq_true_iff.mpr (.inl (frontEnds c isLast)))
    (fun c isHead => Bool.or_eq_true_iff.mpr (.inl (backBegins c isHead)))
  have noneThere : ∀ c ∈ signs, c ∉ Token.chars (Working.tokens ({}, text.toList)) := by
    rwa [Stash.chars_protect found]
  have ordinarySigns : ∀ c ∈ signs, isReserved c = false := by simp [signs, isReserved]
  obtain ⟨front, back, showsThere⟩ :=
    shows.applyRules isGap_of_isReserved linked ordinarySigns noneThere spared
  exact mem_tokenize_of_shows isRules found few showsThere
    (fun c member => inPart c (List.mem_append_left _ member))
    (isSpan front back showsThere.frontEnds showsThere.backBegins)

/-- The digits of a dimension become a number, with the unit if it is no percent sign. -/
theorem mem_tokenize_css (ordinary : ∀ c ∈ text.toList, isReserved c = false)
    (noSigns : ∀ c ∈ signs, c ∉ text.toList)
    (few : Token.classifiedCount (css.tokenize text) < slotLimit)
    (split : text.toList = before ++ (digits ++ unit.toList ++ after))
    (dimension : IsDimension digits unit) (frontEnds : ∀ c ∈ before.getLast?, isSpace c = true)
    (backBegins : ∀ c ∈ after.head?, isSpace c = true) :
    (before.length, .classified .number
        (String.ofList (if unit = "%" then digits else digits ++ unit.toList))) ∈
      Token.placedFrom 0 (css.tokenize text) := by
  obtain ⟨comments, properties, strings, keywords, functions, numbers, selectors, values, units,
    lower, isRules, commentsSeek, propertiesSeek, stringsSeek, keywordsSeek, functionsSeek,
    numbersSeek, selectorsSeek, valuesSeek, unitsSeek⟩ := exists_rules_css
  have spared : ∀ rule ∈ [comments, properties, strings, keywords, functions],
      rule.Spares isGap signs (digits ++ unit.toList) := by
    simp only [List.forall_mem_cons, List.not_mem_nil, false_implies, implies_true, and_true]
    exact ⟨spares_of_least (c := '/') commentsSeek (by decide) (by decide),
      spares_of_least (c := ':') propertiesSeek (by decide) (by decide),
      spares_quotedText stringsSeek, spares_anyWord dimension keywordsSeek (by decide),
      spares_anyWord dimension functionsSeek (by decide)⟩
  by_cases isPercent : unit = "%"
  · -- the rule for numbers takes the digits
    have isClass : numbers.tokenClass = .number := numbersSeek.tokenClass
    rw [if_pos isPercent, ← isClass]
    have isRules : css.rules =
        ([comments, properties, strings, keywords, functions] ++ [numbers]) ++
          (selectors :: values :: units :: lower) := isRules
    exact mem_tokenize_of_spared isRules ordinary noSigns few split frontEnds backBegins spared
      fun front back frontGap _ => digits_mem_spans dimension numbersSeek isPercent frontGap
  · -- the rule for numbers takes nothing, and that for units takes all
    have isClass : units.tokenClass = .number := unitsSeek.tokenClass
    rw [if_neg isPercent, ← isClass]
    have isRules : css.rules = ([comments, properties, strings, keywords, functions] ++
        [numbers, selectors, values] ++ [units]) ++ lower := isRules
    have sparedBelow : ∀ rule ∈ [numbers, selectors, values],
        rule.Spares isGap signs (digits ++ unit.toList) := by
      simp only [List.forall_mem_cons, List.not_mem_nil, false_implies, implies_true, and_true]
      exact ⟨spares_numeral dimension isPercent numbersSeek,
        spares_of_least (c := '\x7b') selectorsSeek (by decide) (by decide),
        spares_of_least (c := ':') valuesSeek (by decide) (by decide)⟩
    have sparedAll := List.forall_mem_append.mpr ⟨spared, sparedBelow⟩
    rw [← List.append_nil (digits ++ unit.toList)] at split sparedAll
    exact mem_tokenize_of_spared isRules ordinary noSigns few split frontEnds backBegins sparedAll
      fun front back frontGap backGap =>
        dimension_mem_spans dimension unitsSeek isPercent frontGap backGap

/-- A dimension is a number as a whole, just if its unit is no percent sign. -/
theorem mem_tokenize_css_iff (ordinary : ∀ c ∈ text.toList, isReserved c = false)
    (noSigns : ∀ c ∈ signs, c ∉ text.toList)
    (few : Token.classifiedCount (css.tokenize text) < slotLimit)
    (split : text.toList = before ++ (digits ++ unit.toList ++ after))
    (dimension : IsDimension digits unit) (frontEnds : ∀ c ∈ before.getLast?, isSpace c = true)
    (backBegins : ∀ c ∈ after.head?, isSpace c = true) :
    (before.length, .classified .number (String.ofList (digits ++ unit.toList))) ∈
      Token.placedFrom 0 (css.tokenize text) ↔ unit ≠ "%" := by
  have member := mem_tokenize_css ordinary noSigns few split dimension frontEnds backBegins
  constructor
  · intro whole isPercent
    rw [if_pos isPercent] at member
    have owner := Token.owner?_of_mem_placedFrom rfl member
      (by simpa [Token.classified] using List.length_pos_iff.mpr dimension.someDigits)
    rw [Token.owner?_of_mem_placedFrom rfl whole
      (by simpa [Token.classified] using
        Nat.add_pos_left (List.length_pos_iff.mpr dimension.someDigits) _)] at owner
    have same : digits ++ unit.toList = digits := by simpa [Token.classified] using owner
    exact dimension.someUnit (List.append_right_eq_self.mp same)
  · intro notPercent
    rwa [if_neg notPercent] at member

end Css

end Builtin

namespace Highlighter

/-- In CSS, digits with a unit behind them and white space around are one number, unless the unit is
a percent sign: then the digits alone are. -/
theorem mem_tokenize_dimension_iff {text : String} {before digits after : List Char} {unit : String}
    {classPrefix : String} (ordinary : ∀ c ∈ text.toList, isReserved c = false)
    (noSigns : ∀ c ∈ Builtin.signs, c ∉ text.toList)
    (few : Token.classifiedCount (tokenize { catalog := .builtin, classPrefix } text "css") <
      slotLimit)
    (split : text.toList = before ++ (digits ++ unit.toList ++ after))
    (dimension : Builtin.IsDimension digits unit)
    (frontEnds : ∀ c ∈ before.getLast?, isSpace c = true)
    (backBegins : ∀ c ∈ after.head?, isSpace c = true) :
    let placed := Token.placedFrom 0 (tokenize { catalog := .builtin, classPrefix } text "css")
    ((before.length, .classified .number (String.ofList (digits ++ unit.toList))) ∈ placed ↔
        unit ≠ "%") ∧
      (unit = "%" → (before.length, .classified .number (String.ofList digits)) ∈ placed) := by
  intro placed
  have isTokens := Builtin.Named.css.tokenize text classPrefix
  rw [isTokens] at few
  simp only [placed, isTokens]
  refine ⟨Builtin.mem_tokenize_css_iff ordinary noSigns few split dimension frontEnds backBegins,
    fun isPercent => ?_⟩
  have member := Builtin.mem_tokenize_css ordinary noSigns few split dimension frontEnds backBegins
  rwa [if_pos isPercent] at member

/-- A number with a unit of letters, and one with a percent sign. -/
theorem mem_tokenize_dimension_iff_width :
    (∀ c ∈ "12px\t50%".toList, isReserved c = false) ∧
      (∀ c ∈ Builtin.signs, c ∉ "12px\t50%".toList) ∧
      Token.classifiedCount (tokenize { catalog := .builtin } "12px\t50%" "css") < slotLimit ∧
      Builtin.IsDimension ['1', '2'] "px" ∧ Builtin.IsDimension ['5', '0'] "%" ∧
      ∀ number ∈ [(0, Token.classified .number "12px"), (5, .classified .number "50")],
        number ∈ Token.placedFrom 0 (tokenize { catalog := .builtin } "12px\t50%" "css") := by
  have ordinary : ∀ c ∈ "12px\t50%".toList, isReserved c = false := by simp [isReserved]
  have noSigns : ∀ c ∈ Builtin.signs, c ∉ "12px\t50%".toList := by simp [Builtin.signs]
  have few : Token.classifiedCount (tokenize { catalog := .builtin } "12px\t50%" "css") <
      slotLimit :=
    (Highlighter.tokenized _ _ _).classifiedCount_le.trans_lt (by simp [slotLimit, slotsPerPlane])
  have letters : Builtin.IsDimension ['1', '2'] "px" := ⟨by simp, by simp; decide, by decide⟩
  have percent : Builtin.IsDimension ['5', '0'] "%" := ⟨by simp, by simp; decide, by decide⟩
  have first := (@mem_tokenize_dimension_iff _ [] ['1', '2'] "\t50%".toList "px" _ ordinary noSigns
    few rfl letters (by simp) (by simp; decide)).1.mpr (by decide)
  have second := (@mem_tokenize_dimension_iff _ "12px\t".toList ['5', '0'] [] "%" _ ordinary noSigns
    few rfl percent (by simp; decide) (by simp)).2 rfl
  refine ⟨ordinary, noSigns, few, letters, percent, ?_⟩
  simp only [List.forall_mem_cons, List.not_mem_nil, false_implies, implies_true, and_true]
  exact ⟨first, second⟩

/-- The percent sign of a dimension is left over. -/
theorem not_mem_tokenize_dimension_percent :
    (∀ c ∈ "50%".toList, isReserved c = false) ∧ (∀ c ∈ Builtin.signs, c ∉ "50%".toList) ∧
      Token.classifiedCount (tokenize { catalog := .builtin } "50%" "css") < slotLimit ∧
      Builtin.IsDimension ['5', '0'] "%" ∧
      (0, .classified .number "50%") ∉
        Token.placedFrom 0 (tokenize { catalog := .builtin } "50%" "css") := by
  have ordinary : ∀ c ∈ "50%".toList, isReserved c = false := by simp [isReserved]
  have noSigns : ∀ c ∈ Builtin.signs, c ∉ "50%".toList := by simp [Builtin.signs]
  have few : Token.classifiedCount (tokenize { catalog := .builtin } "50%" "css") < slotLimit :=
    (Highlighter.tokenized _ _ _).classifiedCount_le.trans_lt (by simp [slotLimit, slotsPerPlane])
  have percent : Builtin.IsDimension ['5', '0'] "%" := ⟨by simp, by simp; decide, by decide⟩
  refine ⟨ordinary, noSigns, few, percent, fun whole => ?_⟩
  rw [Builtin.Named.css.tokenize] at few whole
  exact (@Builtin.mem_tokenize_css_iff _ [] ['5', '0'] [] "%" ordinary noSigns few rfl percent
    (by simp) (by simp)).mp whole rfl

end Highlighter

end Tint
