import Tint.Proofs.Builtin.Patterns
import Tint.Proofs.Builtin.Rules

/-!
# Items of lists

Each line of a list, a marker and some words, is an item.  Marks for bold and italic text are sought
before items are, in the text as a whole, and a star can be one of them: between two stars that
begin items there is italic text.  So the lines are items just if no more than one of them begins
with a star.
-/

namespace Tint

open Tint.Regex Tint.Unicode

/-! ## Lists -/

/-- Blanks in a line. -/
def isBlank (c : Char) : Bool :=
  c == ' ' || c == '\t'

/-- A line of a list: a marker with blanks on both sides and words, the first of which begins with a
letter. -/
inductive IsItem : List Char → Prop where
  | intro {indent gap rest : List Char} {sign first : Char}
      (indentBlank : ∀ c ∈ indent, isBlank c = true) (isSign : sign ∈ ['-', '*', '+'])
      (someGap : gap ≠ []) (gapBlank : ∀ c ∈ gap, isBlank c = true)
      (isLetter : isAlphabetic first = true)
      (words : ∀ c ∈ rest, isAlphabetic c = true ∨ isDigit c = true ∨ c = ' ') :
      IsItem (indent ++ sign :: (gap ++ first :: rest))

theorem IsItem.ne_nil {text : List Char} (isItem : IsItem text) : text ≠ [] := by
  cases isItem
  simp

/-- The token of an item, which ends where the line ends. -/
def Line.item (line : Line) : Token :=
  .classified .operator (String.ofList line.text)

/-- The items of lines, each with the number of characters before it.  `offset` counts those before
the lines. -/
def itemsFrom (offset : Nat) : List Line → List (Nat × Token)
  | [] => []
  | line :: later =>
      (offset, line.item) :: itemsFrom (offset + line.text.length + line.ending.length) later

/-- The tokens that a line of a list comes to. -/
def Line.itemPieces (line : Line) : List Token :=
  [line.item, .plain (String.ofList line.ending)]

namespace Builtin

/-! ## The patterns -/

/-- Blanks in a line, as a set. -/
def blanks : CharSet :=
  .union (.single ' ') (.single '\t')

@[simp] theorem contains_blanks (c : Char) : blanks.contains c = isBlank c := by
  simp [blanks, CharSet.contains, isBlank]

/-- The signs that items begin with. -/
def listMarkers : CharSet :=
  .union (.single '-') (.union (.single '*') (.single '+'))

/-- Blanks and what is left of a line, which is not empty. -/
def blanksAndText : Pattern :=
  .concat (.many1 (.set blanks))
    (.concat (.many1 (.set (.compl lineEnds))) (.look (.lineEnd .feedOrReturn)))

/-- An item of a list. -/
def listItem : Pattern :=
  .concat (.look (.lineStart .feedOrReturn))
    (.concat (.many (.set blanks)) (.concat (.set listMarkers) blanksAndText))

/-- A header. -/
def header : Pattern :=
  .concat (.look (.lineStart .feedOrReturn))
    (.concat (.repeated 1 (some 6) true (.char '#')) blanksAndText)

/-- Text between two signs. -/
def between (sign : Char) : Pattern :=
  .concat (.char sign) (.concat (.many1 (.set (.compl (.single sign)))) (.char sign))

/-- Text between two pairs of signs. -/
def betweenPairs (sign : Char) : Pattern :=
  .concat (.char sign) (.concat (.char sign)
    (.concat (.many1 (.set (.compl (.single sign)))) (.concat (.char sign) (.char sign))))

/-- A link: its text, and where it goes. -/
def link : Pattern :=
  .concat (.char '[') (.concat (.group 1 (.many1 (.set (.compl (.single ']')))))
    (.concat (.char ']') (.concat (.char '(')
      (.concat (.group 2 (.many1 (.set (.compl (.single ')'))))) (.char ')')))))

theorem read_header :
    Pattern.read { multiLine := true, carriageReturn := true }
      "^#\x7b1,6\x7d[ \\t]+.+$".toList = .ok header := by
  rw [← toOption_eq_some]
  decide +kernel

theorem read_bold :
    Pattern.read { carriageReturn := true } "\\*\\*[^*]+\\*\\*|__[^_]+__".toList =
      .ok (.choice (betweenPairs '*') (betweenPairs '_')) := by
  rw [← toOption_eq_some]
  decide +kernel

theorem read_italic :
    Pattern.read { carriageReturn := true } "\\*[^*]+\\*|_[^_]+_".toList =
      .ok (.choice (between '*') (between '_')) := by
  rw [← toOption_eq_some]
  decide +kernel

theorem read_link :
    Pattern.read { carriageReturn := true } "\\[([^\\]]+)\\]\\(([^)]+)\\)".toList = .ok link := by
  rw [← toOption_eq_some]
  decide +kernel

theorem read_listItem :
    Pattern.read { multiLine := true, carriageReturn := true }
      "^[ \\t]*[-*+][ \\t]+.+$".toList = .ok listItem := by
  rw [← toOption_eq_some]
  decide +kernel

/-- The rules of Markdown in the order in which they are tried. -/
theorem exists_rules_markdown :
    ∃ headers bold italic links lists lower,
      markdown.rules = [headers, bold, italic, links] ++ lists :: lower ∧
      headers.Seeks .headers 0 header ∧
      bold.Seeks .bold 0 (.choice (betweenPairs '*') (betweenPairs '_')) ∧
      italic.Seeks .italic 0 (.choice (between '*') (between '_')) ∧
      links.Seeks .links 0 link ∧ lists.Seeks .lists 0 listItem := by
  obtain ⟨headers, isHeaders, headersSeek⟩ :=
    exists_lineRule_seeks .headers "^#\x7b1,6\x7d[ \\t]+.+$" ⟨rfl, rfl⟩ read_header
  obtain ⟨bold, isBold, boldSeek⟩ :=
    exists_rule_seeks .bold "\\*\\*[^*]+\\*\\*|__[^_]+__" ⟨rfl, rfl⟩ read_bold
  obtain ⟨italic, isItalic, italicSeek⟩ :=
    exists_rule_seeks .italic "\\*[^*]+\\*|_[^_]+_" ⟨rfl, rfl⟩ read_italic
  obtain ⟨links, isLinks, linksSeek⟩ :=
    exists_rule_seeks .links "\\[([^\\]]+)\\]\\(([^)]+)\\)" ⟨rfl, rfl⟩ read_link
  obtain ⟨lists, isLists, listsSeek⟩ :=
    exists_lineRule_seeks .lists "^[ \\t]*[-*+][ \\t]+.+$" ⟨rfl, rfl⟩ read_listItem
  refine ⟨headers, bold, italic, links, lists,
    [lineRule .blockquotes "^>[ \\t]+.+$", rule .code "`[^`]+`"].filterMap Except.toOption, ?_,
    headersSeek, boldSeek, italicSeek, linksSeek, listsSeek⟩
  have sorted (a b c d e f g : Read Rule) : [a, b, c, d, e, f, g].Perm [a, d, e, g, b, c, f] := by
    classical
    refine List.perm_iff_count.mpr fun x => ?_
    simp only [List.count_cons]
    omega
  rw [markdown, isHeaders, isLists, isBold, isItalic, isLinks]
  exact rules_language (sorted _ _ _ _ _ _ _)
    (.cons headersSeek.makes (.cons boldSeek.makes (.cons italicSeek.makes
      (.cons linksSeek.makes (.cons listsSeek.makes
        (.cons (makes_ofSource _ _) (.cons (makes_ofSource _ _) .nil))))))) (by decide)

/-! ## Where nothing is found -/

/-- A text with none of the signs that other text than items and italic text begins with.  Behind
each star there is a blank. -/
inductive Clear : List Char → Prop where
  | nil : Clear []
  | star {c : Char} {text : List Char} (blank : isBlank c = true) (rest : Clear text) :
      Clear ('*' :: c :: text)
  | other {c : Char} {text : List Char} (isOther : c ∉ ['*', '#', '_', '[']) (rest : Clear text) :
      Clear (c :: text)

theorem not_mark_of_isBlank {c : Char} (blank : isBlank c = true) : c ∉ ['*', '#', '_', '['] := by
  rcases Bool.or_eq_true_iff.mp blank with isSpace | isTab
  · simp [beq_iff_eq.mp isSpace]
  · simp [beq_iff_eq.mp isTab]

namespace Clear

variable {first second text : List Char}

theorem of_others (others : ∀ c ∈ text, c ∉ ['*', '#', '_', '[']) : Clear text := by
  induction text with
  | nil => exact .nil
  | cons c text ih =>
      obtain ⟨isOther, later⟩ := List.forall_mem_cons.mp others
      exact .other isOther (ih later)

theorem append (firstClear : Clear first) (secondClear : Clear second) :
    Clear (first ++ second) := by
  induction firstClear with
  | nil => exact secondClear
  | star blank _ ih => exact .star blank ih
  | other isOther _ ih => exact .other isOther ih

theorem notMem (clear : Clear text) {c : Char} (isMark : c ∈ ['#', '_', '[']) : c ∉ text := by
  induction clear with
  | nil => exact List.not_mem_nil
  | @star d text blank _ ih =>
      have others : c ≠ '*' ∧ c ≠ d := by
        constructor
        · rintro rfl
          exact absurd isMark (by decide)
        · rintro rfl
          exact not_mark_of_isBlank blank (List.mem_cons_of_mem _ isMark)
      simp [others, ih]
  | @other d text isOther _ ih =>
      have differ : c ≠ d := by
        rintro rfl
        exact isOther (List.mem_cons_of_mem _ isMark)
      simp [differ, ih]

theorem ne_pair (clear : Clear text) {front back : List Char} :
    text ≠ front ++ '*' :: '*' :: back := by
  induction clear generalizing front with
  | nil => simp
  | @star c text blank rest ih =>
      have notStar : c ≠ '*' := by
        rintro rfl
        exact absurd blank (by decide)
      rcases front with _ | ⟨d, _ | ⟨e, front⟩⟩
      · simp [notStar]
      · simp [notStar]
      · simp [ih]
  | @other c text isOther rest ih =>
      have notStar : c ≠ '*' := by
        rintro rfl
        exact absurd isOther (by decide)
      rcases front with _ | ⟨d, front⟩
      · simp [notStar]
      · simp [ih]

end Clear

theorem not_mark_of_isAlphabetic {c : Char} (isLetter : isAlphabetic c = true) :
    c ∉ ['*', '#', '_', '['] := by
  intro isMark
  have noLetter : ∀ c ∈ ['*', '#', '_', '['], isAlphabetic c = false := by
    simp [isAlphabetic, isAsciiLetter]
  rw [noLetter c isMark] at isLetter
  cases isLetter

theorem not_mark_of_isDigit {c : Char} (digit : isDigit c = true) : c ∉ ['*', '#', '_', '['] := by
  intro isMark
  have noDigit : ∀ c ∈ ['*', '#', '_', '['], isDigit c = false := by
    simp [isDigit, isAsciiDigit]
  rw [noDigit c isMark] at digit
  cases digit

theorem clear_of_isItem {text : List Char} (isItem : IsItem text) : Clear text := by
  cases isItem with
  | @intro indent gap rest sign first indentBlank isSign someGap gapBlank isLetter words =>
      have wordsClear : Clear (first :: rest) := by
        refine .other (not_mark_of_isAlphabetic isLetter) (.of_others fun c member => ?_)
        rcases words c member with letter | digit | rfl
        · exact not_mark_of_isAlphabetic letter
        · exact not_mark_of_isDigit digit
        · decide
      have gapClear : Clear (gap ++ first :: rest) :=
        (Clear.of_others fun c member => not_mark_of_isBlank (gapBlank c member)).append wordsClear
      refine (Clear.of_others fun c member => not_mark_of_isBlank (indentBlank c member)).append ?_
      by_cases isStar : sign = '*'
      · obtain ⟨blank, gap, rfl⟩ := List.exists_cons_of_ne_nil someGap
        obtain ⟨isBlank, laterBlank⟩ := List.forall_mem_cons.mp gapBlank
        rw [isStar]
        refine .star isBlank (Clear.append (.of_others fun c member => ?_) wordsClear)
        exact not_mark_of_isBlank (laterBlank c member)
      · refine .other ?_ gapClear
        have signs : ∀ sign ∈ ['-', '*', '+'], sign ≠ '*' → sign ∉ ['*', '#', '_', '['] := by simp
        exact signs sign isSign isStar

theorem clear_of_divided {text : List Char} {divided : List Line} (divides : Divided text divided)
    (items : ∀ line ∈ divided, IsItem line.text) : Clear text := by
  induction divides with
  | nil => exact .nil
  | last => exact clear_of_isItem (items _ List.mem_cons_self)
  | ended _ isEnding _ ih =>
      obtain ⟨isItem, later⟩ := List.forall_mem_cons.mp items
      refine ((clear_of_isItem isItem).append (.of_others fun c member => ?_)).append (ih later)
      rcases Bool.or_eq_true_iff.mp (isEnding.isLineEnd_of_mem c member) with isReturn | isFeed
      · simp [beq_iff_eq.mp isReturn]
      · simp [beq_iff_eq.mp isFeed]

/-- Text between pairs of signs begins with a pair. -/
theorem exists_pair_of_takes {sign : Char} {before : Option Char} {taken rest : List Char}
    (takes : (betweenPairs sign).Takes before taken rest) :
    ∃ later, taken = sign :: sign :: later := by
  rw [betweenPairs] at takes
  obtain ⟨early, late, rfl, first, second⟩ := takes.exists_of_concat
  obtain ⟨middle, later, rfl, second, -⟩ := second.exists_of_concat
  rw [first.eq_of_char, second.eq_of_char]
  exact ⟨later, rfl⟩

section Nothing

variable {rule : Rule} {text : List Char} (clear : Clear text)
include clear

theorem spans_headers_eq_nil (seeks : rule.Seeks .headers 0 header) : rule.spans text = [] :=
  seeks.spans_eq_nil_of_notMem (c := '#') (by decide) (clear.notMem (by simp))

theorem spans_links_eq_nil (seeks : rule.Seeks .links 0 link) : rule.spans text = [] :=
  seeks.spans_eq_nil_of_notMem (c := '[') (by decide) (clear.notMem (by simp))

theorem spans_bold_eq_nil
    (seeks : rule.Seeks .bold 0 (.choice (betweenPairs '*') (betweenPairs '_'))) :
    rule.spans text = [] := by
  apply seeks.spans_eq_nil
  intro front taken rest split takes
  cases takes with
  | left _ isPair =>
      obtain ⟨later, rfl⟩ := exists_pair_of_takes isPair
      rw [List.append_assoc, List.cons_append, List.cons_append] at split
      exact clear.ne_pair split
  | right _ isPair =>
      obtain ⟨later, rfl⟩ := exists_pair_of_takes isPair
      have inText : '_' ∈ text := by simp [split]
      exact clear.notMem (by simp) inText

/-- Without two stars there is no italic text. -/
theorem spans_italic_eq_nil (seeks : rule.Seeks .italic 0 (.choice (between '*') (between '_')))
    (few : text.count '*' ≤ 1) : rule.spans text = [] := by
  apply seeks.spans_eq_nil
  intro front taken rest split takes
  cases takes with
  | left _ isBetween =>
      have two : 2 ≤ taken.count '*' := isBetween.least_le '*'
      rw [split, List.count_append, List.count_append] at few
      omega
  | right _ isBetween =>
      have some : 2 ≤ taken.count '_' := isBetween.least_le '_'
      have none : text.count '_' = 0 := List.count_eq_zero.mpr (clear.notMem (by simp))
      rw [split, List.count_append, List.count_append] at none
      omega

end Nothing

/-- Of two stars, the first one is in italic text. -/
theorem exists_span_of_two_stars {rule : Rule} {text : List Char} (clear : Clear text)
    (seeks : rule.Seeks .italic 0 (.choice (between '*') (between '_')))
    (many : 1 < text.count '*') :
    ∃ index, text[index]? = some '*' ∧
      ∃ span ∈ rule.spans text, span.start ≤ index ∧ index < span.stop := by
  obtain ⟨front, behind, rfl, noneBefore⟩ :=
    List.eq_append_cons_of_mem (List.count_pos_iff.mp (Nat.zero_lt_of_lt many))
  have more : '*' ∈ behind := by
    rw [List.count_append, List.count_eq_zero.mpr noneBefore, List.count_cons_self] at many
    exact List.count_pos_iff.mp (by omega)
  obtain ⟨middle, back, rfl, noneBetween⟩ := List.eq_append_cons_of_mem more
  have someMiddle : middle ≠ [] := by
    rintro rfl
    exact clear.ne_pair rfl
  have inSet : ∀ c ∈ middle, (CharSet.compl (.single '*')).contains c = true := by
    intro c member
    have differ : c ≠ '*' := fun same => noneBetween (same ▸ member)
    simpa [CharSet.contains] using differ
  have isBetween : (between '*').Takes (lastOf none front) (['*'] ++ (middle ++ ['*'])) back :=
    .concat (.set (by simp)) (.concat (.many1_set someMiddle inSet) (.set (by simp)))
  obtain ⟨span, isSpan, start_le, lt_stop⟩ := seeks.exists_span (.left _ isBetween)
  refine ⟨front.length, by simp, span, ?_, start_le, lt_stop⟩
  simpa using isSpan

/-! ## The scan for items -/

theorem blanksAndText_prefers {before : Option Char} {gap text rest : List Char}
    (someGap : gap ≠ []) (gapBlank : ∀ c ∈ gap, isBlank c = true) (someText : text ≠ [])
    (begins : ∀ c ∈ text.head?, isBlank c = false) (inLine : ∀ c ∈ text, isLineEnd c = false)
    (notReturn : lastOf before gap ≠ some '\r') (stops : ∀ c ∈ rest.head?, isLineEnd c = true) :
    blanksAndText.ways.Prefers before (gap ++ text) rest := by
  have takesGap : (Pattern.many1 (.set blanks)).ways.Prefers before gap (text ++ [] ++ rest) := by
    apply Ways.prefers_many1_set someGap (by simpa using gapBlank)
    intro c isHead
    rw [List.append_nil, List.head?_append_of_ne_nil _ someText] at isHead
    simpa using begins c isHead
  have takesText : (Pattern.many1 (.set (.compl lineEnds))).ways.Prefers (lastOf before gap) text
      ([] ++ rest) := by
    apply Ways.prefers_many1_set someText
    · intro c member
      simp [CharSet.contains, inLine c member]
    · intro c isHead
      simp [CharSet.contains, stops c isHead]
  have ends := lineEnd_prefers (lastOf_ne_return notReturn inLine) stops
  have all := takesGap.andThen (takesText.andThen ends)
  rwa [List.append_nil] at all

/-- An item is what the pattern takes at the start of its line. -/
theorem listItem_prefers {before : Option Char} {text rest : List Char} (isItem : IsItem text)
    (inLine : ∀ c ∈ text, isLineEnd c = false) (stops : ∀ c ∈ rest.head?, isLineEnd c = true)
    (starts : (Look.lineStart .feedOrReturn).holds before (text ++ rest).head? = true) :
    listItem.ways.Prefers before text rest := by
  cases isItem with
  | @intro indent gap words sign first indentBlank isSign someGap gapBlank isLetter isWords =>
      have notBlank : isBlank first = false := by
        by_contra blank
        rw [Bool.not_eq_false] at blank
        rcases Bool.or_eq_true_iff.mp blank with isSpace | isTab
        · simp [beq_iff_eq.mp isSpace, isAlphabetic, isAsciiLetter] at isLetter
        · simp [beq_iff_eq.mp isTab, isAlphabetic, isAsciiLetter] at isLetter
      have isStart : (Ways.look (.lineStart .feedOrReturn)).Prefers before []
          (indent ++ ([sign] ++ (gap ++ first :: words)) ++ rest) :=
        Ways.prefers_look (by simpa using starts)
      have takesIndent : ((Ways.one blanks).rounds true).Prefers before indent
          ([sign] ++ (gap ++ first :: words) ++ rest) := by
        have signs : ∀ sign ∈ ['-', '*', '+'], isBlank sign = false := by simp [isBlank]
        exact Ways.prefers_rounds_one (by simpa using indentBlank)
          (by simpa using signs sign isSign)
      have takesSign : (Ways.one listMarkers).Prefers (lastOf before indent) [sign]
          (gap ++ first :: words ++ rest) :=
        Ways.prefers_one (by simpa [listMarkers, CharSet.contains] using isSign)
      have takesRest : blanksAndText.ways.Prefers (some sign) (gap ++ first :: words) rest := by
        apply blanksAndText_prefers someGap gapBlank (by simp) (by simpa using notBlank)
        · intro c member
          exact inLine c (by simp [List.mem_cons.mp member])
        · exact lastOf_ne_return (some_ne_return (inLine sign (by simp))) fun c member =>
            inLine c (by simp [member])
        · exact stops
      exact isStart.andThen (takesIndent.andThen (takesSign.andThen takesRest))

/-- A line starts behind the end of another one. -/
theorem lineStart_of_isEnding {ending rest : List Char} (isEnding : IsEnding ending rest)
    (before : Option Char) :
    (Look.lineStart .feedOrReturn).holds (lastOf before ending) rest.head? = true := by
  cases isEnding with
  | both | feed => rfl
  | «return» alone => simpa [Look.holds] using alone

/-- The spans of matches that are not empty, as those of items. -/
def itemSpans (found : List Match) : List (Span × TokenClass) :=
  (found.filterMap fun found =>
    (found.group? 0).filter fun span => span.start < span.stop).map fun span => (span, .operator)

/-- A line that is an item gives one span to a scan. -/
theorem itemSpans_line {before : Option Char} {text ending rest : List Char} {offset : Nat}
    (isItem : IsItem text) (inLine : ∀ c ∈ text, isLineEnd c = false)
    (ends : ∀ c ∈ ending, isLineEnd c = true)
    (stops : ∀ c ∈ (ending ++ rest).head?, isLineEnd c = true)
    (starts : (Look.lineStart .feedOrReturn).holds before (text ++ (ending ++ rest)).head? = true) :
    itemSpans (listItem.ways.scan ⟨before, text ++ (ending ++ rest), offset⟩) =
      (⟨offset, offset + text.length⟩, .operator) ::
        itemSpans (listItem.ways.scan ⟨lastOf (lastOf before text) ending, rest,
          offset + text.length + ending.length⟩) := by
  have passed : ∀ c ∈ ending, listItem.begins c = false := by
    intro c member
    rcases Bool.or_eq_true_iff.mp (ends c member) with isReturn | isFeed
    · rw [beq_iff_eq.mp isReturn]
      decide
    · rw [beq_iff_eq.mp isFeed]
      decide
  have taken : offset < offset + text.length := by
    have some := List.length_pos_iff.mpr isItem.ne_nil
    omega
  rw [Pattern.scan_prefers rfl (listItem_prefers isItem inLine stops starts), itemSpans,
    List.filterMap_cons, Match.filter_group?_zero taken, Pattern.scan_pass rfl passed]
  rfl

/-- A scan finds the items of the lines. -/
theorem itemSpans_scan {text : List Char} {divided : List Line} (divides : Divided text divided)
    (items : ∀ line ∈ divided, IsItem line.text) (before : Option Char) (offset : Nat)
    (starts : (Look.lineStart .feedOrReturn).holds before text.head? = true) :
    itemSpans (listItem.ways.scan ⟨before, text, offset⟩) =
      spansOf [] [.operator] offset (divided.flatMap Line.itemPieces) := by
  have advances := Pattern.advances (show listItem.nullable = false from rfl)
  have pieces (line : Line) (offset : Nat) (tokens : List Token) :
      spansOf [] [.operator] offset (line.itemPieces ++ tokens) =
        (⟨offset, offset + line.text.length⟩, .operator) ::
          spansOf [] [.operator] (offset + line.text.length + line.ending.length) tokens := by
    rw [Line.itemPieces, List.cons_append, List.cons_append, List.nil_append,
      spansOf_take rfl rfl, spansOf_skip rfl, Token.width_nil, Token.width_nil]
    simp [Line.item, Token.classified, Token.plain]
  induction divides generalizing before offset with
  | nil =>
      rw [Ways.scan_end advances rfl]
      rfl
  | @last text nonempty inLine =>
      have isItem := items _ List.mem_cons_self
      have line := @itemSpans_line before text [] [] offset isItem inLine (by simp) (by simp)
        (by simpa using starts)
      rw [List.append_nil, List.append_nil] at line
      rw [line, Ways.scan_end advances rfl, List.flatMap_cons, pieces]
      rfl
  | @ended text ending rest later inLine isEnding _ ih =>
      obtain ⟨isItem, laterItems⟩ := List.forall_mem_cons.mp items
      have stops : ∀ c ∈ (ending ++ rest).head?, isLineEnd c = true := by
        intro c isHead
        rw [List.head?_append_of_ne_nil _ isEnding.ne_nil] at isHead
        exact isEnding.isLineEnd_of_mem c (List.mem_of_mem_head? isHead)
      rw [List.append_assoc] at starts ⊢
      rw [itemSpans_line isItem inLine isEnding.isLineEnd_of_mem stops starts,
        ih laterItems _ _ (lineStart_of_isEnding isEnding _), List.flatMap_cons, pieces]

end Builtin

/-! ## Items as tokens -/

section Pieces

variable {text : List Char} {divided : List Line}

theorem Divided.chars_itemPieces (divides : Divided text divided) :
    Token.chars (divided.flatMap Line.itemPieces) = text := by
  have each (line : Line) : Token.chars line.itemPieces = line.text ++ line.ending := by
    simp [Line.itemPieces, Line.item, Token.classified, Token.plain]
  induction divides with
  | nil => rfl
  | last => simp [each]
  | ended _ _ _ ih => rw [List.flatMap_cons, Token.chars_append, each, ih]

theorem countP_itemPieces_le (divided : List Line) :
    (divided.flatMap Line.itemPieces).countP (·.isIn [.operator]) ≤ divided.length := by
  induction divided with
  | nil => exact le_rfl
  | cons line later ih =>
      have one : line.itemPieces.countP (·.isIn [.operator]) = 1 := rfl
      rw [List.flatMap_cons, List.countP_append, one, List.length_cons]
      omega

theorem mem_placedFrom_of_mem_itemsFrom {offset : Nat} {item : Nat × Token}
    (member : item ∈ itemsFrom offset divided) :
    item ∈ Token.placedFrom offset (divided.flatMap Line.itemPieces) := by
  induction divided generalizing offset with
  | nil => cases member
  | cons line later ih =>
      rw [List.flatMap_cons, Line.itemPieces, List.cons_append, List.cons_append, List.nil_append,
        Token.placedFrom, Token.placedFrom]
      rcases List.mem_cons.mp member with here | behind
      · exact List.mem_cons.mpr (.inl here)
      · refine List.mem_cons_of_mem _ (List.mem_cons_of_mem _ ?_)
        simpa [Line.item, Token.classified, Token.plain] using ih behind

theorem isSome_of_mem_itemsFrom {offset : Nat} {item : Nat × Token}
    (member : item ∈ itemsFrom offset divided) : item.2.tokenClass.isSome := by
  induction divided generalizing offset with
  | nil => cases member
  | cons line later ih =>
      rcases List.mem_cons.mp member with rfl | behind
      · rfl
      · exact ih behind

/-- A character that ends no line is in an item. -/
theorem Divided.exists_item (divides : Divided text divided) {index : Nat} {c : Char}
    (isChar : text[index]? = some c) (notEnd : isLineEnd c = false) (offset : Nat) :
    ∃ line : Line, ∃ place further, (place, line.item) ∈ itemsFrom offset divided ∧
      offset + index = place + further ∧ further < line.text.length := by
  induction divides generalizing index offset with
  | nil => simp at isChar
  | @last text _ _ =>
      exact ⟨⟨text, []⟩, offset, index, List.mem_cons_self, rfl,
        (List.getElem?_eq_some_iff.mp isChar).1⟩
  | @ended text ending rest later _ isEnding _ ih =>
      rcases Nat.lt_or_ge index text.length with inLine | behind
      · exact ⟨⟨text, ending⟩, offset, index, List.mem_cons_self, rfl, inLine⟩
      · rw [List.append_assoc, List.getElem?_append_right behind] at isChar
        rcases Nat.lt_or_ge (index - text.length) ending.length with inEnding | inRest
        · rw [List.getElem?_append_left inEnding] at isChar
          rw [isEnding.isLineEnd_of_mem c (List.mem_of_getElem? isChar)] at notEnd
          cases notEnd
        · rw [List.getElem?_append_right inRest] at isChar
          obtain ⟨line, place, further, member, isPlace, inside⟩ :=
            ih isChar (offset + text.length + ending.length)
          exact ⟨line, place, further, List.mem_cons_of_mem _ member, by omega, inside⟩

end Pieces

/-- The pass for lists over a text whose lines are items classifies just these. -/
theorem Rule.Seeks.join_applyRule {rule : Rule} (seeks : rule.Seeks .lists 0 Builtin.listItem)
    {text : List Char} (ordinary : ∀ c ∈ text, isReserved c = false)
    (items : ∀ line ∈ lines text, IsItem line.text) (few : (lines text).length ≤ slotLimit) :
    Token.join (Working.tokens (({} : Stash).applyRule rule text)) =
      Token.join ((lines text).flatMap Line.itemPieces) := by
  have divides := divided_lines text
  have whole := divides.chars_itemPieces
  have isSpans : (rule.spans text).map (fun span => (span, rule.tokenClass)) =
      spansOf [] [.operator] 0 ((lines text).flatMap Line.itemPieces) := by
    rw [Rule.spans, seeks.matcher, seeks.group, seeks.tokenClass,
      Matcher.allMatches_ofPattern rfl rfl]
    exact Builtin.itemSpans_scan divides items none 0 rfl
  have each : ∀ token ∈ (lines text).flatMap Line.itemPieces, token.tokenClass.isSome →
      token.tokenClass = some .operator ∧ token.text ≠ "" := by
    intro token member isClassified
    obtain ⟨line, isLine, inPieces⟩ := List.mem_flatMap.mp member
    simp only [Line.itemPieces, List.mem_cons, List.not_mem_nil, or_false] at inPieces
    rcases inPieces with rfl | rfl
    · exact ⟨rfl, by simpa [Line.item, Token.classified] using (items line isLine).ne_nil⟩
    · cases isClassified
  have joined := Stash.join_replaceSpans (whole.symm ▸ ordinary) each
    ((countP_itemPieces_le (lines text)).trans few)
  rw [whole, ← isSpans, ← Stash.applyRule_eq_replaceSpans] at joined
  exact joined

namespace Builtin

section Markdown

variable {text : String} (ordinary : ∀ c ∈ text.toList, isReserved c = false)
  (items : ∀ line ∈ lines text.toList, IsItem line.text)
include ordinary items

/-- Without two stars, the rules in front of the one for lists find nothing, and the lines are
items. -/
theorem mem_tokenize_markdown (few : (lines text.toList).length ≤ slotLimit)
    (oneStar : text.toList.count '*' ≤ 1) : ∀ item ∈ itemsFrom 0 (lines text.toList),
      item ∈ Token.placedFrom 0 (markdown.tokenize text) := by
  obtain ⟨headers, bold, italic, links, lists, lower, isRules, headersSeek, boldSeek, italicSeek,
    linksSeek, listsSeek⟩ := exists_rules_markdown
  have clear := clear_of_divided (divided_lines text.toList) items
  have nothing : ∀ rule ∈ [headers, bold, italic, links], rule.spans text.toList = [] := by
    simp only [List.forall_mem_cons, List.not_mem_nil, false_implies, implies_true, and_true]
    exact ⟨spans_headers_eq_nil clear headersSeek, spans_bold_eq_nil clear boldSeek,
      spans_italic_eq_nil clear italicSeek oneStar, spans_links_eq_nil clear linksSeek⟩
  have isRules : markdown.rules = ([headers, bold, italic, links] ++ [lists]) ++ lower := by
    rw [isRules, List.append_assoc, List.singleton_append]
  intro item member
  have isClassified := isSome_of_mem_itemsFrom member
  apply Language.mem_placedFrom_tokenize isRules (Stash.protect_of_ordinary ordinary) isClassified
  have isBefore : Working.applyRules ({}, text.toList) [headers, bold, italic, links] =
      ({}, text.toList) := Working.applyRules_of_nil nothing
  rw [Working.applyRules_append, isBefore, ← Token.mem_placedFrom_join isClassified]
  have joined := listsSeek.join_applyRule ordinary items few
  have inPieces := mem_placedFrom_of_mem_itemsFrom member
  rw [← Token.mem_placedFrom_join isClassified, ← joined] at inPieces
  exact inPieces

/-- Of two stars, the first one is in no item. -/
theorem count_star_le_one (all : ∀ item ∈ itemsFrom 0 (lines text.toList),
    item ∈ Token.placedFrom 0 (markdown.tokenize text)) : text.toList.count '*' ≤ 1 := by
  obtain ⟨headers, bold, italic, links, lists, lower, isRules, headersSeek, boldSeek, italicSeek,
    linksSeek, listsSeek⟩ := exists_rules_markdown
  have clear := clear_of_divided (divided_lines text.toList) items
  have nothing : ∀ rule ∈ [headers, bold], rule.spans text.toList = [] := by
    simp only [List.forall_mem_cons, List.not_mem_nil, false_implies, implies_true, and_true]
    exact ⟨spans_headers_eq_nil clear headersSeek, spans_bold_eq_nil clear boldSeek⟩
  have isRules : markdown.rules = [headers, bold] ++ italic :: (links :: lists :: lower) := isRules
  have found := Stash.protect_of_ordinary ordinary
  have isBefore : Working.applyRules ({}, text.toList) [headers, bold] = ({}, text.toList) :=
    Working.applyRules_of_nil nothing
  by_contra many
  obtain ⟨index, isStar, span, isSpan, start_le, lt_stop⟩ :=
    exists_span_of_two_stars clear italicSeek (Nat.lt_of_not_le many)
  have notLeft : span.leavesBlank text.toList index = false := by
    have noneReserved : (span.slice text.toList).any isReserved = false := by
      rw [List.any_eq_false]
      intro c member
      simp [ordinary c (List.mem_of_mem_drop (List.mem_of_mem_take member))]
    rw [Span.leavesBlank, leavesBlank, noneReserved, Bool.false_and]
  have isPlace : Working.placeOf (({} : Stash), text.toList) index = index := by
    have inText := (List.getElem?_eq_some_iff.mp isStar).1
    simpa using @Working.placeOf_of_ordinary {} [] text.toList [] index ordinary inText.le
  have owner := Language.owner?_tokenize isRules found (by rwa [isBefore]) start_le lt_stop
    (by rwa [isBefore]) (show isReserved '*' = false by decide) (by rwa [isBefore])
  obtain ⟨line, place, further, member, isIndex, inside⟩ :=
    (divided_lines text.toList).exists_item isStar (by decide) 0
  rw [isBefore, isPlace, ← Nat.zero_add index, isIndex,
    Token.owner?_of_mem_placedFrom rfl (all _ member)
      (by simpa [Line.item, Token.classified] using inside), italicSeek.tokenClass] at owner
  rcases owner with isPlain | isItalic
  · cases isPlain
  · cases isItalic

end Markdown

end Builtin

namespace Highlighter

/-- In Markdown, lines that begin with a marker and have words behind it are items of lists, each as
a whole, just if there are no two stars among the markers. -/
theorem items_tokenize_iff {text : String} (ordinary : ∀ c ∈ text.toList, isReserved c = false)
    (items : ∀ line ∈ lines text.toList, IsItem line.text)
    (few : (lines text.toList).length ≤ slotLimit) (classPrefix : String) :
    let tokens := tokenize { catalog := .builtin, classPrefix } text "md"
    (∀ item ∈ itemsFrom 0 (lines text.toList), item ∈ Token.placedFrom 0 tokens) ↔
      text.toList.count '*' ≤ 1 := by
  intro tokens
  have isTokens : tokens = Builtin.markdown.tokenize text :=
    Builtin.Named.markdown.tokenize text classPrefix
  rw [isTokens]
  constructor
  · exact Builtin.count_star_le_one ordinary items
  · exact Builtin.mem_tokenize_markdown ordinary items few

/-- All three markers, and lines that end in different ways. -/
theorem items_tokenize_iff_markers :
    (∀ c ∈ "- a\r\n\t* b 2\n+  c".toList, isReserved c = false) ∧
      (∀ line ∈ lines "- a\r\n\t* b 2\n+  c".toList, IsItem line.text) ∧
      (lines "- a\r\n\t* b 2\n+  c".toList).length ≤ slotLimit ∧
      ∀ item ∈ [(0, Token.classified .operator "- a"), (5, .classified .operator "\t* b 2"),
          (12, .classified .operator "+  c")],
        item ∈ Token.placedFrom 0
          (tokenize { catalog := .builtin } "- a\r\n\t* b 2\n+  c" "md") := by
  have ordinary : ∀ c ∈ "- a\r\n\t* b 2\n+  c".toList, isReserved c = false := by
    simp [isReserved]
  have isLines : lines "- a\r\n\t* b 2\n+  c".toList =
      [⟨"- a".toList, ['\r', '\n']⟩, ⟨"\t* b 2".toList, ['\n']⟩, ⟨"+  c".toList, []⟩] := by
    decide +kernel
  have items : ∀ line ∈ lines "- a\r\n\t* b 2\n+  c".toList, IsItem line.text := by
    rw [isLines]
    simp only [List.forall_mem_cons, List.not_mem_nil, false_implies, implies_true, and_true]
    refine ⟨?_, ?_, ?_⟩
    · exact @IsItem.intro [] [' '] [] '-' 'a' (by simp) (by simp) (by simp) (by simp [isBlank])
        (by decide) (by simp)
    · exact @IsItem.intro ['\t'] [' '] [' ', '2'] '*' 'b' (by simp [isBlank]) (by simp) (by simp)
        (by simp [isBlank]) (by decide) (by simp [isDigit, isAsciiDigit])
    · exact @IsItem.intro [] [' ', ' '] [] '+' 'c' (by simp) (by simp) (by simp) (by simp [isBlank])
        (by decide) (by simp)
  have few : (lines "- a\r\n\t* b 2\n+  c".toList).length ≤ slotLimit := by
    rw [isLines]
    decide
  have all := (items_tokenize_iff ordinary items few defaultClassPrefix).mpr (by decide)
  rw [isLines] at all
  exact ⟨ordinary, items, few, all⟩

/-- Two items that begin with stars: what is between the stars is italic text. -/
theorem not_items_tokenize_stars :
    (∀ c ∈ "* a\n* b".toList, isReserved c = false) ∧
      (∀ line ∈ lines "* a\n* b".toList, IsItem line.text) ∧
      (lines "* a\n* b".toList).length ≤ slotLimit ∧
      ¬∀ item ∈ itemsFrom 0 (lines "* a\n* b".toList),
        item ∈ Token.placedFrom 0 (tokenize { catalog := .builtin } "* a\n* b" "md") := by
  have ordinary : ∀ c ∈ "* a\n* b".toList, isReserved c = false := by simp [isReserved]
  have isLines : lines "* a\n* b".toList = [⟨"* a".toList, ['\n']⟩, ⟨"* b".toList, []⟩] := by
    decide +kernel
  have items : ∀ line ∈ lines "* a\n* b".toList, IsItem line.text := by
    rw [isLines]
    simp only [List.forall_mem_cons, List.not_mem_nil, false_implies, implies_true, and_true]
    constructor
    · exact @IsItem.intro [] [' '] [] '*' 'a' (by simp) (by simp) (by simp) (by simp [isBlank])
        (by decide) (by simp)
    · exact @IsItem.intro [] [' '] [] '*' 'b' (by simp) (by simp) (by simp) (by simp [isBlank])
        (by decide) (by simp)
  refine ⟨ordinary, items, by rw [isLines]; decide, fun all => ?_⟩
  rw [Builtin.Named.markdown.tokenize] at all
  exact absurd (Builtin.count_star_le_one ordinary items all) (by decide)

end Highlighter

end Tint
