import Tint.Proofs.Comments
import Tint.Proofs.Exhausted
import Tint.Proofs.FirstClaim
import Tint.Proofs.Language.Canonical
import Tint.Proofs.NormalForm
import Tint.Proofs.Regex.Taken
import Tint.Proofs.Stash.Replaced

/-!
# The rules of built-in languages

A built-in language is given by its rules in some order, each for another category, and has them in
the order of precedence.  What a rule finds in a text is told by the pattern that its source is read
as.
-/

namespace Tint

open Tint.Regex

/-- The characters of a span, and those next to it, are such as the pattern can have there. -/
structure Regex.Pattern.Fits (pattern : Pattern) (text : List Char) (span : Span) : Prop where
  nonempty : span.start < span.stop
  takes : ∀ index c, span.start ≤ index → index < span.stop → text[index]? = some c →
    pattern.takes c = true
  opens : pattern.opens (text.take span.start).getLast? text[span.start]? = true
  closes : pattern.closes (text.take span.stop).getLast? text[span.stop]? = true

namespace Regex.Pattern.Fits

variable {pattern : Pattern} {text : List Char} {span : Span} {a b : Char}

theorem getLast?_take {place : Nat} (isPrevious : text[place - 1]? = some a) (behind : 0 < place) :
    (text.take place).getLast? = some a := by
  rw [List.getLast?_take, if_neg (by omega), isPrevious, Option.some_or]

/-- A span that starts behind a character begins between it and its own first one. -/
theorem opens_between (fits : pattern.Fits text span) (behind : 0 < span.start)
    (isPrevious : text[span.start - 1]? = some a) (isFirst : text[span.start]? = some b) :
    pattern.opens (some a) (some b) = true := by
  have opens := fits.opens
  rwa [getLast?_take isPrevious behind, isFirst] at opens

/-- A span that stops in front of a character ends between its own last one and that one. -/
theorem closes_between (fits : pattern.Fits text span) (isLast : text[span.stop - 1]? = some a)
    (isNext : text[span.stop]? = some b) : pattern.closes (some a) (some b) = true := by
  have closes := fits.closes
  rwa [getLast?_take isLast (Nat.zero_lt_of_lt fits.nonempty), isNext] at closes

end Regex.Pattern.Fits

/-- A rule for what a pattern can take, or a group of it, under the class of its category. -/
structure Rule.Seeks (rule : Rule) (category : Category) (group : Nat) (pattern : Pattern) :
    Prop where
  tokenClass : rule.tokenClass = category.defaultClass
  category : rule.category = category
  group : rule.group = group
  matcher : rule.matcher = .ofPattern pattern
  scannable : pattern.Scannable

namespace Rule.Seeks

variable {rule : Rule} {category : Category} {group : Nat} {pattern : Pattern}
  {text front taken rest : List Char}

theorem makes (seeks : rule.Seeks category group pattern) :
    Builtin.Makes category (.ok rule) := by
  rintro _ ⟨rfl⟩
  exact ⟨seeks.category, seeks.tokenClass⟩

/-- Where the pattern can take nothing, the rule finds nothing. -/
theorem spans_eq_nil (seeks : rule.Seeks category group pattern)
    (never : ∀ front taken rest, text = front ++ taken ++ rest →
      ¬pattern.Takes (lastOf none front) taken rest) : rule.spans text = [] := by
  have noMatch : rule.matcher.allMatches text = [] := by
    rw [List.eq_nil_iff_forall_not_mem, seeks.matcher]
    intro found member
    obtain ⟨front, taken, rest, split, -, -, takes⟩ := seeks.scannable.exists_takes member
    exact never front taken rest split takes
  rw [Rule.spans, noMatch, List.filterMap_nil]

/-- A pattern that takes some character finds nothing in a text without that character. -/
theorem spans_eq_nil_of_notMem (seeks : rule.Seeks category group pattern) {c : Char}
    (needs : 0 < pattern.least c) (missing : c ∉ text) : rule.spans text = [] := by
  apply seeks.spans_eq_nil
  intro front taken rest split takes
  have inTaken : c ∈ taken := List.count_pos_iff.mp (needs.trans_le (takes.least_le c))
  exact missing (by simp [split, inTaken])

/-- A pattern that begins with one of some characters finds nothing in a text without them. -/
theorem spans_eq_nil_of_opens (seeks : rule.Seeks category group pattern) {signs : List Char}
    (opens : ∀ before after, pattern.opens before after = true → ∃ c ∈ signs, after = some c)
    (missing : ∀ c ∈ signs, c ∉ text) : rule.spans text = [] := by
  apply seeks.spans_eq_nil
  intro front taken rest split takes
  obtain ⟨c, isSign, isHead⟩ := opens _ _ takes.opens
  refine missing c isSign ?_
  rw [split, List.append_assoc]
  exact List.mem_append_right _ (List.mem_of_head? isHead)

/-- A rule for whole matches finds what the pattern can take. -/
theorem exists_takes (seeks : rule.Seeks category 0 pattern) {span : Span}
    (isSpan : span ∈ rule.spans text) :
    ∃ front taken rest, text = front ++ taken ++ rest ∧ span.start = front.length ∧
      span.stop = front.length + taken.length ∧ pattern.Takes (lastOf none front) taken rest := by
  rw [Rule.spans, seeks.matcher, seeks.group] at isSpan
  obtain ⟨found, member, isFound⟩ := List.mem_filterMap.mp isSpan
  obtain ⟨isWhole, -⟩ := Option.filter_eq_some_iff.mp isFound
  obtain ⟨front, taken, rest, split, isStart, isStop, takes⟩ :=
    seeks.scannable.exists_takes member
  cases isWhole
  exact ⟨front, taken, rest, split, isStart, isStop.trans List.length_append, takes⟩

theorem fits (seeks : rule.Seeks category 0 pattern) {span : Span}
    (isSpan : span ∈ rule.spans text) : pattern.Fits text span := by
  have nonempty := (rule.spans_ordered text).nonempty span isSpan
  obtain ⟨front, taken, rest, rfl, isStart, isStop, takes⟩ := seeks.exists_takes isSpan
  have isStop' : span.stop = (front ++ taken).length := by rw [isStop, List.length_append]
  refine ⟨nonempty, fun index c start_le lt_stop isChar => ?_, ?_, ?_⟩
  · rw [List.append_assoc, List.getElem?_append_right (by omega),
      List.getElem?_append_left (by omega)] at isChar
    exact takes.allowed c (List.mem_of_getElem? isChar)
  · have opens := takes.opens
    rw [isStart, List.append_assoc, List.take_left, List.getElem?_append_right le_rfl, Nat.sub_self,
      ← List.head?_eq_getElem?]
    simpa [lastOf] using opens
  · have closes := takes.closes
    rw [isStop', List.take_left, List.getElem?_append_right le_rfl, Nat.sub_self,
      ← List.head?_eq_getElem?]
    simpa [lastOf, List.getLast?_append] using closes

/-- Where the pattern can take something, the rule finds a span. -/
theorem exists_span (seeks : rule.Seeks category 0 pattern)
    (takes : pattern.Takes (lastOf none front) taken rest) :
    ∃ span ∈ rule.spans (front ++ taken ++ rest),
      span.start ≤ front.length ∧ front.length < span.stop := by
  obtain ⟨found, member, start_le, lt_stop⟩ := seeks.scannable.exists_match takes
  refine ⟨⟨found.start, found.stop⟩, ?_, start_le, lt_stop⟩
  rw [Rule.spans, seeks.matcher, seeks.group]
  exact List.mem_filterMap.mpr
    ⟨found, member, Match.filter_group?_zero (start_le.trans_lt lt_stop)⟩

/-- What is the only thing that the pattern can take at a place is a span of the rule, if the
character in front of it is none that the pattern takes. -/
theorem mem_spans (seeks : rule.Seeks category 0 pattern)
    (takes : pattern.Takes (lastOf none front) taken rest)
    (apart : ∀ c ∈ front.getLast?, pattern.takes c = false)
    (only : ∀ other later, taken ++ rest = other ++ later →
      pattern.Takes (lastOf none front) other later → other = taken) :
    ⟨front.length, front.length + taken.length⟩ ∈ rule.spans (front ++ taken ++ rest) := by
  obtain ⟨⟨start, stop⟩, isSpan, start_le, lt_stop⟩ := seeks.exists_span takes
  obtain ⟨early, other, later, split, isStart, isStop, otherTakes⟩ := seeks.exists_takes isSpan
  simp only at start_le lt_stop isStart isStop
  subst isStart isStop
  rw [List.append_assoc, List.append_assoc] at split
  have stays : front.length ≤ early.length := by
    by_contra passed
    have inTaken : ∀ c ∈ front.getLast?, c ∈ other := by
      intro c isLast
      rw [List.getLast?_eq_getElem?] at isLast
      have isChar : (early ++ (other ++ later))[front.length - 1]? = some c := by
        rw [← split, List.getElem?_append_left (by omega)]
        exact isLast
      rw [List.getElem?_append_right (by omega), List.getElem?_append_left (by omega)] at isChar
      exact List.mem_of_getElem? isChar
    cases isLast : front.getLast? with
    | none =>
        rw [List.getLast?_eq_none_iff.mp isLast] at passed
        exact passed (Nat.zero_le _)
    | some c =>
        have cannot := apart c isLast
        rw [otherTakes.allowed c (inTaken c isLast)] at cannot
        cases cannot
  obtain ⟨rfl, sameRest⟩ := List.append_inj split (Nat.le_antisymm stays start_le)
  obtain rfl := only other later sameRest otherTakes
  exact isSpan

/-- A run that the rule puts away is a part of what the pattern takes.  It goes from one end or from
a placeholder to the other end or to the next placeholder. -/
theorem exists_takes_of_isRun (seeks : rule.Seeks category 0 pattern) {run back : List Char}
    (isRun : rule.IsRun (front ++ (run ++ back)) front.length (front.length + run.length)) :
    ∃ before early late after, front = before ++ early ∧ back = late ++ after ∧
      pattern.Takes (lastOf none before) (early ++ run ++ late) after ∧
      (∀ c ∈ early.getLast?, isReserved c = true) ∧ ∀ c ∈ late.head?, isReserved c = true := by
  obtain ⟨span, isSpan, start_le, le_stop, frontEnds, backBegins⟩ := isRun
  obtain ⟨before, taken, after, split, isStart, isStop, takes⟩ := seeks.exists_takes isSpan
  rw [isStart] at start_le frontEnds
  rw [isStop] at le_stop backBegins
  rw [List.append_assoc] at split
  obtain ⟨early, rfl, isTaken⟩ := exists_between split.symm start_le
  rw [← List.append_assoc] at isTaken
  obtain ⟨late, rfl, rfl⟩ := exists_between isTaken.symm (by simp at le_stop ⊢; omega)
  refine ⟨before, early, late, after, rfl, rfl, takes, fun c isLast => ?_, fun c isHead => ?_⟩
  · have someEarly : early ≠ [] := by
      rintro rfl
      simp at isLast
    have inside : before.length < (before ++ early).length := by
      have some := List.length_pos_iff.mpr someEarly
      rw [List.length_append]
      omega
    refine frontEnds inside c ?_
    rwa [List.take_left, List.getLast?_append_of_ne_nil _ someEarly]
  · have someLate : late ≠ [] := by
      rintro rfl
      simp at isHead
    have inside : (before ++ early).length + run.length <
        before.length + (early ++ run ++ late).length := by
      have some := List.length_pos_iff.mpr someLate
      simp only [List.length_append]
      omega
    refine backBegins inside c ?_
    rwa [← List.append_assoc, ← List.length_append, List.drop_left,
      List.head?_append_of_ne_nil _ someLate]

end Rule.Seeks

section Language

variable {language : Language} {higher lower : List Rule} {text : String} {start : Working}

/-- The tokens of a class are those of the passes up to the last rule of the class. -/
theorem Language.ofClassFrom_tokenize (isRules : language.rules = higher ++ lower)
    {tokenClass : TokenClass} (others : ∀ other ∈ lower, other.tokenClass ≠ tokenClass)
    (found : Stash.protect text.toList = some start) :
    Token.ofClassFrom tokenClass 0 (language.tokenize text) =
      Token.ofClassFrom tokenClass 0 (start.applyRules higher).tokens := by
  have linked := Stash.protect_consistent found
  have upper := linked.putsAway (Working.applyRules_putsAway higher start)
  have all := linked.putsAway (Working.applyRules_putsAway language.rules start)
  rw [tokenize_of_protect found, all.resolve_eq_join, Token.join, Token.ofClassFrom_joinFrom,
    isRules, Working.applyRules_append]
  exact Working.ofClassFrom_applyRules upper others

/-- If some placeholder is left in the end, one is left after each pass. -/
theorem Language.next?_ne_none (isRules : language.rules = higher ++ lower)
    (found : Stash.protect text.toList = some start)
    (few : Token.classifiedCount (language.tokenize text) + text.toList.countP isReserved <
      slotLimit) :
    (start.applyRules higher).1.next? ≠ none := by
  intro full
  have linked := Stash.protect_consistent found
  have steps := Working.applyRules_putsAway higher start
  have upper := linked.putsAway steps
  have size := upper.size_eq
  rw [upper.next?_eq_none_iff.mp full, steps.chars_eq linked, Stash.chars_protect found] at size
  rw [tokenize_of_protect found, isRules, Working.applyRules_append,
    Working.applyRules_of_full full, upper.resolve_eq_join, Token.classifiedCount_join] at few
  omega

/-- A token that some passes make is a token of the text. -/
theorem Language.mem_placedFrom_tokenize (isRules : language.rules = higher ++ lower)
    (found : Stash.protect text.toList = some start) {place : Nat} {token : Token}
    (isClassified : token.tokenClass.isSome)
    (member : (place, token) ∈ Token.placedFrom 0 (start.applyRules higher).tokens) :
    (place, token) ∈ Token.placedFrom 0 (language.tokenize text) := by
  have linked := Stash.protect_consistent found
  have upper := linked.putsAway (Working.applyRules_putsAway higher start)
  have below := (Working.applyRules_putsAway lower (start.applyRules higher)).subdivides_join upper
  have all := linked.putsAway (Working.applyRules_putsAway language.rules start)
  rw [tokenize_of_protect found, all.resolve_eq_join, isRules, Working.applyRules_append]
  exact below.mem_placedFrom isClassified ((Token.mem_placedFrom_join isClassified).mpr member)

/-- An ordinary character of a span is plain in the end, or in a token of the rule's class, unless
the rule has left it as a blank. -/
theorem Language.owner?_tokenize {rule : Rule} (isRules : language.rules = higher ++ rule :: lower)
    (found : Stash.protect text.toList = some start) {span : Span} {index : Nat} {c : Char}
    (isSpan : span ∈ rule.spans (start.applyRules higher).2) (start_le : span.start ≤ index)
    (lt_stop : index < span.stop) (isChar : (start.applyRules higher).2[index]? = some c)
    (notReserved : isReserved c = false)
    (notLeft : span.leavesBlank (start.applyRules higher).2 index = false) :
    let owner := Token.owner? (language.tokenize text) ((start.applyRules higher).placeOf index)
    owner = none ∨ owner.bind (·.2.tokenClass) = some rule.tokenClass := by
  intro owner
  have linked := Stash.protect_consistent found
  have upper := linked.putsAway (Working.applyRules_putsAway higher start)
  have all := linked.putsAway (Working.applyRules_putsAway language.rules start)
  have isOwner : owner = Token.owner? (start.applyRules language.rules).tokens
      ((start.applyRules higher).placeOf index) := by
    simp only [owner, tokenize_of_protect found]
    rw [all.resolve_eq_join, Token.owner?_join]
  rw [isRules, Working.applyRules_append] at isOwner
  generalize start.applyRules higher = before at *
  obtain ⟨stash, working⟩ := before
  have passed := Stash.applyRule_putsAway rule stash working
  have atRule := Stash.owner?_applyRule upper rule isSpan start_le lt_stop isChar notReserved
  have isPassed : Working.applyRules (stash, working) (rule :: lower) =
      Working.applyRules (stash.applyRule rule working) lower := rfl
  rw [notLeft, if_neg (by simp)] at atRule
  rw [isPassed] at isOwner
  rcases atRule with ⟨raw, full⟩ | classified
  · left
    rw [isOwner, Working.applyRules_of_full full]
    exact raw
  · right
    obtain ⟨holder, held, isClass⟩ := Option.bind_eq_some_iff.mp classified
    have steps := Working.applyRules_putsAway lower (stash.applyRule rule working)
    rw [isOwner, steps.ownersKept (upper.putsAway passed) _ _ held]
    exact isClass

end Language

namespace Builtin

/-! ## Languages by name -/

/-- The name of a built-in language with rules. -/
inductive Named : String → Language → Prop where
  | al : Named "al" al
  | sql : Named "sql" sql
  | cSharp : Named "csharp" cSharp
  | markdown : Named "md" markdown
  | css : Named "css" css

theorem Named.tokenize {name : String} {language : Language} (named : Named name language)
    (text classPrefix : String) :
    Highlighter.tokenize { catalog := .builtin, classPrefix } text name =
      language.tokenize text := by
  by_cases empty : text = ""
  · have noTokens : language.tokenize text = [] :=
      (language.tokenized text).eq_nil_iff.mpr empty
    rw [noTokens]
    exact if_pos (by simp [empty])
  · have found : Catalog.builtin.get? name = some language ∧ language.strategy = .generic := by
      have given {language : Language} (member : language ∈ languages)
          (generic : language.strategy = .generic) (isName : language.name = name) :
          Catalog.builtin.get? name = some language ∧ language.strategy = .generic := by
        rw [Catalog.get?, ← isName, Catalog.find?_builtin member]
        exact ⟨rfl, generic⟩
      cases named with
      | al => exact given (by simp [languages]) (language_strategy ..) name_al
      | sql => exact given (by simp [languages]) (language_strategy ..) name_sql
      | cSharp => exact given (by simp [languages]) (language_strategy ..) name_cSharp
      | markdown => exact given (by simp [languages]) (language_strategy ..) name_markdown
      | css => exact given (by simp [languages]) (language_strategy ..) name_css
    exact Highlighter.tokenize_of_generic found.1 found.2 empty classPrefix

/-! ## Rules of patterns that are read -/

section Read

variable {pattern : Pattern}

theorem exists_seeks (category : Category) (source : RuleSource) (scannable : pattern.Scannable)
    (isRead : Pattern.read
      { ignoreCase := source.ignoreCase, multiLine := source.multiLine, carriageReturn := true }
      source.text.toList = .ok pattern) :
    ∃ rule, Rule.ofSource category source = .ok rule ∧ rule.Seeks category 0 pattern := by
  have isMatcher : source.matcher = .ok (.ofPattern pattern) := by
    rw [RuleSource.matcher, Matcher.ofText, isRead]
    rfl
  have readable : (Rule.ofSource category source).toOption.isSome :=
    Rule.ofSource_isSome category (by rw [isMatcher]; rfl)
  obtain ⟨rule, isRule⟩ := Option.isSome_iff_exists.mp readable
  rw [toOption_eq_some] at isRule
  obtain ⟨isCategory, isSource, isClass, isGroup⟩ := Rule.ofSource_ok isRule
  have own := rule.matcher_eq
  rw [isSource, isMatcher] at own
  exact ⟨rule, isRule, isClass, isCategory, isGroup, (Except.ok.inj own).symm, scannable⟩

theorem exists_rule_seeks (category : Category) (text : String) (scannable : pattern.Scannable)
    (isRead : Pattern.read { carriageReturn := true } text.toList = .ok pattern) :
    ∃ rule : Rule, Builtin.rule category text = .ok rule ∧ rule.Seeks category 0 pattern :=
  exists_seeks category { text } scannable isRead

theorem exists_lineRule_seeks (category : Category) (text : String) (scannable : pattern.Scannable)
    (isRead : Pattern.read { multiLine := true, carriageReturn := true } text.toList =
      .ok pattern) :
    ∃ rule : Rule, lineRule category text = .ok rule ∧ rule.Seeks category 0 pattern :=
  exists_seeks category { text, multiLine := true } scannable isRead

theorem exists_contextRule_seeks (category : Category) (text : String)
    (scannable : pattern.Scannable)
    (isRead : Pattern.read { carriageReturn := true } text.toList = .ok pattern) :
    ∃ rule, contextRule category text = .ok rule ∧ rule.Seeks category 1 pattern := by
  obtain ⟨rule, isRule, seeks⟩ := exists_rule_seeks category text scannable isRead
  refine ⟨rule.withGroup 1, ?_, seeks.tokenClass, seeks.category, rfl, seeks.matcher, scannable⟩
  rw [contextRule, isRule]
  rfl

end Read

/-! ## The order of the rules -/

section Order

variable {name : String} {aliases : List String} {reads sorted : List (Read Rule)}
  {categories : List Category}

theorem mem_of_makes (makes : List.Forall₂ Makes categories sorted) {rule : Rule}
    (member : rule ∈ sorted.filterMap Except.toOption) :
    rule.category ∈ categories ∧ rule.tokenClass = rule.category.defaultClass := by
  induction makes with
  | nil => cases member
  | @cons category read categories sorted makesFirst _ ih =>
      have later (inLater : rule ∈ sorted.filterMap Except.toOption) :
          rule.category ∈ category :: categories ∧
            rule.tokenClass = rule.category.defaultClass :=
        ⟨List.mem_cons_of_mem _ (ih inLater).1, (ih inLater).2⟩
      cases read with
      | error cause => exact later member
      | ok first =>
          cases List.mem_cons.mp member with
          | inl isFirst =>
              obtain ⟨isCategory, isClass⟩ := makesFirst first rfl
              rw [isFirst]
              exact ⟨List.mem_cons.mpr (.inl isCategory), isCategory ▸ isClass⟩
          | inr inLater => exact later inLater

/-- Rules of categories in order are in order. -/
theorem inOrder_of_makes (makes : List.Forall₂ Makes categories sorted)
    (ranked : categories.Pairwise (·.rank < ·.rank)) :
    InOrder (sorted.filterMap Except.toOption) := by
  induction makes with
  | nil => exact .nil
  | @cons category read categories sorted makesFirst makesLater ih =>
      obtain ⟨behind, laterRanked⟩ := List.pairwise_cons.mp ranked
      cases read with
      | error cause => exact ih laterRanked
      | ok first =>
          refine List.pairwise_cons.mpr ⟨fun other member => ?_, ih laterRanked⟩
          rw [(makesFirst first rfl).1]
          exact behind _ (mem_of_makes makesLater member).1

theorem inOrder_language (name : String) (aliases : List String) (reads : List (Read Rule)) :
    InOrder (language name aliases reads).rules := by
  rw [language_eq_foldl, Language.foldl_addRule]
  exact InOrder.foldl_insertRule .nil _

/-- A language that is given a rule for each of some categories has these rules in the order of the
categories. -/
theorem rules_language (perm : reads.Perm sorted) (makes : List.Forall₂ Makes categories sorted)
    (ranked : categories.Pairwise (·.rank < ·.rank)) :
    (language name aliases reads).rules = sorted.filterMap Except.toOption := by
  have ordered := inOrder_of_makes makes ranked
  have given := perm.filterMap Except.toOption
  have distinct : ((reads.filterMap Except.toOption).map (·.category)).Nodup :=
    (given.map _).nodup_iff.mpr ordered.nodup_categories
  have added := inOrder_language name aliases reads
  have sameRules (rule : Rule) : rule ∈ (language name aliases reads).rules ↔
      rule ∈ sorted.filterMap Except.toOption := by
    rw [← given.mem_iff]
    constructor
    · intro member
      exact List.mem_filterMap.mpr ⟨.ok rule, ok_mem_of_mem_rules member, rfl⟩
    · intro member
      have found : (language name aliases reads).rule? rule.category = some rule := by
        have inFilter : rule ∈
            (reads.filterMap Except.toOption).filter (·.category == rule.category) :=
          List.mem_filter.mpr ⟨member, beq_self_eq_true _⟩
        rw [language_eq_foldl, Language.rule?_foldl_addRule]
        cases isLast : ((reads.filterMap Except.toOption).filter
            (·.category == rule.category)).getLast? with
        | none =>
            rw [List.getLast?_eq_none_iff.mp isLast] at inFilter
            cases inFilter
        | some last =>
            obtain ⟨lastMember, same⟩ := List.mem_filter.mp (List.mem_of_getLast? isLast)
            rw [List.inj_on_of_nodup_map distinct lastMember member (beq_iff_eq.mp same),
              Option.some_or]
      exact List.mem_of_find?_eq_some found
  apply added.ext ordered
  intro category
  apply Option.ext
  intro rule
  rw [added.find?_eq_some_iff, ordered.find?_eq_some_iff, sameRules]

end Order

end Builtin

end Tint
