import Tint.Proofs.Comments.Scan
import Tint.Proofs.Config.Extends
import Tint.Proofs.Stash.OfClass
import Tint.Proofs.Tokenized

/-!
# Line comments

Comments come first in the order of precedence, so their rule sees the text itself, and finds the
suffix of each line from the first marker on, whatever else is in the line.  There is a placeholder
for each of them, unless there are more lines than placeholders.  Later rules leave comments alone
and make none.
-/

namespace Tint

open Tint.Regex

/-! ## The first pass -/

/-- A rule for the comments that a marker begins. -/
structure Rule.FindsComments (rule : Rule) (marker : List Char) : Prop where
  category : rule.category = .comments
  tokenClass : rule.tokenClass = .comment
  group : rule.group = 0
  matcher : rule.matcher = .ofPattern (lineComment marker)

/-- A marker is there, and does not go past the end of a line. -/
structure IsMarker (marker : List Char) : Prop where
  nonempty : marker ≠ []
  inLine : ∀ c ∈ marker, isLineEnd c = false

section First

variable {marker : List Char}

theorem steady_lineComment (marker : List Char) : (lineComment marker).steady = true := by
  induction marker with
  | nil => rfl
  | cons c marker ih =>
      rw [lineComment_cons, Pattern.steady, ih]
      rfl

/-- The spans of the rule are those of the comments of lines. -/
theorem Rule.FindsComments.spans_eq {rule : Rule} (finds : rule.FindsComments marker)
    (isMarker : IsMarker marker) (text : List Char) :
    (rule.spans text).map (fun span => (span, rule.tokenClass)) =
      spansOf [] [.comment] 0 ((lines text).flatMap (Line.pieces marker)) := by
  rw [Rule.spans, finds.matcher, finds.group, finds.tokenClass,
    Matcher.allMatches_ofPattern (steady_lineComment marker)
      (nullable_lineComment isMarker.nonempty)]
  exact commentSpans_scan isMarker.inLine isMarker.nonempty (divided_lines text) none 0

/-- Comments are all that the pieces of a line have of their class. -/
theorem ofClassFrom_pieces (lines : List Line) (offset : Nat) :
    Token.ofClassFrom .comment offset (lines.flatMap (Line.pieces marker)) =
      commentsFrom marker offset lines := by
  induction lines generalizing offset with
  | nil => rfl
  | cons line later ih =>
      rw [List.flatMap_cons, Token.ofClassFrom_append, Line.chars_pieces, ih, commentsFrom,
        List.length_append, ← Nat.add_assoc, Line.pieces]
      cases found : line.comment? marker with
      | none =>
          rw [Token.ofClassFrom_eq_nil (by simp [Token.plain])]
          rfl
      | some comment =>
          have plain (text : String) : (Token.plain text).tokenClass ≠ some .comment := by
            simp [Token.plain]
          dsimp only
          rw [Token.ofClassFrom_cons_of_ne (plain _), Token.ofClassFrom_cons_of_eq rfl,
            Token.ofClassFrom_cons_of_ne (plain _)]
          simp [Token.plain]

/-- There are no more comments than lines. -/
theorem countP_pieces_le (marker : List Char) (lines : List Line) :
    (lines.flatMap (Line.pieces marker)).countP (·.isIn [.comment]) ≤ lines.length := by
  induction lines with
  | nil => exact le_rfl
  | cons line later ih =>
      have one : (line.pieces marker).countP (·.isIn [.comment]) ≤ 1 := by
        rw [Line.pieces]
        split
        · exact Nat.zero_le 1
        · exact le_rfl
      rw [List.flatMap_cons, List.countP_append, List.length_cons]
      omega

/-- A piece is plain or a comment. -/
theorem plain_or_comment_of_mem_pieces {lines : List Line} {token : Token}
    (member : token ∈ lines.flatMap (Line.pieces marker)) :
    token.tokenClass = none ∨ ∃ line : Line, ∃ comment, line.comment? marker = some comment ∧
      token = .classified .comment (String.ofList comment) := by
  obtain ⟨line, -, inPieces⟩ := List.mem_flatMap.mp member
  rw [Line.pieces] at inPieces
  cases found : line.comment? marker with
  | none =>
      simp only [found, List.mem_cons, List.not_mem_nil, or_false] at inPieces
      rcases inPieces with rfl | rfl
      · exact .inl rfl
      · exact .inl rfl
  | some comment =>
      simp only [found, List.mem_cons, List.not_mem_nil, or_false] at inPieces
      rcases inPieces with rfl | rfl | rfl
      · exact .inl rfl
      · exact .inr ⟨line, comment, found, rfl⟩
      · exact .inl rfl

theorem text_ne_empty_of_mem_pieces (isMarker : IsMarker marker) {lines : List Line}
    {token : Token} (member : token ∈ lines.flatMap (Line.pieces marker))
    (isComment : token.isIn [.comment] = true) : token.text ≠ "" := by
  rcases plain_or_comment_of_mem_pieces member with isPlain | ⟨line, comment, found, rfl⟩
  · simp [Token.isIn, isPlain] at isComment
  · obtain ⟨behind, rfl⟩ := Line.prefix_of_comment? found
    have nonempty := isMarker.nonempty
    simp [Token.classified, nonempty]

/-- The pass of the rule over a text, if there are placeholders for the comments of all lines,
classifies just these. -/
theorem Rule.FindsComments.ofClassFrom_applyRule {rule : Rule} (finds : rule.FindsComments marker)
    (isMarker : IsMarker marker) {text : List Char} (ordinary : ∀ c ∈ text, isReserved c = false)
    (few : (lines text).length ≤ slotLimit) :
    Token.ofClassFrom .comment 0 (Working.tokens (({} : Stash).applyRule rule text)) =
      commentsFrom marker 0 (lines text) := by
  have whole : Token.chars ((lines text).flatMap (Line.pieces marker)) = text :=
    (divided_lines text).chars_pieces marker
  have each : ∀ token ∈ (lines text).flatMap (Line.pieces marker), token.tokenClass.isSome →
      token.tokenClass = some .comment ∧ token.text ≠ "" := by
    intro token member isClassified
    rcases plain_or_comment_of_mem_pieces member with isPlain | ⟨line, comment, -, rfl⟩
    · simp [isPlain] at isClassified
    · exact ⟨rfl, text_ne_empty_of_mem_pieces isMarker member rfl⟩
  have joined := Stash.join_replaceSpans (whole.symm ▸ ordinary) each
    ((countP_pieces_le marker (lines text)).trans few)
  rw [whole, ← finds.spans_eq isMarker, ← Stash.applyRule_eq_replaceSpans] at joined
  calc Token.ofClassFrom .comment 0 (Working.tokens (({} : Stash).applyRule rule text))
      = Token.ofClassFrom .comment 0
          (Token.join (Working.tokens (({} : Stash).applyRule rule text))) := by
        rw [Token.join, Token.ofClassFrom_joinFrom]
        rfl
    _ = Token.ofClassFrom .comment 0
          (Token.join ((lines text).flatMap (Line.pieces marker))) := by
        rw [← joined]
        rfl
    _ = commentsFrom marker 0 (lines text) := by
        rw [Token.join, Token.ofClassFrom_joinFrom]
        exact ofClassFrom_pieces (lines text) 0

/-- If the rule for comments comes first and no other one classifies comments, the comments of a
text are those of its lines. -/
theorem Language.ofClassFrom_comment_tokenize {language : Language} {rule : Rule}
    {lower : List Rule} (isRules : language.rules = rule :: lower)
    (finds : rule.FindsComments marker) (isMarker : IsMarker marker)
    (others : ∀ other ∈ lower, other.tokenClass ≠ .comment) {text : String}
    (ordinary : ∀ c ∈ text.toList, isReserved c = false)
    (few : (lines text.toList).length ≤ slotLimit) :
    Token.ofClassFrom .comment 0 (language.tokenize text) =
      commentsFrom marker 0 (lines text.toList) := by
  have linked : Consistent (({} : Stash), text.toList) := .of_ordinary ordinary
  have first := linked.putsAway (Stash.applyRule_putsAway rule {} text.toList)
  have all := linked.putsAway (Working.applyRules_putsAway language.rules _)
  rw [Language.tokenize_of_protect (Stash.protect_of_ordinary ordinary), all.resolve_eq_join,
    Token.join, Token.ofClassFrom_joinFrom, isRules]
  exact (Working.ofClassFrom_applyRules first others).trans
    (finds.ofClassFrom_applyRule isMarker ordinary few)

end First

/-! ## Languages with line comments -/

namespace Builtin

/-- Rules that can be made of something have a category, and the class that goes with it. -/
def Makes (category : Category) (read : Read Rule) : Prop :=
  ∀ rule, read = .ok rule → rule.category = category ∧ rule.tokenClass = category.defaultClass

theorem makes_ofSource (category : Category) (source : RuleSource) :
    Makes category (Rule.ofSource category source) := by
  intro rule made
  obtain ⟨isCategory, -, isClass, -⟩ := Rule.ofSource_ok made
  exact ⟨isCategory, isClass⟩

theorem makes_contextRule (category : Category) (pattern : String) :
    Makes category (contextRule category pattern) := by
  intro rule made
  obtain ⟨whole, isRule, rfl⟩ := map_eq_ok.mp made
  exact makes_ofSource category _ whole isRule

/-- Rules that do not classify comments. -/
def MakesOther (read : Read Rule) : Prop :=
  ∃ category : Category, Makes category read ∧ category.defaultClass ≠ .comment

theorem makesOther_ofSource {category : Category} (differ : category.defaultClass ≠ .comment)
    (source : RuleSource) : MakesOther (Rule.ofSource category source) :=
  ⟨category, makes_ofSource category source, differ⟩

theorem makesOther_contextRule {category : Category} (differ : category.defaultClass ≠ .comment)
    (pattern : String) : MakesOther (contextRule category pattern) :=
  ⟨category, makes_contextRule category pattern, differ⟩

/-- The rule for line comments, of a pattern that is read as it should be. -/
theorem exists_lineRule {text : String} {marker : List Char}
    (isRead : Pattern.read { multiLine := true, carriageReturn := true } text.toList =
      .ok (lineComment marker)) :
    ∃ rule, lineRule .comments text = .ok rule ∧ rule.FindsComments marker := by
  have isMatcher : RuleSource.matcher { text, multiLine := true } =
      .ok (.ofPattern (lineComment marker)) := by
    rw [RuleSource.matcher, Matcher.ofText, isRead]
    rfl
  have readable : (lineRule .comments text).toOption.isSome :=
    Rule.ofSource_isSome .comments (by rw [isMatcher]; rfl)
  obtain ⟨rule, isRule⟩ := Option.isSome_iff_exists.mp readable
  rw [toOption_eq_some] at isRule
  obtain ⟨isCategory, isSource, isClass, isGroup⟩ := Rule.ofSource_ok isRule
  refine ⟨rule, isRule, isCategory, isClass, isGroup, ?_⟩
  have own := rule.matcher_eq
  rw [isSource, isMatcher] at own
  exact (Except.ok.inj own).symm

section Rules

variable {name : String} {aliases : List String} {rules : List (Read Rule)} {rule : Rule}

theorem ok_mem_of_mem_rules (member : rule ∈ (language name aliases rules).rules) :
    .ok rule ∈ rules := by
  rw [language_eq_foldl, Language.foldl_addRule] at member
  rcases mem_or_mem_of_mem_foldl_insertRule member with none | given
  · cases none
  · obtain ⟨read, isGiven, isRule⟩ := List.mem_filterMap.mp given
    rwa [← toOption_eq_some.mp isRule]

/-- Among rules for other categories, the rule for comments is the one that a language has. -/
theorem mem_rules (isComments : rule.category = .comments) (member : .ok rule ∈ rules)
    (others : ∀ read ∈ rules, read = .ok rule ∨ MakesOther read) :
    rule ∈ (language name aliases rules).rules := by
  have inFilter : rule ∈ (rules.filterMap Except.toOption).filter (·.category == .comments) :=
    List.mem_filter.mpr ⟨List.mem_filterMap.mpr ⟨_, member, rfl⟩, by simpa using isComments⟩
  have only : ∀ other ∈ (rules.filterMap Except.toOption).filter (·.category == .comments),
      other = rule := by
    intro other isOther
    obtain ⟨given, otherComments⟩ := List.mem_filter.mp isOther
    obtain ⟨read, isGiven, isRead⟩ := List.mem_filterMap.mp given
    rw [toOption_eq_some] at isRead
    rcases others read isGiven with isRule | ⟨category, makes, differ⟩
    · exact Except.ok.inj (isRead.symm.trans isRule)
    · have isCategory : category = .comments :=
        (makes other isRead).1.symm.trans (beq_iff_eq.mp otherComments)
      exact absurd (by rw [isCategory]; rfl) differ
  have found : (language name aliases rules).rule? .comments = some rule := by
    rw [language_eq_foldl, Language.rule?_foldl_addRule]
    generalize (rules.filterMap Except.toOption).filter (·.category == .comments) = row at *
    cases isLast : row.getLast? with
    | none => exact absurd (List.getLast?_eq_none_iff.mp isLast) (List.ne_nil_of_mem inFilter)
    | some last => rw [only last (List.mem_of_getLast? isLast), Option.some_or]
  exact List.mem_of_find?_eq_some found

/-- A language with a rule for comments and with others has that rule first. -/
theorem exists_rules_eq_cons (isComments : rule.category = .comments) (member : .ok rule ∈ rules)
    (others : ∀ read ∈ rules, read = .ok rule ∨ MakesOther read) :
    ∃ lower, (language name aliases rules).rules = rule :: lower ∧
      ∀ other ∈ lower, other.tokenClass ≠ .comment := by
  have ordered : InOrder (language name aliases rules).rules := by
    rw [language_eq_foldl, Language.foldl_addRule]
    exact InOrder.foldl_insertRule .nil _
  have inRules : rule ∈ (language name aliases rules).rules := mem_rules isComments member others
  have each (other : Rule) : other ∈ (language name aliases rules).rules → .ok other ∈ rules :=
    ok_mem_of_mem_rules
  generalize (language name aliases rules).rules = row at *
  cases row with
  | nil => cases inRules
  | cons first lower =>
      obtain ⟨behind, -⟩ := List.pairwise_cons.mp ordered
      have isFirst : rule = first := by
        rcases List.mem_cons.mp inRules with isFirst | later
        · exact isFirst
        · have before := behind rule later
          rw [isComments] at before
          exact absurd before (Nat.not_lt_zero _)
      subst isFirst
      refine ⟨lower, rfl, fun other isLower => ?_⟩
      rcases others _ (each other (List.mem_cons_of_mem _ isLower)) with same | makesOther
      · cases same
        exact absurd (behind rule isLower) (lt_irrefl _)
      · obtain ⟨category, makes, differ⟩ := makesOther
        rw [(makes other rfl).2]
        exact differ

end Rules

/-- A language has line comments with a marker: their rule comes first, and no other one classifies
comments. -/
structure HasLineComments (language : Language) (marker : List Char) : Prop where
  isMarker : IsMarker marker
  first : ∃ rule lower, language.rules = rule :: lower ∧ rule.FindsComments marker ∧
    ∀ other ∈ lower, other.tokenClass ≠ .comment

/-- A language that is made of a rule for line comments and of others has line comments. -/
theorem hasLineComments_language {name pattern : String} {aliases : List String}
    {rules : List (Read Rule)} {marker : List Char} (isMarker : IsMarker marker)
    (isRead : Pattern.read { multiLine := true, carriageReturn := true } pattern.toList =
      .ok (lineComment marker))
    (member : lineRule .comments pattern ∈ rules)
    (others : ∀ read ∈ rules, read = lineRule .comments pattern ∨ MakesOther read) :
    HasLineComments (language name aliases rules) marker := by
  obtain ⟨rule, isRule, finds⟩ := exists_lineRule isRead
  rw [isRule] at member others
  obtain ⟨lower, isRules, others⟩ := exists_rules_eq_cons finds.category member others
  exact ⟨isMarker, rule, lower, isRules, finds, others⟩

theorem hasLineComments_python : HasLineComments python ['#'] := by
  have isRead : Pattern.read { multiLine := true, carriageReturn := true } "#.*$".toList =
      .ok (lineComment ['#']) := by
    rw [← toOption_eq_some]
    decide +kernel
  rw [python]
  refine hasLineComments_language ⟨by simp, by simp [isLineEnd]⟩ isRead (by simp) ?_
  simp only [List.forall_mem_cons, List.not_mem_nil, false_implies, implies_true, and_true]
  refine ⟨.inr ?_, .inr ?_, .inr ?_, .inr ?_, .inl trivial, .inr ?_, .inr ?_⟩
  case refine_3 => exact makesOther_contextRule (by decide) _
  all_goals exact makesOther_ofSource (by decide) _

theorem hasLineComments_al : HasLineComments al ['/', '/'] := by
  have isRead : Pattern.read { multiLine := true, carriageReturn := true } "//.*$".toList =
      .ok (lineComment ['/', '/']) := by
    rw [← toOption_eq_some]
    decide +kernel
  rw [al]
  refine hasLineComments_language ⟨by simp, by simp [isLineEnd]⟩ isRead (by simp) ?_
  simp only [List.forall_mem_cons, List.not_mem_nil, false_implies, implies_true, and_true]
  refine ⟨.inr ?_, .inr ?_, .inr ?_, .inr ?_, .inl trivial, .inr ?_, .inr ?_⟩
  all_goals exact makesOther_ofSource (by decide) _

/-- The marker with which line comments of a built-in language begin. -/
inductive Marks : String → List Char → Prop where
  | python : Marks "python" ['#']
  | al : Marks "al" ['/', '/']

/-- The languages that are found under these names have line comments with these markers. -/
theorem exists_language {name : String} {marker : List Char} (marks : Marks name marker) :
    ∃ language, Catalog.builtin.get? name = some language ∧ language.strategy = .generic ∧
      HasLineComments language marker := by
  have get? {language : Language} (member : language ∈ languages) :
      Catalog.builtin.get? language.name = some language := by
    rw [Catalog.get?, Catalog.find?_builtin member]
    rfl
  cases marks with
  | python =>
      refine ⟨python, ?_, ?_, hasLineComments_python⟩
      · rw [← name_python]
        exact get? (by simp [languages])
      · rw [python, language_strategy]
  | al =>
      refine ⟨al, ?_, ?_, hasLineComments_al⟩
      · rw [← name_al]
        exact get? (by simp [languages])
      · rw [al, language_strategy]

end Builtin

namespace Highlighter

theorem tokenize_of_generic {catalog : Catalog} {name text : String} {language : Language}
    (found : catalog.get? name = some language) (generic : language.strategy = .generic)
    (nonempty : text ≠ "") (classPrefix : String) :
    Highlighter.tokenize { catalog, classPrefix } text name = language.tokenize text := by
  rw [tokenize, if_neg (by simpa using nonempty), found]
  dsimp only
  rw [generic]

/-- In the built-in languages with line comments, the comments of a text are just those of its
lines, where they are, if there are no more lines than placeholders; so no comment goes past the
end of a line. -/
theorem comments_tokenize {name : String} {marker : List Char} (marks : Builtin.Marks name marker)
    {text : String} (ordinary : ∀ c ∈ text.toList, isReserved c = false)
    (few : (lines text.toList).length ≤ slotLimit) (classPrefix : String) :
    let tokens := Highlighter.tokenize { catalog := .builtin, classPrefix } text name
    Token.ofClassFrom .comment 0 tokens = commentsFrom marker 0 (lines text.toList) ∧
      ∀ token ∈ tokens, token.tokenClass = some .comment →
        ∀ c ∈ token.text.toList, isLineEnd c = false := by
  intro tokens
  have same : Token.ofClassFrom .comment 0 tokens = commentsFrom marker 0 (lines text.toList) := by
    by_cases empty : text = ""
    · have isTokens : tokens = [] := if_pos (by simp [empty])
      rw [isTokens, empty]
      rfl
    · obtain ⟨language, found, generic, isMarker, rule, lower, isRules, finds, others⟩ :=
        Builtin.exists_language marks
      have isTokens : tokens = language.tokenize text :=
        tokenize_of_generic found generic empty classPrefix
      rw [isTokens]
      exact language.ofClassFrom_comment_tokenize isRules finds isMarker others ordinary few
  refine ⟨same, fun token member isComment => ?_⟩
  obtain ⟨position, placed⟩ := Token.exists_mem_ofClassFrom 0 member isComment
  rw [same] at placed
  exact inLine_of_mem_commentsFrom (divided_lines text.toList).inLine placed

/-- A string with a marker in it, a marker behind a marker, and all three ends of lines. -/
theorem comments_tokenize_ends :
    Builtin.Marks "python" ['#'] ∧
      Token.ofClassFrom .comment 0
          (Highlighter.tokenize { catalog := .builtin } "s = \"#1\"\r\n#2 # 3\rif\n\n#" "python") =
        [(5, .classified .comment "#1\""), (10, .classified .comment "#2 # 3"),
          (21, .classified .comment "#")] := by
  have few : (lines "s = \"#1\"\r\n#2 # 3\rif\n\n#".toList).length ≤ slotLimit := by decide +kernel
  refine ⟨.python, (comments_tokenize .python (by simp [isReserved]) few _).1.trans ?_⟩
  decide +kernel

end Highlighter

end Tint
