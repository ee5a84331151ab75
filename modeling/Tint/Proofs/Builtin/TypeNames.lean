import Tint.Proofs.Builtin.Words

/-!
# Names of types in C#

Every name of a type in C# is a keyword, too, and the rule for keywords comes first.  So the rule
for types has nothing left to find, be a name between comments, strings or other keywords: it finds
one only when the placeholders have run out, and then it cannot put it away.
-/

namespace Tint

open Tint.Regex Tint.Unicode

namespace Builtin

/-! ## The patterns -/

/-- A verbatim string, an ordinary one, or a character. -/
def stringOrCharacter : Pattern :=
  .choice
    (.concat (.char '@') (.concat (.char '"')
      (.concat (.many (.set (.compl (.single '"')))) (.char '"'))))
    (.choice (quoted '"')
      (.concat (.char '\'') (.concat (quotedChar '\'') (.char '\''))))

theorem read_stringOrCharacter :
    Pattern.read { carriageReturn := true } CSharp.strings.toList = .ok stringOrCharacter := by
  rw [← toOption_eq_some]
  decide +kernel

theorem read_cSharpKeywords :
    Pattern.read { carriageReturn := true } (words CSharp.keywords).toList =
      .ok (anyWord CSharp.keywords) := by
  rw [toList_words, ← toOption_eq_some]
  decide +kernel

theorem read_cSharpTypes :
    Pattern.read { carriageReturn := true } (words CSharp.types).toList =
      .ok (anyWord CSharp.types) := by
  rw [toList_words, ← toOption_eq_some]
  decide +kernel

/-- The rules of C# in the order in which they are tried. -/
theorem exists_rules_cSharp :
    ∃ comments strings keywords types : Rule, ∃ lower : List Rule,
      cSharp.rules = comments :: strings :: keywords :: types :: lower ∧
      comments.Seeks .comments 0 (lineOrBlockComment ['/', '/']) ∧
      strings.Seeks .strings 0 stringOrCharacter ∧
      keywords.Seeks .keywords 0 (anyWord CSharp.keywords) ∧
      types.Seeks .types 0 (anyWord CSharp.types) ∧
      ∀ other ∈ lower, other.tokenClass ≠ .type := by
  obtain ⟨comments, isComments, commentsSeek⟩ :=
    exists_lineRule_seeks .comments "//.*$|/\\*[\\s\\S]*?\\*/" ⟨rfl, rfl⟩ read_slashOrBlockComment
  obtain ⟨strings, isStrings, stringsSeek⟩ :=
    exists_rule_seeks .strings CSharp.strings ⟨rfl, rfl⟩ read_stringOrCharacter
  obtain ⟨keywords, isKeywords, keywordsSeek⟩ :=
    exists_rule_seeks .keywords (words CSharp.keywords) ⟨by decide +kernel, by decide +kernel⟩
      read_cSharpKeywords
  obtain ⟨types, isTypes, typesSeek⟩ :=
    exists_rule_seeks .types (words CSharp.types) ⟨by decide, by decide⟩ read_cSharpTypes
  have sorted (a b c d e f g : Read Rule) : [a, b, c, d, e, f, g].Perm [e, d, a, b, c, f, g] := by
    classical
    refine List.perm_iff_count.mpr fun x => ?_
    simp only [List.count_cons]
    omega
  obtain ⟨others, makes, isRules⟩ : ∃ others : List (Read Rule),
      List.Forall₂ Makes [.functions, .numbers, .attributes] others ∧
        cSharp.rules =
          comments :: strings :: keywords :: types :: others.filterMap Except.toOption := by
    refine ⟨[contextRule .functions calledName, rule .numbers "\\b\\d+\\.?\\d*[fFdDmM]?\\b",
      rule .attributes "\\[\\w+(?:\\([^)]*\\))?\\]"], ?makes, ?isRules⟩
    case makes =>
      exact .cons (makes_contextRule _ _) (.cons (makes_ofSource _ _)
        (.cons (makes_ofSource _ _) .nil))
    case isRules =>
      rw [cSharp, isComments, isStrings, isKeywords, isTypes]
      exact rules_language (sorted _ _ _ _ _ _ _) (.cons commentsSeek.makes
        (.cons stringsSeek.makes (.cons keywordsSeek.makes (.cons typesSeek.makes
          (.cons (makes_contextRule _ _) (.cons (makes_ofSource _ _)
            (.cons (makes_ofSource _ _) .nil))))))) (by decide)
  refine ⟨comments, strings, keywords, types, _, isRules, commentsSeek, stringsSeek, keywordsSeek,
    typesSeek, fun other member => ?_⟩
  have differ : ∀ category ∈ [Category.functions, .numbers, .attributes],
      category.defaultClass ≠ .type := by decide
  obtain ⟨isCategory, isClass⟩ := mem_of_makes makes member
  rw [isClass]
  exact differ _ isCategory

theorem keepsWords_comments : (lineOrBlockComment ['/', '/']).KeepsWords where
  opens a b _ word := by
    rw [← Bool.not_eq_true]
    intro opens
    obtain rfl : b = '/' := by
      simpa [lineOrBlockComment, blockComment, lineComment, Pattern.char, Pattern.opens] using opens
    exact absurd word (by decide)
  closes a b first second := by
    rw [← Bool.not_eq_true]
    intro closes
    have isSign : (b = '\r' ∨ b = '\n' ∧ ¬a = '\r') ∨ a = '/' := by
      simpa [lineOrBlockComment, blockComment, lineComment, restOfLine, Pattern.char,
        Pattern.closes, Look.holds] using closes
    rcases isSign with (rfl | ⟨rfl, -⟩) | rfl
    · exact absurd second (by decide)
    · exact absurd second (by decide)
    · exact absurd first (by decide)

theorem keepsWords_stringOrCharacter : stringOrCharacter.KeepsWords where
  opens a b _ word := by
    rw [← Bool.not_eq_true]
    intro opens
    have isSign : b = '@' ∨ b = '"' ∨ b = '\'' := by
      simpa [stringOrCharacter, quoted, Pattern.char, Pattern.opens] using opens
    rcases isSign with rfl | rfl | rfl <;> exact absurd word (by decide)
  closes a b word _ := by
    rw [← Bool.not_eq_true]
    intro closes
    have isSign : a = '"' ∨ a = '"' ∨ a = '\'' := by
      simpa [stringOrCharacter, quoted, Pattern.char, Pattern.closes] using closes
    rcases isSign with rfl | rfl | rfl <;> exact absurd word (by decide)

/-! ## The pass for types -/

theorem mem_keywords_of_mem_types : ∀ name ∈ CSharp.types, name ∈ CSharp.keywords := by
  decide

theorem words_of_mem_types {name : String} (isType : name ∈ CSharp.types) :
    name.toList ≠ [] ∧ ∀ c ∈ name.toList, isWord c = true := by
  have each : ∀ name ∈ CSharp.types, name.toList ≠ [] ∧ name.toList.all isWord = true := by decide
  obtain ⟨nonempty, words⟩ := each name isType
  exact ⟨nonempty, by simpa using words⟩

section Types

variable {keywords types : Rule}
  (keywordsSeek : keywords.Seeks .keywords 0 (anyWord CSharp.keywords))
  (typesSeek : types.Seeks .types 0 (anyWord CSharp.types)) {working : Working}
  (linked : Consistent working)
include keywordsSeek typesSeek linked

/-- What the rule for types finds behind the one for keywords, that one has found, too. -/
theorem exists_covers_of_type {span : Span}
    (isSpan : span ∈ types.spans (Working.applyRules working [keywords]).2) :
    ∃ name ∈ CSharp.types, ∃ front back before after,
      (Working.applyRules working [keywords]).Shows isNoWord
        (Token.chars (before.map working.1.expand)).length name.toList front back ∧
      span.start = front.length ∧ span.stop = front.length + name.toList.length ∧
      working.2 = before ++ (name.toList ++ after) ∧
      ∃ covering ∈ keywords.spans working.2, covering.start ≤ before.length ∧
        before.length + name.toList.length ≤ covering.stop := by
  obtain ⟨name, isType, front, back, shows, isStart, isStop⟩ :=
    typesSeek.exists_shows (fun _ => words_of_mem_types) isSpan
  obtain ⟨nonempty, words⟩ := words_of_mem_types isType
  obtain ⟨before, after, isText, isPlace, covers | showsBefore⟩ :=
    keywordsSeek.shows_of_applyRule (keepsWords_anyWord _) linked nonempty words shows
  · exact ⟨name, isType, front, back, before, after, isPlace ▸ shows, isStart, isStop, isText,
      covers⟩
  · exact ⟨name, isType, front, back, before, after, isPlace ▸ shows, isStart, isStop, isText,
      keywordsSeek.exists_covers (mem_keywords_of_mem_types name isType) nonempty words showsBefore⟩

/-- Behind the rule for keywords, the one for types changes nothing. -/
theorem applyRules_types :
    Working.applyRules working [keywords, types] = Working.applyRules working [keywords] := by
  by_cases nothing : types.spans (Working.applyRules working [keywords]).2 = []
  · exact @Working.applyRules_of_nil (Working.applyRules working [keywords]) [types]
      (by simpa using nothing)
  · obtain ⟨span, isSpan⟩ := List.exists_mem_of_ne_nil _ nothing
    obtain ⟨name, isType, front, back, before, after, shows, -, -, isText, covering, isCovering,
      start_le, le_stop⟩ := exists_covers_of_type keywordsSeek typesSeek linked isSpan
    obtain ⟨nonempty, words⟩ := words_of_mem_types isType
    have full := shows.full_of_covers linked nonempty words isText rfl isCovering start_le le_stop
    exact Working.applyRules_of_full full [types]

end Types

section Text

variable (text : String)

/-- Nothing in C# is a type. -/
theorem tokenClass_ne_type : ∀ token ∈ cSharp.tokenize text, token.tokenClass ≠ some .type := by
  obtain ⟨comments, strings, keywords, types, lower, isRules, commentsSeek, stringsSeek,
    keywordsSeek, typesSeek, others⟩ := exists_rules_cSharp
  intro token member isType
  cases found : Stash.protect text.toList with
  | none =>
      rw [Language.tokenize, found, List.mem_singleton] at member
      subst member
      cases isType
  | some start =>
      have linked := (Stash.protect_consistent found).putsAway
        (Working.applyRules_putsAway [comments, strings] start)
      have isRules : cSharp.rules = ([comments, strings] ++ [keywords, types]) ++ lower := isRules
      have differ : ∀ rule ∈ [comments, strings] ++ [keywords], rule.tokenClass ≠ .type := by
        simp [commentsSeek.tokenClass, stringsSeek.tokenClass, keywordsSeek.tokenClass,
          Category.defaultClass]
      obtain ⟨place, placed⟩ := Token.exists_mem_ofClassFrom 0 member isType
      rw [Language.ofClassFrom_tokenize isRules others found, Working.applyRules_append,
        applyRules_types keywordsSeek typesSeek linked, ← Working.applyRules_append,
        Working.ofClassFrom_applyRules (Stash.protect_consistent found) differ,
        Stash.tokens_protect found, Token.ofClassFrom_eq_nil (by simp [Token.single, Token.plain])]
        at placed
      cases placed

variable {text}

/-- The rule for keywords has claimed whatever the rule for types claims. -/
theorem exists_keyword_claim (claim : cSharp.Claim text) (isType : claim.rule.category = .types) :
    ∃ earlier : cSharp.Claim text, earlier.rule.category = .keywords ∧
      earlier.place = claim.place := by
  obtain ⟨comments, strings, keywords, types, lower, isRules, commentsSeek, stringsSeek,
    keywordsSeek, typesSeek, -⟩ := exists_rules_cSharp
  have found := claim.start_eq
  have linked := (Stash.protect_consistent found).putsAway
    (Working.applyRules_putsAway [comments, strings] claim.start)
  have ordered : InOrder cSharp.rules := inOrder_language _ _ _
  obtain ⟨isHigher, isRule, -⟩ := ordered.split_unique claim.rules_eq
    (show cSharp.rules = ([comments, strings] ++ [keywords]) ++ types :: lower from isRules)
    (isType.trans typesSeek.category.symm)
  have isSpan := claim.isSpan
  rw [isHigher, isRule, Working.applyRules_append] at isSpan
  obtain ⟨name, isType, front, back, before, after, shows, isStart, isStop, isText, covering,
    isCovering, start_le, le_stop⟩ := exists_covers_of_type keywordsSeek typesSeek linked isSpan
  obtain ⟨-, words⟩ := words_of_mem_types isType
  have start_le_index := claim.start_le
  have index_lt_stop := claim.lt_stop
  obtain ⟨offset, isIndex⟩ : ∃ offset, claim.index = front.length + offset :=
    Nat.exists_eq_add_of_le (by omega)
  have inside : offset < name.toList.length := by omega
  have isPlace : claim.place = (Token.chars (before.map
      (claim.start.applyRules [comments, strings]).1.expand)).length + offset := by
    rw [Language.Claim.place, Language.Claim.before, isHigher, Working.applyRules_append, isIndex]
    exact shows.placeOf (fun c member => ordinary_of_isWord (words c member)) inside.le
  have isRules : cSharp.rules = [comments, strings] ++ keywords :: types :: lower := isRules
  obtain ⟨earlier, isKeywords, isEarlier, -⟩ := Language.exists_claim_of_covers isRules found words
    isText isCovering start_le le_stop inside
  exact ⟨earlier, by rw [isKeywords, keywordsSeek.category], isEarlier.trans isPlace.symm⟩

/-- A rule in front of the one for types claims the name of a type, wherever it is a word in the
text.
-/
theorem exists_claim_of_type (enough : text.toList.countP isReserved ≤ slotLimit) {name : String}
    (isType : name ∈ CSharp.types) {before after : List Char}
    (split : text.toList = before ++ (name.toList ++ after))
    (frontEnds : ∀ c ∈ before.getLast?, isWord c = false)
    (backBegins : ∀ c ∈ after.head?, isWord c = false) {offset : Nat}
    (inside : offset < name.toList.length) :
    ∃ claim : cSharp.Claim text,
      claim.rule.category ∈ [Category.comments, .strings, .keywords] ∧
      claim.place = before.length + offset ∧
      (claim.owner? = none ∨ claim.owner?.bind (·.2.tokenClass) = some claim.rule.tokenClass) := by
  obtain ⟨comments, strings, keywords, types, lower, isRules, commentsSeek, stringsSeek,
    keywordsSeek, -, -⟩ := exists_rules_cSharp
  obtain ⟨start, found⟩ : ∃ start, Stash.protect text.toList = some start := by
    rw [← Option.ne_none_iff_exists', Ne, Stash.protect_eq_none_iff]
    omega
  obtain ⟨nonempty, words⟩ := words_of_mem_types isType
  -- through the passes, one rule after the other claims the name or leaves it as it is
  obtain ⟨front, back, shows⟩ := Working.exists_shows_protect isNoWord_of_isReserved found split
    (fun c member => ordinary_of_isWord (words c member))
    (fun c isLast => isNoWord_iff.mpr (frontEnds c isLast))
    (fun c isHead => isNoWord_iff.mpr (backBegins c isHead))
  have atComments : cSharp.rules = [] ++ comments :: strings :: keywords :: types :: lower :=
    isRules
  rcases commentsSeek.exists_claim_or_shows atComments found keepsWords_comments words shows with
    claimed | ⟨front, back, shows⟩
  · obtain ⟨claim, isRule, isPlace, owned⟩ := claimed offset inside
    exact ⟨claim, by simp [isRule, commentsSeek.category], isPlace, owned⟩
  have atStrings : cSharp.rules = [comments] ++ strings :: keywords :: types :: lower := isRules
  rcases stringsSeek.exists_claim_or_shows atStrings found keepsWords_stringOrCharacter words shows
    with claimed | ⟨front, back, shows⟩
  · obtain ⟨claim, isRule, isPlace, owned⟩ := claimed offset inside
    exact ⟨claim, by simp [isRule, stringsSeek.category], isPlace, owned⟩
  have atKeywords : cSharp.rules = ([comments] ++ [strings]) ++ keywords :: types :: lower :=
    isRules
  obtain ⟨span, isSpan, start_le, le_stop⟩ :=
    keywordsSeek.exists_covers (mem_keywords_of_mem_types name isType) nonempty words shows
  obtain ⟨claim, isRule, isPlace, owned⟩ := Language.exists_claim_of_covers atKeywords found words
    shows.text_eq isSpan start_le le_stop inside
  rw [shows.place_eq] at isPlace
  exact ⟨claim, by simp [isRule, keywordsSeek.category], isPlace, owned⟩

end Text

end Builtin

namespace Highlighter

/-- In C#, there are no types: the rule for them finds only what the rule for keywords has found
before it.  And the name of a type that is a word in the text is claimed in front of it, character
by character, by the rule for comments, the one for strings or the one for keywords. -/
theorem typeNames_tokenize (text classPrefix : String) :
    let tokens := tokenize { catalog := .builtin, classPrefix } text "csharp"
    (∀ token ∈ tokens, token.tokenClass ≠ some .type) ∧
      (∀ claim : Builtin.cSharp.Claim text, claim.rule.category = .types →
        ∃ earlier : Builtin.cSharp.Claim text, earlier.rule.category = .keywords ∧
          earlier.place = claim.place) ∧
      (text.toList.countP isReserved ≤ slotLimit →
        ∀ name ∈ Builtin.CSharp.types, ∀ before after : List Char,
          text.toList = before ++ (name.toList ++ after) →
          (∀ c ∈ before.getLast?, isWord c = false) → (∀ c ∈ after.head?, isWord c = false) →
          ∀ offset < name.toList.length, ∃ claim : Builtin.cSharp.Claim text,
            claim.rule.category ∈ [Category.comments, .strings, .keywords] ∧
            claim.place = before.length + offset ∧
            (claim.owner? = none ∨
              claim.owner?.bind (·.2.tokenClass) = some claim.rule.tokenClass)) := by
  intro tokens
  have isTokens : tokens = Builtin.cSharp.tokenize text :=
    Builtin.Named.cSharp.tokenize text classPrefix
  refine ⟨?_, Builtin.exists_keyword_claim, ?_⟩
  · rw [isTokens]
    exact Builtin.tokenClass_ne_type text
  · intro enough name isType before after split frontEnds backBegins offset inside
    exact Builtin.exists_claim_of_type enough isType split frontEnds backBegins inside

/-- The last letter of a type in parentheses. -/
theorem typeNames_tokenize_parentheses :
    "(int)x".toList.countP isReserved ≤ slotLimit ∧ "int" ∈ Builtin.CSharp.types ∧
      "(int)x".toList = ['('] ++ ("int".toList ++ [')', 'x']) ∧
      ∃ claim : Builtin.cSharp.Claim "(int)x",
        claim.rule.category ∈ [Category.comments, .strings, .keywords] ∧ claim.place = 1 + 2 ∧
        (claim.owner? = none ∨
          claim.owner?.bind (·.2.tokenClass) = some claim.rule.tokenClass) := by
  have enough : "(int)x".toList.countP isReserved ≤ slotLimit := by
    simp [isReserved]
  have claimed := (typeNames_tokenize "(int)x" defaultClassPrefix).2.2 enough "int" (by decide)
    ['('] [')', 'x'] rfl (by simp; decide) (by simp; decide) 2 (by decide)
  exact ⟨enough, by decide, rfl, claimed⟩

end Highlighter

end Tint
