import Tint.Proofs.Builtin.Patterns
import Tint.Proofs.Builtin.Rules
import Tint.Proofs.FirstClaim

/-!
# Quoted strings and the ends of lines

A quoted string takes no line feed.  It may take a carriage return, but not one that ends a line
together with a line feed: the string goes on behind a return, or is cut there by a comment or by a
reserved character of the text, and none of these begins with a line feed.

Comments are put away before strings are sought.  The text that the rule for strings sees is
therefore looked at twice, as the outcome of the first pass and as the input of the second.
-/

namespace Tint

open Tint.Regex

namespace Builtin

/-- What a quoted string takes is no line feed. -/
theorem takes_quotedText_feed : quotedText.takes '\n' = false := by
  decide

/-- A quoted string ends with a quote. -/
theorem closes_quotedText {before after : Option Char}
    (closes : quotedText.closes before after = true) : before ≠ some '\r' := by
  rintro rfl
  simp [quotedText, quoted, Pattern.closes, Pattern.char] at closes

theorem scannable_quotedText : quotedText.Scannable := ⟨rfl, rfl⟩

section Run

variable {before : Option Char} {early run late rest : List Char}

theorem feed_not_mem_of_takes (takes : quotedText.Takes before (early ++ run ++ late) rest) :
    '\n' ∉ run := by
  intro inRun
  have allowed := takes.allowed '\n' (by simp [inRun])
  rw [takes_quotedText_feed] at allowed
  cases allowed

/-- Where a part of a quoted string ends with a return, the string goes on behind it. -/
theorem late_ne_nil_of_takes (takes : quotedText.Takes before (early ++ run ++ late) rest)
    (isLast : run.getLast? = some '\r') : late ≠ [] := by
  rintro rfl
  have closes := closes_quotedText takes.closes
  rw [List.append_nil, lastOf_append, lastOf, isLast, Option.some_or] at closes
  exact absurd rfl closes

end Run

/-- The first two rules of a language are for comments and for quoted strings, and no other one
classifies strings.  A comment begins with a slash or a dash. -/
structure HasQuotedStrings (language : Language) : Prop where
  first : ∃ comments strings lower pattern, language.rules = comments :: strings :: lower ∧
    comments.Seeks .comments 0 pattern ∧
    (∀ before after, pattern.opens before after = true → after = some '/' ∨ after = some '-') ∧
    strings.Seeks .strings 0 quotedText ∧ ∀ other ∈ lower, other.tokenClass ≠ .string

end Builtin

/-- Behind a character of a run is another one of the run, or what is behind the run. -/
theorem getElem?_behind {front run rest : List Char} {index : Nat} {c : Char}
    (isChar : run[index]? = some c) :
    (∃ d ∈ run, (front ++ (run ++ rest))[front.length + index + 1]? = some d) ∨
      run.getLast? = some c ∧ (front ++ (run ++ rest))[front.length + index + 1]? = rest.head? := by
  have inRun := (List.getElem?_eq_some_iff.mp isChar).1
  rw [Nat.add_assoc, List.getElem?_append_right (Nat.le_add_right _ _), Nat.add_sub_cancel_left]
  cases Nat.lt_or_ge (index + 1) run.length with
  | inl inside =>
      rw [List.getElem?_append_left inside, List.getElem?_eq_getElem inside]
      exact .inl ⟨_, List.getElem_mem inside, rfl⟩
  | inr atEnd =>
      have isLength : run.length = index + 1 := by omega
      refine .inr ⟨?_, ?_⟩
      · rw [List.getLast?_eq_getElem?, isLength]
        exact isChar
      · rw [← isLength, List.getElem?_append_right le_rfl, Nat.sub_self, List.head?_eq_getElem?]

section Passes

variable {comments strings : Rule} {pattern : Pattern} {start : Working} {source : List Char}

/-- In front of all passes, every character stands for itself. -/
theorem Stash.expand_of_protect (found : Stash.protect source = some start) {c : Char}
    (member : c ∈ start.2) : ∃ d, start.1.expand c = Token.single d := by
  have isToken : start.1.expand c ∈ start.tokens := List.mem_map_of_mem member
  rw [Stash.tokens_protect found] at isToken
  obtain ⟨d, -, same⟩ := List.mem_map.mp isToken
  exact ⟨d, same.symm⟩

/-- Behind a return, the pass for comments leaves no placeholder for a text that begins with a line
feed. -/
theorem Rule.Seeks.exists_behind_return (seeks : comments.Seeks .comments 0 pattern)
    (opens : ∀ before after, pattern.opens before after = true →
      after = some '/' ∨ after = some '-')
    (found : Stash.protect source = some start) {front back : List Char} {placeholder : Char}
    (split : (start.1.applyRule comments start.2).2 = front ++ '\r' :: placeholder :: back)
    (reserved : isReserved placeholder = true) :
    ∃ c rest, ((start.1.applyRule comments start.2).1.expand placeholder).text.toList = c :: rest ∧
      c ≠ '\n' := by
  have linked := Stash.protect_consistent found
  have replaced := Stash.replaced_applyRule linked comments
  have isSplit : front ++ '\r' :: placeholder :: back =
      (front ++ ['\r']) ++ placeholder :: back := by simp
  simp only [split] at replaced
  rw [isSplit] at replaced
  obtain ⟨old, later, isText, first, second⟩ := replaced.of_append
  rw [Nat.zero_add] at second
  have isLast : old.getLast? = some '\r' := by
    rcases first.getLast?_eq with same | ⟨-, isPlaceholder⟩
    · rw [← same, List.getLast?_concat]
    · rw [List.getLast?_concat] at isPlaceholder
      exact absurd isPlaceholder (by decide)
  cases second with
  | keep same rest =>
      have inText : placeholder ∈ start.2 := by simp [isText]
      obtain ⟨index, isIndex⟩ := List.mem_iff_getElem?.mp inText
      obtain ⟨d, isSingle⟩ := Stash.expand_of_protect found inText
      obtain ⟨e, eReserved, isLiteral⟩ :=
        linked.exists_literal isIndex reserved (by rw [isSingle]; rfl)
      refine ⟨e, [], same ▸ isLiteral, ?_⟩
      rintro rfl
      exact absurd eReserved (by decide)
  | @put _ _ run _ _ nonempty ordinary borders _ holds rest =>
      rw [isText] at borders
      obtain ⟨before, early, late, after, rfl, rfl, takes, earlyEnds, -⟩ :=
        seeks.exists_takes_of_isRun borders
      have noEarly : early = [] := by
        by_contra someEarly
        rw [List.getLast?_append_of_ne_nil _ someEarly] at isLast
        exact absurd (earlyEnds '\r' isLast) (by decide)
      obtain ⟨c, run, rfl⟩ := List.exists_cons_of_ne_nil nonempty
      rw [noEarly] at takes
      refine ⟨c, run, by rw [holds]; simp [Token.classified], ?_⟩
      rintro rfl
      simpa using opens _ _ takes.opens

/-- A string token is a run of the pass for strings: it has no line feed, and a return in it ends no
line. -/
theorem Rule.Seeks.inLine_of_string (commentsSeek : comments.Seeks .comments 0 pattern)
    (opens : ∀ before after, pattern.opens before after = true →
      after = some '/' ∨ after = some '-')
    (stringsSeek : strings.Seeks .strings 0 Builtin.quotedText)
    (found : Stash.protect source = some start) {place : Nat} {token : Token}
    (member : (place, token) ∈
      Token.placedFrom 0 (start.applyRules [comments, strings]).tokens)
    (isString : token.tokenClass = some .string) :
    '\n' ∉ token.text.toList ∧ ∀ index, token.text.toList[index]? = some '\r' →
      ∃ c, source[place + index + 1]? = some c ∧ c ≠ '\n' := by
  have linked := Stash.protect_consistent found
  have differ : ∀ rule ∈ [comments], rule.tokenClass ≠ .string := by
    simp [commentsSeek.tokenClass, Category.defaultClass]
  have fresh := Working.tokenClass_expand_ne found differ
  have behind (front back : List Char) (placeholder : Char)
      (split : (start.1.applyRule comments start.2).2 = front ++ '\r' :: placeholder :: back) :=
    commentsSeek.exists_behind_return opens found split
  have firstSteps := Stash.applyRule_putsAway comments start.1 start.2
  have isSecond : start.applyRules [comments, strings] =
      (start.1.applyRule comments start.2).1.applyRule strings
        (start.1.applyRule comments start.2).2 := rfl
  have isFirst : start.applyRules [comments] = start.1.applyRule comments start.2 := rfl
  rw [isSecond] at member
  rw [isFirst] at fresh
  generalize start.1.applyRule comments start.2 = first at *
  have isSource : Token.chars (Working.tokens first) = source := by
    rw [firstSteps.chars_eq linked, Stash.chars_protect found]
  have replaced := Stash.replaced_applyRule (linked.putsAway firstSteps) strings
  rw [stringsSeek.tokenClass] at replaced
  obtain ⟨front, run, back, isText, ordinary, rfl, rfl, borders⟩ :=
    replaced.exists_run fresh member isString
  rw [isText] at borders
  obtain ⟨before, early, late, after, rfl, rfl, takes, -, lateBegins⟩ :=
    stringsSeek.exists_takes_of_isRun borders
  have noFeed := Builtin.feed_not_mem_of_takes takes
  have isRun : (Token.classified Category.strings.defaultClass
      (String.ofList run)).text.toList = run := by
    simp [Token.classified]
  rw [isRun]
  refine ⟨noFeed, fun index isReturn => ?_⟩
  have isTail : Token.chars ((run ++ (late ++ after)).map first.1.expand) =
      run ++ Token.chars ((late ++ after).map first.1.expand) := by
    rw [List.map_append, Token.chars_append, Stash.chars_expand_of_ordinary ordinary]
  rw [Working.tokens, isText, List.map_append, Token.chars_append, isTail] at isSource
  rw [← isSource]
  rcases getElem?_behind isReturn with ⟨d, inRun, isNext⟩ | ⟨isLast, isNext⟩
  · exact ⟨d, isNext, fun isFeed => noFeed (isFeed ▸ inRun)⟩
  · -- The run is cut by a placeholder, and what this stands for begins with no line feed.
    obtain ⟨placeholder, late, rfl⟩ :=
      List.exists_cons_of_ne_nil (Builtin.late_ne_nil_of_takes takes isLast)
    obtain ⟨more, rfl⟩ := List.getLast?_eq_some_iff.mp isLast
    obtain ⟨c, rest, isHead, notFeed⟩ :=
      behind (before ++ early ++ more) (late ++ after) placeholder
        (by rw [isText]; simp) (lateBegins placeholder rfl)
    rw [isNext]
    exact ⟨c, by simp [isHead], notFeed⟩

end Passes

/-! ## The languages -/

namespace Builtin

/-- A language that is made of rules for comments and for quoted strings and of others has quoted
strings. -/
theorem hasQuotedStrings_language {name : String} {aliases : List String}
    {reads lower : List (Read Rule)} {comments strings : Read Rule} {categories : List Category}
    {pattern : Pattern} (perm : reads.Perm (comments :: strings :: lower))
    (commentsRead : ∃ rule, comments = .ok rule ∧ rule.Seeks .comments 0 pattern)
    (opens : ∀ before after, pattern.opens before after = true →
      after = some '/' ∨ after = some '-')
    (stringsRead : ∃ rule, strings = .ok rule ∧ rule.Seeks .strings 0 quotedText)
    (makes : List.Forall₂ Makes categories lower)
    (ranked : (.comments :: .strings :: categories).Pairwise
      fun (first second : Category) => first.rank < second.rank)
    (others : ∀ category ∈ categories, category.defaultClass ≠ .string) :
    HasQuotedStrings (language name aliases reads) := by
  obtain ⟨commentsRule, rfl, commentsSeek⟩ := commentsRead
  obtain ⟨stringsRule, rfl, stringsSeek⟩ := stringsRead
  have isRules : (language name aliases reads).rules =
      commentsRule :: stringsRule :: lower.filterMap Except.toOption :=
    rules_language perm (.cons commentsSeek.makes (.cons stringsSeek.makes makes)) ranked
  refine ⟨commentsRule, stringsRule, _, pattern, isRules, commentsSeek, opens, stringsSeek, ?_⟩
  intro other member
  obtain ⟨isCategory, isClass⟩ := mem_of_makes makes member
  rw [isClass]
  exact others _ isCategory

theorem hasQuotedStrings_al : HasQuotedStrings al := by
  have sorted (a b c d e f g : Read Rule) : [a, b, c, d, e, f, g].Perm [e, d, a, b, c, f, g] :=
    (@List.perm_middle _ e [a, b, c, d] [f, g]).trans (.cons e (@List.perm_middle _ d [a, b, c] _))
  have makes : List.Forall₂ Makes [.keywords, .types, .functions, .numbers, .operators]
      [anyCaseRule .keywords (words Al.keywords), rule .types (words Al.types),
        rule .functions (words Al.methods), rule .numbers number,
        anyCaseRule .operators Al.operators] :=
    .cons (makes_ofSource _ _) (.cons (makes_ofSource _ _) (.cons (makes_ofSource _ _)
      (.cons (makes_ofSource _ _) (.cons (makes_ofSource _ _) .nil))))
  rw [al]
  refine hasQuotedStrings_language (sorted _ _ _ _ _ _ _)
    (exists_seeks _ _ ⟨rfl, rfl⟩ read_slashComment) ?_
    (exists_seeks _ _ scannable_quotedText read_quotedString) makes (by decide) (by decide)
  intro before after opens
  exact .inl (by simpa [lineComment, Pattern.char, Pattern.opens] using opens)

theorem hasQuotedStrings_sql : HasQuotedStrings sql := by
  have sorted (a b c d e f : Read Rule) : [a, b, c, d, e, f].Perm [d, c, a, b, e, f] :=
    (@List.perm_middle _ d [a, b, c] [e, f]).trans (.cons d (@List.perm_middle _ c [a, b] _))
  have makes : List.Forall₂ Makes [.keywords, .functions, .numbers, .operators]
      [anyCaseRule .keywords (words Sql.keywords), anyCaseRule .functions (words Sql.functions),
        rule .numbers number, rule .operators "<>|!=|<=|>=|[=<>+\\-*/%]"] :=
    .cons (makes_ofSource _ _) (.cons (makes_ofSource _ _) (.cons (makes_ofSource _ _)
      (.cons (makes_ofSource _ _) .nil)))
  rw [sql]
  refine hasQuotedStrings_language (sorted _ _ _ _ _ _)
    (exists_seeks _ _ ⟨rfl, rfl⟩ read_dashOrBlockComment) ?_
    (exists_seeks _ _ scannable_quotedText read_quotedString) makes (by decide) (by decide)
  intro before after opens
  exact Or.symm (by simpa [lineOrBlockComment, blockComment, lineComment, Pattern.char,
    Pattern.opens] using opens)

end Builtin

section Tokens

variable {language : Language} {text : String}

/-- The strings of a language with quoted strings are in line: no line feed is in them, and a return
in them is not one half of the end of a line. -/
theorem Language.inLine_of_string (has : Builtin.HasQuotedStrings language) {place : Nat}
    {token : Token} (member : (place, token) ∈ Token.placedFrom 0 (language.tokenize text))
    (isString : token.tokenClass = some .string) :
    '\n' ∉ token.text.toList ∧ ∀ index, token.text.toList[index]? = some '\r' →
      ∃ c, text.toList[place + index + 1]? = some c ∧ c ≠ '\n' := by
  obtain ⟨comments, strings, lower, pattern, isRules, commentsSeek, opens, stringsSeek, others⟩ :=
    has.first
  cases found : Stash.protect text.toList with
  | none =>
      rw [tokenize_eq_tokensBy, tokensBy, found] at member
      obtain ⟨isToken, -⟩ := Token.bounds_of_mem_placedFrom member
      rw [List.mem_singleton.mp isToken] at isString
      cases isString
  | some start =>
      have isRules : language.rules = [comments, strings] ++ lower := isRules
      have inClass : (place, token) ∈ Token.ofClassFrom .string 0 (language.tokenize text) :=
        List.mem_filter.mpr ⟨member, beq_iff_eq.mpr isString⟩
      rw [language.ofClassFrom_tokenize isRules others found] at inClass
      exact commentsSeek.inLine_of_string opens stringsSeek found (List.mem_filter.mp inClass).1
        isString

end Tokens

namespace Highlighter

/-- A return alone does not end a string. -/
theorem return_mem_tokenize (classPrefix : String) :
    (0, .classified .string "\"a\rb\"") ∈ Token.placedFrom 0
      (tokenize { catalog := .builtin, classPrefix } "\"a\rb\"" "al") := by
  obtain ⟨comments, strings, lower, pattern, isRules, commentsSeek, opens, stringsSeek, -⟩ :=
    Builtin.hasQuotedStrings_al.first
  have isRules : Builtin.al.rules = [comments, strings] ++ lower := isRules
  have opensWith (before after : Option Char) (isOpen : pattern.opens before after = true) :
      ∃ c ∈ ['/', '-'], after = some c := by
    simpa using opens before after isOpen
  have noComments : comments.spans "\"a\rb\"".toList = [] :=
    commentsSeek.spans_eq_nil_of_opens opensWith (by simp)
  have isSpans : strings.spans "\"a\rb\"".toList = [⟨0, 5⟩] := by
    rw [Rule.spans, stringsSeek.matcher, stringsSeek.group]
    decide +kernel
  rw [Builtin.Named.al.tokenize]
  refine Language.mem_placedFrom_tokenize isRules (Stash.protect_of_ordinary ?_) rfl ?_
  · simp [isReserved]
  · have passed : Working.applyRules ({}, "\"a\rb\"".toList) [comments, strings] =
        ({} : Stash).replaceSpans "\"a\rb\"".toList [(⟨0, 5⟩, .string)] := by
      have first : Working.applyRules ({}, "\"a\rb\"".toList) [comments] =
          ({}, "\"a\rb\"".toList) :=
        Working.applyRules_of_nil (List.forall_mem_singleton.mpr noComments)
      have second := Stash.applyRule_eq_replaceSpans strings {} "\"a\rb\"".toList
      rw [isSpans, stringsSeek.tokenClass] at second
      calc Working.applyRules ({}, "\"a\rb\"".toList) ([comments] ++ [strings])
          = (Working.applyRules ({}, "\"a\rb\"".toList) [comments]).applyRules [strings] :=
            Working.applyRules_append _ _ _
        _ = Working.applyRules ({}, "\"a\rb\"".toList) [strings] := by rw [first]
        _ = ({} : Stash).replaceSpans "\"a\rb\"".toList [(⟨0, 5⟩, .string)] := second
    rw [passed]
    decide +kernel

/-- In the built-in languages that have quoted strings only, a line feed ends every string, be it
closed or not, and so does a return with a line feed behind it.  A string with the end of a line in
it takes a return that stands alone. -/
theorem inLine_of_string_tokenize {name : String} (isName : name = "al" ∨ name = "sql")
    (text classPrefix : String) :
    let tokens := tokenize { catalog := .builtin, classPrefix } text name
    ∀ place token, (place, token) ∈ Token.placedFrom 0 tokens →
      token.tokenClass = some .string →
      '\n' ∉ token.text.toList ∧
      (∀ index, token.text.toList[index]? = some '\r' →
        ∃ c, text.toList[place + index + 1]? = some c ∧ c ≠ '\n') ∧
      ((∀ index, text.toList[index]? = some '\r' → text.toList[index + 1]? = some '\n') →
        ∀ c ∈ token.text.toList, isLineEnd c = false) := by
  intro tokens place token member isString
  have whole : Token.chars tokens = text.toList := (tokenized _ text name).chars_eq
  have inLine : '\n' ∉ token.text.toList ∧ ∀ index, token.text.toList[index]? = some '\r' →
      ∃ c, text.toList[place + index + 1]? = some c ∧ c ≠ '\n' := by
    rcases isName with rfl | rfl
    · have isTokens : tokens = Builtin.al.tokenize text :=
        Builtin.Named.al.tokenize text classPrefix
      exact Language.inLine_of_string Builtin.hasQuotedStrings_al (isTokens ▸ member) isString
    · have isTokens : tokens = Builtin.sql.tokenize text :=
        Builtin.Named.sql.tokenize text classPrefix
      exact Language.inLine_of_string Builtin.hasQuotedStrings_sql (isTokens ▸ member) isString
  obtain ⟨noFeed, returns⟩ := inLine
  refine ⟨noFeed, returns, fun paired c inToken => ?_⟩
  obtain ⟨index, isIndex⟩ := List.mem_iff_getElem?.mp inToken
  have notFeed : c ≠ '\n' := fun isFeed => noFeed (isFeed ▸ inToken)
  have notReturn : c ≠ '\r' := by
    rintro rfl
    obtain ⟨d, isNext, differ⟩ := returns index isIndex
    have isChar : text.toList[place + index]? = some '\r' := by
      obtain ⟨before, after, split, isPlace⟩ := Token.exists_of_mem_placedFrom member
      rw [← whole, split, isPlace, Nat.zero_add, Token.chars_append, Token.chars_cons,
        List.getElem?_append_right (Nat.le_add_right _ _), Nat.add_sub_cancel_left,
        List.getElem?_append_left (List.getElem?_eq_some_iff.mp isIndex).1]
      exact isIndex
    rw [paired _ isChar] at isNext
    exact differ (Option.some.inj isNext).symm
  simp [isLineEnd, notFeed, notReturn]

/-- A string around a return. -/
theorem inLine_of_string_tokenize_return :
    ("al" = "al" ∨ "al" = "sql") ∧
      (0, .classified .string "\"a\rb\"") ∈
        Token.placedFrom 0 (tokenize { catalog := .builtin } "\"a\rb\"" "al") ∧
      '\n' ∉ "\"a\rb\"".toList ∧
      ∃ c, "\"a\rb\"".toList[0 + 2 + 1]? = some c ∧ c ≠ '\n' := by
  have member := return_mem_tokenize defaultClassPrefix
  obtain ⟨noFeed, returns, -⟩ :=
    inLine_of_string_tokenize (.inl rfl) "\"a\rb\"" defaultClassPrefix 0 _ member rfl
  exact ⟨.inl rfl, member, noFeed, returns 2 rfl⟩

/-- The return alone ends a line, and is in a string. -/
theorem not_forall_string_inLine :
    ¬∀ token ∈ tokenize { catalog := .builtin } "\"a\rb\"" "al",
      token.tokenClass = some .string → ∀ c ∈ token.text.toList, isLineEnd c = false := by
  intro inLine
  obtain ⟨isToken, -⟩ := Token.bounds_of_mem_placedFrom (return_mem_tokenize defaultClassPrefix)
  have isReturn := inLine _ isToken rfl '\r' (by simp [Token.classified])
  cases isReturn

end Highlighter

end Tint
