import Tint.Proofs.Tokenized

/-!
# Reserved characters do not show

Texts that differ in reserved characters only are tokenized alike: the same classes, the same
places, and the same texts but for those characters.  Before any rule is tried, reserved characters
are put away, each under the placeholder that its turn gives it, so the working texts of both are
the same.  From then on only the stashes differ, and no pass looks into the stash: all that it asks
is how many slots are in use.
-/

namespace Tint

open Tint.Regex

/-- Two characters that are the same, or both reserved. -/
def AlikeChars (first second : Char) : Prop :=
  first = second ∨ isReserved first = true ∧ isReserved second = true

/-- Two texts of the same length that differ in reserved characters only. -/
abbrev AlikeTexts : List Char → List Char → Prop :=
  List.Forall₂ AlikeChars

/-- Two tokens of the same class whose texts differ in reserved characters only. -/
structure Token.Alike (first second : Token) : Prop where
  tokenClass : first.tokenClass = second.tokenClass
  text : AlikeTexts first.text.toList second.text.toList

theorem AlikeChars.isReserved_eq {first second : Char} (alike : AlikeChars first second) :
    isReserved first = isReserved second := by
  rcases alike with rfl | ⟨firstReserved, secondReserved⟩
  · rfl
  · rw [firstReserved, secondReserved]

theorem AlikeTexts.refl (text : List Char) : AlikeTexts text text :=
  List.forall₂_same.mpr fun _ _ => .inl rfl

theorem Token.Alike.refl (token : Token) : token.Alike token :=
  ⟨rfl, .refl _⟩

/-! ## Lists of tokens -/

namespace Token

theorem forall₂_gather {first second : List Char} (alike : AlikeTexts first second) :
    List.Forall₂ Token.Alike (gather first) (gather second) := by
  cases alike with
  | nil => exact .nil
  | cons head rest =>
      rw [gather_of_ne_nil (List.cons_ne_nil _ _), gather_of_ne_nil (List.cons_ne_nil _ _)]
      refine .cons ⟨rfl, ?_⟩ .nil
      simpa [Token.plain] using ⟨head, rest⟩

/-- Joining plain tokens that meet keeps lists of tokens alike. -/
theorem forall₂_joinFrom {first second : List Token} (alike : List.Forall₂ Token.Alike first second)
    {firstPlain secondPlain : List Char} (plainAlike : AlikeTexts firstPlain secondPlain) :
    List.Forall₂ Token.Alike (joinFrom firstPlain first) (joinFrom secondPlain second) := by
  induction alike generalizing firstPlain secondPlain with
  | nil => exact forall₂_gather plainAlike
  | @cons token other _ _ head _ ih =>
      have sameClass := head.tokenClass
      cases found : token.tokenClass with
      | none =>
          rw [found] at sameClass
          rw [joinFrom_cons_plain found, joinFrom_cons_plain sameClass.symm]
          exact ih (List.rel_append plainAlike head.text)
      | some tokenClass =>
          rw [found] at sameClass
          rw [joinFrom_cons_classified (by simp [found]),
            joinFrom_cons_classified (by simp [← sameClass])]
          exact List.rel_append (forall₂_gather plainAlike) (.cons head (ih .nil))

/-- Tokens that are alike are at the same places. -/
theorem forall₂_placedFrom {first second : List Token}
    (alike : List.Forall₂ Token.Alike first second) (offset : Nat) :
    List.Forall₂ (fun left right => left.1 = right.1 ∧ left.2.Alike right.2)
      (placedFrom offset first) (placedFrom offset second) := by
  induction alike generalizing offset with
  | nil => exact .nil
  | @cons token other _ _ head _ ih =>
      have sameLength : token.text.length = other.text.length := by
        rw [← String.length_toList, ← String.length_toList, head.text.length_eq]
      rw [placedFrom, placedFrom, ← sameLength]
      exact .cons ⟨rfl, head⟩ (ih _)

end Token

/-! ## Stashes -/

/-- Two stashes with as many tokens, alike slot by slot. -/
structure Stash.Alike (first second : Stash) : Prop where
  size : first.tokens.size = second.tokens.size
  tokens : ∀ slot : Nat, Option.Rel Token.Alike first.tokens[slot]? second.tokens[slot]?

namespace Stash.Alike

variable {first second : Stash}

theorem refl (stash : Stash) : stash.Alike stash where
  size := rfl
  tokens slot := by
    cases stash.tokens[slot]? with
    | none => exact .none
    | some token => exact .some (.refl token)

theorem next?_eq (alike : first.Alike second) : first.next? = second.next? := by
  rw [Stash.next?, Stash.next?, alike.size]

theorem push (alike : first.Alike second) {token other : Token} (same : token.Alike other) :
    (first.push token).Alike (second.push other) where
  size := by simp [alike.size]
  tokens slot := by
    simp only [Stash.push, Array.getElem?_push, alike.size]
    split
    · exact .some same
    · exact alike.tokens slot

/-- A character stands for tokens that are alike. -/
theorem expand (alike : first.Alike second) (c : Char) :
    (first.expand c).Alike (second.expand c) := by
  cases slotEq : slotOf? c with
  | none => simpa [Stash.expand, Stash.held?, slotEq] using Token.Alike.refl _
  | some slot =>
      have inSlot := alike.tokens slot
      simp only [Stash.expand, Stash.held?, slotEq, Option.bind_eq_bind, Option.bind_some]
      generalize first.tokens[slot]? = held at *
      generalize second.tokens[slot]? = otherHeld at *
      cases inSlot with
      | none => exact .refl _
      | some same => exact same

end Stash.Alike

/-! ## Passes -/

/-- Two drafts with the same text and stashes that are alike. -/
structure Draft.Alike (first second : Draft) : Prop where
  stash : first.stash.Alike second.stash
  written : first.written = second.written

namespace Draft.Alike

variable {first second : Draft}

theorem text_eq (alike : first.Alike second) : first.text = second.text := by
  rw [Draft.text, Draft.text, alike.written]

theorem keepAll (alike : first.Alike second) (kept : List Char) :
    (first.keepAll kept).Alike (second.keepAll kept) where
  stash := alike.stash
  written := by simp [Draft.keepAll, alike.written]

/-- Whether a run is put away, and under which placeholder, depends on the number of tokens only. -/
theorem classifyRun (alike : first.Alike second) (tokenClass : TokenClass) (run : List Char) :
    (first.classifyRun tokenClass run).Alike (second.classifyRun tokenClass run) := by
  by_cases empty : run = []
  · simpa [empty] using alike
  · have sameNext := alike.stash.next?_eq
    cases free : first.stash.next? with
    | none =>
        rw [Draft.classifyRun_of_full free, Draft.classifyRun_of_full (sameNext.symm.trans free)]
        exact alike.keepAll run
    | some placeholder =>
        rw [Draft.classifyRun_of_free free empty,
          Draft.classifyRun_of_free (sameNext.symm.trans free) empty]
        exact ⟨alike.stash.push (.refl _), by rw [alike.written]⟩

theorem write (alike : first.Alike second) (segment : Segment) :
    (first.write segment).Alike (second.write segment) := by
  cases segment with
  | keep kept => exact alike.keepAll kept
  | claim tokenClass run => exact alike.classifyRun tokenClass run

theorem foldl_write (alike : first.Alike second) (segments : List Segment) :
    (segments.foldl Draft.write first).Alike (segments.foldl Draft.write second) := by
  induction segments generalizing first second with
  | nil => exact alike
  | cons segment segments ih => exact ih (alike.write segment)

end Draft.Alike

/-- Two working texts that are the same, with stashes that are alike. -/
structure Working.Alike (first second : Working) : Prop where
  stash : first.1.Alike second.1
  text : first.2 = second.2

namespace Working.Alike

variable {first second : Working}

theorem replaceSpans (alike : Working.Alike first second) (spans : List (Span × TokenClass)) :
    Working.Alike (first.1.replaceSpans first.2 spans) (second.1.replaceSpans second.2 spans) := by
  have drafts : Draft.Alike ⟨first.1, []⟩ ⟨second.1, []⟩ := ⟨alike.stash, rfl⟩
  have passed := drafts.foldl_write (Segment.ofSpans 0 first.2 spans)
  rw [← Draft.classifySpans_eq_foldl, ← Draft.classifySpans_eq_foldl] at passed
  rw [← alike.text]
  exact ⟨passed.stash, passed.text_eq⟩

theorem applyRule (alike : Working.Alike first second) (rule : Rule) :
    Working.Alike (first.1.applyRule rule first.2) (second.1.applyRule rule second.2) := by
  have passed :=
    alike.replaceSpans ((rule.spans first.2).map fun span => (span, rule.tokenClass))
  rw [Stash.applyRule_eq_replaceSpans, Stash.applyRule_eq_replaceSpans, ← alike.text]
  rw [← alike.text] at passed
  exact passed

theorem applyRules (alike : Working.Alike first second) (rules : List Rule) :
    Working.Alike (Working.applyRules first rules) (Working.applyRules second rules) := by
  induction rules generalizing first second with
  | nil => exact alike
  | cons rule rules ih => exact ih (alike.applyRule rule)

theorem passes (alike : Working.Alike first second) :
    Working.Alike (Structured.passes first) (Structured.passes second) := by
  have literals := alike.replaceSpans (Structured.literalSpans first.2)
  have scalars := literals.replaceSpans (Structured.scalarSpans
    (first.1.replaceSpans first.2 (Structured.literalSpans first.2)).2)
  rw [Structured.passes, Structured.passes, ← alike.text]
  rw [← alike.text] at literals scalars
  rwa [← literals.text] at scalars ⊢

/-- The tokens that the characters of both stand for are alike. -/
theorem forall₂_tokens (alike : Working.Alike first second) :
    List.Forall₂ Token.Alike (Working.tokens first) (Working.tokens second) := by
  rw [Working.tokens, Working.tokens, ← alike.text, List.forall₂_map_left_iff,
    List.forall₂_map_right_iff]
  exact List.forall₂_same.mpr fun c _ => alike.stash.expand c

theorem forall₂_resolve (alike : Working.Alike first second) (firstLinked : Consistent first)
    (secondLinked : Consistent second) :
    List.Forall₂ Token.Alike (first.1.resolve first.2) (second.1.resolve second.2) := by
  rw [firstLinked.resolve_eq_join, secondLinked.resolve_eq_join]
  exact Token.forall₂_joinFrom alike.forall₂_tokens .nil

end Working.Alike

/-! ## Protecting -/

/-- Texts that are alike give the same working text, or both have too many reserved characters. -/
theorem Stash.protectFrom_alike {first second : List Char} (alike : AlikeTexts first second)
    {firstDraft secondDraft : Draft} (drafts : firstDraft.Alike secondDraft) :
    Option.Rel Draft.Alike (protectFrom firstDraft first) (protectFrom secondDraft second) := by
  induction alike generalizing firstDraft secondDraft with
  | nil => exact .some drafts
  | @cons c other _ _ head _ ih =>
      have sameReserved := head.isReserved_eq
      cases isRes : isReserved c with
      | true =>
          rw [isRes] at sameReserved
          have sameNext := drafts.stash.next?_eq
          rw [protectFrom, protectFrom, isRes, ← sameReserved]
          cases free : firstDraft.stash.next? with
          | none =>
              rw [free] at sameNext
              simp [← sameNext]
          | some placeholder =>
              rw [free] at sameNext
              have literals : (Token.plain c.toString).Alike (Token.plain other.toString) :=
                ⟨rfl, by simpa [Token.plain] using head⟩
              simp only [if_true, ← sameNext]
              exact ih ⟨drafts.stash.push literals, by simp [drafts.written]⟩
      | false =>
          rw [isRes] at sameReserved
          have same : c = other := by
            rcases head with same | ⟨reserved, _⟩
            · exact same
            · simp [isRes] at reserved
          subst same
          rw [protectFrom, protectFrom, isRes, if_neg (by simp), if_neg (by simp)]
          exact ih ⟨drafts.stash, by simp [Draft.keep, drafts.written]⟩

theorem Stash.protect_alike {first second : List Char} (alike : AlikeTexts first second) :
    protect first = none ∧ protect second = none ∨
      ∃ firstStart secondStart, protect first = some firstStart ∧
        protect second = some secondStart ∧ Working.Alike firstStart secondStart := by
  have drafts : Draft.Alike ⟨{}, []⟩ ⟨{}, []⟩ := ⟨.refl _, rfl⟩
  have results := protectFrom_alike alike drafts
  simp only [protect]
  generalize protectFrom ⟨{}, []⟩ first = firstDraft at *
  generalize protectFrom ⟨{}, []⟩ second = secondDraft at *
  cases results with
  | none => exact .inl ⟨rfl, rfl⟩
  | some alike => exact .inr ⟨_, _, rfl, rfl, alike.stash, alike.text_eq⟩

/-! ## Tokenizers -/

/-- The tokens of two texts that differ in reserved characters only: they have the same classes and
are at the same places, they differ in reserved characters only, and no classified one has any. -/
structure Token.Masked (first second : List Token) : Prop where
  alike : List.Forall₂ (fun left right => left.1 = right.1 ∧ left.2.Alike right.2)
    (placedFrom 0 first) (placedFrom 0 second)
  clear : ∀ token ∈ first, token.tokenClass.isSome →
    ∀ c ∈ token.text.toList, isReserved c = false

theorem Token.Masked.of_alike {text : String} {first second : List Token}
    (tokenized : Tokenized text first) (alike : List.Forall₂ Token.Alike first second) :
    Token.Masked first second where
  alike := forall₂_placedFrom alike 0
  clear := by
    intro token member isClassified
    have stashed := tokenized.stashed_of_classified member isClassified
    rcases Option.isSome_iff_exists.mp isClassified with ⟨tokenClass, found⟩
    simp only [Token.Stashed, found] at stashed
    exact stashed.2

section Tokenizers

variable {first second : String} (alike : AlikeTexts first.toList second.toList)
include alike

theorem forall₂_plain : List.Forall₂ Token.Alike [.plain first] [.plain second] :=
  .cons ⟨rfl, alike⟩ .nil

/-- Passes that look at the working text alone give tokens that are alike. -/
theorem forall₂_tokensBy {passes : Working → Working}
    (steps : ∀ start, PutsAway start (passes start))
    (blind : ∀ {start other}, Working.Alike start other →
      Working.Alike (passes start) (passes other)) :
    List.Forall₂ Token.Alike (tokensBy passes first) (tokensBy passes second) := by
  rw [tokensBy, tokensBy]
  rcases Stash.protect_alike alike with
    ⟨firstNone, secondNone⟩ | ⟨start, other, firstFound, secondFound, starts⟩
  · rw [firstNone, secondNone]
    exact forall₂_plain alike
  · rw [firstFound, secondFound]
    exact (blind starts).forall₂_resolve
      ((Stash.protect_consistent firstFound).putsAway (steps start))
      ((Stash.protect_consistent secondFound).putsAway (steps other))

theorem Language.forall₂_tokenize (language : Language) :
    List.Forall₂ Token.Alike (language.tokenize first) (language.tokenize second) := by
  rw [tokenize_eq_tokensBy, tokenize_eq_tokensBy]
  exact forall₂_tokensBy alike (Working.applyRules_putsAway language.rules)
    fun starts => starts.applyRules language.rules

theorem Structured.forall₂_tokenize :
    List.Forall₂ Token.Alike (Structured.tokenize first) (Structured.tokenize second) := by
  rw [tokenize_eq_tokensBy, tokenize_eq_tokensBy]
  exact forall₂_tokensBy alike passes_putsAway fun starts => starts.passes

theorem Highlighter.forall₂_tokenize (highlighter : Highlighter) (language : String) :
    List.Forall₂ Token.Alike (highlighter.tokenize first language)
      (highlighter.tokenize second language) := by
  have sameEmpty : first.isEmpty = second.isEmpty := by
    have sameLength := alike.length_eq
    rw [Bool.eq_iff_iff, String.isEmpty_iff, String.isEmpty_iff, ← String.toList_eq_nil_iff,
      ← String.toList_eq_nil_iff, ← List.length_eq_zero_iff, ← List.length_eq_zero_iff, sameLength]
  rw [Highlighter.tokenize, Highlighter.tokenize, ← sameEmpty]
  split
  · exact .nil
  · split
    · exact forall₂_plain alike
    · split
      · exact Language.forall₂_tokenize alike _
      · exact Structured.forall₂_tokenize alike

/-- Reserved characters of a text can be exchanged for others without any change in the tokens but
in these characters, and they are never in a classified token, whatever the catalog and the rules
are. -/
theorem masked_tokenize :
    (∀ (highlighter : Highlighter) (language : String),
      Token.Masked (highlighter.tokenize first language) (highlighter.tokenize second language)) ∧
    (∀ language : Language,
      Token.Masked (language.tokenize first) (language.tokenize second)) ∧
    Token.Masked (Structured.tokenize first) (Structured.tokenize second) := by
  refine ⟨fun highlighter language => ?_, fun language => ?_, ?_⟩
  · exact .of_alike (highlighter.tokenized first language)
      (highlighter.forall₂_tokenize alike language)
  · exact .of_alike (language.tokenized first) (language.forall₂_tokenize alike)
  · exact .of_alike (Structured.tokenized first) (Structured.forall₂_tokenize alike)

end Tokenizers

/-- A literal with a reserved character in it, and with another one that is no placeholder. -/
theorem masked_tokenize_literal :
    let first := String.ofList ['[', '"', 'a', Char.ofNat 0xF0000, '"', ']']
    let second := String.ofList ['[', '"', 'a', Char.ofNat 0x10FFFF, '"', ']']
    AlikeTexts first.toList second.toList ∧
      Token.Masked (Structured.tokenize first) (Structured.tokenize second) := by
  intro first second
  have alike : AlikeTexts first.toList second.toList := by
    simp [first, second, AlikeTexts, AlikeChars, isReserved]
  exact ⟨alike, (masked_tokenize alike).2.2⟩

end Tint
