import Tint.Proofs.Stash.Claims
import Tint.Proofs.Tokenized

/-!
# Which rule a character goes to

A rule claims the characters of its spans that no earlier rule has classified.  What it puts away is
its own for good, and what stays plain for want of placeholders stays plain.  But a run of blanks in
a match with placeholders next to it is not put away, and nothing keeps a later rule from it: such a
character goes to the first rule behind that asks for it, although a rule before has claimed it.
-/

namespace Tint

open Tint.Regex

/-! ## What later passes keep -/

/-- A token holds what it holds however many runs are put away. -/
theorem PutsAway.ownersKept {working next : Working} (consistent : Consistent working)
    (steps : PutsAway working next) : Token.OwnersKept working.tokens next.tokens := by
  induction steps with
  | refl => exact .refl _
  | tail steps step ih =>
      obtain ⟨before, run, after, token, old, new, runPlain, -, sameText, -⟩ :=
        step.tokens_eq (consistent.putsAway steps)
      rw [old] at ih
      rw [new]
      exact ih.trans (Token.ownersKept_of_run before after runPlain sameText)

/-- A placeholder of plain text stands for one reserved character. -/
theorem Consistent.exists_literal {working : Working} (consistent : Consistent working)
    {index : Nat} {c : Char} (isChar : working.2[index]? = some c) (reserved : isReserved c = true)
    (isPlain : (working.1.expand c).tokenClass = none) :
    ∃ d, isReserved d = true ∧ (working.1.expand c).text.toList = [d] := by
  rcases working with ⟨stash, text⟩
  have inText := List.mem_of_getElem? isChar
  rcases Option.isSome_iff_exists.mp (consistent.reserved c inText reserved) with ⟨slot, slotEq⟩
  have used := consistent.slot_lt inText slotEq
  have held : stash.held? c = some (slot, stash.tokens[slot]) :=
    Stash.held?_eq_some_iff.mpr ⟨slotEq, Array.getElem?_eq_getElem used⟩
  rw [Stash.expand_of_held? held] at isPlain ⊢
  have stashed := consistent.entries stash.tokens[slot] (Array.getElem_mem used)
  simpa only [Token.Stashed, isPlain] using stashed

/-- A reserved character of the source text is never classified. -/
theorem PutsAway.owner?_eq_none_of_literal {working final : Working}
    (consistent : Consistent working) (steps : PutsAway working final) {index : Nat} {c : Char}
    (isChar : working.2[index]? = some c)
    (reserved : isReserved c = true) (isPlain : (working.1.expand c).tokenClass = none) :
    Token.owner? final.tokens (working.placeOf index) = none := by
  rw [Option.eq_none_iff_forall_ne_some]
  rintro ⟨start, token⟩ held
  -- the token that would hold the place has ordinary characters only
  obtain ⟨member, isClassified, e, inToken, isHere⟩ :=
    Token.mem_of_ownersFrom (Token.owner?_eq_some_iff.mp held)
  have ordinary : isReserved e = false := by
    obtain ⟨x, -, rfl⟩ := List.mem_map.mp member
    have stashed := (consistent.putsAway steps).stashed_expand isClassified
    rcases Option.isSome_iff_exists.mp isClassified with ⟨tokenClass, isClass⟩
    simp only [Token.Stashed, isClass] at stashed
    exact stashed.2 e inToken
  -- but the character of the source text at the place is reserved
  obtain ⟨d, dReserved, isText⟩ := consistent.exists_literal isChar reserved isPlain
  rw [steps.chars_eq consistent, Working.getElem?_chars_placeOf isChar (by simp [isText])] at isHere
  simp only [isText, List.getElem_cons_zero, Option.some.injEq] at isHere
  simp [← isHere, dReserved] at ordinary

/-! ## Claims -/

/-- A character that a rule claims: it is in a span of the rule, and no earlier rule has classified
it. -/
structure Language.Claim (language : Language) (text : String) where
  start : Working
  start_eq : Stash.protect text.toList = some start
  higher : List Rule
  rule : Rule
  lower : List Rule
  rules_eq : language.rules = higher ++ rule :: lower
  span : Span
  isSpan : span ∈ rule.spans (start.applyRules higher).2
  /-- The index of the character in the working text that the rule sees. -/
  index : Nat
  start_le : span.start ≤ index
  lt_stop : index < span.stop
  unclaimed : ∀ token, (start.applyRules higher).tokens[index]? = some token →
    token.tokenClass = none

namespace Language.Claim

variable {language : Language} {text : String}

/-- The working text that the rule sees. -/
def before (claim : language.Claim text) : Working :=
  claim.start.applyRules claim.higher

/-- The working text after the pass of the rule. -/
def passed (claim : language.Claim text) : Working :=
  claim.before.1.applyRule claim.rule claim.before.2

/-- The place of the character in the source text. -/
def place (claim : language.Claim text) : Nat :=
  claim.before.placeOf claim.index

/-- The token of the language that holds the character. -/
def owner? (claim : language.Claim text) : Option (Nat × Token) :=
  Token.owner? (language.tokenize text) claim.place

/-- Whether the character is in a run of blanks that the rule does not put away. -/
def leftBlank (claim : language.Claim text) : Bool :=
  claim.span.leavesBlank claim.before.2 claim.index

/-- The character is plain in the end, or the token that holds it comes from the pass of the
rule. -/
def Kept (claim : language.Claim text) : Prop :=
  claim.owner? = none ∨
    claim.owner? = Token.owner? claim.passed.tokens claim.place ∧
      claim.owner?.bind (·.2.tokenClass) = some claim.rule.tokenClass

theorem owner?_eq (claim : language.Claim text) :
    claim.owner? =
      Token.owner? (claim.passed.applyRules claim.lower).tokens claim.place := by
  simp only [owner?, Language.tokenize_of_protect claim.start_eq]
  have linked := Stash.protect_consistent claim.start_eq
  have steps := Working.applyRules_putsAway language.rules claim.start
  rw [(linked.putsAway steps).resolve_eq_join, Token.owner?_join, claim.rules_eq,
    Working.applyRules_append]
  rfl

/-- Claims are kept, but for blanks that the rule leaves: those are kept only where no later rule
classifies them. -/
theorem kept_iff (claim : language.Claim text) :
    claim.Kept ↔ (claim.leftBlank = true → claim.owner? = none) := by
  have linked : Consistent claim.before :=
    (Stash.protect_consistent claim.start_eq).putsAway (Working.applyRules_putsAway _ _)
  have ruleSteps : PutsAway claim.before claim.passed := Stash.applyRule_putsAway _ _ _
  have lowerSteps := Working.applyRules_putsAway claim.lower claim.passed
  have inText : claim.index < claim.before.2.length :=
    claim.lt_stop.trans_le ((claim.rule.spans_ordered claim.before.2).stop_le _ claim.isSpan)
  have isChar := List.getElem?_eq_getElem inText
  cases reserved : isReserved claim.before.2[claim.index] with
  | true =>
      have isPlain := claim.unclaimed (claim.before.1.expand claim.before.2[claim.index])
        (by rw [Working.tokens, List.getElem?_map]; exact congrArg (Option.map _) isChar)
      have never : claim.owner? = none := by
        rw [claim.owner?_eq]
        exact PutsAway.owner?_eq_none_of_literal linked (ruleSteps.trans lowerSteps) isChar reserved
          isPlain
      simp [Kept, never]
  | false =>
      have atRule : if claim.leftBlank then Token.owner? claim.passed.tokens claim.place = none
          else (Token.owner? claim.passed.tokens claim.place = none ∧ claim.passed.1.next? = none) ∨
            (Token.owner? claim.passed.tokens claim.place).bind (·.2.tokenClass) =
              some claim.rule.tokenClass :=
        Stash.owner?_applyRule linked claim.rule claim.isSpan claim.start_le claim.lt_stop isChar
          reserved
      cases blank : claim.leftBlank with
      | true =>
          rw [if_pos blank] at atRule
          constructor
          · rintro (isPlain | ⟨same, -⟩) -
            · exact isPlain
            · rw [same, atRule]
          · exact fun isPlain => .inl (isPlain rfl)
      | false =>
          refine iff_of_true ?_ (by simp)
          rw [if_neg (by simp [blank])] at atRule
          rcases atRule with ⟨raw, full⟩ | classified
          · left
            rw [claim.owner?_eq, lowerSteps.eq_of_full full]
            exact raw
          · right
            obtain ⟨owner, held, isClass⟩ := Option.bind_eq_some_iff.mp classified
            have still := lowerSteps.ownersKept (linked.putsAway ruleSteps) _ _ held
            have same : claim.owner? = some owner := claim.owner?_eq.trans still
            exact ⟨same.trans held.symm, by rw [same]; exact isClass⟩

/-! ### A blank that a later rule takes -/

/-- Comments are the letter x. -/
def letterRule : Rule where
  category := .comments
  source := { text := "x" }
  matcher := .ofPattern (.char 'x')
  matcher_eq := rfl

/-- Strings are what there is of a line. -/
def lineRule : Rule where
  category := .strings
  source := { text := ".+" }
  matcher := .ofPattern (.many1 (.set (.compl (.ofList ['\r', '\n']))))
  matcher_eq := rfl

/-- Keywords are spaces. -/
def spaceRule : Rule where
  category := .keywords
  source := { text := " " }
  matcher := .ofPattern (.char ' ')
  matcher_eq := rfl

/-- The language of these rules. -/
def spaced : Language where
  name := "spaced"
  rules := [letterRule, lineRule, spaceRule]

/-- Once the letters are put away, the whole line still is a string. -/
theorem line_mem_spans :
    ⟨0, 3⟩ ∈ lineRule.spans (Working.applyRules ({}, "x x".toList) [letterRule]).2 := by
  decide +kernel

/-- The rule for comments leaves the space plain. -/
theorem space_isPlain :
    (Working.applyRules ({}, "x x".toList) [letterRule]).tokens[1]? = some (.plain " ") := by
  decide +kernel

/-- The space between two letters, which are comments.  The rule for strings claims the line around
it. -/
def betweenLetters : spaced.Claim "x x" where
  start := ({}, "x x".toList)
  start_eq := Stash.protect_of_ordinary (by simp [isReserved])
  higher := [letterRule]
  rule := lineRule
  lower := [spaceRule]
  rules_eq := rfl
  span := ⟨0, 3⟩
  isSpan := line_mem_spans
  index := 1
  start_le := by decide
  lt_stop := by decide
  unclaimed := by
    intro token isToken
    obtain rfl := Option.some.inj (space_isPlain.symm.trans isToken)
    rfl

/-- The claim on the space is not kept: it ends up as a keyword. -/
theorem not_kept_betweenLetters :
    betweenLetters.owner? = some (1, .classified .keyword " ") ∧ ¬betweenLetters.Kept := by
  have tokens : spaced.tokenize "x x" =
      [.classified .comment "x", .classified .keyword " ", .classified .comment "x"] := by
    decide +kernel
  have isPlace : betweenLetters.place = 1 := by decide +kernel
  have isKeyword : betweenLetters.owner? = some (1, .classified .keyword " ") := by
    rw [owner?, tokens, isPlace]
    decide
  refine ⟨isKeyword, ?_⟩
  rintro (isPlain | ⟨-, isString⟩)
  · simp [isKeyword] at isPlain
  · rw [isKeyword] at isString
    cases isString

end Language.Claim

end Tint
