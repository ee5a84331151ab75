import Tint.Proofs.Stash.Ideal
import Tint.Proofs.Tokenized

/-!
# When the placeholders run out

Tokens are put away as long as there are placeholders.  Each one in use stands for a reserved
character of the text or for a classified token, so their number bounds both together.  A text with
too many reserved characters is not looked at any further.  In any other text, there may come a
moment in the pass of some rule when the last placeholder is gone: then the working text stays as it
is, in the rest of the pass and in the passes of all rules behind.
-/

namespace Tint

open Tint.Regex Tint.Unicode

/-! ## Without a placeholder left -/

namespace Draft

variable {draft : Draft}

variable (full : draft.stash.next? = none)
include full

theorem write_of_full (segment : Segment) : draft.write segment = draft.keepAll segment.text := by
  cases segment with
  | keep kept => rfl
  | claim tokenClass run => exact classifyRun_of_full full

theorem foldl_write_of_full (segments : List Segment) :
    segments.foldl write draft = draft.keepAll (segments.flatMap Segment.text) := by
  induction segments generalizing draft with
  | nil => rfl
  | cons segment segments ih =>
      have stillFull : (draft.keepAll segment.text).stash.next? = none := full
      rw [List.foldl_cons, write_of_full full, ih stillFull, keepAll_keepAll, List.flatMap_cons]

/-- A match is written as it is. -/
theorem classify_of_full (tokenClass : TokenClass) (matched : List Char) :
    draft.classify tokenClass matched = draft.keepAll matched := by
  rw [classify_eq_foldl, foldl_write_of_full full, Segment.flatMap_text_ofMatch]

end Draft

theorem Stash.applyRule_of_full {stash : Stash} (full : stash.next? = none) (rule : Rule)
    (text : List Char) : stash.applyRule rule text = (stash, text) :=
  PutsAway.eq_of_full full (applyRule_putsAway rule stash text)

theorem Working.applyRules_of_full {working : Working} (full : working.1.next? = none)
    (rules : List Rule) : working.applyRules rules = working :=
  PutsAway.eq_of_full full (applyRules_putsAway rules working)

/-! ## What the placeholders are used for -/

namespace Consistent

variable {working : Working} (consistent : Consistent working)
include consistent

/-- A placeholder is refused only when all of them are in use. -/
theorem next?_eq_none_iff : working.1.next? = none ↔ working.1.tokens.size = slotLimit := by
  rw [Stash.next?_eq_none_iff]
  exact ⟨fun full => consistent.size_le.antisymm full, Eq.ge⟩

/-- Each slot holds a classified token or a reserved character of the source text. -/
theorem size_eq :
    working.1.tokens.size =
      Token.classifiedCount working.tokens + (Token.chars working.tokens).countP isReserved := by
  have each (part : List Char) (inText : ∀ c ∈ part, c ∈ working.2) :
      part.countP isReserved = Token.classifiedCount (part.map working.1.expand) +
        (Token.chars (part.map working.1.expand)).countP isReserved := by
    induction part with
    | nil => rfl
    | cons c part ih =>
        have later := ih fun other member => inText other (List.mem_cons_of_mem c member)
        have first : (if isReserved c then 1 else 0) =
            (if (working.1.expand c).tokenClass.isSome then 1 else 0) +
              (working.1.expand c).text.toList.countP isReserved := by
          rcases consistent.expand_cases (inText c List.mem_cons_self) with
            ⟨reserved, stashed⟩ | ⟨ordinary, -⟩
          · rw [Token.Stashed] at stashed
            cases isClass : (working.1.expand c).tokenClass with
            | none =>
                simp only [isClass] at stashed
                obtain ⟨d, dReserved, isText⟩ := stashed
                simp [reserved, isText, dReserved]
            | some tokenClass =>
                simp only [isClass] at stashed
                have none : (working.1.expand c).text.toList.countP isReserved = 0 :=
                  List.countP_eq_zero.mpr fun d member => by simp [stashed.2 d member]
                simp [reserved, none]
          · simp [ordinary, Token.plain]
        rw [Token.classifiedCount] at later ⊢
        rw [List.map_cons, Token.chars_cons, List.countP_cons, List.countP_cons,
          List.countP_append, later, first]
        omega
  rw [← consistent.countP_isReserved]
  exact each working.2 fun _ => id

end Consistent

namespace Stash

/-- Protecting a text takes a slot for each of its reserved characters. -/
theorem size_protect {source : List Char} {start : Working} (found : protect source = some start) :
    start.1.tokens.size = source.countP isReserved := by
  have plain : Token.classifiedCount start.tokens = 0 := by
    rw [tokens_protect found]
    exact Token.classifiedCount_of_plain (by simp)
  rw [(protect_consistent found).size_eq, plain, chars_protect found, Nat.zero_add]

/-- A text can be protected if there is a placeholder for each of its reserved characters. -/
theorem protect_eq_none_iff {source : List Char} :
    protect source = none ↔ slotLimit < source.countP isReserved := by
  constructor
  · exact lt_of_protect_eq_none
  · intro tooMany
    cases found : protect source with
    | none => rfl
    | some start =>
        have within := (protect_consistent found).size_le
        rw [size_protect found] at within
        omega

end Stash

theorem Tokenized.classifiedCount_le {text : String} {tokens : List Token}
    (tokenized : Tokenized text tokens) : Token.classifiedCount tokens ≤ text.toList.length := by
  rw [← tokenized.chars_eq]
  exact Token.classifiedCount_le_length fun _ => tokenized.text_ne_empty_of_classified

/-! ## Moments -/

/-- A moment while a language tokenizes a text: in the pass of a rule, some segments of the working
text have been dealt with, and some are left. -/
structure Language.Moment (language : Language) (text : String) where
  start : Working
  start_eq : Stash.protect text.toList = some start
  higher : List Rule
  rule : Rule
  lower : List Rule
  rules_eq : language.rules = higher ++ rule :: lower
  done : List Segment
  left : List Segment
  segments_eq :
    Segment.ofSpans 0 (start.applyRules higher).2
      ((rule.spans (start.applyRules higher).2).map fun span => (span, rule.tokenClass)) =
        done ++ left

namespace Language.Moment

variable {language : Language} {text : String}

/-- The working text that the rule sees. -/
def before (moment : language.Moment text) : Working :=
  moment.start.applyRules moment.higher

/-- What has been written in the pass. -/
def draft (moment : language.Moment text) : Draft :=
  moment.done.foldl Draft.write ⟨moment.before.1, []⟩

/-- The working text at the moment, what is left to be read of it included. -/
def working (moment : language.Moment text) : Working :=
  moment.draft.working (moment.left.flatMap Segment.text)

/-- Nothing more can be put away. -/
def IsFull (moment : language.Moment text) : Prop :=
  moment.draft.stash.next? = none

/-- The pass of the rule comes to the moment, and goes on with what is left. -/
theorem applyRule_eq (moment : language.Moment text) :
    moment.before.1.applyRule moment.rule moment.before.2 =
      (moment.left.foldl Draft.write moment.draft).working [] := by
  have segments := moment.segments_eq
  rw [← before] at segments
  rw [Stash.applyRule_eq_replaceSpans, Stash.replaceSpans, Draft.classifySpans_eq_foldl, segments,
    List.foldl_append, draft, Draft.working, List.append_nil]

/-- The tokens of the language are what the passes behind the moment make of the working text. -/
theorem tokenize_eq (moment : language.Moment text) :
    let final := Working.applyRules
      ((moment.left.foldl Draft.write moment.draft).working []) moment.lower
    language.tokenize text = final.1.resolve final.2 := by
  rw [Language.tokenize_of_protect moment.start_eq, moment.rules_eq, Working.applyRules_append,
    ← moment.applyRule_eq]
  rfl

/-- The working text is linked to its stash at any moment. -/
theorem consistent (moment : language.Moment text) : Consistent moment.working := by
  have atRule : Consistent moment.before :=
    (Stash.protect_consistent moment.start_eq).putsAway (Working.applyRules_putsAway _ _)
  have ordinary := Segment.ordinary_of_mem_ofSpans 0 moment.before.2
    ((moment.rule.spans moment.before.2).map fun span => (span, moment.rule.tokenClass))
  have whole := Segment.flatMap_text_ofSpans 0 moment.before.2
    ((moment.rule.spans moment.before.2).map fun span => (span, moment.rule.tokenClass))
  rw [before, moment.segments_eq] at ordinary whole
  rw [List.flatMap_append] at whole
  have steps := Draft.foldl_write_putsAway ⟨moment.before.1, []⟩
    (fun segment member => ordinary segment (List.mem_append_left _ member))
    (moment.left.flatMap Segment.text)
  rw [whole] at steps
  exact atRule.putsAway steps

/-- What is known of a moment at which tokens may be put away or not. -/
structure Degrades (moment : language.Moment text) : Prop where
  /-- The pass of the rule comes to the moment, and goes on with the segments that are left. -/
  comesTo : moment.before.1.applyRule moment.rule moment.before.2 =
    (moment.left.foldl Draft.write moment.draft).working []
  size_le : moment.draft.stash.tokens.size ≤ slotLimit
  /-- A token is refused only when all placeholders are in use. -/
  isFull_iff : moment.IsFull ↔ moment.draft.stash.tokens.size = slotLimit
  /-- From then on, whatever is to be classified is written as it is. -/
  kept : moment.IsFull → ∀ (tokenClass : TokenClass) (matched : List Char),
    moment.draft.classify tokenClass matched = moment.draft.keepAll matched
  /-- So the rest of the pass changes nothing, segment by segment, -/
  restOfPass : moment.IsFull → ∀ next last : List Segment, moment.left = next ++ last →
    (next.foldl Draft.write moment.draft).working (last.flatMap Segment.text) = moment.working
  /-- no rule changes anything any more, -/
  laterPass : moment.IsFull → ∀ rule : Rule,
    moment.working.1.applyRule rule moment.working.2 = moment.working
  /-- and the tokens are those that the working text stands for at the moment. -/
  tokens : moment.IsFull → language.tokenize text = Token.join moment.working.tokens

theorem degrades (moment : language.Moment text) : moment.Degrades where
  comesTo := moment.applyRule_eq
  size_le := moment.consistent.size_le
  isFull_iff := moment.consistent.next?_eq_none_iff
  kept full tokenClass matched := Draft.classify_of_full full tokenClass matched
  restOfPass full next last split := by
    rw [Draft.foldl_write_of_full full, Draft.working_keepAll, ← List.flatMap_append, ← split]
    rfl
  laterPass full rule := Stash.applyRule_of_full full rule _
  tokens full := by
    have same : (moment.left.foldl Draft.write moment.draft).working [] = moment.working := by
      rw [Draft.foldl_write_of_full full, Draft.working_keepAll, List.append_nil]
      rfl
    have isFull : moment.working.1.next? = none := full
    have stays := Working.applyRules_of_full isFull moment.lower
    rw [moment.tokenize_eq, same, stays, moment.consistent.resolve_eq_join]

/-- If the reserved characters of a text take all placeholders, nothing is left for any rule. -/
theorem exists_isFull (filled : text.toList.countP isReserved = slotLimit)
    (someRule : language.rules ≠ []) :
    ∃ moment : language.Moment text, moment.IsFull ∧ language.tokenize text = [.plain text] := by
  obtain ⟨rule, lower, rules_eq⟩ := List.exists_cons_of_ne_nil someRule
  obtain ⟨start, found⟩ : ∃ start, Stash.protect text.toList = some start := by
    rw [← Option.ne_none_iff_exists', Ne, Stash.protect_eq_none_iff]
    omega
  let moment : language.Moment text := ⟨start, found, [], rule, lower, rules_eq, [], _, rfl⟩
  have full : moment.IsFull := by
    have size := (Stash.size_protect found).trans filled
    exact (Stash.protect_consistent found).next?_eq_none_iff.mpr size
  have isWorking : moment.working = start := by
    rw [working, Segment.flatMap_text_ofSpans]
    rfl
  have nonempty : text.toList ≠ [] := by
    intro empty
    rw [empty] at filled
    cases filled
  refine ⟨moment, full, ?_⟩
  rw [moment.degrades.tokens full, isWorking, Stash.tokens_protect found,
    Token.join_map_single nonempty, String.ofList_toList]

end Language.Moment

/-! ## A whole text -/

/-- What becomes of a text in a language, whether there are placeholders enough or not. -/
structure Language.Degrades (language : Language) (text : String) : Prop where
  limit : slotLimit = 131068
  /-- A text with more reserved characters than there are placeholders is a single plain token. -/
  tooMany : slotLimit < text.toList.countP isReserved → language.tokenize text = [.plain text]
  /-- The rules are applied to any other text.  The classified tokens and the reserved characters of
  the text have a slot each, and there are no other slots. -/
  enough : text.toList.countP isReserved ≤ slotLimit →
    ∃ start, Stash.protect text.toList = some start ∧
      let final := Working.applyRules start language.rules
      language.tokenize text = final.1.resolve final.2 ∧
        Token.classifiedCount (language.tokenize text) + text.toList.countP isReserved =
          final.1.tokens.size ∧
        final.1.tokens.size ≤ slotLimit
  /-- While the text is protected, a slot is refused only when all are in use. -/
  protecting : ∀ front, front <+: text.toList → ∀ draft,
    Stash.protectFrom ⟨{}, []⟩ front = some draft →
      draft.stash.tokens.size ≤ slotLimit ∧
        (draft.stash.next? = none ↔ draft.stash.tokens.size = slotLimit)
  /-- When the placeholders run out in the pass of a rule, all that is classified is so by then. -/
  moments : ∀ moment : language.Moment text, moment.Degrades

/-- However many placeholders a text needs, no language goes beyond them or fails for want of them.
-/
theorem Language.tokenize_degrades (language : Language) (text : String) :
    language.Degrades text where
  limit := rfl
  tooMany many := by
    rw [tokenize, Stash.protect_eq_none_iff.mpr many]
  enough within := by
    cases found : Stash.protect text.toList with
    | none =>
        have many := Stash.protect_eq_none_iff.mp found
        omega
    | some start =>
        have steps := Working.applyRules_putsAway language.rules start
        have linked := (Stash.protect_consistent found).putsAway steps
        have sameText := steps.chars_eq (Stash.protect_consistent found)
        rw [Stash.chars_protect found] at sameText
        refine ⟨start, rfl, tokenize_of_protect found, ?_, linked.size_le⟩
        rw [tokenize_of_protect found, linked.resolve_eq_join, Token.classifiedCount_join,
          ← sameText, linked.size_eq]
  protecting front _ draft found := by
    have isStart : Stash.protect front = some (draft.stash, draft.text) := by
      rw [Stash.protect, found]
      rfl
    have linked := Stash.protect_consistent isStart
    exact ⟨linked.size_le, linked.next?_eq_none_iff⟩
  moments moment := moment.degrades

end Tint
