import Tint.Proofs.Builtin.Patterns
import Tint.Proofs.Builtin.Rules
import Tint.Proofs.Stash.Shown

/-!
# Words as a whole

Many patterns begin and end at ends of words, or with signs that are no characters of words.  Such a
pattern takes a word as a whole or nothing of it, and so does a rule for it.
-/

namespace Tint

open Tint.Regex Tint.Unicode

/-! ## Ends of words -/

/-- What can be next to a word. -/
def isNoWord (c : Char) : Bool :=
  !isWord c

@[simp] theorem isNoWord_iff {c : Char} : isNoWord c = true ↔ isWord c = false := by
  rw [isNoWord, Bool.not_eq_true']

theorem isNoWord_of_isReserved (c : Char) (reserved : isReserved c = true) : isNoWord c = true :=
  isNoWord_iff.mpr (isWord_of_isReserved reserved)

section Boundary

variable {before : Option Char} {front part rest : List Char}

/-- Between two characters of a word there is no end of one. -/
theorem boundary_of_isWord {a b : Char} (first : isWord a = true) (second : isWord b = true) :
    (Look.boundary .unicode).holds (some a) (some b) = false := by
  simp [Look.holds, WordKind.holds, first, second]

theorem boundary_start_iff (nonempty : part ≠ []) (words : ∀ c ∈ part, isWord c = true) :
    (Look.boundary .unicode).holds (lastOf none front) (part ++ rest).head? = true ↔
      ∀ c ∈ front.getLast?, isWord c = false := by
  obtain ⟨d, part, rfl⟩ := List.exists_cons_of_ne_nil nonempty
  cases isLast : front.getLast? <;>
    simp [lastOf, isLast, Look.holds, WordKind.holds, words d]

theorem boundary_end_iff (nonempty : part ≠ []) (words : ∀ c ∈ part, isWord c = true) :
    (Look.boundary .unicode).holds (lastOf before part) rest.head? = true ↔
      ∀ c ∈ rest.head?, isWord c = false := by
  obtain ⟨part, d, rfl⟩ := (List.eq_nil_or_concat' part).resolve_left nonempty
  cases isHead : rest.head? <;> simp [lastOf, Look.holds, WordKind.holds, words d]

end Boundary

/-! ## Patterns that have no ends inside of words -/

/-- Whether the pattern neither begins nor ends between two characters of a word. -/
structure Regex.Pattern.KeepsWords (pattern : Pattern) : Prop where
  opens : ∀ a b, isWord a = true → isWord b = true → pattern.opens (some a) (some b) = false
  closes : ∀ a b, isWord a = true → isWord b = true → pattern.closes (some a) (some b) = false

theorem Builtin.keepsWords_anyWord (list : List String) : (anyWord list).KeepsWords where
  opens a b first second := by
    simp [anyWord, Pattern.opens, boundary_of_isWord first second]
  closes a b first second := boundary_of_isWord first second

section Keeps

variable {pattern : Pattern} (keeps : pattern.KeepsWords)
include keeps

/-- What such a pattern takes from the start of a word on is the whole word, unless it can go on
behind it. -/
theorem Regex.Pattern.KeepsWords.eq_of_takes {before : Option Char}
    {part back other later : List Char} (takes : pattern.Takes before other later)
    (notNullable : pattern.nullable = false) (words : ∀ c ∈ part, isWord c = true)
    (ends : ∀ c ∈ back.head?, pattern.takes c = false) (same : part ++ back = other ++ later) :
    other = part := by
  rcases Nat.le_total other.length part.length with within | beyond
  · obtain ⟨between, rfl, rfl⟩ := exists_between same.symm within
    cases between with
    | nil => exact (List.append_nil other).symm
    | cons d between =>
        obtain ⟨more, c, rfl⟩ :=
          (List.eq_nil_or_concat' other).resolve_left (takes.nonempty notNullable)
        have closes := takes.closes
        rw [lastOf, List.getLast?_concat, Option.some_or, List.cons_append, List.head?_cons,
          keeps.closes c d (words c (by simp)) (words d (by simp))] at closes
        cases closes
  · obtain ⟨between, rfl, rfl⟩ := exists_between same beyond
    cases between with
    | nil => exact List.append_nil part
    | cons d between =>
        have taken := takes.allowed d (by simp)
        rw [ends d rfl] at taken
        cases taken

end Keeps

namespace Regex.Pattern.Fits

variable {pattern : Pattern} {front part back : List Char} {span : Span}
  (fits : pattern.Fits (front ++ (part ++ back)) span)

theorem exists_mem_between {index : Nat} (low : front.length ≤ index)
    (high : index < front.length + part.length) :
    ∃ c ∈ part, (front ++ (part ++ back))[index]? = some c := by
  have inside : index - front.length < part.length := by omega
  rw [List.getElem?_append_right low, List.getElem?_append_left inside,
    List.getElem?_eq_getElem inside]
  exact ⟨_, List.getElem_mem inside, rfl⟩

include fits

/-- A span that the pattern cannot have a part in keeps away from it. -/
theorem apart_of_takes (nonempty : part ≠ []) (noneTaken : ∀ c ∈ part, pattern.takes c = false) :
    span.stop ≤ front.length ∨ front.length + part.length ≤ span.start := by
  have some := List.length_pos_iff.mpr nonempty
  by_contra reaches
  rw [not_or, Nat.not_le, Nat.not_le] at reaches
  obtain ⟨c, member, isChar⟩ := @exists_mem_between front part back
    (max span.start front.length) (le_max_right _ _)
    (max_lt reaches.2 (by omega))
  have taken := fits.takes _ c (le_max_left _ _) (max_lt fits.nonempty reaches.1) isChar
  rw [noneTaken c member] at taken
  cases taken

variable (keeps : pattern.KeepsWords) (words : ∀ c ∈ part, isWord c = true)
include keeps words

/-- A span keeps away from a part of a word, or covers all of it. -/
theorem apart_or_covers :
    (span.stop ≤ front.length ∨ front.length + part.length ≤ span.start) ∨
      span.start ≤ front.length ∧ front.length + part.length ≤ span.stop := by
  rcases Nat.lt_or_ge front.length span.stop with inside | inFront
  · rcases Nat.lt_or_ge span.start (front.length + part.length) with before | behind
    · right
      constructor
      · by_contra late
        obtain ⟨a, inPart, isPrevious⟩ := @exists_mem_between front part back (span.start - 1)
          (by omega) (by omega)
        obtain ⟨b, inPart', isFirst⟩ := @exists_mem_between front part back span.start
          (by omega) before
        have opens := fits.opens_between (by omega) isPrevious isFirst
        rw [keeps.opens a b (words a inPart) (words b inPart')] at opens
        cases opens
      · by_contra early
        obtain ⟨a, inPart, isLast⟩ := @exists_mem_between front part back (span.stop - 1)
          (by omega) (by omega)
        obtain ⟨b, inPart', isNext⟩ := @exists_mem_between front part back span.stop
          inside.le (by omega)
        have closes := fits.closes_between isLast isNext
        rw [keeps.closes a b (words a inPart) (words b inPart')] at closes
        cases closes
    · exact .inl (.inr behind)
  · exact .inl (.inl inFront)

/-- A span keeps away from a part of a word if the pattern cannot take one of the characters. -/
theorem apart_of_mem {c : Char} (member : c ∈ part) (notTaken : pattern.takes c = false) :
    span.stop ≤ front.length ∨ front.length + part.length ≤ span.start := by
  rcases fits.apart_or_covers keeps words with apart | ⟨start_le, le_stop⟩
  · exact apart
  · obtain ⟨index, isIndex⟩ := List.mem_iff_getElem?.mp member
    have inside := (List.getElem?_eq_some_iff.mp isIndex).1
    have taken := fits.takes (front.length + index) c (by omega) (by omega) (by
      rw [List.getElem?_append_right (by omega), Nat.add_sub_cancel_left,
        List.getElem?_append_left inside, isIndex])
    rw [notTaken] at taken
    cases taken

/-- Where a span stops in front of a word, there is none behind it. -/
theorem isNoWord_of_stop (isStop : span.stop = front.length) (nonempty : part ≠ []) :
    ∀ c ∈ front.getLast?, isNoWord c = true := by
  intro c isLast
  obtain ⟨d, part, rfl⟩ := List.exists_cons_of_ne_nil nonempty
  have closes := fits.closes
  rw [isStop, List.take_left, isLast, List.getElem?_append_right le_rfl, Nat.sub_self,
    List.cons_append, List.getElem?_cons_zero] at closes
  rw [isNoWord_iff, ← Bool.not_eq_true]
  intro word
  rw [keeps.closes c d word (words d List.mem_cons_self)] at closes
  cases closes

/-- Where a span starts behind a word, there is none in front of it. -/
theorem isNoWord_of_start (isStart : span.start = front.length + part.length)
    (nonempty : part ≠ []) : ∀ c ∈ back.head?, isNoWord c = true := by
  intro c isHead
  obtain ⟨part, d, rfl⟩ := (List.eq_nil_or_concat' part).resolve_left nonempty
  have split : front ++ (part ++ [d] ++ back) = front ++ part ++ [d] ++ back := by simp
  have isLength : span.start = (front ++ part ++ [d]).length := by
    simpa [Nat.add_assoc] using isStart
  have opens := fits.opens
  rw [isLength, split, List.take_left, List.getElem?_append_right le_rfl, Nat.sub_self,
    ← List.head?_eq_getElem?, isHead, List.getLast?_concat] at opens
  rw [isNoWord_iff, ← Bool.not_eq_true]
  intro word
  rw [keeps.opens d c (words d (by simp)) word] at opens
  cases opens

end Regex.Pattern.Fits

/-! ## Words and passes -/

theorem ordinary_of_isWord {c : Char} (word : isWord c = true) : isReserved c = false := by
  rw [← Bool.not_eq_true]
  intro reserved
  rw [isWord_of_isReserved reserved] at word
  cases word

theorem notBlank_of_isWord {c : Char} (word : isWord c = true) : isSpace c = false := by
  rw [← Bool.not_eq_true]
  intro blank
  rw [isWord_of_isSpace blank] at word
  cases word

section Passes

variable {rule : Rule} {category : Category} {pattern : Pattern} {working : Working} {place : Nat}
  {part front back : List Char}

/-- A word that a pass has left as it is was a word before, or a span covered it. -/
theorem Rule.Seeks.shows_of_applyRule (seeks : rule.Seeks category 0 pattern)
    (keeps : pattern.KeepsWords) (linked : Consistent working) (nonempty : part ≠ [])
    (words : ∀ c ∈ part, isWord c = true)
    (shows : Working.Shows isNoWord (working.1.applyRule rule working.2) place part front back) :
    ∃ before after, working.2 = before ++ (part ++ after) ∧
      (Token.chars (before.map working.1.expand)).length = place ∧
      ((∃ span ∈ rule.spans working.2,
          span.start ≤ before.length ∧ before.length + part.length ≤ span.stop) ∨
        working.Shows isNoWord place part before after) := by
  obtain ⟨stash, text⟩ := working
  have replaced : Replaced stash (stash.applyRule rule text).1 rule.tokenClass (rule.IsRun text) 0
      text (stash.applyRule rule text).2 := Stash.replaced_applyRule linked rule
  obtain ⟨isNewText, isNewPlace, frontEnds, backBegins⟩ := shows
  simp only at isNewText
  rw [isNewText] at replaced
  obtain ⟨before, rest, isText, first, second⟩ := replaced.of_append
  obtain ⟨after, rfl, last⟩ := second.of_ordinary_append fun c member =>
    ordinary_of_isWord (words c member)
  subst isText
  have isPlace : (Token.chars (before.map stash.expand)).length = place := by
    rw [← isNewPlace, first.chars_eq]
  refine ⟨before, after, rfl, isPlace, ?_⟩
  by_cases covered : ∃ span ∈ rule.spans (before ++ (part ++ after)),
      span.start ≤ before.length ∧ before.length + part.length ≤ span.stop
  · exact .inl covered
  · right
    have apart (span : Span) (isSpan : span ∈ rule.spans (before ++ (part ++ after))) :
        span.stop ≤ before.length ∨ before.length + part.length ≤ span.start :=
      ((seeks.fits isSpan).apart_or_covers keeps words).resolve_right fun covers =>
        covered ⟨span, isSpan, covers⟩
    have some := List.length_pos_iff.mpr nonempty
    refine ⟨rfl, isPlace, ?_, ?_⟩
    · rcases first.getLast?_eq with
        same | ⟨⟨start, start_lt, span, isSpan, start_le, le_stop, -⟩, -⟩
      · exact same ▸ frontEnds
      · have away := apart span isSpan
        exact (seeks.fits isSpan).isNoWord_of_stop keeps words (by omega) nonempty
    · rcases last.head?_eq with same | ⟨⟨stop, lt_stop, span, isSpan, start_le, le_stop, -⟩, -⟩
      · exact same ▸ backBegins
      · have away := apart span isSpan
        exact (seeks.fits isSpan).isNoWord_of_start keeps words (by omega) nonempty

/-- What a rule for words finds is one of them. -/
theorem Rule.Seeks.exists_shows {list : List String}
    (seeks : rule.Seeks category 0 (Builtin.anyWord list))
    (listed : ∀ word ∈ list, word.toList ≠ [] ∧ ∀ c ∈ word.toList, isWord c = true) {span : Span}
    (isSpan : span ∈ rule.spans working.2) :
    ∃ word ∈ list, ∃ front back,
      working.Shows isNoWord (Token.chars (front.map working.1.expand)).length word.toList front
        back ∧ span.start = front.length ∧ span.stop = front.length + word.toList.length := by
  obtain ⟨front, taken, back, isText, isStart, isStop, takes⟩ := seeks.exists_takes isSpan
  have someWord : list ≠ [] := by
    rintro rfl
    cases seeks.scannable.nonempty
  obtain ⟨⟨word, inList, rfl⟩, starts, ends⟩ := (Builtin.anyWord_takes_iff someWord).mp takes
  obtain ⟨nonempty, words⟩ := listed word inList
  rw [List.append_assoc] at isText
  rw [boundary_start_iff nonempty words] at starts
  rw [boundary_end_iff nonempty words] at ends
  refine ⟨word, inList, front, back, ⟨isText, rfl, ?_, ?_⟩, isStart, isStop⟩
  · exact fun c isLast => isNoWord_iff.mpr (starts c isLast)
  · exact fun c isHead => isNoWord_iff.mpr (ends c isHead)

/-- A rule for words covers those that it looks for. -/
theorem Rule.Seeks.exists_covers {list : List String} (seeks : rule.Seeks category 0
    (Builtin.anyWord list)) {word : String} (inList : word ∈ list) (nonempty : word.toList ≠ [])
    (words : ∀ c ∈ word.toList, isWord c = true)
    (shows : working.Shows isNoWord place word.toList front back) :
    ∃ span ∈ rule.spans working.2,
      span.start ≤ front.length ∧ front.length + word.toList.length ≤ span.stop := by
  have takes : (Builtin.anyWord list).Takes (lastOf none front) word.toList back :=
    (Builtin.anyWord_takes_iff (List.ne_nil_of_mem inList)).mpr ⟨⟨word, inList, rfl⟩,
      (boundary_start_iff nonempty words).mpr fun c isLast =>
        isNoWord_iff.mp (shows.frontEnds c isLast),
      (boundary_end_iff nonempty words).mpr fun c isHead =>
        isNoWord_iff.mp (shows.backBegins c isHead)⟩
  obtain ⟨span, isSpan, start_le, lt_stop⟩ := seeks.exists_span takes
  rw [List.append_assoc, ← shows.text_eq] at isSpan
  refine ⟨span, isSpan, ?_⟩
  have some := List.length_pos_iff.mpr nonempty
  have keeps := Builtin.keepsWords_anyWord list
  exact ((seeks.fits (shows.text_eq ▸ isSpan)).apart_or_covers keeps words).resolve_left (by omega)

/-- A word that is still shown after a span has covered it, shows that no placeholder is left. -/
theorem Working.Shows.full_of_covers (linked : Consistent working) (nonempty : part ≠ [])
    (words : ∀ c ∈ part, isWord c = true)
    (shows : Working.Shows isNoWord (working.1.applyRule rule working.2) place part front back)
    {before after : List Char} (isText : working.2 = before ++ (part ++ after))
    (isPlace : (Token.chars (before.map working.1.expand)).length = place) {span : Span}
    (isSpan : span ∈ rule.spans working.2) (start_le : span.start ≤ before.length)
    (le_stop : before.length + part.length ≤ span.stop) :
    (working.1.applyRule rule working.2).1.next? = none := by
  obtain ⟨stash, text⟩ := working
  simp only at isText isSpan
  have ordinary : ∀ c ∈ part, isReserved c = false := fun c member =>
    ordinary_of_isWord (words c member)
  have some := List.length_pos_iff.mpr nonempty
  obtain ⟨c, member, isChar⟩ := @Regex.Pattern.Fits.exists_mem_between before part after
    before.length le_rfl (by omega)
  rw [← isText] at isChar
  have notLeft := Span.leavesBlank_eq_false start_le (by omega) isChar (ordinary c member)
    (notBlank_of_isWord (words c member))
  have atRule := Stash.owner?_applyRule linked rule isSpan start_le (by omega) isChar
    (ordinary c member)
  rw [notLeft, if_neg (by simp)] at atRule
  have isPlain : Token.owner? (Working.tokens (stash.applyRule rule text))
      (Working.placeOf (stash, text) before.length) = none := by
    have here := @Working.placeOf_of_ordinary stash before part after 0 ordinary (Nat.zero_le _)
    rw [List.append_assoc, ← isText, Nat.add_zero, isPlace, ← shows.place_eq] at here
    rw [here, Working.tokens, shows.text_eq, List.map_append, List.map_append, ← List.append_assoc]
    exact Segment.owner?_tokens_keep ordinary some _ _ _
  rw [isPlain] at atRule
  simpa using atRule

end Passes

section Claims

variable {language : Language} {text : String} {higher lower : List Rule} {rule : Rule}
  {start : Working} {part front back : List Char} {place offset : Nat}
  (isRules : language.rules = higher ++ rule :: lower)
  (found : Stash.protect text.toList = some start)
include isRules found

/-- The rule claims the characters of a word that a span covers, and they go to the rule or to none.
-/
theorem Language.exists_claim_of_covers (words : ∀ c ∈ part, isWord c = true)
    (isText : (start.applyRules higher).2 = front ++ (part ++ back)) {span : Span}
    (isSpan : span ∈ rule.spans (start.applyRules higher).2) (start_le : span.start ≤ front.length)
    (le_stop : front.length + part.length ≤ span.stop) (inside : offset < part.length) :
    ∃ claim : language.Claim text, claim.rule = rule ∧
      claim.place = (Token.chars (front.map (start.applyRules higher).1.expand)).length + offset ∧
      (claim.owner? = none ∨ claim.owner?.bind (·.2.tokenClass) = some claim.rule.tokenClass) := by
  have ordinary : ∀ c ∈ part, isReserved c = false := fun c member =>
    ordinary_of_isWord (words c member)
  obtain ⟨c, member, isChar⟩ := @Regex.Pattern.Fits.exists_mem_between front part back
    (front.length + offset) (Nat.le_add_right _ _) (by omega)
  rw [← isText] at isChar
  let claim : language.Claim text := {
    start
    start_eq := found
    higher
    rule
    lower
    rules_eq := isRules
    span
    isSpan
    index := front.length + offset
    start_le := by omega
    lt_stop := by omega
    unclaimed := by
      intro token isToken
      rw [Working.tokens, List.getElem?_map, isChar, Option.map_some,
        Stash.expand_of_ordinary (ordinary c member)] at isToken
      cases isToken
      rfl }
  have isPlace : claim.place =
      (Token.chars (front.map (start.applyRules higher).1.expand)).length + offset := by
    have here := @Working.placeOf_of_ordinary (start.applyRules higher).1 front part back offset
      ordinary inside.le
    rwa [List.append_assoc, ← isText] at here
  refine ⟨claim, rfl, isPlace, ?_⟩
  exact Language.owner?_tokenize isRules found isSpan claim.start_le claim.lt_stop isChar
    (ordinary c member) (Span.leavesBlank_eq_false claim.start_le claim.lt_stop isChar
      (ordinary c member) (notBlank_of_isWord (words c member)))

/-- In the pass of a rule that takes words as a whole, the rule claims a word or leaves it as it is.
-/
theorem Rule.Seeks.exists_claim_or_shows {category : Category} {pattern : Pattern}
    (seeks : rule.Seeks category 0 pattern) (keeps : pattern.KeepsWords)
    (words : ∀ c ∈ part, isWord c = true)
    (shows : (start.applyRules higher).Shows isNoWord place part front back) :
    (∀ offset < part.length, ∃ claim : language.Claim text, claim.rule = rule ∧
        claim.place = place + offset ∧ (claim.owner? = none ∨
          claim.owner?.bind (·.2.tokenClass) = some claim.rule.tokenClass)) ∨
      ∃ newFront newBack,
        (start.applyRules (higher ++ [rule])).Shows isNoWord place part newFront newBack := by
  have isText := shows.text_eq
  by_cases covered : ∃ span ∈ rule.spans (start.applyRules higher).2,
      span.start ≤ front.length ∧ front.length + part.length ≤ span.stop
  · obtain ⟨span, isSpan, start_le, le_stop⟩ := covered
    left
    intro offset inside
    rw [← shows.place_eq]
    exact Language.exists_claim_of_covers isRules found words isText isSpan start_le le_stop inside
  · right
    have linked := (Stash.protect_consistent found).putsAway
      (Working.applyRules_putsAway higher start)
    rw [Working.applyRules_append]
    refine shows.applyRule isNoWord_of_isReserved linked fun span isSpan => ?_
    rw [isText] at isSpan covered
    exact ((seeks.fits isSpan).apart_or_covers keeps words).resolve_right fun covers =>
      covered ⟨span, isSpan, covers⟩

end Claims

end Tint
