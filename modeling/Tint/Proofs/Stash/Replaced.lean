import Tint.Proofs.Regex.Taken
import Tint.Proofs.Stash.Spans

/-!
# What a pass makes of a text

The pass of a rule leaves characters as they are, or it puts runs of ordinary characters away and
leaves a placeholder for each.  Such a run goes from one border to the next: the borders are the
ends of a span and the placeholders in it.  `Replaced` says just this, character by character, so
that parts of the text before and after the pass can be found in one another.
-/

namespace Tint

open Tint.Regex Tint.Unicode

/-- What a pass makes of a text from some index on: characters stay and stand for what they stood
for, or runs give way to placeholders that hold them. -/
inductive Replaced (old new : Stash) (tokenClass : TokenClass) (isRun : Nat → Nat → Prop) :
    (index : Nat) → (text newText : List Char) → Prop where
  | nil (index : Nat) : Replaced old new tokenClass isRun index [] []
  | keep {index : Nat} {c : Char} {text newText : List Char} (same : new.expand c = old.expand c)
      (rest : Replaced old new tokenClass isRun (index + 1) text newText) :
      Replaced old new tokenClass isRun index (c :: text) (c :: newText)
  | put {index : Nat} {placeholder : Char} {run text newText : List Char} (nonempty : run ≠ [])
      (ordinary : ∀ c ∈ run, isReserved c = false) (borders : isRun index (index + run.length))
      (reserved : isReserved placeholder = true)
      (holds : new.expand placeholder = .classified tokenClass (String.ofList run))
      (rest : Replaced old new tokenClass isRun (index + run.length) text newText) :
      Replaced old new tokenClass isRun index (run ++ text) (placeholder :: newText)

/-- A part of a span of the rule, from one border to the next. -/
def Rule.IsRun (rule : Rule) (text : List Char) (start stop : Nat) : Prop :=
  ∃ span ∈ rule.spans text, span.start ≤ start ∧ stop ≤ span.stop ∧
    (span.start < start → ∀ c ∈ (text.take start).getLast?, isReserved c = true) ∧
    (stop < span.stop → ∀ c ∈ (text.drop stop).head?, isReserved c = true)

/-! ## The runs of a pass -/

namespace Segment

section Division

variable {segment other : Segment} {first second before after : List Segment}

theorem singleton_eq_append_cons (split : [other] = before ++ segment :: after) :
    before = [] ∧ segment = other ∧ after = [] := by
  simpa using List.append_eq_singleton_iff.mp split.symm

/-- A segment of two parts, one behind the other, is in the second of them or in the first. -/
theorem append_eq_append_cons (split : first ++ second = before ++ segment :: after) :
    (∃ middle, before = first ++ middle ∧ second = middle ++ segment :: after) ∨
      ∃ middle, first = before ++ segment :: middle ∧ after = middle ++ second := by
  rcases List.append_eq_append_iff.mp split with
    ⟨middle, isBefore, isSecond⟩ | ⟨middle, isFirst, isLater⟩
  · exact .inl ⟨middle, isBefore, isSecond⟩
  · cases middle with
    | nil => exact .inl ⟨[], by simp [isFirst], isLater.symm⟩
    | cons other middle =>
        obtain ⟨rfl, isAfter⟩ := List.cons.inj isLater
        exact .inr ⟨middle, isFirst, isAfter⟩

end Division

theorem eq_of_piece_eq_claim {tokenClass claimed : TokenClass} {run inner : List Char}
    (isPiece : piece tokenClass run = claim claimed inner) :
    inner = run ∧ claimed = tokenClass := by
  rw [piece] at isPiece
  split at isPiece
  · cases isPiece
  · cases isPiece
    exact ⟨rfl, rfl⟩

/-- A run that is to be put away goes from one border of a match to the next. -/
theorem bordered_of_pieces {tokenClass claimed : TokenClass} {run matched inner : List Char}
    {before after : List Segment} (ordinary : ∀ c ∈ run, isReserved c = false)
    (split : pieces tokenClass run matched = before ++ claim claimed inner :: after) :
    Bordered (before.flatMap text) inner (after.flatMap text) ∧ claimed = tokenClass := by
  induction matched generalizing run before with
  | nil =>
      rw [pieces] at split
      obtain ⟨rfl, isPiece, rfl⟩ := singleton_eq_append_cons split
      obtain ⟨rfl, same⟩ := eq_of_piece_eq_claim isPiece.symm
      exact ⟨⟨by simpa using ordinary, by simp, by simp⟩, same⟩
  | cons d rest ih =>
      rw [pieces] at split
      cases reserved : isReserved d with
      | false =>
          rw [reserved, if_neg (by simp)] at split
          exact ih (by simpa [reserved] using ordinary) split
      | true =>
          rw [reserved, if_pos rfl] at split
          cases before with
          | nil =>
              obtain ⟨isPiece, isAfter⟩ := List.cons.inj split
              subst isAfter
              obtain ⟨rfl, same⟩ := eq_of_piece_eq_claim isPiece
              exact ⟨⟨by simpa using ordinary, by simp, by simpa using reserved⟩, same⟩
          | cons first before =>
              obtain ⟨rfl, further⟩ := List.cons.inj split
              cases before with
              | nil => cases (List.cons.inj further).1
              | cons second before =>
                  obtain ⟨rfl, later⟩ := List.cons.inj further
                  obtain ⟨bordered, same⟩ := ih (by simp) later
                  exact ⟨bordered.behind reserved _, same⟩

theorem bordered_of_ofMatch {tokenClass claimed : TokenClass} {matched inner : List Char}
    {before after : List Segment}
    (split : ofMatch tokenClass matched = before ++ claim claimed inner :: after) :
    Bordered (before.flatMap text) inner (after.flatMap text) ∧ claimed = tokenClass := by
  rw [ofMatch] at split
  split at split
  · exact bordered_of_pieces (by simp) split
  · rename_i noneReserved
    obtain ⟨rfl, isClaim, rfl⟩ := singleton_eq_append_cons split
    cases isClaim
    exact ⟨⟨by simpa using noneReserved, by simp, by simp⟩, rfl⟩

/-- What a pass is to put away are runs of its spans, from one border to the next. -/
theorem exists_span_of_ofSpans {source : List Char} {spans : List Span} {offset : Nat}
    {tokenClass claimed : TokenClass} {run : List Char} {before after : List Segment}
    (ordered : Span.Ordered source spans) (behind : ∀ span ∈ spans, offset ≤ span.start)
    (split : ofSpans offset (source.drop offset) (spans.map fun span => (span, tokenClass)) =
      before ++ claim claimed run :: after) :
    claimed = tokenClass ∧ ∃ span ∈ spans, ∃ front back,
      span.slice source = front ++ run ++ back ∧ Bordered front run back ∧
        offset + (before.flatMap text).length = span.start + front.length := by
  induction spans generalizing offset before with
  | nil =>
      have single : [keep (source.drop offset)] = before ++ claim claimed run :: after := split
      obtain ⟨-, isKeep, -⟩ := singleton_eq_append_cons single
      cases isKeep
  | cons span spans ih =>
      have start_le := behind span List.mem_cons_self
      have nonempty := ordered.nonempty span List.mem_cons_self
      have stop_le := ordered.stop_le span List.mem_cons_self
      simp only [List.map_cons, ofSpans, Span.splitAt_front source start_le,
        span.splitAt_drop source nonempty.le] at split
      cases before with
      | nil => cases (List.cons.inj split).1
      | cons first before =>
          obtain ⟨isFirst, further⟩ := List.cons.inj split
          subst isFirst
          have inFront : offset + (Span.slice ⟨offset, span.start⟩ source).length = span.start := by
            simp only [Span.slice, List.length_take, List.length_drop]
            omega
          rcases append_eq_append_cons further with ⟨middle, rfl, isLater⟩ | ⟨middle, isMatch, -⟩
          · obtain ⟨same, other, member, front, back, isSlice, bordered, reached⟩ :=
              ih ordered.tail ordered.stop_le_start isLater
            refine ⟨same, other, List.mem_cons_of_mem _ member, front, back, isSlice, bordered, ?_⟩
            rw [← reached]
            simp only [Span.slice, List.flatMap_cons, List.flatMap_append, flatMap_text_ofMatch,
              text_keep, List.length_append, List.length_take, List.length_drop]
            omega
          · obtain ⟨bordered, same⟩ := bordered_of_ofMatch isMatch
            have isSlice := flatMap_text_ofMatch tokenClass (span.slice source)
            rw [isMatch, List.flatMap_append, List.flatMap_cons, text_claim] at isSlice
            exact ⟨same, span, List.mem_cons_self, before.flatMap text, middle.flatMap text, by
              rw [← isSlice, List.append_assoc], bordered, by
              rw [List.flatMap_cons, text_keep, List.length_append, ← Nat.add_assoc, inFront]⟩

end Segment

/-- A run between two borders of a span, in the text as a whole. -/
theorem Rule.isRun_of_bordered {rule : Rule} {text front run back : List Char} {span : Span}
    (isSpan : span ∈ rule.spans text) (isSlice : span.slice text = front ++ run ++ back)
    (bordered : Segment.Bordered front run back) :
    rule.IsRun text (span.start + front.length) (span.start + front.length + run.length) := by
  have ordered := rule.spans_ordered text
  have nonempty := ordered.nonempty span isSpan
  have stop_le := ordered.stop_le span isSpan
  have split : text = text.take span.start ++ (front ++ run ++ back) ++ text.drop span.stop := by
    have rest := span.splitAt_drop text nonempty.le
    rw [List.splitAt_eq, Prod.mk.injEq] at rest
    rw [← isSlice, ← rest.1, ← rest.2, List.append_assoc, List.take_append_drop,
      List.take_append_drop]
  have length : (front ++ run ++ back).length = span.stop - span.start := by
    rw [← isSlice, Span.slice, List.length_take, List.length_drop]
    omega
  have first : (text.take span.start).length = span.start := by
    rw [List.length_take]
    omega
  generalize text.take span.start = left at *
  generalize text.drop span.stop = right at *
  rw [List.length_append, List.length_append] at length
  refine ⟨span, isSpan, Nat.le_add_right _ _, by omega, fun inside c isLast => ?_,
    fun inside c isHead => ?_⟩
  · have someFront : front ≠ [] := by
      rintro rfl
      simp at inside
    have taken : text.take (span.start + front.length) = left ++ front := by
      rw [split, ← first, ← List.length_append, List.append_assoc, List.append_assoc,
        List.append_assoc, ← List.append_assoc left, List.take_left]
    rw [taken, List.getLast?_append_of_ne_nil _ someFront] at isLast
    exact bordered.frontEnds c isLast
  · have someBack : back ≠ [] := by
      rintro rfl
      simp at inside length
      omega
    have dropped : text.drop (span.start + front.length + run.length) = back ++ right := by
      rw [split, ← first, ← List.length_append, ← List.length_append, ← List.append_assoc,
        ← List.append_assoc, List.append_assoc _ back, List.drop_left]
    rw [dropped, List.head?_append_of_ne_nil _ someBack] at isHead
    exact bordered.backBegins c isHead

/-! ## A pass -/

namespace Replaced

variable {old new : Stash} {tokenClass : TokenClass} {isRun : Nat → Nat → Prop} {index : Nat}
  {kept text newText : List Char}

theorem keepAll (same : ∀ c ∈ kept, new.expand c = old.expand c)
    (rest : Replaced old new tokenClass isRun (index + kept.length) text newText) :
    Replaced old new tokenClass isRun index (kept ++ text) (kept ++ newText) := by
  induction kept generalizing index with
  | nil => exact rest
  | cons c kept ih =>
      obtain ⟨here, later⟩ := List.forall_mem_cons.mp same
      rw [List.length_cons, Nat.add_comm kept.length, ← Nat.add_assoc] at rest
      exact .keep here (ih later rest)

end Replaced

/-- What is written for segments is what a pass makes of their text, if the segments to be put away
are runs of the pass. -/
theorem Writes.replaced {old new : Stash} {tokenClass : TokenClass} {isRun : Nat → Nat → Prop}
    {slot : Nat} {segments : List Segment} {newText : List Char}
    (writes : Writes new slot segments newText) {index : Nat}
    (same : ∀ c ∈ segments.flatMap Segment.text, new.expand c = old.expand c)
    (runs : ∀ before claimed run after, segments = before ++ .claim claimed run :: after →
      claimed = tokenClass ∧ run ≠ [] ∧ (∀ c ∈ run, isReserved c = false) ∧
        isRun (index + (before.flatMap Segment.text).length)
          (index + (before.flatMap Segment.text).length + run.length)) :
    Replaced old new tokenClass isRun index (segments.flatMap Segment.text) newText := by
  induction writes generalizing index with
  | nil slot => exact .nil index
  | @keep kept slot segments text rest ih =>
      rw [List.flatMap_cons, Segment.text_keep] at same ⊢
      obtain ⟨sameKept, sameLater⟩ := List.forall_mem_append.mp same
      refine .keepAll sameKept (ih sameLater fun before claimed run after split => ?_)
      have found := runs (.keep kept :: before) claimed run after (by rw [split]; rfl)
      simpa [Nat.add_assoc] using found
  | @put placeholder claimed run slot segments text free held rest ih =>
      rw [List.flatMap_cons, Segment.text_claim] at same ⊢
      obtain ⟨-, sameLater⟩ := List.forall_mem_append.mp same
      obtain ⟨rfl, nonempty, ordinary, borders⟩ := runs [] claimed run segments rfl
      have holds : new.expand placeholder = .classified claimed (String.ofList run) :=
        Stash.expand_of_held? (Stash.held?_eq_some_iff.mpr ⟨slotOf?_slotChar? free, held⟩)
      refine .put nonempty ordinary (by simpa using borders)
        (isReserved_of_slotOf? (slotOf?_slotChar? free)) holds
        (ih sameLater fun before other run' after split => ?_)
      have found := runs (.claim claimed run :: before) other run' after (by rw [split]; rfl)
      simpa [Nat.add_assoc] using found
  | @leave claimed run slot segments text full rest ih =>
      rw [List.flatMap_cons, Segment.text_claim] at same ⊢
      obtain ⟨sameRun, sameLater⟩ := List.forall_mem_append.mp same
      refine .keepAll sameRun (ih sameLater fun before other run' after split => ?_)
      have found := runs (.claim claimed run :: before) other run' after (by rw [split]; rfl)
      simpa [Nat.add_assoc] using found

/-- The pass of a rule replaces runs of its spans, and nothing else. -/
theorem Stash.replaced_applyRule {stash : Stash} {text : List Char}
    (consistent : Consistent (stash, text)) (rule : Rule) :
    let passed : Working := stash.applyRule rule text
    Replaced stash passed.1 rule.tokenClass (rule.IsRun text) 0 text passed.2 := by
  intro passed
  have ordered := rule.spans_ordered text
  have isPassed : passed =
      stash.replaceSpans text ((rule.spans text).map fun span => (span, rule.tokenClass)) :=
    stash.applyRule_eq_replaceSpans rule text
  generalize isSpans : (rule.spans text).map (fun span => (span, rule.tokenClass)) = spans
    at isPassed
  have sameOrder : Span.Ordered text (spans.map (·.1)) := by
    rw [← isSpans]
    simpa [Function.comp_def] using ordered
  have whole := Segment.flatMap_text_ofSpans 0 text spans
  obtain ⟨written, isText, writes⟩ := Draft.writes_foldl_write ⟨stash, []⟩
    fun _ _ => Segment.ne_nil_of_claim_mem_ofSpans sameOrder
  have stays (slot : Nat) (used : slot < stash.tokens.size) :=
    Draft.getElem?_foldl_write ⟨stash, []⟩ (Segment.ofSpans 0 text spans) used
  rw [Stash.replaceSpans, Draft.classifySpans_eq_foldl] at isPassed
  generalize (Segment.ofSpans 0 text spans).foldl Draft.write ⟨stash, []⟩ = final at *
  obtain rfl : final.text = written := isText
  rw [isPassed]
  have same : ∀ c ∈ text, final.stash.expand c = stash.expand c := fun c member =>
    Stash.expand_congr fun slot isSlot => stays slot (consistent.slot_lt member isSlot)
  rw [← whole] at same
  have found : Replaced stash final.stash rule.tokenClass (rule.IsRun text) 0
      ((Segment.ofSpans 0 text spans).flatMap Segment.text) final.text := by
    apply writes.replaced same
    intro before claimed run after split
    have member : .claim claimed run ∈ Segment.ofSpans 0 text spans := by simp [split]
    have isOrdinary := Segment.ordinary_of_mem_ofSpans 0 text spans _ member
    rw [← isSpans] at split
    obtain ⟨isClass, span, isSpan, front, back, isSlice, bordered, reached⟩ :=
      Segment.exists_span_of_ofSpans ordered (fun _ _ => Nat.zero_le _) split
    rw [reached]
    exact ⟨isClass, Segment.ne_nil_of_claim_mem_ofSpans sameOrder member, isOrdinary,
      Rule.isRun_of_bordered isSpan isSlice bordered⟩
  rwa [whole] at found

/-! ## The same parts before and after -/

namespace Replaced

variable {old new : Stash} {tokenClass : TokenClass} {isRun : Nat → Nat → Prop} {index : Nat}
  {front part back text newFront newBack newText : List Char}

/-- The text as a whole stands for the same source text. -/
theorem chars_eq (replaced : Replaced old new tokenClass isRun index text newText) :
    Token.chars (newText.map new.expand) = Token.chars (text.map old.expand) := by
  induction replaced with
  | nil index => rfl
  | keep same _ ih => simp [same, ih]
  | put nonempty ordinary borders reserved holds _ ih =>
      simp [holds, ih, Stash.chars_expand_of_ordinary ordinary, Token.classified]

/-- Wherever the new text is divided, the old one can be divided as well. -/
theorem of_append (replaced : Replaced old new tokenClass isRun index text (newFront ++ newBack)) :
    ∃ front back, text = front ++ back ∧ Replaced old new tokenClass isRun index front newFront ∧
      Replaced old new tokenClass isRun (index + front.length) back newBack := by
  induction newFront generalizing index text with
  | nil => exact ⟨[], text, rfl, .nil index, replaced⟩
  | cons c newFront ih =>
      cases replaced with
      | keep same rest =>
          obtain ⟨front, back, rfl, first, second⟩ := ih rest
          refine ⟨c :: front, back, rfl, .keep same first, ?_⟩
          rwa [List.length_cons, Nat.add_comm front.length, ← Nat.add_assoc]
      | @put _ _ run _ _ nonempty ordinary borders reserved holds rest =>
          obtain ⟨front, back, rfl, first, second⟩ := ih rest
          refine ⟨run ++ front, back, by rw [List.append_assoc],
            .put nonempty ordinary borders reserved holds first, ?_⟩
          rwa [List.length_append, ← Nat.add_assoc]

/-- The old text can be divided where no run goes over the place, and so can the new one. -/
theorem of_append_old (apart : ∀ start stop, isRun start stop →
      stop ≤ index + front.length ∨ index + front.length ≤ start)
    (replaced : Replaced old new tokenClass isRun index (front ++ back) newText) :
    ∃ newFront newBack, newText = newFront ++ newBack ∧
      Replaced old new tokenClass isRun index front newFront ∧
      Replaced old new tokenClass isRun (index + front.length) back newBack := by
  generalize isText : front ++ back = text at replaced
  induction replaced generalizing front with
  | nil index =>
      obtain ⟨rfl, rfl⟩ := List.append_eq_nil_iff.mp isText
      exact ⟨[], [], rfl, .nil index, .nil _⟩
  | @keep index c text newText same rest ih =>
      cases front with
      | nil =>
          rw [List.nil_append] at isText
          subst isText
          exact ⟨[], c :: newText, rfl, .nil index, .keep same rest⟩
      | cons d front =>
          obtain ⟨rfl, isRest⟩ := List.cons.inj isText
          rw [List.length_cons, Nat.add_comm front.length, ← Nat.add_assoc] at apart ⊢
          obtain ⟨newFront, newBack, rfl, first, second⟩ := ih apart isRest
          exact ⟨d :: newFront, newBack, rfl, .keep same first, second⟩
  | @put index placeholder run text newText nonempty ordinary borders reserved holds rest ih =>
      cases front with
      | nil =>
          rw [List.nil_append] at isText
          subst isText
          exact ⟨[], placeholder :: newText, rfl, .nil index,
            .put nonempty ordinary borders reserved holds rest⟩
      | cons d front =>
          have inside := apart _ _ borders
          have some : run.length ≤ (d :: front).length := by
            rw [List.length_cons] at inside ⊢
            omega
          obtain ⟨more, isFront, isBack⟩ := exists_between isText.symm some
          rw [isFront, List.length_append, ← Nat.add_assoc] at apart ⊢
          obtain ⟨newFront, newBack, rfl, first, second⟩ := ih apart isBack.symm
          exact ⟨placeholder :: newFront, newBack, rfl,
            .put nonempty ordinary borders reserved holds first, second⟩

/-- Ordinary characters of the new text were there before. -/
theorem of_ordinary_append (ordinary : ∀ c ∈ part, isReserved c = false)
    (replaced : Replaced old new tokenClass isRun index text (part ++ newBack)) :
    ∃ back, text = part ++ back ∧
      Replaced old new tokenClass isRun (index + part.length) back newBack := by
  induction part generalizing index text with
  | nil => exact ⟨text, rfl, replaced⟩
  | cons c part ih =>
      obtain ⟨isOrdinary, laterOrdinary⟩ := List.forall_mem_cons.mp ordinary
      cases replaced with
      | keep same rest =>
          obtain ⟨back, rfl, later⟩ := ih laterOrdinary rest
          refine ⟨back, rfl, ?_⟩
          rwa [List.length_cons, Nat.add_comm part.length, ← Nat.add_assoc]
      | put _ _ _ reserved => simp [isOrdinary] at reserved

/-- Characters that no run has in it stay. -/
theorem of_append_apart (apart : ∀ start stop, isRun start stop → start < stop →
      stop ≤ index ∨ index + part.length ≤ start)
    (replaced : Replaced old new tokenClass isRun index (part ++ back) newText) :
    ∃ newBack, newText = part ++ newBack ∧
      Replaced old new tokenClass isRun (index + part.length) back newBack := by
  induction part generalizing index newText with
  | nil => exact ⟨newText, rfl, replaced⟩
  | cons c part ih =>
      generalize isText : (c :: part) ++ back = text at replaced
      cases replaced with
      | nil => cases isText
      | @keep _ d text newText same rest =>
          obtain ⟨rfl, rfl⟩ := List.cons.inj isText
          have later : ∀ start stop, isRun start stop → start < stop →
              stop ≤ index + 1 ∨ index + 1 + part.length ≤ start := by
            intro start stop borders some
            have away := apart start stop borders some
            rw [List.length_cons] at away
            omega
          obtain ⟨newBack, rfl, further⟩ := ih later rest
          refine ⟨newBack, rfl, ?_⟩
          rwa [List.length_cons, Nat.add_comm part.length, ← Nat.add_assoc]
      | @put _ _ run _ _ nonempty ordinary borders reserved holds rest =>
          have some := List.length_pos_iff.mpr nonempty
          have away := apart _ _ borders (by omega)
          rw [List.length_cons] at away
          omega

/-- What is in front of a place stays, or it is the end of a run. -/
theorem getLast?_eq (replaced : Replaced old new tokenClass isRun index text newText) :
    newText.getLast? = text.getLast? ∨
      (∃ start, start < index + text.length ∧ isRun start (index + text.length)) ∧
        newText.getLast?.any isReserved = true := by
  rcases List.eq_nil_or_concat newText with rfl | ⟨newFront, c, rfl⟩
  · cases replaced
    exact .inl rfl
  · rw [List.concat_eq_append] at replaced ⊢
    obtain ⟨front, back, rfl, -, last⟩ := of_append replaced
    cases last with
    | keep same rest =>
        cases rest
        exact .inl (by simp)
    | @put _ _ run _ _ nonempty ordinary borders reserved holds rest =>
        cases rest
        have some := List.length_pos_iff.mpr nonempty
        rw [List.append_nil, List.length_append, ← Nat.add_assoc]
        exact .inr ⟨⟨_, by omega, borders⟩, by simpa using reserved⟩

/-- What is behind a place stays, or it is the beginning of a run. -/
theorem head?_eq (replaced : Replaced old new tokenClass isRun index text newText) :
    newText.head? = text.head? ∨
      (∃ stop, index < stop ∧ isRun index stop) ∧ newText.head?.any isReserved = true := by
  cases replaced with
  | nil index => exact .inl rfl
  | keep same rest => exact .inl rfl
  | put nonempty ordinary borders reserved holds rest =>
      have some := List.length_pos_iff.mpr nonempty
      exact .inr ⟨⟨_, by omega, borders⟩, reserved⟩

/-- A token of the class of the pass comes from a run, if there was none of this class before. -/
theorem exists_run (replaced : Replaced old new tokenClass isRun 0 text newText)
    (fresh : ∀ c ∈ text, (old.expand c).tokenClass ≠ some tokenClass) {place : Nat} {token : Token}
    (member : (place, token) ∈ Token.placedFrom 0 (newText.map new.expand))
    (isClass : token.tokenClass = some tokenClass) :
    ∃ front run back, text = front ++ (run ++ back) ∧ (∀ c ∈ run, isReserved c = false) ∧
      token = .classified tokenClass (String.ofList run) ∧
      place = (Token.chars (front.map old.expand)).length ∧
      isRun front.length (front.length + run.length) := by
  obtain ⟨before, after, split, isPlace⟩ := Token.exists_of_mem_placedFrom member
  obtain ⟨newFront, newBack, rfl, rfl, isBack⟩ := List.map_eq_append_iff.mp split
  obtain ⟨placeholder, newLater, rfl, rfl, -⟩ := List.map_eq_cons_iff.mp isBack
  obtain ⟨front, back, rfl, first, second⟩ := of_append replaced
  rw [first.chars_eq, Nat.zero_add] at isPlace
  rw [Nat.zero_add] at second
  cases second with
  | keep same rest =>
      rw [same] at isClass
      exact absurd isClass (fresh placeholder (by simp))
  | put nonempty ordinary borders reserved holds rest =>
      exact ⟨front, _, _, rfl, ordinary, holds, isPlace, borders⟩

end Replaced

end Tint
