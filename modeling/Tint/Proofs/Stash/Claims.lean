import Tint.Proofs.Owners
import Tint.Proofs.Regex.Extent
import Tint.Proofs.Stash.Resolve

/-!
# What a pass does at one character

An ordinary character of a span lies in one segment of the pass: the run of ordinary characters
around it.  The pass puts that run away, unless the run is blank and the match has placeholders in
it.  The tokens that the working text stands for then change in that segment only, and the place of
the segment in the source text is the same before and after.
-/

namespace Tint

open Tint.Regex Tint.Unicode

/-- The run of ordinary characters around an index of a text. -/
def runAround (text : List Char) (index : Nat) : List Char :=
  ((text.take index).reverse.takeWhile (!isReserved ·)).reverse ++
    (text.drop index).takeWhile (!isReserved ·)

/-- Whether the run at an index of a match is blank and has a placeholder of the match next to it,
so that it stays as it is. -/
def leavesBlank (matched : List Char) (index : Nat) : Bool :=
  matched.any isReserved && (runAround matched index).all isSpace

/-- The text of a span. -/
def Regex.Span.slice (span : Span) (text : List Char) : List Char :=
  (text.drop span.start).take (span.stop - span.start)

theorem Regex.Span.splitAt_drop (span : Span) (text : List Char) (le : span.start ≤ span.stop) :
    (text.drop span.start).splitAt (span.stop - span.start) =
      (span.slice text, text.drop span.stop) := by
  rw [List.splitAt_eq, List.drop_drop, Nat.add_sub_cancel' le, slice]

/-- What is behind an offset is divided where a later span starts. -/
theorem Regex.Span.splitAt_front {span : Span} {offset : Nat} (text : List Char)
    (le : offset ≤ span.start) :
    (text.drop offset).splitAt (span.start - offset) =
      (slice ⟨offset, span.start⟩ text, text.drop span.start) :=
  splitAt_drop ⟨offset, span.start⟩ text le

/-- Whether the run at an index of a text, which lies in the span, is blank and stays as it is. -/
def Regex.Span.leavesBlank (span : Span) (text : List Char) (index : Nat) : Bool :=
  Tint.leavesBlank (span.slice text) (index - span.start)

/-- No run of a character that is no blank is left. -/
theorem Regex.Span.leavesBlank_eq_false {span : Span} {text : List Char} {index : Nat} {c : Char}
    (start_le : span.start ≤ index) (lt_stop : index < span.stop) (isChar : text[index]? = some c)
    (notReserved : isReserved c = false) (notBlank : isSpace c = false) :
    span.leavesBlank text index = false := by
  have inSlice : (span.slice text)[index - span.start]? = some c := by
    rw [slice, List.getElem?_take_of_lt (by omega), List.getElem?_drop,
      Nat.add_sub_cancel' start_le, isChar]
  obtain ⟨inside, isHere⟩ := List.getElem?_eq_some_iff.mp inSlice
  rw [leavesBlank, Tint.leavesBlank, runAround, List.drop_eq_getElem_cons inside, isHere]
  simp [notReserved, notBlank]

/-- The run between two reserved characters, or an end of the text, is the one around each of its
indices. -/
theorem runAround_eq {front run back : List Char} {index : Nat}
    (ordinary : ∀ c ∈ run, isReserved c = false) (frontEnds : ∀ c ∈ front.getLast?, isReserved c)
    (backBegins : ∀ c ∈ back.head?, isReserved c) (inRun : index ≤ run.length) :
    runAround (front ++ run ++ back) (front.length + index) = run := by
  have stops {text : List Char} (begins : ∀ c ∈ text.head?, isReserved c) :
      text.takeWhile (!isReserved ·) = [] := by
    cases text with
    | nil => rfl
    | cons c rest => simp [begins c rfl]
  have taken : ((run.take index).reverse ++ front.reverse).takeWhile (!isReserved ·) =
      (run.take index).reverse := by
    rw [List.takeWhile_append_of_pos, stops (by simpa using frontEnds), List.append_nil]
    intro c member
    simp [ordinary c (List.mem_of_mem_take (List.mem_reverse.mp member))]
  have dropped : (run.drop index ++ back).takeWhile (!isReserved ·) = run.drop index := by
    rw [List.takeWhile_append_of_pos, stops backBegins, List.append_nil]
    intro c member
    simp [ordinary c (List.mem_of_mem_drop member)]
  rw [runAround, List.append_assoc, List.take_length_add_append, List.drop_length_add_append,
    List.take_append_of_le_length inRun, List.drop_append_of_le_length inRun,
    List.reverse_append, taken, dropped, List.reverse_reverse, List.take_append_drop]

namespace Segment

/-- A segment among others that holds the character at an index of their text. -/
structure Located (segments : List Segment) (index : Nat) (before : List Segment)
    (segment : Segment) (after : List Segment) : Prop where
  split : segments = before ++ segment :: after
  le_index : (before.flatMap text).length ≤ index
  index_lt : index < (before.flatMap text).length + segment.text.length

namespace Located

variable {segments before after : List Segment} {segment : Segment} {index : Nat}

theorem behind (located : Located segments index before segment after) (first : List Segment) :
    Located (first ++ segments) ((first.flatMap text).length + index) (first ++ before) segment
      after := by
  have lower := located.le_index
  have upper := located.index_lt
  refine ⟨by simp [located.split], ?_, ?_⟩
  · rw [List.flatMap_append, List.length_append]
    omega
  · rw [List.flatMap_append, List.length_append]
    omega

theorem followed (located : Located segments index before segment after) (last : List Segment) :
    Located (segments ++ last) index before segment (after ++ last) :=
  ⟨by simp [located.split], located.le_index, located.index_lt⟩

end Located

/-- A run with its borders: reserved characters, or the ends of the text. -/
structure Bordered (front run back : List Char) : Prop where
  ordinary : ∀ c ∈ run, isReserved c = false
  frontEnds : ∀ c ∈ front.getLast?, isReserved c
  backBegins : ∀ c ∈ back.head?, isReserved c

/-- A placeholder in front is a border, whatever is in front of it. -/
theorem Bordered.behind {front run back : List Char} {d : Char}
    (bordered : Bordered front run back) (reserved : isReserved d = true) (early : List Char) :
    Bordered (early ++ d :: front) run back where
  ordinary := bordered.ordinary
  frontEnds := by
    have last : isReserved (front.getLast?.getD d) = true := by
      cases reached : front.getLast? with
      | none => exact reserved
      | some e => exact bordered.frontEnds e reached
    simpa [List.getLast?_append, List.getLast?_cons] using last
  backBegins := bordered.backBegins

/-- An ordinary character of a match is in a piece between two borders. -/
theorem exists_located_pieces (tokenClass : TokenClass) {run matched : List Char} {index : Nat}
    {c : Char} (ordinary : ∀ c ∈ run, isReserved c = false)
    (isChar : (run.reverse ++ matched)[index]? = some c) (notReserved : isReserved c = false) :
    ∃ before inner after,
      Located (pieces tokenClass run matched) index before (piece tokenClass inner) after ∧
        Bordered (before.flatMap text) inner (after.flatMap text) := by
  induction matched generalizing run index with
  | nil =>
      rw [List.append_nil] at isChar
      have inRun := (List.getElem?_eq_some_iff.mp isChar).1
      exact ⟨[], run.reverse, [], ⟨rfl, Nat.zero_le _, by simpa using inRun⟩,
        ⟨by simpa using ordinary, by simp, by simp⟩⟩
  | cons d rest ih =>
      rw [pieces]
      cases isRes : isReserved d with
      | false =>
          rw [if_neg (by simp)]
          exact ih (by simpa [isRes] using ordinary) (by simpa using isChar)
      | true =>
          rw [if_pos rfl]
          rcases Nat.lt_trichotomy index run.length with inRun | rfl | behind
          · exact ⟨[], run.reverse, keep [d] :: pieces tokenClass [] rest,
              ⟨rfl, Nat.zero_le _, by simpa using inRun⟩,
              ⟨by simpa using ordinary, by simp, by simpa using isRes⟩⟩
          · rw [List.getElem?_append_right (by simp)] at isChar
            simp only [List.length_reverse, Nat.sub_self, List.getElem?_cons_zero,
              Option.some.injEq] at isChar
            simp [isChar, notReserved] at isRes
          · obtain ⟨further, rfl⟩ := Nat.exists_eq_add_of_lt behind
            have isLater : (([] : List Char).reverse ++ rest)[further]? = some c := by
              rw [List.getElem?_append_right (by simp; omega)] at isChar
              simpa [Nat.add_assoc] using isChar
            obtain ⟨before, inner, after, located, bordered⟩ := ih (by simp) isLater
            refine ⟨piece tokenClass run.reverse :: keep [d] :: before, inner, after, ?_,
              bordered.behind isRes _⟩
            have shifted := located.behind [piece tokenClass run.reverse, keep [d]]
            simpa [Nat.add_assoc, Nat.add_comm] using shifted

/-- The segment that holds an ordinary character of a match: the run around it, which is kept or put
away. -/
theorem exists_located_ofMatch (tokenClass : TokenClass) {matched : List Char} {index : Nat}
    {c : Char} (isChar : matched[index]? = some c) (notReserved : isReserved c = false) :
    ∃ before run after, (∀ c ∈ run, isReserved c = false) ∧
      Located (ofMatch tokenClass matched) index before
        (if leavesBlank matched index then keep run else claim tokenClass run) after := by
  rw [ofMatch]
  cases anyReserved : matched.any isReserved with
  | false =>
      have inMatch := (List.getElem?_eq_some_iff.mp isChar).1
      refine ⟨[], matched, [], by simpa using anyReserved, ?_⟩
      simp only [leavesBlank, anyReserved, Bool.false_and, Bool.false_eq_true, if_false]
      exact ⟨rfl, Nat.zero_le _, by simpa using inMatch⟩
  | true =>
      have isNext : (([] : List Char).reverse ++ matched)[index]? = some c := by
        simpa using isChar
      obtain ⟨before, inner, after, located, bordered⟩ :=
        exists_located_pieces tokenClass (by simp) isNext notReserved
      refine ⟨before, inner, after, bordered.ordinary, ?_⟩
      have whole : before.flatMap text ++ inner ++ after.flatMap text = matched := by
        have same := congrArg (List.flatMap text) located.split
        simpa using same.symm
      have upper := located.index_lt
      have around : runAround matched index = inner := by
        obtain ⟨further, rfl⟩ := Nat.exists_eq_add_of_le located.le_index
        rw [text_piece] at upper
        rw [← whole]
        exact runAround_eq bordered.ordinary bordered.frontEnds bordered.backBegins (by omega)
      simpa [leavesBlank, anyReserved, around, piece] using located

/-- The segments of a span among those of all spans. -/
theorem exists_ofSpans_eq {offset : Nat} {source : List Char} {spans : List Span} {span : Span}
    (tokenClass : TokenClass) (ordered : Span.Ordered source spans)
    (behind : ∀ other ∈ spans, offset ≤ other.start) (member : span ∈ spans) :
    ∃ before after,
      ofSpans offset (source.drop offset) (spans.map fun span => (span, tokenClass)) =
          before ++ (ofMatch tokenClass (span.slice source) ++ after) ∧
        offset + (before.flatMap text).length = span.start := by
  induction spans generalizing offset with
  | nil => cases member
  | cons first spans ih =>
      have start_le := behind first List.mem_cons_self
      have nonempty := ordered.nonempty first List.mem_cons_self
      have stop_le := ordered.stop_le first List.mem_cons_self
      simp only [List.map_cons, ofSpans, Span.splitAt_front source start_le,
        first.splitAt_drop source nonempty.le]
      rcases List.mem_cons.mp member with rfl | later
      · refine ⟨[keep (Span.slice ⟨offset, span.start⟩ source)], _, rfl, ?_⟩
        simp [Span.slice]
        omega
      · obtain ⟨before, after, split, reached⟩ := ih ordered.tail ordered.stop_le_start later
        refine ⟨keep (Span.slice ⟨offset, first.start⟩ source) ::
          (ofMatch tokenClass (first.slice source) ++ before), after, ?_, ?_⟩
        · simp only [split, List.cons_append, List.append_assoc]
        · simp only [Span.slice, List.flatMap_cons, List.flatMap_append, flatMap_text_ofMatch,
            text_keep, List.length_append, List.length_take, List.length_drop]
          omega

/-- The segment that holds an ordinary character of a span. -/
theorem exists_located_ofSpans {source : List Char} {spans : List Span} {span : Span} {index : Nat}
    {c : Char} (tokenClass : TokenClass) (ordered : Span.Ordered source spans)
    (member : span ∈ spans) (start_le : span.start ≤ index) (lt_stop : index < span.stop)
    (isChar : source[index]? = some c) (notReserved : isReserved c = false) :
    ∃ before run after, (∀ c ∈ run, isReserved c = false) ∧
      Located (ofSpans 0 source (spans.map fun span => (span, tokenClass))) index before
        (if span.leavesBlank source index then keep run else claim tokenClass run) after := by
  obtain ⟨first, last, split, reached⟩ :=
    exists_ofSpans_eq tokenClass ordered (fun _ _ => Nat.zero_le _) member
  obtain ⟨further, rfl⟩ := Nat.exists_eq_add_of_le start_le
  have inSlice : (span.slice source)[further]? = some c := by
    rw [Span.slice, List.getElem?_take_of_lt (by omega), List.getElem?_drop, isChar]
  obtain ⟨before, run, after, ordinary, located⟩ :=
    exists_located_ofMatch tokenClass inSlice notReserved
  refine ⟨first ++ before, run, after ++ last, ordinary, ?_⟩
  have shifted := (located.followed last).behind first
  rw [Nat.zero_add] at reached
  rw [List.drop_zero] at split
  rw [split, Span.leavesBlank, Nat.add_sub_cancel_left, ← reached]
  exact shifted

/-- What a working text stands for in place of a segment, once it has been dealt with. -/
def tokens (stash : Stash) : Segment → List Token
  | keep text => text.map stash.expand
  | claim tokenClass run =>
      match stash.next? with
      | some _ => if run.isEmpty then [] else [.classified tokenClass (String.ofList run)]
      | none => run.map stash.expand

theorem chars_tokens {stash : Stash} (segment : Segment) (ordinary : segment.Ordinary) :
    Token.chars (segment.tokens stash) = Token.chars (segment.text.map stash.expand) := by
  cases segment with
  | keep kept => rfl
  | claim tokenClass run =>
      rw [text_claim, Stash.chars_expand_of_ordinary ordinary, tokens]
      split
      · by_cases empty : run = []
        · simp [empty]
        · simp [empty, Token.classified]
      · exact Stash.chars_expand_of_ordinary ordinary

section Owner

variable {run : List Char} (ordinary : ∀ c ∈ run, isReserved c = false) {index : Nat}
  (inRun : index < run.length) (stash : Stash) (before after : List Token)
include ordinary inRun

/-- Nothing holds the ordinary characters that are kept. -/
theorem owner?_tokens_keep :
    Token.owner? (before ++ (keep run).tokens stash ++ after)
        ((Token.chars before).length + index) = none :=
  Token.owner?_of_plain (Stash.expand_of_ordinary_isPlain ordinary) before after
    (by rwa [Stash.chars_expand_of_ordinary ordinary])

/-- A run that is put away is held by its token, if there is a placeholder left. -/
theorem owner?_tokens_claim (tokenClass : TokenClass) :
    Token.owner? (before ++ (claim tokenClass run).tokens stash ++ after)
        ((Token.chars before).length + index) =
      stash.next?.map fun _ =>
        ((Token.chars before).length, .classified tokenClass (String.ofList run)) := by
  cases free : stash.next? with
  | some placeholder =>
      have nonempty : run.isEmpty = false := by
        rw [List.isEmpty_eq_false_iff, ← List.length_pos_iff]
        omega
      simp only [tokens, free, nonempty, Bool.false_eq_true, if_false, List.append_assoc,
        List.singleton_append]
      exact Token.owner?_of_classified rfl before after (by simpa [Token.classified] using inRun)
  | none =>
      simp only [tokens, free]
      exact owner?_tokens_keep ordinary inRun stash before after

end Owner

end Segment

/-! ## The tokens that a pass writes -/

namespace Draft

variable {draft : Draft} {segment : Segment} {rest : List Char}

/-- The tokens that the text written so far stands for. -/
def tokens (draft : Draft) : List Token :=
  draft.text.map draft.stash.expand

theorem tokens_working (draft : Draft) (rest : List Char) :
    (draft.working rest).tokens = draft.tokens ++ rest.map draft.stash.expand := by
  simp [Working.tokens, working, tokens]

/-- Dealing with a segment writes its tokens, and what comes behind it stands for the same as
before. -/
theorem tokens_write (consistent : Consistent (draft.working (segment.text ++ rest))) :
    (draft.write segment).tokens = draft.tokens ++ segment.tokens draft.stash ∧
      ∀ c ∈ rest, (draft.write segment).stash.expand c = draft.stash.expand c := by
  rcases draft with ⟨stash, written⟩
  cases segment with
  | keep kept =>
      refine ⟨?_, fun _ _ => rfl⟩
      simp [write, keepAll, tokens, Segment.tokens, text]
  | claim tokenClass run =>
      by_cases empty : run = []
      · subst empty
        cases free : stash.next? <;> simp [write, tokens, Segment.tokens, free]
      · cases free : stash.next? with
        | none =>
            rw [write, classifyRun_of_full free]
            exact ⟨by simp [keepAll, free, tokens, Segment.tokens, text], fun _ _ => rfl⟩
        | some placeholder =>
            have old (part : List Char)
                (inText : ∀ c ∈ part, c ∈ written.reverse ++ (run ++ rest)) :
                part.map (stash.push (.classified tokenClass (String.ofList run))).expand =
                  part.map stash.expand :=
              Stash.map_expand_push _ consistent inText
            have fresh :
                (stash.push (.classified tokenClass (String.ofList run))).expand placeholder =
                  .classified tokenClass (String.ofList run) :=
              Stash.expand_of_held? (Stash.held?_push_self free)
            have front := old written.reverse (by simp +contextual)
            have back := List.map_inj_left.mp (old rest (by simp +contextual))
            rw [write, classifyRun_of_free free empty]
            refine ⟨?_, back⟩
            simp only [empty, free, tokens, Segment.tokens, text, List.isEmpty_iff, if_false,
              List.reverse_cons, List.map_append, List.map_cons, List.map_nil, front, fresh]

/-- Going through segments leaves the tokens that were written before, and loses no text. -/
theorem tokens_foldl_write {segments : List Segment}
    (ordinary : ∀ segment ∈ segments, segment.Ordinary)
    (consistent : Consistent (draft.working (segments.flatMap Segment.text ++ rest))) :
    draft.tokens <+: (segments.foldl write draft).tokens ∧
      Token.chars (segments.foldl write draft).tokens =
        Token.chars draft.tokens ++
          Token.chars ((segments.flatMap Segment.text).map draft.stash.expand) := by
  induction segments generalizing draft with
  | nil => simp
  | cons segment segments ih =>
      have isOrdinary := ordinary segment List.mem_cons_self
      rw [List.flatMap_cons, List.append_assoc] at consistent
      obtain ⟨written, unread⟩ := tokens_write consistent
      have next := consistent.putsAway (draft.write_putsAway isOrdinary _)
      obtain ⟨isPrefix, sameText⟩ :=
        ih (fun other member => ordinary other (List.mem_cons_of_mem _ member)) next
      have same : (segments.flatMap Segment.text).map (draft.write segment).stash.expand =
          (segments.flatMap Segment.text).map draft.stash.expand :=
        List.map_congr_left fun c member => unread c (List.mem_append_left rest member)
      refine ⟨?_, ?_⟩
      · rw [written] at isPrefix
        exact (List.prefix_append _ _).trans isPrefix
      · rw [List.foldl_cons, sameText, written, same, List.flatMap_cons, List.map_append,
          Token.chars_append, Token.chars_append, segment.chars_tokens isOrdinary,
          List.append_assoc]

end Draft

/-- The number of characters of the source text before an index of the working text. -/
def Working.placeOf (working : Working) (index : Nat) : Nat :=
  (Token.chars (working.tokens.take index)).length

/-- Inside a run of ordinary characters, places follow the characters. -/
theorem Working.placeOf_of_ordinary {stash : Stash} {front run back : List Char} {index : Nat}
    (ordinary : ∀ c ∈ run, isReserved c = false) (inRun : index ≤ run.length) :
    Working.placeOf (stash, front ++ run ++ back) (front.length + index) =
      (Token.chars (front.map stash.expand)).length + index := by
  have takenOrdinary : ∀ c ∈ run.take index, isReserved c = false :=
    fun c member => ordinary c (List.mem_of_mem_take member)
  rw [placeOf, Working.tokens, ← List.map_take, List.append_assoc, List.take_length_add_append,
    List.take_append_of_le_length inRun, List.map_append, Token.chars_append,
    Stash.chars_expand_of_ordinary takenOrdinary, List.length_append,
    List.length_take_of_le inRun]

/-- What a character of the working text stands for begins at its place. -/
theorem Working.getElem?_chars_placeOf {working : Working} {index : Nat} {c : Char}
    (isChar : working.2[index]? = some c) (nonempty : 0 < (working.1.expand c).text.toList.length) :
    (Token.chars working.tokens)[working.placeOf index]? =
      some (working.1.expand c).text.toList[0] := by
  obtain ⟨inText, rfl⟩ := List.getElem?_eq_some_iff.mp isChar
  have split : working.tokens = working.tokens.take index ++
      working.1.expand working.2[index] :: working.tokens.drop (index + 1) := by
    have inTokens : index < working.tokens.length := by simpa [tokens] using inText
    have isToken : working.tokens[index] = working.1.expand working.2[index] := by simp [tokens]
    rw [← isToken, ← List.drop_eq_getElem_cons inTokens, List.take_append_drop]
  have chars := congrArg Token.chars split
  rw [Token.chars_append, Token.chars_cons] at chars
  rw [placeOf, chars, List.getElem?_append_right le_rfl, Nat.sub_self,
    List.getElem?_append_left nonempty, List.getElem?_eq_getElem nonempty]

/-! ## One character -/

section Character

variable {stash : Stash} {text : List Char}

/-- In front of a pass nothing is written, and its segments hold the whole text. -/
theorem Consistent.ofSpans (consistent : Consistent (stash, text))
    (spans : List (Span × TokenClass)) :
    Consistent (Draft.working ⟨stash, []⟩
      ((Segment.ofSpans 0 text spans).flatMap Segment.text ++ [])) := by
  rw [Segment.flatMap_text_ofSpans, List.append_nil]
  exact consistent

/-- A pass around one of its segments: it comes to the segment by putting runs away, deals with it
and puts further runs away. -/
theorem Stash.exists_replaceSpans_tokens_eq (consistent : Consistent (stash, text))
    {spans : List (Span × TokenClass)} {before after : List Segment} {segment : Segment}
    (split : Segment.ofSpans 0 text spans = before ++ segment :: after) :
    ∃ first : Draft,
      PutsAway (first.working (segment.text ++ after.flatMap Segment.text))
        (stash.replaceSpans text spans) ∧
      Token.chars first.tokens = Token.chars ((before.flatMap Segment.text).map stash.expand) ∧
      ∃ later, Working.tokens (stash.replaceSpans text spans) =
        first.tokens ++ segment.tokens first.stash ++ later := by
  have allOrdinary := Segment.ordinary_of_mem_ofSpans 0 text spans
  have whole := Segment.flatMap_text_ofSpans 0 text spans
  rw [split] at allOrdinary whole
  simp only [List.flatMap_append, List.flatMap_cons] at whole
  have beforeOrdinary := fun other member => allOrdinary other (List.mem_append_left _ member)
  have isOrdinary := allOrdinary segment (by simp)
  have afterOrdinary := fun other member =>
    allOrdinary other (List.mem_append_right before (List.mem_cons_of_mem _ member))
  have begun : Consistent (Draft.working ⟨stash, []⟩
      (before.flatMap Segment.text ++ (segment.text ++ after.flatMap Segment.text))) := by
    rw [whole]
    exact consistent
  refine ⟨before.foldl Draft.write ⟨stash, []⟩, ?_⟩
  generalize isFirst : before.foldl Draft.write ⟨stash, []⟩ = first
  have result : stash.replaceSpans text spans =
      Draft.working (after.foldl Draft.write (first.write segment)) [] := by
    simp [replaceSpans, Draft.classifySpans_eq_foldl, split, Draft.working, isFirst]
  -- the three parts of the pass, each from where the one before has come to
  have reached : Consistent (first.working (segment.text ++ after.flatMap Segment.text)) := by
    rw [← isFirst]
    exact begun.putsAway (Draft.foldl_write_putsAway _ beforeOrdinary _)
  have dealt := first.write_putsAway isOrdinary (after.flatMap Segment.text)
  have finished := (first.write segment).foldl_write_putsAway afterOrdinary []
  rw [List.append_nil] at finished
  obtain ⟨-, sameText⟩ := Draft.tokens_foldl_write beforeOrdinary begun
  obtain ⟨written, -⟩ := Draft.tokens_write reached
  have left : Consistent
      ((first.write segment).working (after.flatMap Segment.text ++ [])) := by
    simpa using reached.putsAway dealt
  obtain ⟨⟨later, isLater⟩, -⟩ := Draft.tokens_foldl_write afterOrdinary left
  refine ⟨?_, ?_, later, ?_⟩
  · rw [result]
    exact dealt.trans finished
  · rw [← isFirst, sameText]
    rfl
  · rw [result, Draft.tokens_working, List.map_nil, List.append_nil, ← isLater, written]

/-- What the pass of a rule does with an ordinary character of one of its spans.  In a run of blanks
that it leaves, the character stays plain.  Otherwise a token of the rule holds it, or else no
placeholder was left, and it stays plain for good. -/
theorem Stash.owner?_applyRule (consistent : Consistent (stash, text)) (rule : Rule) {span : Span}
    (isSpan : span ∈ rule.spans text) {index : Nat} (start_le : span.start ≤ index)
    (lt_stop : index < span.stop) {c : Char} (isChar : text[index]? = some c)
    (notReserved : isReserved c = false) :
    let passed : Working := stash.applyRule rule text
    let owner := Token.owner? passed.tokens (Working.placeOf (stash, text) index)
    if span.leavesBlank text index then owner = none
    else (owner = none ∧ passed.1.next? = none) ∨
      owner.bind (·.2.tokenClass) = some rule.tokenClass := by
  intro passed owner
  obtain ⟨before, run, after, ordinary, located⟩ :=
    Segment.exists_located_ofSpans rule.tokenClass (rule.spans_ordered text) isSpan start_le lt_stop
      isChar notReserved
  obtain ⟨first, steps, sameText, later, written⟩ :=
    Stash.exists_replaceSpans_tokens_eq consistent located.split
  have isPassed : passed =
      stash.replaceSpans text ((rule.spans text).map fun span => (span, rule.tokenClass)) :=
    stash.applyRule_eq_replaceSpans rule text
  have whole := Segment.flatMap_text_ofSpans 0 text
    ((rule.spans text).map fun span => (span, rule.tokenClass))
  have index_lt := located.index_lt
  obtain ⟨further, isIndex⟩ := Nat.exists_eq_add_of_le located.le_index
  rw [located.split, List.flatMap_append, List.flatMap_cons, ← List.append_assoc] at whole
  rw [← isPassed] at steps written
  generalize isSegment :
    (if span.leavesBlank text index then Segment.keep run else .claim rule.tokenClass run) =
      segment at *
  have isRun : segment.text = run := by
    rw [← isSegment]
    split <;> rfl
  rw [isRun] at whole index_lt steps
  have inRun : further < run.length := by omega
  have isPlace : Working.placeOf (stash, text) index =
      (Token.chars first.tokens).length + further := by
    rw [isIndex, ← whole, Working.placeOf_of_ordinary ordinary inRun.le, sameText]
  have isOwner : owner = Token.owner? (first.tokens ++ segment.tokens first.stash ++ later)
      ((Token.chars first.tokens).length + further) := by
    simp only [owner, written, isPlace]
  cases isLeft : span.leavesBlank text index with
  | true =>
      rw [isLeft, if_pos rfl] at isSegment
      rw [if_pos rfl, isOwner, ← isSegment, Segment.owner?_tokens_keep ordinary inRun]
  | false =>
      rw [isLeft, if_neg (by simp)] at isSegment
      rw [if_neg (by simp), isOwner, ← isSegment, Segment.owner?_tokens_claim ordinary inRun]
      cases free : first.stash.next? with
      | some placeholder => exact .inr rfl
      | none =>
          left
          rw [steps.eq_of_full free]
          exact ⟨rfl, free⟩

end Character

end Tint
