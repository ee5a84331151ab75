import Tint.Proofs.Stash.Claims

/-!
# The tokens of one class

A pass puts text away under the class of its rule, and leaves what has been put away before.  So
rules of other classes leave the tokens of a class as they are: none is lost, moved or added.
-/

namespace Tint

open Tint.Regex

namespace Token

/-- The tokens of a class, each with the number of characters before it.  `offset` counts those
before the tokens. -/
def ofClassFrom (tokenClass : TokenClass) (offset : Nat) (tokens : List Token) :
    List (Nat × Token) :=
  (placedFrom offset tokens).filter fun entry => entry.2.tokenClass == some tokenClass

variable {tokenClass : TokenClass} {offset : Nat} {token : Token} {tokens : List Token}

@[simp] theorem ofClassFrom_nil : ofClassFrom tokenClass offset [] = [] := rfl

theorem ofClassFrom_cons_of_ne (other : token.tokenClass ≠ some tokenClass) :
    ofClassFrom tokenClass offset (token :: tokens) =
      ofClassFrom tokenClass (offset + token.text.length) tokens :=
  List.filter_cons_of_neg (by simpa using other)

theorem ofClassFrom_cons_of_eq (isClass : token.tokenClass = some tokenClass) :
    ofClassFrom tokenClass offset (token :: tokens) =
      (offset, token) :: ofClassFrom tokenClass (offset + token.text.length) tokens :=
  List.filter_cons_of_pos (by simpa using isClass)

theorem ofClassFrom_append (first second : List Token) :
    ofClassFrom tokenClass offset (first ++ second) =
      ofClassFrom tokenClass offset first ++
        ofClassFrom tokenClass (offset + (chars first).length) second := by
  rw [ofClassFrom, placedFrom_append, List.filter_append]
  rfl

theorem ofClassFrom_eq_nil (others : ∀ token ∈ tokens, token.tokenClass ≠ some tokenClass) :
    ofClassFrom tokenClass offset tokens = [] := by
  refine List.filter_eq_nil_iff.mpr fun entry member => ?_
  simpa using others entry.2 (bounds_of_mem_placedFrom member).1

theorem exists_mem_ofClassFrom (offset : Nat) (member : token ∈ tokens)
    (isClass : token.tokenClass = some tokenClass) :
    ∃ position, (position, token) ∈ ofClassFrom tokenClass offset tokens := by
  rw [← map_snd_placedFrom offset tokens] at member
  obtain ⟨⟨position, _⟩, placed, rfl⟩ := List.mem_map.mp member
  exact ⟨position, List.mem_filter.mpr ⟨placed, beq_iff_eq.mpr isClass⟩⟩

/-- Joining plain tokens neither moves the tokens of a class nor makes any. -/
theorem ofClassFrom_joinFrom (plain : List Char) (tokens : List Token) :
    ofClassFrom tokenClass offset (joinFrom plain tokens) =
      ofClassFrom tokenClass (offset + plain.length) tokens := by
  have gathered (offset : Nat) (plain : List Char) :
      ofClassFrom tokenClass offset (gather plain) = [] := by
    refine ofClassFrom_eq_nil fun token member => ?_
    by_cases empty : plain = []
    · simp [empty] at member
    · rw [gather_of_ne_nil empty, List.mem_singleton] at member
      simp [member, Token.plain]
  induction tokens generalizing offset plain with
  | nil => exact gathered offset plain
  | cons token tokens ih =>
      cases found : token.tokenClass with
      | none =>
          rw [joinFrom_cons_plain found, ih, ofClassFrom_cons_of_ne (by simp [found]),
            List.length_append, String.length_toList, Nat.add_assoc]
      | some other =>
          rw [joinFrom_cons_classified (by simp [found]), ofClassFrom_append, gathered,
            chars_gather, List.nil_append]
          by_cases same : other = tokenClass
          · subst same
            rw [ofClassFrom_cons_of_eq found, ofClassFrom_cons_of_eq found, ih]
            rfl
          · have differ : token.tokenClass ≠ some tokenClass := by simpa [found] using same
            rw [ofClassFrom_cons_of_ne differ, ofClassFrom_cons_of_ne differ, ih]
            rfl

/-- Joining plain tokens leaves the classified ones where they are. -/
theorem mem_placedFrom_join (isClassified : token.tokenClass.isSome) {place : Nat} :
    (place, token) ∈ placedFrom offset (join tokens) ↔
      (place, token) ∈ placedFrom offset tokens := by
  obtain ⟨tokenClass, isClass⟩ := Option.isSome_iff_exists.mp isClassified
  have inClass (tokens : List Token) : (place, token) ∈ ofClassFrom tokenClass offset tokens ↔
      (place, token) ∈ placedFrom offset tokens := by
    simp [ofClassFrom, isClass]
  rw [← inClass, ← inClass, join, ofClassFrom_joinFrom]
  rfl

end Token

namespace Segment

/-- The class under which a segment is put away. -/
def class? : Segment → Option TokenClass
  | keep _ => none
  | claim tokenClass _ => some tokenClass

theorem class?_piece_ne {tokenClass other : TokenClass} (differ : tokenClass ≠ other)
    (run : List Char) : (piece tokenClass run).class? ≠ some other := by
  rw [piece]
  split <;> simp [class?, differ]

theorem class?_ne_of_mem_pieces {tokenClass other : TokenClass} (differ : tokenClass ≠ other)
    {run matched : List Char} :
    ∀ segment ∈ pieces tokenClass run matched, segment.class? ≠ some other := by
  induction matched generalizing run with
  | nil =>
      rw [pieces, List.forall_mem_singleton]
      exact class?_piece_ne differ _
  | cons c rest ih =>
      rw [pieces]
      split
      · exact List.forall_mem_cons.mpr
          ⟨class?_piece_ne differ _, List.forall_mem_cons.mpr ⟨by simp [class?], ih⟩⟩
      · exact ih

/-- Text is put away under the classes that come with the spans only. -/
theorem class?_ne_of_mem_ofSpans {other : TokenClass} {spans : List (Span × TokenClass)}
    (differ : ∀ entry ∈ spans, entry.2 ≠ other) {offset : Nat} {source : List Char} :
    ∀ segment ∈ ofSpans offset source spans, segment.class? ≠ some other := by
  induction spans generalizing offset source with
  | nil =>
      rw [ofSpans, List.forall_mem_singleton]
      simp [class?]
  | cons entry spans ih =>
      obtain ⟨differHere, differLater⟩ := List.forall_mem_cons.mp differ
      simp only [ofSpans, List.splitAt_eq, List.forall_mem_cons, List.forall_mem_append]
      refine ⟨by simp [class?], ?_, ih differLater⟩
      rw [ofMatch]
      split
      · exact class?_ne_of_mem_pieces differHere
      · rw [List.forall_mem_singleton]
        simpa [class?] using differHere

/-- What a segment stands for has the same tokens of other classes before and after it has been
dealt with. -/
theorem ofClassFrom_tokens {stash : Stash} {segment : Segment} (ordinary : segment.Ordinary)
    {tokenClass : TokenClass} (differ : segment.class? ≠ some tokenClass) (offset : Nat) :
    Token.ofClassFrom tokenClass offset (segment.tokens stash) =
      Token.ofClassFrom tokenClass offset (segment.text.map stash.expand) := by
  cases segment with
  | keep text => rfl
  | claim claimed run =>
      have plain : ∀ token ∈ run.map stash.expand, token.tokenClass ≠ some tokenClass := by
        intro token member
        simp [Stash.expand_of_ordinary_isPlain ordinary token member]
      rw [text_claim, Token.ofClassFrom_eq_nil plain, tokens]
      split
      · refine Token.ofClassFrom_eq_nil fun token member => ?_
        split at member
        · cases member
        · rw [List.mem_singleton.mp member]
          exact differ
      · exact Token.ofClassFrom_eq_nil plain

end Segment

variable {tokenClass : TokenClass}

/-- Going through segments of other classes leaves the tokens of a class. -/
theorem Draft.ofClassFrom_foldl_write {draft : Draft} {segments : List Segment} {rest : List Char}
    (ordinary : ∀ segment ∈ segments, segment.Ordinary)
    (differ : ∀ segment ∈ segments, segment.class? ≠ some tokenClass)
    (consistent : Consistent (draft.working (segments.flatMap Segment.text ++ rest))) :
    Token.ofClassFrom tokenClass 0 (segments.foldl write draft).tokens =
      Token.ofClassFrom tokenClass 0
        (draft.tokens ++ (segments.flatMap Segment.text).map draft.stash.expand) := by
  induction segments generalizing draft with
  | nil => simp
  | cons segment segments ih =>
      obtain ⟨isOrdinary, laterOrdinary⟩ := List.forall_mem_cons.mp ordinary
      obtain ⟨differHere, differLater⟩ := List.forall_mem_cons.mp differ
      rw [List.flatMap_cons, List.append_assoc] at consistent
      obtain ⟨written, unread⟩ := tokens_write consistent
      have next := consistent.putsAway (draft.write_putsAway isOrdinary _)
      have same : (segments.flatMap Segment.text).map (draft.write segment).stash.expand =
          (segments.flatMap Segment.text).map draft.stash.expand :=
        List.map_congr_left fun c member => unread c (List.mem_append_left rest member)
      rw [List.foldl_cons, ih laterOrdinary differLater next, same, written, List.flatMap_cons,
        List.map_append, List.append_assoc, Token.ofClassFrom_append, Token.ofClassFrom_append,
        Token.ofClassFrom_append, Token.ofClassFrom_append,
        Segment.ofClassFrom_tokens isOrdinary differHere, segment.chars_tokens isOrdinary]

namespace Working

/-- The pass of a rule of another class leaves the tokens of a class. -/
theorem ofClassFrom_applyRule {working : Working} (consistent : Consistent working) {rule : Rule}
    (differ : rule.tokenClass ≠ tokenClass) :
    Token.ofClassFrom tokenClass 0 (Working.tokens (working.1.applyRule rule working.2)) =
      Token.ofClassFrom tokenClass 0 working.tokens := by
  obtain ⟨stash, text⟩ := working
  rw [Stash.applyRule_eq_replaceSpans]
  generalize isSpans : (rule.spans text).map (fun span => (span, rule.tokenClass)) = spans
  have differEach : ∀ entry ∈ spans, entry.2 ≠ tokenClass := by
    rw [← isSpans, List.forall_mem_map]
    exact fun _ _ => differ
  have kept := Draft.ofClassFrom_foldl_write (Segment.ordinary_of_mem_ofSpans 0 text spans)
    (Segment.class?_ne_of_mem_ofSpans differEach) (consistent.ofSpans spans)
  rw [Segment.flatMap_text_ofSpans] at kept
  rw [Stash.replaceSpans, Draft.classifySpans_eq_foldl]
  exact kept

/-- The passes of rules of other classes leave the tokens of a class. -/
theorem ofClassFrom_applyRules {working : Working} (consistent : Consistent working)
    {rules : List Rule} (differ : ∀ rule ∈ rules, rule.tokenClass ≠ tokenClass) :
    Token.ofClassFrom tokenClass 0 (working.applyRules rules).tokens =
      Token.ofClassFrom tokenClass 0 working.tokens := by
  induction rules generalizing working with
  | nil => rfl
  | cons rule rules ih =>
      obtain ⟨differHere, differLater⟩ := List.forall_mem_cons.mp differ
      have next := consistent.putsAway (Stash.applyRule_putsAway rule working.1 working.2)
      exact (ih next differLater).trans (ofClassFrom_applyRule consistent differHere)

/-- There is no token of a class in a text that has been protected and seen by rules of other
classes only. -/
theorem tokenClass_expand_ne {source : List Char} {start : Working}
    (found : Stash.protect source = some start) {rules : List Rule}
    (differ : ∀ rule ∈ rules, rule.tokenClass ≠ tokenClass) :
    ∀ c ∈ (start.applyRules rules).2,
      ((start.applyRules rules).1.expand c).tokenClass ≠ some tokenClass := by
  intro c member isClass
  have kept := ofClassFrom_applyRules (Stash.protect_consistent found) differ
  have none : Token.ofClassFrom tokenClass 0 start.tokens = [] := by
    rw [Stash.tokens_protect found]
    exact Token.ofClassFrom_eq_nil (by simp)
  obtain ⟨position, placed⟩ :=
    Token.exists_mem_ofClassFrom 0 (List.mem_map_of_mem member) isClass
  rw [none] at kept
  have placedHere : (position, (start.applyRules rules).1.expand c) ∈
      Token.ofClassFrom tokenClass 0 (start.applyRules rules).tokens := placed
  rw [kept] at placedHere
  cases placedHere

end Working

end Tint
