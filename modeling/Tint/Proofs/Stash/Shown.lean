import Tint.Proofs.Exhausted
import Tint.Proofs.FirstClaim
import Tint.Proofs.Stash.Claims
import Tint.Proofs.Stash.Replaced

/-!
# Parts of a text on their way through the passes

A part of the source text stays in the working text as it is while no rule has a span that reaches
into it.  What is next to it stays as well, or placeholders take its place.  So what holds of the
two neighbours in the source text goes on to hold, as long as it holds of placeholders too.  A rule
that has a span for a part puts it away as one token, if a placeholder is left.
-/

namespace Tint

open Tint.Regex

/-- A part of the source text that the working text shows as it is.  `place` counts the characters
in front of it, and `edge` tells what can be next to it if it is not at an end of the text. -/
structure Working.Shows (edge : Char → Bool) (working : Working) (place : Nat)
    (part front back : List Char) : Prop where
  text_eq : working.2 = front ++ (part ++ back)
  place_eq : (Token.chars (front.map working.1.expand)).length = place
  frontEnds : ∀ c ∈ front.getLast?, edge c = true
  backBegins : ∀ c ∈ back.head?, edge c = true

/-- Inside of an ordinary part, places follow the characters. -/
theorem Working.Shows.placeOf {edge : Char → Bool} {working : Working} {place offset : Nat}
    {part front back : List Char} (shows : working.Shows edge place part front back)
    (ordinary : ∀ c ∈ part, isReserved c = false) (inPart : offset ≤ part.length) :
    working.placeOf (front.length + offset) = place + offset := by
  obtain ⟨stash, text⟩ := working
  obtain ⟨rfl, rfl, -, -⟩ := shows
  rw [← List.append_assoc, Working.placeOf_of_ordinary ordinary inPart]

/-- Whether the spans of a rule keep away from a part wherever it is between such neighbours, in a
text without the characters that are missing. -/
def Rule.Spares (edge : Char → Bool) (missing : List Char) (rule : Rule) (part : List Char) :
    Prop :=
  ∀ front back, (∀ c ∈ front.getLast?, edge c = true) → (∀ c ∈ back.head?, edge c = true) →
    (∀ c ∈ missing, c ∉ front ++ (part ++ back)) → ∀ span ∈ rule.spans (front ++ (part ++ back)),
      span.stop ≤ front.length ∨ front.length + part.length ≤ span.start

/-- The ordinary characters of a working text come from the source text. -/
theorem Working.mem_chars_of_ordinary {working : Working} {c : Char} (member : c ∈ working.2)
    (ordinary : isReserved c = false) : c ∈ Token.chars working.tokens := by
  obtain ⟨front, back, isText⟩ := List.append_of_mem member
  simp [Working.tokens, isText, ordinary, Token.plain]

section Protect

/-- A character of a text that stands for one of the source text is this one, or both are reserved.
-/
theorem Consistent.eq_of_expand_eq_single {working : Working} (linked : Consistent working)
    {c d : Char} (member : c ∈ working.2) (same : working.1.expand c = .single d) :
    c = d ∨ (isReserved c = true ∧ isReserved d = true) := by
  cases reserved : isReserved c with
  | false =>
      left
      simpa [reserved, Token.single, Token.plain] using same
  | true =>
      obtain ⟨index, isIndex⟩ := List.mem_iff_getElem?.mp member
      obtain ⟨e, eReserved, isText⟩ := linked.exists_literal isIndex reserved (by rw [same]; rfl)
      rw [same] at isText
      obtain rfl : d = e := by simpa [Token.single, Token.plain] using isText
      exact .inr ⟨rfl, eReserved⟩

theorem Consistent.eq_of_map_expand {working : Working} (linked : Consistent working)
    {text part : List Char} (inText : ∀ c ∈ text, c ∈ working.2)
    (same : text.map working.1.expand = part.map .single)
    (ordinary : ∀ c ∈ part, isReserved c = false) : text = part := by
  induction text generalizing part with
  | nil => exact (List.map_eq_nil_iff.mp same.symm).symm
  | cons c text ih =>
      cases part with
      | nil => cases same
      | cons d part =>
          obtain ⟨first, later⟩ := List.cons.inj same
          obtain ⟨inTextHere, inTextLater⟩ := List.forall_mem_cons.mp inText
          obtain ⟨ordinaryHere, ordinaryLater⟩ := List.forall_mem_cons.mp ordinary
          rw [ih inTextLater later ordinaryLater]
          rcases linked.eq_of_expand_eq_single inTextHere first with rfl | ⟨-, reserved⟩
          · rfl
          · simp [ordinaryHere] at reserved

variable {edge : Char → Bool} {source front part back : List Char} {start : Working}

/-- At first, all ordinary text is shown. -/
theorem Working.exists_shows_protect (reservedEdge : ∀ c, isReserved c = true → edge c = true)
    (found : Stash.protect source = some start) (split : source = front ++ (part ++ back))
    (ordinary : ∀ c ∈ part, isReserved c = false) (frontEnds : ∀ c ∈ front.getLast?, edge c = true)
    (backBegins : ∀ c ∈ back.head?, edge c = true) :
    ∃ newFront newBack, start.Shows edge front.length part newFront newBack := by
  have linked := Stash.protect_consistent found
  have same := Stash.tokens_protect found
  rw [Working.tokens, split, List.map_append, List.map_append, List.map_eq_append_iff] at same
  obtain ⟨newFront, rest, isText, sameFront, sameRest⟩ := same
  obtain ⟨newPart, newBack, rfl, samePart, sameBack⟩ := List.map_eq_append_iff.mp sameRest
  have inText : ∀ c, c ∈ newFront ∨ c ∈ newPart ∨ c ∈ newBack → c ∈ start.2 := by simp [isText]
  have isPart := linked.eq_of_map_expand (fun c member => inText c (.inr (.inl member))) samePart
    ordinary
  subst isPart
  refine ⟨newFront, newBack, isText, ?_, fun c isLast => ?_, fun c isHead => ?_⟩
  · rw [sameFront, Token.chars_map_single]
  · have mapped := congrArg List.getLast? sameFront
    rw [List.getLast?_map, List.getLast?_map, isLast] at mapped
    obtain ⟨d, isLast', same⟩ := Option.map_eq_some_iff.mp mapped.symm
    rcases linked.eq_of_expand_eq_single (inText c (.inl (List.mem_of_getLast? isLast))) same.symm
      with rfl | ⟨reserved, -⟩
    · exact frontEnds c isLast'
    · exact reservedEdge c reserved
  · have mapped := congrArg List.head? sameBack
    rw [List.head?_map, List.head?_map, isHead] at mapped
    obtain ⟨d, isHead', same⟩ := Option.map_eq_some_iff.mp mapped.symm
    rcases linked.eq_of_expand_eq_single (inText c (.inr (.inr (List.mem_of_head? isHead))))
      same.symm with rfl | ⟨reserved, -⟩
    · exact backBegins c isHead'
    · exact reservedEdge c reserved

end Protect

section Passes

variable {edge : Char → Bool} {working : Working} {place : Nat} {part front back : List Char}
  (reservedEdge : ∀ c, isReserved c = true → edge c = true) (linked : Consistent working)
  (shows : working.Shows edge place part front back)
include reservedEdge linked shows

/-- A part stays if no span of the rule reaches into it. -/
theorem Working.Shows.applyRule {rule : Rule} (apart : ∀ span ∈ rule.spans working.2,
      span.stop ≤ front.length ∨ front.length + part.length ≤ span.start) :
    ∃ newFront newBack,
      Working.Shows edge (working.1.applyRule rule working.2) place part newFront newBack := by
  obtain ⟨stash, text⟩ := working
  obtain ⟨rfl, rfl, frontEnds, backBegins⟩ := shows
  have replaced := Stash.replaced_applyRule linked rule
  have away : ∀ start stop, rule.IsRun (front ++ (part ++ back)) start stop →
      stop ≤ front.length ∨ front.length + part.length ≤ start := by
    rintro start stop ⟨span, isSpan, start_le, le_stop, -⟩
    have away := apart span isSpan
    omega
  obtain ⟨newFront, newRest, isNew, first, second⟩ :=
    replaced.of_append_old fun start stop isRun => by
      have away := away start stop isRun
      omega
  obtain ⟨newBack, rfl, last⟩ := second.of_append_apart fun start stop isRun _ => by
    have away := away start stop isRun
    omega
  refine ⟨newFront, newBack, isNew, congrArg List.length first.chars_eq, fun c isLast => ?_,
    fun c isHead => ?_⟩
  · rcases first.getLast?_eq with same | ⟨-, reserved⟩
    · exact frontEnds c (same ▸ isLast)
    · rw [isLast] at reserved
      exact reservedEdge c reserved
  · rcases last.head?_eq with same | ⟨-, reserved⟩
    · exact backBegins c (same ▸ isHead)
    · rw [isHead] at reserved
      exact reservedEdge c reserved

/-- A part goes through the passes of all rules that keep away from it. -/
theorem Working.Shows.applyRules {missing : List Char}
    (ordinary : ∀ c ∈ missing, isReserved c = false)
    (noneThere : ∀ c ∈ missing, c ∉ Token.chars working.tokens) {rules : List Rule}
    (spares : ∀ rule ∈ rules, rule.Spares edge missing part) :
    ∃ newFront newBack, (working.applyRules rules).Shows edge place part newFront newBack := by
  induction rules generalizing working front back with
  | nil => exact ⟨front, back, shows⟩
  | cons rule rules ih =>
      obtain ⟨sparesHere, sparesLater⟩ := List.forall_mem_cons.mp spares
      have noneSeen : ∀ c ∈ missing, c ∉ working.2 := fun c isMissing member =>
        noneThere c isMissing (Working.mem_chars_of_ordinary member (ordinary c isMissing))
      have isText := shows.text_eq
      obtain ⟨newFront, newBack, showsNext⟩ := shows.applyRule reservedEdge linked
        fun span isSpan => sparesHere front back shows.frontEnds shows.backBegins
          (isText ▸ noneSeen) span (isText ▸ isSpan)
      have passed := Stash.applyRule_putsAway rule working.1 working.2
      rw [← passed.chars_eq linked] at noneThere
      exact ih (linked.putsAway passed) showsNext noneThere sparesLater

end Passes

/-- A span of ordinary characters is put away as one token, if a placeholder is left. -/
theorem Stash.mem_placedFrom_applyRule {stash : Stash} {rule : Rule} {front run back : List Char}
    (linked : Consistent (stash, front ++ (run ++ back)))
    (isSpan : ⟨front.length, front.length + run.length⟩ ∈ rule.spans (front ++ (run ++ back)))
    (ordinary : ∀ c ∈ run, isReserved c = false)
    (free : (stash.applyRule rule (front ++ (run ++ back))).1.next? ≠ none) :
    ((Token.chars (front.map stash.expand)).length,
        .classified rule.tokenClass (String.ofList run)) ∈
      Token.placedFrom 0 (Working.tokens (stash.applyRule rule (front ++ (run ++ back)))) := by
  have ordered := rule.spans_ordered (front ++ (run ++ back))
  obtain ⟨before, after, split, reached⟩ :=
    Segment.exists_ofSpans_eq rule.tokenClass ordered (fun _ _ => Nat.zero_le _) isSpan
  have isSlice : Span.slice ⟨front.length, front.length + run.length⟩ (front ++ (run ++ back)) =
      run := by
    simp [Span.slice]
  have isClaim : Segment.ofMatch rule.tokenClass run = [.claim rule.tokenClass run] := by
    have noneReserved : run.any isReserved = false := by simpa using ordinary
    rw [Segment.ofMatch, noneReserved, if_neg (by simp)]
  rw [List.drop_zero, isSlice, isClaim, List.singleton_append] at split
  have whole := Segment.flatMap_text_ofSpans 0 (front ++ (run ++ back))
    ((rule.spans (front ++ (run ++ back))).map fun span => (span, rule.tokenClass))
  rw [split, List.flatMap_append] at whole
  have isFront : before.flatMap Segment.text = front :=
    (List.append_inj whole (by simpa using reached)).1
  obtain ⟨first, steps, sameText, later, written⟩ :=
    Stash.exists_replaceSpans_tokens_eq linked split
  rw [← Stash.applyRule_eq_replaceSpans] at steps written
  rw [isFront] at sameText
  have nonempty : run ≠ [] := by
    have taken := ordered.nonempty _ isSpan
    rintro rfl
    simp at taken
  obtain ⟨placeholder, isFree⟩ : ∃ placeholder, first.stash.next? = some placeholder := by
    cases isNext : first.stash.next? with
    | some placeholder => exact ⟨placeholder, rfl⟩
    | none =>
        refine absurd ?_ free
        rw [steps.eq_of_full isNext]
        exact isNext
  have isToken : Segment.tokens first.stash (.claim rule.tokenClass run) =
      [.classified rule.tokenClass (String.ofList run)] := by
    simp [Segment.tokens, isFree, nonempty]
  rw [written, isToken, List.append_assoc, List.singleton_append, ← sameText,
    ← Nat.zero_add (Token.chars first.tokens).length]
  exact Token.mem_placedFrom_append 0 _ _ _

end Tint
