import Tint.Proofs.Stash.Ideal
import Tint.Proofs.Structured.Reference
import Tint.Proofs.Json.Tokenized

/-!
# The first pass finds the literals

From a quote that another one closes, the pattern for literals takes the units between them; from a
quote that none closes, it finds nothing, since its loop never stops in front of a quote.  So the
spans of the first pass are those of the literals that a plain scan cuts out, and putting them away
leaves the gaps as they are.
-/

namespace Tint.Structured

open Tint.Regex Tint.Unicode

/-! ## The pattern -/

variable {before : Option Char} {rest : List Char}

theorem literalUnit_units {units : List Char} (isUnits : Units units) :
    (Json.literalUnit.rounds true).Prefers before units ('"' :: rest) := by
  induction isUnits generalizing before with
  | nil => exact Json.literalUnit_stops
  | plain notQuote notBackslash _ ih => exact Json.literalUnit_plain notQuote notBackslash ih
  | escaped notFeed _ ih => exact Json.literalUnit_escaped notFeed ih

/-- A round of the loop does not come to where a quote closes, if none did before. -/
theorem closing?_of_mem_literalUnit {cursor : Cursor} {way : Way}
    (member : way ∈ Json.literalUnit cursor) (noQuote : closing? cursor.rest = none) :
    closing? way.cursor.rest = none := by
  obtain ⟨before, text, offset⟩ := cursor
  rcases List.mem_append.mp member with isPlain | isEscaped
  · cases text with
    | nil => cases isPlain
    | cons c rest =>
        simp only [Ways.one, List.mem_ite_nil_right, List.mem_singleton] at isPlain
        obtain ⟨holds, rfl⟩ := isPlain
        have notSpecial : c ≠ '"' ∧ c ≠ '\\' := by simpa [Json.contains_plain] using holds
        rw [closing?_plain notSpecial.1 notSpecial.2, Option.map_eq_none_iff] at noQuote
        exact noQuote
  · obtain ⟨front, isBackslash, later⟩ := List.mem_flatMap.mp isEscaped
    obtain ⟨back, isBehind, rfl⟩ := List.mem_map.mp later
    cases text with
    | nil => cases isBackslash
    | cons c rest =>
        simp only [Ways.one, CharSet.contains_single, beq_iff_eq, List.mem_ite_nil_right,
          List.mem_singleton] at isBackslash
        obtain ⟨rfl, rfl⟩ := isBackslash
        cases rest with
        | nil => cases isBehind
        | cons c rest =>
            rw [Cursor.step_of_rest rfl] at isBehind
            simp only [Ways.one, List.mem_ite_nil_right, List.mem_singleton] at isBehind
            obtain ⟨holds, rfl⟩ := isBehind
            have notFeed : c ≠ '\n' := by simpa [CharSet.contains] using holds
            rw [closing?_escaped, if_neg notFeed, Option.map_eq_none_iff] at noQuote
            exact noQuote

theorem closing?_of_mem_rounds {cursor : Cursor} {way : Way}
    (member : way ∈ Json.literalUnit.rounds true cursor) (noQuote : closing? cursor.rest = none) :
    closing? way.cursor.rest = none := by
  rcases Ways.mem_rounds member with rfl | ⟨front, inUnit, shorter, later⟩
  · exact noQuote
  · obtain ⟨back, inRounds, rfl⟩ := List.mem_map.mp later
    have behind : closing? back.cursor.rest = none :=
      closing?_of_mem_rounds inRounds (closing?_of_mem_literalUnit inUnit noQuote)
    exact behind
termination_by cursor.rest.length

/-- From a quote that no other one closes, there is no way. -/
theorem quoted_refuses (noQuote : closing? rest = none) :
    quoted.ways.Refuses before ('"' :: rest) := by
  intro offset
  rw [List.eq_nil_iff_forall_not_mem]
  intro way member
  obtain ⟨opening, isOpening, later⟩ := List.mem_flatMap.mp member
  obtain ⟨back, isBehind, rfl⟩ := List.mem_map.mp later
  obtain ⟨inner, isInner, further⟩ := List.mem_flatMap.mp isBehind
  obtain ⟨closing, isClosing, rfl⟩ := List.mem_map.mp further
  have isOpening : opening ∈ Ways.one (.single '"') ⟨before, '"' :: rest, offset⟩ := isOpening
  have isClosing : closing ∈ Ways.one (.single '"') inner.cursor := isClosing
  simp only [Ways.one, CharSet.contains_single, beq_self_eq_true, if_true,
    List.mem_singleton] at isOpening
  subst isOpening
  have noneInside := closing?_of_mem_rounds isInner noQuote
  cases isRest : inner.cursor.rest with
  | nil => simp [Ways.one, isRest] at isClosing
  | cons c more =>
      simp only [Ways.one, isRest, CharSet.contains_single, beq_iff_eq,
        List.mem_ite_nil_right] at isClosing
      rw [isRest, isClosing.1, closing?_quote] at noneInside
      cases noneInside

/-! ## The spans -/

/-- A scan with the pattern finds the literals that the plain scan cuts out. -/
theorem literalsOf_scan_cut (text : List Char) (before : Option Char) (offset : Nat) :
    Json.literalsOf (quoted.ways.scan ⟨before, text, offset⟩) = (cut text).literals offset := by
  induction text using cut_induction generalizing before offset with
  | nil =>
      rw [Ways.scan_end (Pattern.advances rfl) rfl, cut]
      rfl
  | literal rest length closes ih =>
      obtain ⟨units, after, isUnits, rfl, rfl⟩ := closing?_eq_some_iff.mp closes
      have prefers : quoted.ways.Prefers before ('"' :: (units ++ ['"'])) after :=
        Json.quoted_prefers_of_units (literalUnit_units isUnits)
      have split : '"' :: (units ++ '"' :: after) = ('"' :: (units ++ ['"'])) ++ after := by simp
      rw [drop_units] at ih
      rw [cut_units isUnits, Parts.literals, ← ih, split, Pattern.scan_prefers rfl prefers]
      rfl
  | skip c rest opens ih =>
      have noWay : quoted.ways ⟨before, c :: rest, offset⟩ = [] := by
        by_cases isQuote : c = '"'
        · rw [isQuote]
          exact quoted_refuses (opens isQuote) offset
        · exact Pattern.ways_eq_nil rfl (by simpa [Json.quoted_begins] using isQuote)
      rw [Ways.scan_skip noWay rfl, cut_skip opens, Parts.literals_push, ih]

theorem literalSpans_eq_literals (text : List Char) :
    literalSpans text = (cut text).literals 0 := by
  rw [literalSpans, quotedMatcher, Matcher.allMatches_ofPattern rfl rfl]
  exact literalsOf_scan_cut text none 0

/-! ## The segments -/

theorem runs_of_ordinary {text : List Char} (nonempty : text ≠ [])
    (ordinary : ∀ c ∈ text, isReserved c = false) : runs text = [text] := by
  refine List.splitBy_of_isChain nonempty (List.Pairwise.isChain ?_)
  refine List.pairwise_of_forall_mem_list fun c inText d alsoInText => ?_
  simp [ordinary c inText, ordinary d alsoInText]

/-- A reserved character ends the run in front of it and is a run by itself. -/
theorem runs_append_reserved {c : Char} (reserved : isReserved c = true) (text rest : List Char) :
    runs (text ++ c :: rest) = runs text ++ [c] :: runs rest := by
  have alone : runs ([c] ++ rest) = runs [c] ++ runs rest :=
    List.splitBy_append (by simp [reserved])
  rw [runs, List.splitBy_append_cons rest (by simp [reserved])]
  exact congrArg (runs text ++ ·) alone

/-- The pieces of a match are its runs, of which blank ones stay as they are. -/
theorem flatMap_ideal_pieces (shown : Char → Token) (tokenClass : TokenClass)
    {run : List Char} (ordinary : ∀ c ∈ run, isReserved c = false) (text : List Char) :
    (Segment.pieces tokenClass run text).flatMap (Segment.ideal shown) =
      (runs (run.reverse ++ text)).flatMap fun run =>
        if run.any isReserved || run.all isSpace then run.map shown
        else [.classified tokenClass (String.ofList run)] := by
  have piece (run : List Char) (ordinary : ∀ c ∈ run, isReserved c = false) :
      (Segment.piece tokenClass run).ideal shown = (runs run).flatMap fun run =>
        if run.any isReserved || run.all isSpace then run.map shown
        else [.classified tokenClass (String.ofList run)] := by
    by_cases empty : run = []
    · subst empty
      rfl
    · have noneReserved : run.any isReserved = false := by simpa using ordinary
      rw [runs_of_ordinary empty ordinary, List.flatMap_singleton, noneReserved, Segment.piece]
      split <;> simp_all [Segment.ideal]
  induction text generalizing run with
  | nil =>
      rw [Segment.pieces, List.flatMap_singleton, List.append_nil]
      exact piece _ (by simpa using ordinary)
  | cons c text ih =>
      rw [Segment.pieces]
      cases reserved : isReserved c with
      | true =>
          rw [if_pos rfl, runs_append_reserved reserved, List.flatMap_cons, List.flatMap_cons,
            List.flatMap_append, List.flatMap_cons, ih (by simp), piece _ (by simpa using ordinary)]
          simp [Segment.ideal, reserved]
      | false =>
          rw [if_neg (by simp), ih (by simpa [reserved] using ordinary)]
          simp

theorem flatMap_ideal_ofMatch (shown : Char → Token) (tokenClass : TokenClass)
    (literal : List Char) :
    (Segment.ofMatch tokenClass literal).flatMap (Segment.ideal shown) =
      literalTokens shown tokenClass literal := by
  rw [Segment.ofMatch, literalTokens]
  cases anyReserved : literal.any isReserved with
  | true =>
      rw [if_pos rfl, flatMap_ideal_pieces shown tokenClass (by simp)]
      simp
  | false =>
      rw [if_neg (by simp), List.flatMap_singleton]
      by_cases empty : literal = []
      · subst empty
        rfl
      · rw [runs_of_ordinary empty (by simpa using anyReserved), List.flatMap_singleton,
          anyReserved]
        simp [Segment.ideal, empty]

/-- The tokens of the parts when the literals have been put away and the gaps are as they were. -/
def Parts.frame (shown : Char → Token) : Parts → List Token
  | last gap => gap.map shown
  | next gap tokenClass literal rest =>
      gap.map shown ++ (literalTokens shown tokenClass literal ++ rest.frame shown)

/-- The segments of the parts: gaps are kept, and literals are matches. -/
def Parts.segments : Parts → List Segment
  | last gap => [.keep gap]
  | next gap tokenClass literal rest =>
      .keep gap :: (Segment.ofMatch tokenClass literal ++ rest.segments)

/-- The first pass goes through the segments of the parts. -/
theorem Parts.ofSpans_literals (parts : Parts) (offset : Nat) :
    Segment.ofSpans offset parts.text (parts.literals offset) = parts.segments := by
  induction parts generalizing offset with
  | last gap => rfl
  | next gap tokenClass literal rest ih =>
      have later := ih (offset + gap.length + literal.length)
      simp [text, literals, Segment.ofSpans, segments, later]

/-- The segments of the first pass are the runs of the literals and the gaps. -/
theorem Parts.flatMap_ideal_ofSpans (shown : Char → Token) (parts : Parts) (offset : Nat) :
    (Segment.ofSpans offset parts.text (parts.literals offset)).flatMap (Segment.ideal shown) =
      parts.frame shown := by
  rw [ofSpans_literals]
  induction parts with
  | last gap => simp [segments, Segment.ideal, frame]
  | next gap tokenClass literal rest ih =>
      rw [segments, List.flatMap_cons, List.flatMap_append, flatMap_ideal_ofMatch, ih, frame]
      rfl

end Tint.Structured
