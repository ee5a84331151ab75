import Tint.Proofs.Structured.Alike

/-!
# The tokenizer is the plain scanner

With a placeholder for each token, the two passes give what the plain scan of the text gives.  Their
number is limited; past the limit, text that the scan classifies is left plain, and that is all that
is different.

The scan makes as many classified tokens as the passes need placeholders for, so whether there are
enough can be said without the passes.
-/

namespace Tint.Structured

open Tint.Regex Tint.Unicode

/-! ## Both passes -/

/-- What the second pass goes through, if the first one has put all literals away. -/
theorem flatMap_ideal_scalarSpans {text : List Char} {other : Char → Token}
    (textShows : ∀ c ∈ text, Shows other c) {working : Working} (consistent : Consistent working)
    (isFrame : working.tokens = (cut text).frame other) :
    (Segment.ofSpans 0 working.2 (scalarSpans working.2)).flatMap
      (Segment.ideal working.1.expand) = (cut text).tokens other := by
  rw [scalarSpans_eq_scalarsFrom]
  exact readAt_frame (reads_segmentTokens working.1.expand) (wellFormed_cut text)
    (by simpa using textShows) (fun c member => consistent.expand_cases member) isFrame rfl 0

/-- The passes give the tokens of the parts if there are enough placeholders for them, and leave
some of them plain if there are not. -/
theorem tokens_passes {start : Working} (consistent : Consistent start) :
    Token.Subdivides (Token.join (passes start).tokens)
        (Token.join ((cut start.2).tokens start.1.expand)) ∧
      (start.1.tokens.size + Token.classifiedCount ((cut start.2).tokens start.1.expand) ≤
          slotLimit + Token.classifiedCount start.tokens →
        (passes start).tokens = (cut start.2).tokens start.1.expand) := by
  obtain ⟨middle, isMiddle⟩ :
    ∃ middle, start.1.replaceSpans start.2 (literalSpans start.2) = middle := ⟨_, rfl⟩
  have isPasses : passes start = middle.1.replaceSpans middle.2 (scalarSpans middle.2) := by
    rw [passes, isMiddle]
  have middleConsistent : Consistent middle :=
    isMiddle ▸ consistent.putsAway (Stash.replaceSpans_putsAway _ _ _)
  have first := consistent.passed (literalSpans start.2)
  have second := middleConsistent.passed (scalarSpans middle.2)
  have whole := (cut start.2).flatMap_ideal_ofSpans start.1.expand 0
  rw [text_cut, ← literalSpans_eq_literals] at whole
  rw [whole, isMiddle] at first
  rw [← isPasses] at second
  have frameLeaves : Token.LeavesPlain ((cut start.2).frame start.1.expand)
      ((cut start.2).tokens start.1.expand) :=
    leavesPlain_frame (fun c => Stash.expand_of_ordinary) (cut start.2)
  have size := first.size
  -- a first pass without room for all its literals leaves none for the second one
  by_cases room : start.1.tokens.size +
      Token.classifiedCount ((cut start.2).frame start.1.expand) ≤
        slotLimit + Token.classifiedCount start.tokens
  · have isFrame := first.exact room
    rw [flatMap_ideal_scalarSpans (fun c member => consistent.expand_cases member)
      middleConsistent isFrame] at second
    refine ⟨second.leaves.subdivides_join, fun enough => second.exact ?_⟩
    rw [isFrame]
    omega
  · have full : middle.1.next? = none := by
      rw [Stash.next?_eq_none_iff]
      omega
    have stopped : passes start = middle := by
      rw [isPasses]
      exact PutsAway.eq_of_full full (Stash.replaceSpans_putsAway _ _ _)
    rw [stopped]
    refine ⟨first.leaves.subdivides_join.trans frameLeaves.subdivides_join, fun enough => ?_⟩
    have atLeast := frameLeaves.classifiedCount_le
    omega

/-! ## The whole text -/

/-- The scan of a text can be read off its working text. -/
theorem scanned_eq_join {text : String} {start : Working}
    (found : Stash.protect text.toList = some start) :
    scanned text = Token.join ((cut start.2).tokens start.1.expand) ∧
      start.1.tokens.size = text.toList.countP isReserved := by
  have consistent := Stash.protect_consistent found
  have related : List.Forall₂ (ShowAlike .single start.1.expand) text.toList start.2 :=
    forall₂_showAlike (fun c _ => shows_single c) (fun c member => consistent.expand_cases member)
      (Stash.tokens_protect found).symm
  constructor
  · rw [scanned, (related_cut (fun both => both.1) related).tokens_eq]
  · rw [← consistent.countP_isReserved]
    exact (countP_isReserved_eq (related.imp fun _ _ both => both.1)).symm

/-- The scan divides the text as the tokenizer does, or more finely; a text that has more reserved
characters than there are placeholders is left plain as a whole. -/
theorem tokenize_subdivides (text : String) :
    Token.Subdivides (tokenize text) (scanned text) ∧
      (text.toList.countP isReserved + Token.classifiedCount (scanned text) ≤ slotLimit →
        tokenize text = scanned text) := by
  rw [tokenize_eq_tokensBy, tokensBy]
  cases found : Stash.protect text.toList with
  | none =>
      have tooMany := Stash.lt_of_protect_eq_none found
      have whole := Token.Subdivides.cut (chars_scanned text) .nil
      rw [List.append_nil] at whole
      refine ⟨whole, fun enough => ?_⟩
      omega
  | some start =>
      have consistent := Stash.protect_consistent found
      obtain ⟨isScanned, size⟩ := scanned_eq_join found
      obtain ⟨subdivides, exact⟩ := tokens_passes consistent
      dsimp only
      rw [(consistent.putsAway (passes_putsAway start)).resolve_eq_join, isScanned,
        Token.classifiedCount_join, ← size]
      exact ⟨subdivides, fun enough => by rw [exact (by omega)]⟩

/-! ## Literals and what is between them -/

theorem Parts.le_start_of_mem_literals {parts : Parts} {offset : Nat} :
    ∀ literal ∈ parts.literals offset, offset ≤ literal.1.start := by
  induction parts generalizing offset with
  | last gap => simp [literals]
  | next gap tokenClass literal rest ih =>
      intro other member
      rcases List.mem_cons.mp member with rfl | later
      · exact Nat.le_add_right _ _
      · have behind := ih other later
        omega

/-- Numbers, constants and punctuation are in the gaps. -/
theorem Parts.apart_of_mem_placedFrom {parts : Parts} (wellFormed : parts.WellFormed)
    {token : Token} (isScalar : token.tokenClass ∈ [some .number, some .keyword, some .punctuation])
    {offset place : Nat}
    (member : (place, token) ∈ Token.placedFrom offset (parts.tokens .single)) :
    ∀ literal ∈ parts.literals offset,
      place + token.text.length ≤ literal.1.start ∨ literal.1.stop ≤ place := by
  induction parts generalizing offset with
  | last gap => simp [literals]
  | next gap tokenClass literal rest ih =>
      obtain ⟨isLiteral, -, -, restFormed⟩ := wellFormed
      simp only [tokens, Token.placedFrom_append, List.mem_append, chars_gapTokens,
        chars_literalTokens] at member
      intro other isOther
      rcases member with inGap | inLiteral | behind
      · obtain ⟨-, -, within⟩ := Token.bounds_of_mem_placedFrom inGap
        rw [chars_gapTokens] at within
        rcases List.mem_cons.mp isOther with rfl | later
        · exact .inl within
        · have atLeast := le_start_of_mem_literals other later
          omega
      · -- the tokens of a literal have other classes
        obtain ⟨isToken, -⟩ := Token.bounds_of_mem_placedFrom inLiteral
        rcases mem_literalTokens isToken with isClass | ⟨c, -, rfl, -⟩
        · simp only [List.mem_cons, List.not_mem_nil, or_false] at isLiteral
          rcases isLiteral with rfl | rfl <;> simp [isClass] at isScalar
        · simp at isScalar
      · obtain ⟨-, atLeast, -⟩ := Token.bounds_of_mem_placedFrom behind
        rcases List.mem_cons.mp isOther with rfl | later
        · exact .inr atLeast
        · exact ih restFormed behind other later

/-! ## The tokenizer and the scanner -/

/-- The tokens of every text are those of a plain scan.

The scan cuts a text at its literals: a quote opens one if and only if units and another quote come
behind it.  With a placeholder for each reserved character and each classified token, the tokens are
those of the scan.  With fewer of them, nothing differs but text that is left plain, and even then
no number, constant or punctuation overlaps a literal. -/
theorem tokenize_eq_scanned (text : String) :
    (∀ units rest, Units units → cut ('"' :: (units ++ '"' :: rest)) =
      .next [] (if isKey rest then .property else .string) ('"' :: (units ++ ['"'])) (cut rest)) ∧
    (∀ c rest, (c = '"' → ¬∃ units after, Units units ∧ rest = units ++ '"' :: after) →
      cut (c :: rest) = (cut rest).push c) ∧
    (text.toList.countP isReserved + (scanned text).countP (·.tokenClass.isSome) ≤ slotLimit →
      tokenize text = scanned text) ∧
    Token.Subdivides (tokenize text) (scanned text) ∧
    ∀ place token, (place, token) ∈ Token.placedFrom 0 (tokenize text) →
      token.tokenClass ∈ [some .number, some .keyword, some .punctuation] →
      ∀ literal ∈ (cut text.toList).literals 0,
        place + token.text.length ≤ literal.1.start ∨ literal.1.stop ≤ place := by
  obtain ⟨subdivides, exact⟩ := tokenize_subdivides text
  refine ⟨fun units rest => cut_units, fun c rest => cut_skip_of_no_units, exact, subdivides, ?_⟩
  intro place token member isScalar
  have isClassified : token.tokenClass.isSome := by
    cases noClass : token.tokenClass with
    | none => simp [noClass] at isScalar
    | some tokenClass => rfl
  have inScan := subdivides.mem_placedFrom isClassified member
  have inParts := Token.mem_placedFrom_of_joinFrom isClassified inScan
  exact Parts.apart_of_mem_placedFrom (wellFormed_cut text.toList) isScalar inParts

/-- A quote that nothing closes, behind a literal with a reserved character in it. -/
theorem tokenize_eq_scanned_unclosed :
    let reserved := Char.ofNat 0xF0000
    let text := String.ofList
      ['[', '"', 'a', reserved, '\\', '"', '"', ' ', ':', '-', '1', ',', ' ', '"', 'b', ']']
    text.toList.countP isReserved + (scanned text).countP (·.tokenClass.isSome) ≤ slotLimit ∧
      tokenize text =
        [ .classified .punctuation "[", .classified .property "\"a", .plain (.singleton reserved),
          .classified .property "\\\"\"", .plain " ", .classified .punctuation ":",
          .classified .number "-1", .classified .punctuation ",", .plain " \"b",
          .classified .punctuation "]" ] := by
  intro reserved text
  have enough : text.toList.countP isReserved +
      (scanned text).countP (·.tokenClass.isSome) ≤ slotLimit := by decide +kernel
  refine ⟨enough, ?_⟩
  rw [(tokenize_eq_scanned text).2.2.1 enough]
  decide +kernel

end Tint.Structured
