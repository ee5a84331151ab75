import Tint.Proofs.Structured.Literals
import Tint.Proofs.Structured.Scalars

/-!
# The second pass finds what is in the gaps

After the first pass, the working text has a placeholder for each run of a literal and the gaps as
they were.  Reserved characters stand at both ends of what is left of a literal, since it has a
quote there, and nothing between them can be taken.  So each gap is matched as a text of its own,
and the second pass writes the tokens of the plain scan.

What the working text is like is read off the tokens that it stands for, which tell each of its
characters up to the choice of the placeholder.
-/

namespace Tint.Structured

open Tint.Regex Tint.Unicode

/-! ## Reading spans -/

theorem reads_spanTokens (shown : Char → Token) : Reads shown (spanTokens shown) where
  all offset text := rfl
  skip {offset c text spans} behind := by
    cases spans with
    | nil => rfl
    | cons entry spans =>
        have start := behind entry List.mem_cons_self
        have before : entry.1.start - offset = entry.1.start - (offset + 1) + 1 := by omega
        simp [spanTokens, before]
  take {offset run text tokenClass spans} nonempty ordinary := by
    simp [spanTokens]

/-- The tokens of the segments of a text with spans. -/
def segmentTokens (shown : Char → Token) (offset : Nat) (text : List Char)
    (spans : List (Span × TokenClass)) : List Token :=
  (Segment.ofSpans offset text spans).flatMap (Segment.ideal shown)

theorem reads_segmentTokens (shown : Char → Token) : Reads shown (segmentTokens shown) where
  all offset text := by simp [segmentTokens, Segment.ofSpans, Segment.ideal]
  skip {offset c text spans} behind := by
    rw [segmentTokens, Segment.ofSpans_skip behind, Segment.flatMap_ideal_keepFront]
    rfl
  take {offset run text tokenClass spans} nonempty ordinary := by
    have noneReserved : run.any isReserved = false := by simpa using ordinary
    simp [segmentTokens, Segment.ofSpans, Segment.ofMatch, Segment.ideal, noneReserved, nonempty]

theorem gapTokens_eq_readAt (shown : Char → Token) (gap : List Char) :
    gapTokens shown gap = readAt (spanTokens shown) (.start gap) := by
  rw [gapTokens, scalarSpans_eq_scalarsFrom]
  rfl

/-! ## Characters and what they stand for -/

/-- A reserved character stands for something that can be put away, any other for itself. -/
def Shows (shown : Char → Token) (c : Char) : Prop :=
  (isReserved c = true ∧ (shown c).Stashed) ∨ (isReserved c = false ∧ shown c = .single c)

theorem shows_single (c : Char) : Shows .single c := by
  cases reserved : isReserved c with
  | true => exact .inl ⟨reserved, c, reserved, Token.toList_text_single c⟩
  | false => exact .inr ⟨reserved, rfl⟩

namespace Shows

variable {shown other : Char → Token} {c d : Char}

theorem reserved_of_classified (shows : Shows shown c)
    (isClassified : (shown c).tokenClass.isSome) : isReserved c = true := by
  rcases shows with ⟨reserved, -⟩ | ⟨-, itself⟩
  · exact reserved
  · simp [itself] at isClassified

/-- What a character stands for tells the character, unless it is reserved. -/
theorem alike (first : Shows shown c) (second : Shows other d) (same : shown c = other d) :
    AlikeChars c d := by
  have differ {d : Char} {token : Token} (stashed : token.Stashed) (isSingle : token = .single d)
      (ordinary : isReserved d = false) : False := by
    rw [isSingle] at stashed
    obtain ⟨literal, reserved, isText⟩ := stashed
    simp only [Token.toList_text_single, List.cons.injEq, and_true] at isText
    simp [← isText, ordinary] at reserved
  rcases first with ⟨reserved, stashed⟩ | ⟨ordinary, itself⟩
  · rcases second with ⟨otherReserved, -⟩ | ⟨otherOrdinary, otherItself⟩
    · exact .inr ⟨reserved, otherReserved⟩
    · exact (differ stashed (same.trans otherItself) otherOrdinary).elim
  · rcases second with ⟨otherReserved, stashed⟩ | ⟨otherOrdinary, otherItself⟩
    · exact (differ stashed (same.symm.trans itself) ordinary).elim
    · have sameText := congrArg (·.text.toList) ((itself.symm.trans same).trans otherItself)
      simp only [Token.toList_text_single, List.cons.injEq, and_true] at sameText
      exact .inl sameText

end Shows

/-- Two characters that are alike and stand for the same token. -/
def ShowAlike (shown other : Char → Token) (c d : Char) : Prop :=
  AlikeChars c d ∧ shown c = other d

theorem forall₂_showAlike {shown other : Char → Token} {first second : List Char}
    (firstShows : ∀ c ∈ first, Shows shown c) (secondShows : ∀ c ∈ second, Shows other c)
    (same : first.map shown = second.map other) :
    List.Forall₂ (ShowAlike shown other) first second := by
  induction first generalizing second with
  | nil =>
      rw [List.map_nil, eq_comm, List.map_eq_nil_iff] at same
      rw [same]
      exact .nil
  | cons c first ih =>
      cases second with
      | nil => cases same
      | cons d second =>
          rw [List.map_cons, List.map_cons, List.cons.injEq] at same
          refine .cons ⟨?_, same.1⟩ (ih ?_ ?_ same.2)
          · exact (firstShows c List.mem_cons_self).alike (secondShows d List.mem_cons_self) same.1
          · exact fun other member => firstShows other (List.mem_cons_of_mem c member)
          · exact fun other member => secondShows other (List.mem_cons_of_mem d member)

/-! ## What is left of a literal -/

/-- A run with one ordinary character has no others. -/
theorem ordinary_of_mem_runs {text run : List Char} (isRun : run ∈ runs text) {c : Char}
    (member : c ∈ run) (ordinary : isReserved c = false) : ∀ d ∈ run, isReserved d = false := by
  have chain := List.isChain_of_mem_splitBy isRun
  clear isRun
  induction run generalizing c with
  | nil => cases member
  | cons first run ih =>
      cases run with
      | nil => simpa [List.mem_singleton.mp member] using ordinary
      | cons second run =>
          rw [List.isChain_cons_cons] at chain
          obtain ⟨both, later⟩ := chain
          simp only [Bool.and_eq_true, Bool.not_eq_true'] at both
          intro d isMember
          rcases List.mem_cons.mp isMember with rfl | inLater
          · exact both.1
          · exact ih List.mem_cons_self both.2 later d inLater

section

variable {shown : Char → Token} {tokenClass : TokenClass} {literal : List Char}

/-- A run with a quote is one token. -/
theorem tokens_of_quote {run : List Char} (isRun : run ∈ runs literal) (quote : '"' ∈ run) :
    (if run.any isReserved || (literal.any isReserved && run.all isSpace) then run.map shown
      else [.classified tokenClass (String.ofList run)]) =
      [.classified tokenClass (String.ofList run)] := by
  have ordinary := ordinary_of_mem_runs isRun quote rfl
  have noneReserved : run.any isReserved = false := by simpa using ordinary
  have notBlank : run.all isSpace = false := by
    rw [List.all_eq_false]
    exact ⟨'"', quote, by decide⟩
  rw [noneReserved, notBlank]
  simp

/-- A literal that begins with a quote begins with a token. -/
theorem exists_literalTokens_eq_cons (begins : literal.head? = some '"') :
    ∃ run rest, literalTokens shown tokenClass literal =
      .classified tokenClass (String.ofList run) :: rest := by
  have nonempty : literal ≠ [] := by
    rintro rfl
    cases begins
  cases isRuns : runs literal with
  | nil => exact absurd (List.splitBy_eq_nil.mp isRuns) nonempty
  | cons run others =>
      have isRun : run ∈ runs literal := by simp [isRuns]
      have quote : '"' ∈ run := by
        have whole : run ++ others.flatten = literal := by
          have joined : (runs literal).flatten = literal := List.flatten_splitBy _ literal
          rwa [isRuns, List.flatten_cons] at joined
        have someRun : run ≠ [] := List.ne_nil_of_mem_splitBy isRun
        obtain ⟨c, run, rfl⟩ := List.exists_cons_of_ne_nil someRun
        rw [← whole, List.cons_append, List.head?_cons, Option.some_inj] at begins
        simp [begins]
      rw [literalTokens, isRuns, List.flatMap_cons, tokens_of_quote isRun quote]
      exact ⟨run, _, rfl⟩

/-- A literal that ends with a quote ends with a token. -/
theorem exists_literalTokens_eq_append (ends : literal.getLast? = some '"') :
    ∃ run front, literalTokens shown tokenClass literal =
      front ++ [.classified tokenClass (String.ofList run)] := by
  have nonempty : literal ≠ [] := by
    rintro rfl
    cases ends
  have someRuns : runs literal ≠ [] := List.splitBy_ne_nil.mpr nonempty
  obtain ⟨others, run, isRuns⟩ : ∃ others run, runs literal = others ++ [run] :=
    ⟨_, _, (List.dropLast_append_getLast someRuns).symm⟩
  have isRun : run ∈ runs literal := by simp [isRuns]
  have quote : '"' ∈ run := by
    have whole : others.flatten ++ run = literal := by
      have joined : (runs literal).flatten = literal := List.flatten_splitBy _ literal
      rwa [isRuns, List.flatten_append, List.flatten_singleton] at joined
    have someRun : run ≠ [] := List.ne_nil_of_mem_splitBy isRun
    rw [← whole, List.getLast?_append, List.getLast?_eq_some_getLast someRun, Option.some_or,
      Option.some_inj] at ends
    exact ends ▸ List.getLast_mem someRun
  rw [literalTokens, isRuns, List.flatMap_append, List.flatMap_singleton,
    tokens_of_quote isRun quote]
  exact ⟨run, _, rfl⟩

/-- What is left plain of a literal are reserved characters and blanks. -/
theorem mem_literalTokens {token : Token}
    (member : token ∈ literalTokens shown tokenClass literal) :
    token.tokenClass = some tokenClass ∨
      ∃ c ∈ literal, token = shown c ∧ (isReserved c = true ∨ isSpace c = true) := by
  obtain ⟨run, isRun, inTokens⟩ := List.mem_flatMap.mp member
  split at inTokens
  · rename_i plain
    obtain ⟨c, inRun, rfl⟩ := List.mem_map.mp inTokens
    have inLiteral : c ∈ literal := by
      have joined : (runs literal).flatten = literal := List.flatten_splitBy _ literal
      rw [← joined]
      exact List.mem_flatten.mpr ⟨run, isRun, inRun⟩
    refine .inr ⟨c, inLiteral, rfl, ?_⟩
    cases reserved : isReserved c with
    | true => exact .inl rfl
    | false =>
        have ordinary := ordinary_of_mem_runs isRun inRun reserved
        have noneReserved : run.any isReserved = false := by simpa using ordinary
        rw [noneReserved, Bool.false_or, Bool.and_eq_true, List.all_eq_true] at plain
        exact .inr (plain.2 c inRun)
  · rw [List.mem_singleton] at inTokens
    rw [inTokens]
    exact .inl rfl

/-- A stretch of text in which nothing can be found, and which ends a word on either side. -/
structure Walled (block : List Char) : Prop where
  front : ∃ c rest, block = c :: rest ∧ isReserved c = true
  back : ∃ rest c, block = rest ++ [c] ∧ isReserved c = true
  idle : ∀ c ∈ block, isReserved c = true ∨ isSpace c = true

theorem Walled.reserved_of_head? {block : List Char} (walled : Walled block) (rest : List Char) :
    ∀ c ∈ (block ++ rest).head?, isReserved c = true := by
  obtain ⟨c, more, rfl, reserved⟩ := walled.front
  simpa using reserved

theorem Walled.holds_lastOf {block : List Char} (walled : Walled block) (before : Option Char) :
    WordKind.unicode.holds (lastOf before block) = false := by
  obtain ⟨more, c, rfl, reserved⟩ := walled.back
  rw [lastOf_append, lastOf_singleton]
  exact Json.holds_of_isReserved reserved

/-- What stands for a literal that has been put away is such a stretch. -/
theorem walled_of_map_eq {other : Char → Token} {block : List Char}
    (blockShows : ∀ c ∈ block, Shows shown c) (literalShows : ∀ c ∈ literal, Shows other c)
    (begins : literal.head? = some '"') (ends : literal.getLast? = some '"')
    (isBlock : block.map shown = literalTokens other tokenClass literal) : Walled block where
  front := by
    obtain ⟨run, others, isTokens⟩ :
        ∃ run rest, literalTokens other tokenClass literal =
          .classified tokenClass (String.ofList run) :: rest :=
      exists_literalTokens_eq_cons begins
    rw [isTokens, List.map_eq_cons_iff] at isBlock
    obtain ⟨c, rest, rfl, isShown, -⟩ := isBlock
    have shows := blockShows c List.mem_cons_self
    exact ⟨c, rest, rfl, shows.reserved_of_classified (by rw [isShown]; rfl)⟩
  back := by
    obtain ⟨run, others, isTokens⟩ :
        ∃ run front, literalTokens other tokenClass literal =
          front ++ [.classified tokenClass (String.ofList run)] :=
      exists_literalTokens_eq_append ends
    rw [isTokens, List.map_eq_append_iff] at isBlock
    obtain ⟨rest, final, rfl, -, isFinal⟩ := isBlock
    obtain ⟨c, rfl, isShown⟩ := List.map_eq_singleton_iff.mp isFinal
    have shows := blockShows c (by simp)
    exact ⟨rest, c, rfl, shows.reserved_of_classified (by rw [isShown]; rfl)⟩
  idle := by
    intro c member
    have shows := blockShows c member
    have isToken : shown c ∈ literalTokens other tokenClass literal :=
      isBlock ▸ List.mem_map_of_mem member
    rcases mem_literalTokens isToken with isClassified | ⟨d, inLiteral, same, idle⟩
    · exact .inl (shows.reserved_of_classified (by rw [isClassified]; rfl))
    · rcases shows.alike (literalShows d inLiteral) same with rfl | ⟨reserved, -⟩
      · exact idle
      · exact .inl reserved

end

/-! ## The first pass -/

/-- The frame is what the tokens are before the gaps have been scanned. -/
theorem leavesPlain_frame {shown : Char → Token}
    (itself : ∀ c, isReserved c = false → shown c = .single c) (parts : Parts) :
    Token.LeavesPlain (parts.frame shown) (parts.tokens shown) := by
  have inGap (gap : List Char) : Token.LeavesPlain (gap.map shown) (gapTokens shown gap) := by
    have sameReading : gapTokens shown gap = segmentTokens shown 0 gap (scalarSpans gap) := by
      rw [gapTokens_eq_readAt, scalarSpans_eq_scalarsFrom]
      exact (reads_spanTokens shown).readAt_alike (reads_segmentTokens shown) .inl
        (fun same => congrArg shown same) (List.forall₂_same.mpr fun _ _ => rfl)
    have leaves := Segment.leavesPlain_flatMap_ideal itself
      (Segment.ordinary_of_mem_ofSpans 0 gap (scalarSpans gap))
    rw [Segment.flatMap_text_ofSpans] at leaves
    rw [sameReading]
    exact leaves
  induction parts with
  | last gap => exact inGap gap
  | next gap tokenClass literal rest ih =>
      exact (inGap gap).append ((Token.LeavesPlain.refl _).append ih)

/-! ## The second pass -/

section

variable {shown other : Char → Token}
  {read : Nat → List Char → List (Span × TokenClass) → List Token} (reads : Reads shown read)
include reads

/-- A stretch that stands for a gap reads as the gap does by itself. -/
theorem readAt_gap {stretch gap tail : List Char} (stretchShows : ∀ c ∈ stretch, Shows shown c)
    (gapShows : ∀ c ∈ gap, Shows other c) (isGap : stretch.map shown = gap.map other)
    (ends : ∀ c ∈ tail.head?, isReserved c = true) {before : Option Char}
    (outside : WordKind.unicode.holds before = false) (offset : Nat) :
    ∃ behind : Cursor, behind.rest = tail ∧
      readAt read ⟨before, stretch ++ tail, offset⟩ =
        gapTokens other gap ++ readAt read behind := by
  have related := forall₂_showAlike stretchShows gapShows isGap
  have excerpt : Excerpt (ShowAlike shown other) tail ⟨before, stretch ++ tail, offset⟩
      (.start gap) := ⟨⟨stretch, rfl, related⟩, outside⟩
  rw [gapTokens_eq_readAt]
  exact reads.readAt_excerpt (reads_spanTokens other) (fun both => both.1) (fun both => both.2)
    ends excerpt

/-- What the second pass reads in a text that stands for the parts, with the literals put away, are
the tokens of the parts.  In front of the text there is no part of a word. -/
theorem readAt_frame {parts : Parts} (wellFormed : parts.WellFormed)
    (partsShow : ∀ c ∈ parts.text, Shows other c) {text : List Char}
    (textShows : ∀ c ∈ text, Shows shown c) (isFrame : text.map shown = parts.frame other)
    {before : Option Char} (outside : WordKind.unicode.holds before = false) (offset : Nat) :
    readAt read ⟨before, text, offset⟩ = parts.tokens other := by
  induction parts generalizing text before offset with
  | last gap =>
      have atEnd : ∀ c ∈ ([] : List Char).head?, isReserved c = true := by simp
      obtain ⟨behind, isBehind, both⟩ :=
        readAt_gap reads textShows partsShow isFrame atEnd outside offset
      rw [List.append_nil] at both
      rw [both, reads.readAt_end isBehind, List.append_nil, Parts.tokens, Parts.text]
  | next gap tokenClass literal rest ih =>
      obtain ⟨-, begins, ends, restFormed⟩ := wellFormed
      obtain ⟨stretch, behindGap, rfl, isGap, isBehindGap⟩ := List.map_eq_append_iff.mp isFrame
      obtain ⟨block, last, rfl, isBlock, isLast⟩ := List.map_eq_append_iff.mp isBehindGap
      simp only [Parts.text, List.mem_append] at partsShow textShows
      -- the gap ends where what is left of the literal begins, and that is passed over as a whole
      have walled : Walled block :=
        walled_of_map_eq (fun c member => textShows c (.inr (.inl member)))
          (fun c member => partsShow c (.inr (.inl member))) begins ends isBlock
      obtain ⟨⟨wallBefore, wallRest, wallOffset⟩, isWall, both⟩ :=
        readAt_gap reads (fun c member => textShows c (.inl member))
          (fun c member => partsShow c (.inl member)) isGap (walled.reserved_of_head? last)
          outside offset
      simp only at isWall
      have later := ih restFormed (fun c member => partsShow c (.inr (.inr member)))
        (fun c member => textShows c (.inr (.inr member))) isLast
        (walled.holds_lastOf wallBefore) (wallOffset + block.length)
      rw [both, isWall, reads.readAt_idle walled.idle, isBlock, later, Parts.tokens]

end

end Tint.Structured
