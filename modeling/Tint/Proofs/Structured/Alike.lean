import Tint.Proofs.Structured.Frame

/-!
# The scan of texts that are alike

Where a text is cut does not depend on which reserved characters it has: they are no quotes, no
backslashes and no line feeds, and what comes behind a literal is no colon either.  So a working
text is cut where the text that it stands for is, and the tokens of the parts are the same.
-/

namespace Tint.Structured

open Tint.Regex Tint.Unicode

theorem countP_isReserved_eq {text other : List Char} (alike : AlikeTexts text other) :
    text.countP isReserved = other.countP isReserved := by
  induction alike with
  | nil => rfl
  | cons head _ ih => rw [List.countP_cons, List.countP_cons, head.isReserved_eq, ih]

/-! ## Where a text is cut -/

/-- One character cannot be told from the other by asking for an ordinary one. -/
theorem eq_iff_of_alike {c d symbol : Char} (alike : AlikeChars c d)
    (ordinary : isReserved symbol = false) : c = symbol ↔ d = symbol := by
  rcases alike with rfl | ⟨reserved, otherReserved⟩
  · rfl
  · constructor <;> rintro rfl
    · simp [ordinary] at reserved
    · simp [ordinary] at otherReserved

theorem closing?_alike {text other : List Char} (alike : AlikeTexts text other) :
    closing? text = closing? other := by
  fun_induction closing? text generalizing other with
  | case1 =>
      cases alike
      rfl
  | case2 rest =>
      cases alike with
      | cons head _ => rw [(eq_iff_of_alike head rfl).mp rfl, closing?_quote]
  | case3 notQuote =>
      cases alike with
      | cons head tail =>
          cases tail
          rw [(eq_iff_of_alike head rfl).mp rfl]
          rfl
  | case4 rest notQuote =>
      cases alike with
      | cons head tail =>
          cases tail with
          | cons next _ =>
              rw [(eq_iff_of_alike head rfl).mp rfl, (eq_iff_of_alike next rfl).mp rfl,
                closing?_escaped, if_pos rfl]
  | case5 escaped rest notFeed notQuote ih =>
      cases alike with
      | cons head tail =>
          cases tail with
          | cons next tail =>
              rw [(eq_iff_of_alike head rfl).mp rfl, closing?_escaped,
                if_neg ((eq_iff_of_alike next rfl).not.mp notFeed), ih tail]
  | case6 c rest notQuote notBackslash ih =>
      cases alike with
      | cons head tail =>
          rw [closing?_plain ((eq_iff_of_alike head rfl).not.mp notQuote)
            ((eq_iff_of_alike head rfl).not.mp notBackslash), ih tail]

theorem isSpace_of_isReserved {c : Char} (reserved : isReserved c = true) : isSpace c = false := by
  have code : 0xF0000 ≤ c.toNat := by simpa [isReserved] using reserved
  rw [isSpace, if_neg (by omega)]
  simp only [Bool.or_eq_false_iff, beq_eq_false_iff_ne, Bool.and_eq_false_iff,
    decide_eq_false_iff_not]
  omega

theorem isKey_alike {rest other : List Char} (alike : AlikeTexts rest other) :
    isKey rest = isKey other := by
  induction alike with
  | nil => rfl
  | @cons c d rest other head _ ih =>
      have sameColon : (c = ':') = (d = ':') := propext (eq_iff_of_alike head rfl)
      have sameSpace : isSpace c = isSpace d := by
        rcases head with rfl | ⟨reserved, otherReserved⟩
        · rfl
        · rw [isSpace_of_isReserved reserved, isSpace_of_isReserved otherReserved]
      rw [isKey, isKey] at ih ⊢
      rw [List.dropWhile_cons, List.dropWhile_cons, sameSpace]
      split
      · exact ih
      · simp [sameColon]

/-- Parts of texts that are cut at the same places, where each character is related to the one in
its place. -/
inductive Parts.Related (r : Char → Char → Prop) : Parts → Parts → Prop where
  | last {gap otherGap : List Char} (gaps : List.Forall₂ r gap otherGap) :
      Related r (last gap) (last otherGap)
  | next {gap otherGap literal otherLiteral : List Char} {rest otherRest : Parts}
      (tokenClass : TokenClass) (gaps : List.Forall₂ r gap otherGap)
      (literals : List.Forall₂ r literal otherLiteral) (parts : Related r rest otherRest) :
      Related r (next gap tokenClass literal rest) (next otherGap tokenClass otherLiteral otherRest)

theorem Parts.Related.push {r : Char → Char → Prop} {parts other : Parts}
    (related : Parts.Related r parts other) {c d : Char} (head : r c d) :
    Parts.Related r (parts.push c) (other.push d) := by
  cases related with
  | last gaps => exact .last (.cons head gaps)
  | next tokenClass gaps literals parts => exact .next tokenClass (.cons head gaps) literals parts

theorem related_cut {r : Char → Char → Prop} (alike : ∀ {c d}, r c d → AlikeChars c d)
    {text other : List Char} (related : List.Forall₂ r text other) :
    Parts.Related r (cut text) (cut other) := by
  induction text using cut_induction generalizing other with
  | nil =>
      cases related
      rw [cut]
      exact .last .nil
  | literal rest length closes ih =>
      cases related with
      | @cons c d _ otherRest head tail =>
          have isQuote : d = '"' := (eq_iff_of_alike (alike head) rfl).mp rfl
          subst isQuote
          have behind := List.forall₂_drop length tail
          have sameKey := isKey_alike (behind.imp fun _ _ => alike)
          have otherCloses : closing? otherRest = some length :=
            (closing?_alike (tail.imp fun _ _ => alike)).symm.trans closes
          rw [cut_literal closes, cut_literal otherCloses, sameKey]
          exact .next _ .nil (.cons head (List.forall₂_take length tail)) (ih behind)
  | skip c rest opens ih =>
      cases related with
      | @cons _ d _ otherRest head tail =>
          have otherOpens : d = '"' → closing? otherRest = none := by
            intro isQuote
            rw [← closing?_alike (tail.imp fun _ _ => alike)]
            exact opens ((eq_iff_of_alike (alike head) rfl).mpr isQuote)
          rw [cut_skip opens, cut_skip otherOpens]
          exact (ih tail).push head

/-! ## Tokens -/

section

variable {shown other : Char → Token}

theorem flatMap_ideal_pieces_alike (tokenClass : TokenClass) {run : List Char}
    (runShown : ∀ c ∈ run, shown c = other c) {text otherText : List Char}
    (related : List.Forall₂ (ShowAlike shown other) text otherText) :
    (Segment.pieces tokenClass run text).flatMap (Segment.ideal shown) =
      (Segment.pieces tokenClass run otherText).flatMap (Segment.ideal other) := by
  have piece {run : List Char} (runShown : ∀ c ∈ run, shown c = other c) :
      (Segment.piece tokenClass run.reverse).ideal shown =
        (Segment.piece tokenClass run.reverse).ideal other :=
    Segment.ideal_congr fun c member => runShown c (by simpa using member)
  induction related generalizing run with
  | nil => simp [Segment.pieces, piece runShown]
  | @cons c d text otherText head _ ih =>
      obtain ⟨alike, same⟩ := head
      rw [Segment.pieces, Segment.pieces, ← alike.isReserved_eq]
      cases reserved : isReserved c with
      | true =>
          rw [if_pos rfl, if_pos rfl, List.flatMap_cons, List.flatMap_cons, List.flatMap_cons,
            List.flatMap_cons, piece runShown, ih (by simp)]
          simp [Segment.ideal, same]
      | false =>
          have isSame : c = d := alike.resolve_right (by simp [reserved])
          subst isSame
          rw [if_neg (by simp), if_neg (by simp)]
          exact ih fun c member => by
            rcases List.mem_cons.mp member with rfl | inRun
            · exact same
            · exact runShown c inRun

theorem literalTokens_alike (tokenClass : TokenClass) {literal otherLiteral : List Char}
    (related : List.Forall₂ (ShowAlike shown other) literal otherLiteral) :
    literalTokens shown tokenClass literal = literalTokens other tokenClass otherLiteral := by
  have alike : AlikeTexts literal otherLiteral := related.imp fun _ _ both => both.1
  have sameReserved : literal.any isReserved = otherLiteral.any isReserved := by
    clear related
    induction alike with
    | nil => rfl
    | cons head _ ih => rw [List.any_cons, List.any_cons, head.isReserved_eq, ih]
  rw [← flatMap_ideal_ofMatch, ← flatMap_ideal_ofMatch, Segment.ofMatch, Segment.ofMatch,
    ← sameReserved]
  cases anyReserved : literal.any isReserved with
  | true =>
      rw [if_pos rfl, if_pos rfl]
      exact flatMap_ideal_pieces_alike tokenClass (by simp) related
  | false =>
      have same : literal = otherLiteral := by
        clear related sameReserved
        induction alike with
        | nil => rfl
        | cons head _ ih =>
            rw [List.any_cons, Bool.or_eq_false_iff] at anyReserved
            rw [head.resolve_right (by simp [anyReserved.1]), ih anyReserved.2]
      rw [same]
      rfl

/-- Parts that show alike have the same tokens. -/
theorem Parts.Related.tokens_eq {parts otherParts : Parts}
    (related : Parts.Related (ShowAlike shown other) parts otherParts) :
    parts.tokens shown = otherParts.tokens other := by
  have sameGap {gap otherGap : List Char}
      (gaps : List.Forall₂ (ShowAlike shown other) gap otherGap) :
      gapTokens shown gap = gapTokens other otherGap := by
    rw [gapTokens_eq_readAt, gapTokens_eq_readAt]
    exact (reads_spanTokens shown).readAt_alike (reads_spanTokens other) (fun both => both.1)
      (fun both => both.2) gaps
  induction related with
  | last gaps => exact sameGap gaps
  | next tokenClass gaps literals _ ih =>
      rw [Parts.tokens, Parts.tokens, sameGap gaps, literalTokens_alike tokenClass literals, ih]

end

end Tint.Structured
