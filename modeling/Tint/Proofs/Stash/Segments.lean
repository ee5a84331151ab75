import Tint.Proofs.Stash.Slots

/-!
# A pass as a list of segments

What a pass does with a working text is settled before it begins.  The spans and the placeholders in
them cut the text into segments, each of which is to be kept as it is or to be put away as a whole,
and the pass goes from one to the next.  Only whether a placeholder is left depends on what has
happened before.

Which segment holds a character of a span can be read off the match: the run of ordinary characters
around it.
-/

namespace Tint

open Tint.Regex Tint.Unicode

/-- A part of a working text and what is to be done with it. -/
inductive Segment where
  | keep (text : List Char)
  | claim (tokenClass : TokenClass) (run : List Char)

namespace Segment

/-- The text of a segment. -/
def text : Segment → List Char
  | keep text => text
  | claim _ run => run

/-- A run between the placeholders of a match; blanks alone are kept. -/
def piece (tokenClass : TokenClass) (run : List Char) : Segment :=
  if run.all isSpace then keep run else claim tokenClass run

/-- The segments of a match with placeholders in it.  `run` holds the characters since the last one,
last first. -/
def pieces (tokenClass : TokenClass) (run : List Char) : List Char → List Segment
  | [] => [piece tokenClass run.reverse]
  | c :: rest =>
      if isReserved c then piece tokenClass run.reverse :: keep [c] :: pieces tokenClass [] rest
      else pieces tokenClass (c :: run) rest

/-- The segments of a match. -/
def ofMatch (tokenClass : TokenClass) (matched : List Char) : List Segment :=
  if matched.any isReserved then pieces tokenClass [] matched else [claim tokenClass matched]

/-- The segments of a text with spans in it.  `offset` counts the characters before the text. -/
def ofSpans (offset : Nat) (text : List Char) : List (Span × TokenClass) → List Segment
  | [] => [keep text]
  | (span, tokenClass) :: spans =>
      let (before, text) := text.splitAt (span.start - offset)
      let (matched, text) := text.splitAt (span.stop - span.start)
      keep before :: (ofMatch tokenClass matched ++ ofSpans span.stop text spans)

/-- Puts text in front of the first segment, which is kept. -/
def keepFront (front : List Char) : List Segment → List Segment
  | keep kept :: segments => keep (front ++ kept) :: segments
  | segments => keep front :: segments

/-- Only ordinary characters are to be put away. -/
def Ordinary : Segment → Prop
  | keep _ => True
  | claim _ run => ∀ c ∈ run, isReserved c = false

/-! ## The segments are the text -/

@[simp] theorem text_keep (kept : List Char) : (keep kept).text = kept := rfl

@[simp] theorem text_claim (tokenClass : TokenClass) (run : List Char) :
    (claim tokenClass run).text = run := rfl

@[simp] theorem text_piece (tokenClass : TokenClass) (run : List Char) :
    (piece tokenClass run).text = run := by
  rw [piece]
  split <;> rfl

@[simp] theorem flatMap_text_pieces (tokenClass : TokenClass) (run matched : List Char) :
    (pieces tokenClass run matched).flatMap text = run.reverse ++ matched := by
  induction matched generalizing run with
  | nil => simp [pieces]
  | cons c rest ih =>
      rw [pieces]
      split
      · simp [ih]
      · simp [ih]

@[simp] theorem flatMap_text_ofMatch (tokenClass : TokenClass) (matched : List Char) :
    (ofMatch tokenClass matched).flatMap text = matched := by
  rw [ofMatch]
  split
  · simp
  · simp

@[simp] theorem flatMap_text_ofSpans (offset : Nat) (source : List Char)
    (spans : List (Span × TokenClass)) :
    (ofSpans offset source spans).flatMap text = source := by
  induction spans generalizing offset source with
  | nil => simp [ofSpans]
  | cons entry spans ih =>
      rcases entry with ⟨span, tokenClass⟩
      simp only [ofSpans, List.splitAt_eq, List.flatMap_cons, List.flatMap_append,
        flatMap_text_ofMatch, ih, text_keep, List.take_append_drop]

/-! ## Text in front of the spans -/

@[simp] theorem keepFront_keepFront (first second : List Char) (segments : List Segment) :
    keepFront first (keepFront second segments) = keepFront (first ++ second) segments := by
  cases segments with
  | nil => rfl
  | cons segment segments => cases segment <;> simp [keepFront]

/-- A character in front of all spans joins what is kept there. -/
theorem ofSpans_skip {offset : Nat} {c : Char} {text : List Char}
    {spans : List (Span × TokenClass)} (behind : ∀ entry ∈ spans, offset + 1 ≤ entry.1.start) :
    ofSpans offset (c :: text) spans = keepFront [c] (ofSpans (offset + 1) text spans) := by
  cases spans with
  | nil => rfl
  | cons entry spans =>
      have start := behind entry List.mem_cons_self
      have before : entry.1.start - offset = entry.1.start - (offset + 1) + 1 := by omega
      simp [ofSpans, keepFront, before]

/-! ## What is put away is ordinary -/

theorem ordinary_piece (tokenClass : TokenClass) {run : List Char}
    (ordinary : ∀ c ∈ run, isReserved c = false) : (piece tokenClass run).Ordinary := by
  rw [piece]
  split
  · trivial
  · exact ordinary

theorem ordinary_of_mem_pieces {tokenClass : TokenClass} {run matched : List Char}
    (ordinary : ∀ c ∈ run, isReserved c = false) :
    ∀ segment ∈ pieces tokenClass run matched, segment.Ordinary := by
  have reversed {run : List Char} (ordinary : ∀ c ∈ run, isReserved c = false) :
      ∀ c ∈ run.reverse, isReserved c = false := by
    simpa using ordinary
  induction matched generalizing run with
  | nil =>
      intro segment member
      rw [pieces, List.mem_singleton] at member
      rw [member]
      exact ordinary_piece tokenClass (reversed ordinary)
  | cons c rest ih =>
      rw [pieces]
      split
      · intro segment member
        rcases List.mem_cons.mp member with rfl | member
        · exact ordinary_piece tokenClass (reversed ordinary)
        · rcases List.mem_cons.mp member with rfl | member
          · trivial
          · exact ih (by simp) segment member
      · rename_i notReserved
        exact ih (by simpa [notReserved] using ordinary)

theorem ordinary_of_mem_ofMatch {tokenClass : TokenClass} {matched : List Char} :
    ∀ segment ∈ ofMatch tokenClass matched, segment.Ordinary := by
  rw [ofMatch]
  split
  · exact ordinary_of_mem_pieces (by simp)
  · rename_i noneReserved
    intro segment member
    rw [List.mem_singleton] at member
    rw [member]
    simpa [Ordinary] using noneReserved

theorem ordinary_of_mem_ofSpans (offset : Nat) (source : List Char)
    (spans : List (Span × TokenClass)) :
    ∀ segment ∈ ofSpans offset source spans, segment.Ordinary := by
  induction spans generalizing offset source with
  | nil =>
      intro segment member
      rw [ofSpans, List.mem_singleton] at member
      rw [member]
      trivial
  | cons entry spans ih =>
      intro segment member
      simp only [ofSpans, List.splitAt_eq, List.mem_cons, List.mem_append] at member
      rcases member with rfl | inMatch | later
      · trivial
      · exact ordinary_of_mem_ofMatch segment inMatch
      · exact ih _ _ segment later

end Segment

/-! ## A pass goes through the segments -/

namespace Draft

section Keep

variable (draft : Draft) (kept : List Char)

@[simp] theorem stash_keepAll : (draft.keepAll kept).stash = draft.stash := rfl

@[simp] theorem text_keepAll : (draft.keepAll kept).text = draft.text ++ kept := by
  simp [text, keepAll]

@[simp] theorem keepAll_nil : draft.keepAll [] = draft := rfl

@[simp] theorem keepAll_keepAll (later : List Char) :
    (draft.keepAll kept).keepAll later = draft.keepAll (kept ++ later) := by
  simp [keepAll]

end Keep

section Run

variable {draft : Draft} {tokenClass : TokenClass} {run : List Char}

@[simp] theorem classifyRun_nil : draft.classifyRun tokenClass [] = draft := rfl

/-- A run is put away if there is a slot for it. -/
theorem classifyRun_of_free {placeholder : Char} (free : draft.stash.next? = some placeholder)
    (nonempty : run ≠ []) :
    draft.classifyRun tokenClass run =
      ⟨draft.stash.push (.classified tokenClass (String.ofList run)),
        placeholder :: draft.written⟩ := by
  simp [classifyRun, free, nonempty]

/-- A run stays if there is none. -/
theorem classifyRun_of_full (full : draft.stash.next? = none) :
    draft.classifyRun tokenClass run = draft.keepAll run := by
  by_cases empty : run = []
  · subst empty
    rfl
  · simp [classifyRun, keepAll, full, empty]

end Run

/-- Deals with one segment. -/
def write (draft : Draft) : Segment → Draft
  | .keep text => draft.keepAll text
  | .claim tokenClass run => draft.classifyRun tokenClass run

theorem classifyPiece_eq_write (draft : Draft) (tokenClass : TokenClass) (run : List Char) :
    draft.classifyPiece tokenClass run = draft.write (.piece tokenClass run) := by
  rw [classifyPiece, Segment.piece]
  split <;> rfl

theorem classifyPieces_eq_foldl (draft : Draft) (tokenClass : TokenClass)
    (run matched : List Char) :
    draft.classifyPieces tokenClass run matched =
      (Segment.pieces tokenClass run matched).foldl write draft := by
  induction matched generalizing draft run with
  | nil => simp [classifyPieces, Segment.pieces, classifyPiece_eq_write]
  | cons c rest ih =>
      rw [classifyPieces, Segment.pieces]
      split
      · rw [ih, classifyPiece_eq_write]
        rfl
      · exact ih draft (c :: run)

theorem classify_eq_foldl (draft : Draft) (tokenClass : TokenClass) (matched : List Char) :
    draft.classify tokenClass matched =
      (Segment.ofMatch tokenClass matched).foldl write draft := by
  rw [classify, Segment.ofMatch]
  split
  · exact draft.classifyPieces_eq_foldl tokenClass [] matched
  · rfl

theorem classifySpans_eq_foldl (draft : Draft) (offset : Nat) (text : List Char)
    (spans : List (Span × TokenClass)) :
    draft.classifySpans offset text spans =
      (Segment.ofSpans offset text spans).foldl write draft := by
  induction spans generalizing draft offset text with
  | nil => rfl
  | cons entry spans ih =>
      rcases entry with ⟨span, tokenClass⟩
      simp only [classifySpans, Segment.ofSpans, List.splitAt_eq, List.foldl_cons,
        List.foldl_append, classify_eq_foldl, ih]
      rfl

end Draft

end Tint
