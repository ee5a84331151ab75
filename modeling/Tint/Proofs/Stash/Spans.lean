import Tint.Proofs.Structured.Literals

/-!
# A pass, span by span

What a pass does, said of its spans alone.  The text outside of the spans stays as it is.  Inside of
a span the placeholders stay as well, and each run between them, as long as it can be, gives way to
the placeholder of the next slot, which then holds the run.  Blanks next to a placeholder stay too,
and so does every run once no slot is left.  The slots that were in use before hold what they held,
so that with every placeholder replaced by what it holds, the text is the same as before.
-/

namespace Tint

open Tint.Regex Tint.Unicode
open Tint.Structured (runs runs_of_ordinary runs_append_reserved)

namespace Segment

/-- What is to be done with a run of a match.  A placeholder stays, and so do blanks in a match that
has placeholders. -/
def ofRun (tokenClass : TokenClass) (matched run : List Char) : Segment :=
  if run.any isReserved || (matched.any isReserved && run.all isSpace) then keep run
  else claim tokenClass run

/-- What is to be done with a text from `offset` on: to keep what is between the spans, and to go
through the runs of each span. -/
def planned (text : List Char) (offset : Nat) : List (Span × TokenClass) → List Segment
  | [] => [keep (text.drop offset)]
  | (span, tokenClass) :: spans =>
      keep (Span.slice ⟨offset, span.start⟩ text) ::
        ((runs (span.slice text)).map (ofRun tokenClass (span.slice text)) ++
          planned text span.stop spans)

end Segment

/-- What stands for segments when the slots from `slot` on are free.  A run to be put away gives way
to the placeholder of the next slot, which holds it in the end, or stays if there is no such slot.
-/
inductive Writes (stash : Stash) : (slot : Nat) → List Segment → List Char → Prop where
  | nil (slot : Nat) : Writes stash slot [] []
  | keep (kept : List Char) {slot : Nat} {segments : List Segment} {text : List Char}
      (rest : Writes stash slot segments text) :
      Writes stash slot (.keep kept :: segments) (kept ++ text)
  | put {placeholder : Char} {tokenClass : TokenClass} {run : List Char} {slot : Nat}
      {segments : List Segment} {text : List Char} (free : slotChar? slot = some placeholder)
      (held : stash.tokens[slot]? = some (.classified tokenClass (String.ofList run)))
      (rest : Writes stash (slot + 1) segments text) :
      Writes stash slot (.claim tokenClass run :: segments) (placeholder :: text)
  | leave (tokenClass : TokenClass) (run : List Char) {slot : Nat} {segments : List Segment}
      {text : List Char} (full : slotChar? slot = none) (rest : Writes stash slot segments text) :
      Writes stash slot (.claim tokenClass run :: segments) (run ++ text)

/-! ## The segments of a pass -/

namespace Segment

/-- Whether a segment is there for no text at all. -/
def isIdle : Segment → Bool
  | keep text => text.isEmpty
  | claim _ _ => false

@[simp] theorem isIdle_keep (kept : List Char) : (keep kept).isIdle = kept.isEmpty := rfl

@[simp] theorem isIdle_claim (tokenClass : TokenClass) (run : List Char) :
    (claim tokenClass run).isIdle = false := rfl

theorem isIdle_ofRun (tokenClass : TokenClass) (matched : List Char) {run : List Char}
    (nonempty : run ≠ []) : (ofRun tokenClass matched run).isIdle = false := by
  rw [ofRun]
  split <;> simp [nonempty]

theorem ofRun_of_ordinary (tokenClass : TokenClass) {matched run : List Char}
    (mixed : matched.any isReserved = true) (ordinary : ∀ c ∈ run, isReserved c = false) :
    ofRun tokenClass matched run = piece tokenClass run := by
  have noneReserved : run.any isReserved = false := by simpa using ordinary
  rw [ofRun, piece, noneReserved, mixed, Bool.false_or, Bool.true_and]

theorem filter_piece (tokenClass : TokenClass) {matched run : List Char}
    (mixed : matched.any isReserved = true) (ordinary : ∀ c ∈ run, isReserved c = false) :
    [piece tokenClass run].filter (!·.isIdle) =
      (runs run).map (ofRun tokenClass matched) := by
  by_cases empty : run = []
  · subst empty
    rfl
  · rw [runs_of_ordinary empty ordinary, List.map_singleton,
      ofRun_of_ordinary tokenClass mixed ordinary, piece]
    split <;> simp [empty]

/-- The pieces of a match with placeholders are its runs, but for those that are there for no text.
-/
theorem filter_pieces (tokenClass : TokenClass) {matched : List Char}
    (mixed : matched.any isReserved = true) {run : List Char}
    (ordinary : ∀ c ∈ run, isReserved c = false) (text : List Char) :
    (pieces tokenClass run text).filter (!·.isIdle) =
      (runs (run.reverse ++ text)).map (ofRun tokenClass matched) := by
  induction text generalizing run with
  | nil =>
      rw [pieces, List.append_nil]
      exact filter_piece tokenClass mixed (by simpa using ordinary)
  | cons c text ih =>
      rw [pieces]
      cases reserved : isReserved c with
      | true =>
          have reversed : ∀ c ∈ run.reverse, isReserved c = false := by simpa using ordinary
          have front := filter_piece tokenClass mixed reversed
          have itself : ofRun tokenClass matched [c] = keep [c] := by simp [ofRun, reserved]
          rw [if_pos rfl, runs_append_reserved reserved, List.map_append, List.map_cons, itself,
            ← front, ← List.singleton_append, List.filter_append]
          simp [ih]
      | false =>
          rw [if_neg (by simp), ih (by simpa [reserved] using ordinary)]
          simp

theorem filter_ofMatch (tokenClass : TokenClass) {matched : List Char} (nonempty : matched ≠ []) :
    (ofMatch tokenClass matched).filter (!·.isIdle) =
      (runs matched).map (ofRun tokenClass matched) := by
  rw [ofMatch]
  cases mixed : matched.any isReserved with
  | true =>
      rw [if_pos rfl]
      exact filter_pieces tokenClass mixed (by simp) matched
  | false =>
      rw [if_neg (by simp), runs_of_ordinary nonempty (by simpa using mixed), List.map_singleton,
        ofRun, mixed]
      rfl

/-- The pass goes through the segments that are planned for its spans. -/
theorem filter_ofSpans {text : List Char} {spans : List (Span × TokenClass)} {offset : Nat}
    (ordered : Span.Ordered text (spans.map (·.1)))
    (behind : ∀ entry ∈ spans, offset ≤ entry.1.start) :
    (ofSpans offset (text.drop offset) spans).filter (!·.isIdle) =
      (planned text offset spans).filter (!·.isIdle) := by
  induction spans generalizing offset with
  | nil => rfl
  | cons entry spans ih =>
      obtain ⟨span, tokenClass⟩ := entry
      have start_le : offset ≤ span.start := behind _ List.mem_cons_self
      have nonempty : span.start < span.stop := ordered.nonempty span (by simp)
      have stop_le : span.stop ≤ text.length := ordered.stop_le span (by simp)
      have someMatch : span.slice text ≠ [] := by
        rw [← List.length_pos_iff, Span.slice, List.length_take, List.length_drop]
        omega
      have later : ∀ other ∈ spans, span.stop ≤ other.1.start := fun other member =>
        ordered.stop_le_start other.1 (List.mem_map_of_mem member)
      have allShow : ∀ segment ∈ (runs (span.slice text)).map (ofRun tokenClass (span.slice text)),
          (!segment.isIdle) = true := by
        intro segment member
        obtain ⟨run, isRun, rfl⟩ := List.mem_map.mp member
        rw [isIdle_ofRun _ _ (List.ne_nil_of_mem_splitBy isRun), Bool.not_false]
      simp only [ofSpans, planned, Span.splitAt_front text start_le,
        span.splitAt_drop text nonempty.le]
      rw [List.filter_cons, List.filter_cons, List.filter_append, List.filter_append,
        filter_ofMatch tokenClass someMatch, ih ordered.tail later, List.filter_eq_self.mpr allShow]

theorem flatMap_text_filter (segments : List Segment) :
    (segments.filter (!·.isIdle)).flatMap text = segments.flatMap text := by
  induction segments with
  | nil => rfl
  | cons segment segments ih =>
      rw [List.filter_cons, List.flatMap_cons]
      cases segment with
      | keep kept => by_cases empty : kept = [] <;> simp [empty, ih]
      | claim tokenClass run => simp [ih]

theorem countP_isClaim_filter (segments : List Segment) :
    (segments.filter (!·.isIdle)).countP isClaim = segments.countP isClaim := by
  rw [List.countP_filter]
  refine List.countP_congr fun segment _ => ?_
  cases segment <;> simp [isClaim]

end Segment

namespace Writes

variable {stash : Stash} {slot : Nat} {segments : List Segment} {text : List Char}

/-- Segments that are there for no text can be left out. -/
theorem filter (writes : Writes stash slot segments text) :
    Writes stash slot (segments.filter (!·.isIdle)) text := by
  induction writes with
  | nil slot => exact .nil slot
  | keep kept rest ih =>
      by_cases empty : kept = []
      · subst empty
        exact ih
      · rw [List.filter_cons_of_pos (by simpa using empty)]
        exact .keep kept ih
  | put free held rest ih => exact .put free held ih
  | leave tokenClass run full rest ih => exact .leave tokenClass run full ih

/-- Segments that are there for no text can be put in. -/
theorem of_filter (writes : Writes stash slot (segments.filter (!·.isIdle)) text) :
    Writes stash slot segments text := by
  induction segments generalizing slot text with
  | nil => exact writes
  | cons segment segments ih =>
      cases idle : segment.isIdle with
      | true =>
          rw [List.filter_cons_of_neg (by simp [idle])] at writes
          cases segment with
          | keep kept =>
              obtain rfl : kept = [] := by simpa using idle
              exact .keep [] (ih writes)
          | claim tokenClass run => simp at idle
      | false =>
          rw [List.filter_cons_of_pos (by simp [idle])] at writes
          cases writes with
          | keep kept rest => exact .keep kept (ih rest)
          | put free held rest => exact .put free held (ih rest)
          | leave tokenClass run full rest => exact .leave tokenClass run full (ih rest)

/-- The placeholders of the slots that were in use before are the same, in the same order. -/
theorem filter_slots (writes : Writes stash slot segments text)
    (ordinary : ∀ segment ∈ segments, segment.Ordinary) {used : Nat} (fresh : used ≤ slot) :
    (text.filterMap slotOf?).filter (· < used) =
      ((segments.flatMap Segment.text).filterMap slotOf?).filter (· < used) := by
  induction writes with
  | nil => rfl
  | keep kept rest ih =>
      have later := ih (fun other member => ordinary other (List.mem_cons_of_mem _ member)) fresh
      simp [later]
  | @put placeholder tokenClass run slot segments text free held rest ih =>
      have later := ih (fun other member => ordinary other (List.mem_cons_of_mem _ member))
        (fresh.trans (Nat.le_succ slot))
      have isOrdinary : ∀ c ∈ run, isReserved c = false := ordinary _ List.mem_cons_self
      have notUsed : ¬slot < used := Nat.not_lt.mpr fresh
      simp [slotOf?_slotChar? free, filterMap_slotOf?_of_ordinary isOrdinary, notUsed, later]
  | leave tokenClass run full rest ih =>
      have later := ih (fun other member => ordinary other (List.mem_cons_of_mem _ member)) fresh
      simp [later]

/-- What is written stands for the same text as the segments did, if nothing in them has come to
stand for another token. -/
theorem chars_eq {old : Stash} (writes : Writes stash slot segments text)
    (ordinary : ∀ segment ∈ segments, segment.Ordinary)
    (same : ∀ c ∈ segments.flatMap Segment.text, stash.expand c = old.expand c) :
    Token.chars (text.map stash.expand) =
      Token.chars ((segments.flatMap Segment.text).map old.expand) := by
  induction writes with
  | nil => rfl
  | keep kept rest ih =>
      have later := ih (fun other member => ordinary other (List.mem_cons_of_mem _ member))
        fun c member => same c (by simp [member])
      have front : kept.map stash.expand = kept.map old.expand :=
        List.map_congr_left fun c member => same c (by simp [member])
      simp [later, front]
  | @put placeholder tokenClass run slot segments text free held rest ih =>
      have later := ih (fun other member => ordinary other (List.mem_cons_of_mem _ member))
        fun c member => same c (by simp [member])
      have isOrdinary : ∀ c ∈ run, isReserved c = false := ordinary _ List.mem_cons_self
      have isRun : stash.expand placeholder = .classified tokenClass (String.ofList run) :=
        Stash.expand_of_held? (Stash.held?_eq_some_iff.mpr ⟨slotOf?_slotChar? free, held⟩)
      simp [later, isRun, Stash.chars_expand_of_ordinary isOrdinary, Token.classified]
  | leave tokenClass run full rest ih =>
      have later := ih (fun other member => ordinary other (List.mem_cons_of_mem _ member))
        fun c member => same c (by simp [member])
      have isOrdinary : ∀ c ∈ run, isReserved c = false := ordinary _ List.mem_cons_self
      simp [later, Stash.chars_expand_of_ordinary isOrdinary]

end Writes

/-! ## What a pass does -/

namespace Draft

/-- A segment adds one token to the stash or none. -/
theorem exists_stash_write_eq (draft : Draft) (segment : Segment) :
    (draft.write segment).stash = draft.stash ∨
      ∃ token, (draft.write segment).stash = draft.stash.push token := by
  cases segment with
  | keep kept => exact .inl rfl
  | claim tokenClass run =>
      by_cases empty : run = []
      · subst empty
        exact .inl rfl
      · cases free : draft.stash.next? with
        | none => exact .inl (by rw [write, classifyRun_of_full free]; rfl)
        | some placeholder => exact .inr ⟨_, by rw [write, classifyRun_of_free free empty]⟩

/-- What is stored stays. -/
theorem getElem?_foldl_write (draft : Draft) (segments : List Segment) {slot : Nat}
    (used : slot < draft.stash.tokens.size) :
    (segments.foldl write draft).stash.tokens[slot]? = draft.stash.tokens[slot]? := by
  induction segments generalizing draft with
  | nil => rfl
  | cons segment segments ih =>
      rw [List.foldl_cons]
      rcases draft.exists_stash_write_eq segment with same | ⟨token, pushed⟩
      · rw [ih _ (by rwa [same]), same]
      · rw [ih _ (by rw [pushed, Stash.size_push]; omega), pushed, Stash.push,
          Array.getElem?_push_lt used, Array.getElem?_eq_getElem used]

/-- A pass writes what stands for its segments, the next free slot first. -/
theorem writes_foldl_write (draft : Draft) {segments : List Segment}
    (nonempty : ∀ tokenClass run, Segment.claim tokenClass run ∈ segments → run ≠ []) :
    ∃ written, (segments.foldl write draft).text = draft.text ++ written ∧
      Writes (segments.foldl write draft).stash draft.stash.tokens.size segments written := by
  induction segments generalizing draft with
  | nil => exact ⟨[], by simp, .nil _⟩
  | cons segment segments ih =>
      obtain ⟨written, isText, writes⟩ := ih (draft.write segment) fun tokenClass run member =>
        nonempty tokenClass run (List.mem_cons_of_mem _ member)
      rw [List.foldl_cons, isText]
      cases segment with
      | keep kept =>
          exact ⟨kept ++ written, by simp [write], .keep kept writes⟩
      | claim tokenClass run =>
          have isRun := nonempty tokenClass run List.mem_cons_self
          cases free : draft.stash.next? with
          | none =>
              rw [write, classifyRun_of_full free] at writes ⊢
              exact ⟨run ++ written, by simp, .leave tokenClass run free writes⟩
          | some placeholder =>
              rw [write, classifyRun_of_free free isRun] at writes ⊢
              have used : draft.stash.tokens.size <
                  (draft.stash.push (.classified tokenClass (String.ofList run))).tokens.size := by
                simp
              have stays := getElem?_foldl_write ⟨_, placeholder :: draft.written⟩ segments used
              have held := stays.trans Array.getElem?_push_size
              refine ⟨placeholder :: written, by simp [text], .put free held ?_⟩
              simpa using writes

end Draft

namespace Segment

/-- No run that is planned to be put away is empty. -/
theorem ne_nil_of_claim_mem_planned {text : List Char} {offset : Nat}
    {spans : List (Span × TokenClass)} {tokenClass : TokenClass} {run : List Char}
    (member : claim tokenClass run ∈ planned text offset spans) : run ≠ [] := by
  induction spans generalizing offset with
  | nil => simp [planned] at member
  | cons entry spans ih =>
      obtain ⟨span, spanClass⟩ := entry
      rw [planned, List.mem_cons, List.mem_append] at member
      rcases member with isKeep | inSpan | later
      · cases isKeep
      · obtain ⟨other, isRun, same⟩ := List.mem_map.mp inSpan
        rw [ofRun] at same
        split at same
        · cases same
        · cases same
          exact List.ne_nil_of_mem_splitBy isRun
      · exact ih later

/-- No run that a pass puts away is empty. -/
theorem ne_nil_of_claim_mem_ofSpans {text : List Char} {spans : List (Span × TokenClass)}
    (ordered : Span.Ordered text (spans.map (·.1))) {tokenClass : TokenClass} {run : List Char}
    (member : claim tokenClass run ∈ ofSpans 0 text spans) : run ≠ [] := by
  have sameSegments := filter_ofSpans ordered fun _ _ => Nat.zero_le _
  have shows : claim tokenClass run ∈ (ofSpans 0 text spans).filter (!·.isIdle) :=
    List.mem_filter.mpr ⟨member, rfl⟩
  rw [List.drop_zero] at sameSegments
  rw [sameSegments] at shows
  exact ne_nil_of_claim_mem_planned (List.mem_of_mem_filter shows)

end Segment

/-- What a pass over spans of a text makes of a stash and the text. -/
structure PassOver (stash : Stash) (text : List Char) (spans : List (Span × TokenClass))
    (newStash : Stash) (newText : List Char) : Prop where
  /-- The text is what is between the spans, and the runs in them. -/
  covers : (Segment.planned text 0 spans).flatMap Segment.text = text
  /-- All of it stays but for the runs to be put away, which go to the next slots. -/
  writes : Writes newStash stash.tokens.size (Segment.planned text 0 spans) newText
  /-- There is nothing else in the stash than what was there and these runs. -/
  size : newStash.tokens.size =
    min slotLimit (stash.tokens.size + (Segment.planned text 0 spans).countP Segment.isClaim)
  kept : ∀ slot < stash.tokens.size, newStash.tokens[slot]? = stash.tokens[slot]?
  /-- The placeholders that were in the text are still there, in the same order. -/
  order : (newText.filterMap slotOf?).filter (· < stash.tokens.size) =
    (text.filterMap slotOf?).filter (· < stash.tokens.size)
  /-- The text reads the same.  All placeholders in it are of slots that were in use, as in any text
that has been protected; another one would come to stand for what is put into its slot. -/
  chars : (∀ slot ∈ text.filterMap slotOf?, slot < stash.tokens.size) →
    Token.chars (Working.tokens (newStash, newText)) = Token.chars (Working.tokens (stash, text))

/-- A pass over ordered spans does what is planned for them, whatever the spans are.  `once` says
that the text has the placeholder of each slot in use, one time. -/
theorem Stash.passOver_replaceSpans {stash : Stash} {text : List Char}
    {spans : List (Span × TokenClass)}
    (once : ∀ slot < stash.tokens.size, text.countP (slotOf? · = some slot) = 1)
    (ordered : Span.Ordered text (spans.map (·.1))) :
    PassOver stash text spans (stash.replaceSpans text spans).1
      (stash.replaceSpans text spans).2 := by
  have within : stash.tokens.size ≤ slotLimit := by
    by_contra beyond
    have found : 0 < text.countP (slotOf? · = some slotLimit) := by
      rw [once slotLimit (by omega)]
      exact Nat.one_pos
    obtain ⟨c, -, isSlot⟩ := List.countP_pos_iff.mp found
    exact absurd (slotOf?_lt (by simpa using isSlot)) (Nat.lt_irrefl _)
  have whole := Segment.flatMap_text_ofSpans 0 text spans
  have ordinary := Segment.ordinary_of_mem_ofSpans 0 text spans
  -- the segments of the pass are those of the plan, but for some that are there for no text
  have sameSegments := Segment.filter_ofSpans ordered fun _ _ => Nat.zero_le _
  rw [List.drop_zero] at sameSegments
  obtain ⟨written, isText, writes⟩ := Draft.writes_foldl_write ⟨stash, []⟩
    fun _ _ => Segment.ne_nil_of_claim_mem_ofSpans ordered
  have kept (slot : Nat) (used : slot < stash.tokens.size) :=
    Draft.getElem?_foldl_write ⟨stash, []⟩ (Segment.ofSpans 0 text spans) used
  have size := Draft.size_foldl_write ⟨stash, []⟩ within (Segment.ofSpans 0 text spans)
  rw [Stash.replaceSpans, Draft.classifySpans_eq_foldl]
  generalize (Segment.ofSpans 0 text spans).foldl Draft.write ⟨stash, []⟩ = final at *
  obtain rfl : final.text = written := isText
  constructor
  · rw [← Segment.flatMap_text_filter, ← sameSegments, Segment.flatMap_text_filter, whole]
  · have filtered := writes.filter
    rw [sameSegments] at filtered
    exact filtered.of_filter
  · rw [← Segment.countP_isClaim_filter, ← sameSegments, Segment.countP_isClaim_filter]
    exact size
  · exact kept
  · rw [writes.filter_slots ordinary le_rfl, whole]
  · intro inUse
    have same : ∀ c ∈ (Segment.ofSpans 0 text spans).flatMap Segment.text,
        final.stash.expand c = stash.expand c := by
      rw [whole]
      exact fun c member => Stash.expand_congr fun slot isSlot =>
        kept slot (inUse slot (List.mem_filterMap.mpr ⟨c, member, isSlot⟩))
    rw [Working.tokens, writes.chars_eq ordinary same, whole, Working.tokens]

/-- A string has been put away in the middle of what a later rule matches. -/
theorem Stash.passOver_replaceSpans_split :
    let stash : Stash := ⟨#[.classified .string "\"b\""]⟩
    let text := ['a', ':', ' ', Char.ofNat 0xF0000, ' ', 'c', ';']
    let spans : List (Span × TokenClass) := [(⟨1, 7⟩, .type)]
    (∀ slot < stash.tokens.size, text.countP (slotOf? · = some slot) = 1) ∧
      Span.Ordered text (spans.map (·.1)) ∧
      PassOver stash text spans (stash.replaceSpans text spans).1
        (stash.replaceSpans text spans).2 := by
  intro stash text spans
  have once : ∀ slot < stash.tokens.size, text.countP (slotOf? · = some slot) = 1 := by decide
  have ordered : Span.Ordered text (spans.map (·.1)) := ⟨by decide, by decide, by decide⟩
  exact ⟨once, ordered, Stash.passOver_replaceSpans once ordered⟩

end Tint
