import Tint.Proofs.Lines
import Tint.Proofs.Regex.Layout
import Tint.Proofs.Regex.Prefers
import Tint.Proofs.Stash.Pass

/-!
# The pattern of line comments finds the suffixes of lines

The pattern takes a marker and then what is left of the line: its loop stops in front of the end of
the line, where the assertion holds.  So a scan takes the first suffix of each line that begins with
the marker, and passes over all else.
-/

namespace Tint

open Tint.Regex

/-- The characters that lines end with, as a set. -/
def lineEnds : CharSet :=
  .union (.single '\r') (.single '\n')

@[simp] theorem contains_lineEnds (c : Char) : lineEnds.contains c = isLineEnd c := by
  simp [lineEnds, CharSet.contains, isLineEnd]

/-- What is left of a line. -/
def restOfLine : Pattern :=
  .concat (Pattern.many (.set (.compl lineEnds))) (.look (.lineEnd .feedOrReturn))

/-- A marker and what is left of the line. -/
def lineComment (marker : List Char) : Pattern :=
  marker.foldr (fun c rest => .concat (.char c) rest) restOfLine

theorem lineComment_cons (c : Char) (marker : List Char) :
    lineComment (c :: marker) = .concat (.char c) (lineComment marker) :=
  rfl

section Ways

variable {before : Option Char} {text rest : List Char}

/-- In front of the end of a line the line ends. -/
theorem lineEnd_prefers (notReturn : before ≠ some '\r')
    (stops : ∀ c ∈ rest.head?, isLineEnd c = true) :
    (Ways.look (.lineEnd .feedOrReturn)).Prefers before [] rest := by
  refine Ways.prefers_look ?_
  cases isHead : rest.head? with
  | none => rfl
  | some c =>
      have isEnd := stops c (by simp [isHead])
      rcases Bool.or_eq_true_iff.mp isEnd with isReturn | isFeed
      · cases beq_iff_eq.mp isReturn
        rfl
      · cases beq_iff_eq.mp isFeed
        simpa [Look.holds] using notReturn

theorem lastOf_ne_return (notReturn : before ≠ some '\r')
    (inLine : ∀ c ∈ text, isLineEnd c = false) : lastOf before text ≠ some '\r' := by
  rw [lastOf]
  cases isLast : text.getLast? with
  | none => simpa using notReturn
  | some c => exact some_ne_return (inLine c (List.mem_of_getLast? isLast))

/-- The loop takes all of the line, and the line ends there. -/
theorem restOfLine_prefers (notReturn : before ≠ some '\r')
    (inLine : ∀ c ∈ text, isLineEnd c = false) (stops : ∀ c ∈ rest.head?, isLineEnd c = true) :
    restOfLine.ways.Prefers before text rest := by
  have loop : ((Ways.one (.compl lineEnds)).rounds true).Prefers before text ([] ++ rest) := by
    refine Ways.prefers_rounds_one (fun c member => ?_) (fun c isHead => ?_)
    · simp [CharSet.contains, inLine c member]
    · simp [CharSet.contains, stops c isHead]
  have both := loop.andThen (lineEnd_prefers (lastOf_ne_return notReturn inLine) stops)
  rwa [List.append_nil] at both

/-- A marker that is there is taken with what is left of its line. -/
theorem lineComment_prefers {marker : List Char}
    (inLine : ∀ c ∈ marker ++ text, isLineEnd c = false) (nonempty : marker ≠ [])
    (stops : ∀ c ∈ rest.head?, isLineEnd c = true) :
    (lineComment marker).ways.Prefers before (marker ++ text) rest := by
  -- Only the line end itself looks back, and a marker stands before it.
  have behind (marker : List Char) (inLine : ∀ c ∈ marker ++ text, isLineEnd c = false)
      (before : Option Char) (notReturn : before ≠ some '\r') :
      (lineComment marker).ways.Prefers before (marker ++ text) rest := by
    induction marker generalizing before with
    | nil => exact restOfLine_prefers notReturn inLine stops
    | cons c marker ih =>
        obtain ⟨notEnd, later⟩ := List.forall_mem_cons.mp inLine
        exact (Ways.prefers_one (by simp)).andThen (ih later (some c) (some_ne_return notEnd))
  cases marker with
  | nil => exact absurd rfl nonempty
  | cons c marker =>
      obtain ⟨notEnd, later⟩ := List.forall_mem_cons.mp inLine
      exact (Ways.prefers_one (by simp)).andThen
        (behind marker later (some c) (some_ne_return notEnd))

/-- Where no marker is, the pattern takes nothing. -/
theorem lineComment_refuses {marker : List Char} (noMarker : ¬marker <+: text) :
    (lineComment marker).ways.Refuses before text := by
  induction marker generalizing before text with
  | nil => exact absurd List.nil_prefix noMarker
  | cons c marker ih =>
      cases text with
      | nil => exact (Ways.refuses_one (by simp)).andThen
      | cons d text =>
          by_cases same : d = c
          · subst same
            have later : ¬marker <+: text := fun isPrefix =>
              noMarker ((List.prefix_cons_inj d).mpr isPrefix)
            intro offset
            have noWay : (lineComment marker).ways ⟨some d, text, offset + 1⟩ = [] :=
              ih later (offset + 1)
            change (Ways.one (.single d)).andThen (lineComment marker).ways
              ⟨before, d :: text, offset⟩ = []
            simp [Ways.andThen, Ways.one, Cursor.step, Cursor.next?, noWay]
          · refine (Ways.refuses_one ?_).andThen
            simp [same]

end Ways

/-! ## A scan -/

section Scan

variable {marker text rest : List Char} {before : Option Char} {offset : Nat}

theorem nullable_lineComment (nonempty : marker ≠ []) : (lineComment marker).nullable = false := by
  cases marker with
  | nil => exact absurd rfl nonempty
  | cons c marker => rfl

theorem begins_lineComment (nonempty : marker ≠ []) {c : Char} (notMarker : c ∉ marker) :
    (lineComment marker).begins c = false := by
  cases marker with
  | nil => exact absurd rfl nonempty
  | cons d marker =>
      have differ : c ≠ d := fun same => notMarker (same ▸ List.mem_cons_self)
      simp [lineComment, Pattern.begins, Pattern.char, Pattern.nullable, differ]

/-- A marker does not reach over the end of a line. -/
theorem prefix_append_iff_of_inLine (inLine : ∀ c ∈ marker, isLineEnd c = false)
    (stops : ∀ c ∈ rest.head?, isLineEnd c = true) : marker <+: text ++ rest ↔ marker <+: text where
  mp isPrefix := by
    rcases List.prefix_or_prefix_of_prefix isPrefix (List.prefix_append text rest) with
      inText | ⟨more, rfl⟩
    · exact inText
    · rw [List.prefix_append_right_inj] at isPrefix
      cases more with
      | nil => simp
      | cons c more =>
          obtain ⟨behind, rfl⟩ := isPrefix
          have isEnd := stops c (by simp)
          have notEnd := inLine c (by simp)
          simp [isEnd] at notEnd
  mpr isPrefix := isPrefix.trans (List.prefix_append text rest)

/-- A scan through a line takes the first suffix that begins with the marker. -/
theorem scan_line (markerInLine : ∀ c ∈ marker, isLineEnd c = false) (nonempty : marker ≠ [])
    (inLine : ∀ c ∈ text, isLineEnd c = false) (stops : ∀ c ∈ rest.head?, isLineEnd c = true)
    (before : Option Char) (offset : Nat) :
    (lineComment marker).ways.scan ⟨before, text ++ rest, offset⟩ =
      ((text.tails.find? fun suffix => marker.isPrefixOf suffix).map fun comment =>
        Match.mk (offset + (text.length - comment.length))
          ⟨lastOf before text, rest, offset + text.length⟩ []).toList ++
        (lineComment marker).ways.scan ⟨lastOf before text, rest, offset + text.length⟩ := by
  induction text generalizing before offset with
  | nil => simp [nonempty]
  | cons c text ih =>
      rw [List.tails_cons, List.find?_cons]
      by_cases isPrefix : marker <+: c :: text
      · obtain ⟨taken, whole⟩ := isPrefix
        have prefers : (lineComment marker).ways.Prefers before (c :: text) rest := by
          rw [← whole] at inLine ⊢
          exact lineComment_prefers inLine nonempty stops
        have found : marker.isPrefixOf (c :: text) = true :=
          List.isPrefixOf_iff_prefix.mpr ⟨taken, whole⟩
        rw [Pattern.scan_prefers (nullable_lineComment nonempty) prefers, found]
        simp
      · have notFound : marker.isPrefixOf (c :: text) = false := by
          rw [← Bool.not_eq_true, List.isPrefixOf_iff_prefix]
          exact isPrefix
        have refuses : (lineComment marker).ways.Refuses before (c :: text ++ rest) :=
          lineComment_refuses ((prefix_append_iff_of_inLine markerInLine stops).not.mpr isPrefix)
        have skip : (lineComment marker).ways.scan ⟨before, c :: text ++ rest, offset⟩ =
            (lineComment marker).ways.scan ⟨some c, text ++ rest, offset + 1⟩ :=
          Ways.scan_skip (refuses offset) rfl
        rw [notFound, skip, ih (List.forall_mem_cons.mp inLine).2, lastOf_cons, List.length_cons,
          Nat.add_right_comm, Nat.add_assoc offset]
        congr 2
        refine Option.map_congr fun comment found => ?_
        have isSuffix := (List.mem_tails _ _).mp (List.mem_of_find?_eq_some found)
        rw [Nat.sub_add_comm isSuffix.length_le]
        congr 1
        omega

/-- The spans of matches that are not empty, as those of comments. -/
def commentSpans (found : List Match) : List (Span × TokenClass) :=
  (found.filterMap fun found =>
    (found.group? 0).filter fun span => span.start < span.stop).map fun span => (span, .comment)

theorem commentSpans_append (first second : List Match) :
    commentSpans (first ++ second) = commentSpans first ++ commentSpans second := by
  simp [commentSpans]

theorem commentSpans_singleton {found : Match} (taken : found.start < found.stop) :
    commentSpans [found] = [(⟨found.start, found.stop⟩, .comment)] := by
  simp only [commentSpans, List.filterMap_cons, Match.filter_group?_zero taken]
  rfl

/-- The spans of the pieces of a line are those of its comment and of what comes behind it. -/
theorem spansOf_pieces (nonempty : marker ≠ []) (line : Line) (tokens : List Token)
    (after : Cursor) (isAfter : after.offset = offset + line.text.length) :
    spansOf [] [.comment] offset (line.pieces marker ++ tokens) =
      commentSpans ((line.comment? marker).map fun comment =>
        Match.mk (offset + (line.text.length - comment.length)) after []).toList ++
        spansOf [] [.comment] (offset + line.text.length + line.ending.length) tokens := by
  rw [Line.pieces]
  cases found : line.comment? marker with
  | none =>
      simp only [List.cons_append, List.nil_append]
      rw [spansOf_skip rfl, spansOf_skip rfl, Token.width_nil, Token.width_nil]
      simp [Token.plain, commentSpans]
  | some comment =>
      have shorter := (Line.suffix_of_comment? found).length_le
      have longer := (Line.prefix_of_comment? found).length_le
      have taken : 0 < marker.length := List.length_pos_iff.mpr nonempty
      have stop : offset + (line.text.length - comment.length) + comment.length =
          offset + line.text.length := by
        omega
      simp only [List.cons_append, List.nil_append]
      rw [spansOf_skip rfl, spansOf_take rfl rfl, spansOf_skip rfl, Token.width_nil,
        Token.width_nil, Token.width_nil, Option.map_some, Option.toList_some,
        commentSpans_singleton (by simp only [Match.stop]; omega)]
      simp [Token.plain, Token.classified, Match.stop, isAfter, stop]

/-- A scan finds the comments of the lines. -/
theorem commentSpans_scan (markerInLine : ∀ c ∈ marker, isLineEnd c = false)
    (nonempty : marker ≠ []) {divided : List Line} (divides : Divided text divided)
    (before : Option Char) (offset : Nat) :
    commentSpans ((lineComment marker).ways.scan ⟨before, text, offset⟩) =
      spansOf [] [.comment] offset (divided.flatMap (Line.pieces marker)) := by
  have advances := Pattern.advances (nullable_lineComment nonempty)
  induction divides generalizing before offset with
  | nil =>
      rw [Ways.scan_end advances rfl]
      rfl
  | @last text _ inLine =>
      have noRest : ∀ c ∈ ([] : List Char).head?, isLineEnd c = true := by simp
      have scanned := scan_line markerInLine nonempty inLine noRest before offset
      rw [List.append_nil] at scanned
      rw [scanned, commentSpans_append, Ways.scan_end advances rfl, List.flatMap_cons,
        spansOf_pieces nonempty ⟨text, []⟩ _ ⟨lastOf before text, [], offset + text.length⟩ rfl]
      rfl
  | @ended text ending rest later inLine isEnding _ ih =>
      have stops : ∀ c ∈ (ending ++ rest).head?, isLineEnd c = true := by
        intro c isHead
        rw [List.head?_append_of_ne_nil _ isEnding.ne_nil] at isHead
        exact isEnding.isLineEnd_of_mem c (List.mem_of_mem_head? isHead)
      have passed : ∀ c ∈ ending, (lineComment marker).begins c = false := by
        intro c member
        refine begins_lineComment nonempty fun inMarker => ?_
        simpa [markerInLine c inMarker] using isEnding.isLineEnd_of_mem c member
      rw [List.append_assoc, scan_line markerInLine nonempty inLine stops, commentSpans_append,
        Pattern.scan_pass (nullable_lineComment nonempty) passed, ih, List.flatMap_cons,
        spansOf_pieces nonempty ⟨text, ending⟩ _
          ⟨lastOf before text, ending ++ rest, offset + text.length⟩ rfl]
      rfl

end Scan

end Tint
