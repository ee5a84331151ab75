import Tint.Proofs.Regex.Iteration
import Tint.Proofs.Stash.Claims

/-!
# Spans in bytes

A text is stored as bytes, and a range of bytes is a slice of it only if both ends lie between two
characters.  The spans of a rule, counted in bytes, are such ranges; they are not empty and come one
behind the other, and each is taken from one of the matches that a scan of the whole text reports.

So a pass over them can take the text apart by its bytes, from the end of one span to the start of
the next one and from there to its end, and never asks for a range that is no slice.
-/

namespace Tint

open Tint.Regex

/-! ## Counting bytes -/

/-- The number of bytes in front of a character, which is given by the number of characters in front
of it. -/
def bytesBefore (text : List Char) (count : Nat) : Nat :=
  String.utf8Len (text.take count)

section Bytes

variable (text : List Char) (source : String) {first second : Nat}

theorem bytesBefore_add (first second : Nat) :
    bytesBefore text (first + second) =
      bytesBefore text first + String.utf8Len ((text.drop first).take second) := by
  rw [bytesBefore, List.take_add, String.utf8Len_append, bytesBefore]

theorem bytesBefore_mono (le : first ≤ second) :
    bytesBefore text first ≤ bytesBefore text second := by
  obtain ⟨between, rfl⟩ := Nat.exists_eq_add_of_le le
  rw [bytesBefore_add]
  exact Nat.le_add_right _ _

/-- Every character takes up some bytes. -/
theorem bytesBefore_lt (lt : first < second) (inText : second ≤ text.length) :
    bytesBefore text first < bytesBefore text second := by
  obtain ⟨between, rfl⟩ := Nat.exists_eq_add_of_le lt.le
  rw [bytesBefore_add]
  have someText : (text.drop first).take between ≠ [] := by
    rw [← List.length_pos_iff, List.length_take, List.length_drop]
    omega
  have someBytes := String.utf8Len_eq_zero.not.mpr someText
  omega

theorem bytesBefore_length :
    bytesBefore source.toList source.toList.length = source.utf8ByteSize := by
  rw [bytesBefore, List.take_length, ← String.utf8ByteSize_ofList, String.ofList_toList]

theorem bytesBefore_le (count : Nat) : bytesBefore source.toList count ≤ source.utf8ByteSize := by
  rw [← bytesBefore_length, bytesBefore, bytesBefore, List.take_length]
  exact String.utf8Len_le_of_sublist (List.take_sublist _ _)

/-- In front of a character a text can be divided. -/
theorem isValid_bytesBefore (count : Nat) :
    String.Pos.Raw.IsValid source ⟨bytesBefore source.toList count⟩ := by
  rw [String.Pos.Raw.isValid_iff_exists_append]
  refine ⟨String.ofList (source.toList.take count), String.ofList (source.toList.drop count),
    ?_, ?_⟩
  · rw [← String.ofList_append, List.take_append_drop, String.ofList_toList]
  · rw [String.rawEndPos, String.utf8ByteSize_ofList, bytesBefore]

end Bytes

namespace Regex.Span

/-- The span in bytes. -/
def inBytes (text : List Char) (span : Span) : Span :=
  ⟨bytesBefore text span.start, bytesBefore text span.stop⟩

/-- A range of bytes that can be taken out of a text: it does not end before it starts or behind the
end of the text, and it divides no character. -/
structure IsSlice (text : String) (span : Span) : Prop where
  start_le : span.start ≤ span.stop
  stop_le : span.stop ≤ text.utf8ByteSize
  valid_start : String.Pos.Raw.IsValid text ⟨span.start⟩
  valid_stop : String.Pos.Raw.IsValid text ⟨span.stop⟩

/-- The text in a range of bytes. -/
def byteSlice (span : Span) (text : String) : List Char :=
  (String.Pos.Raw.extract text ⟨span.start⟩ ⟨span.stop⟩).toList

section Slice

variable (span : Span) {text : String}

theorem bytesBefore_stop (text : List Char) (le : span.start ≤ span.stop) :
    bytesBefore text span.stop =
      bytesBefore text span.start + String.utf8Len (span.slice text) := by
  rw [slice, ← bytesBefore_add, Nat.add_sub_cancel' le]

theorem isSlice_inBytes (le : span.start ≤ span.stop) :
    (span.inBytes text.toList).IsSlice text where
  start_le := bytesBefore_mono _ le
  stop_le := bytesBefore_le text span.stop
  valid_start := isValid_bytesBefore text span.start
  valid_stop := isValid_bytesBefore text span.stop

theorem byteSlice_inBytes (le : span.start ≤ span.stop) :
    (span.inBytes text.toList).byteSlice text = span.slice text.toList := by
  have parts : text.toList.take span.start ++ span.slice text.toList ++
      text.toList.drop span.stop = text.toList := by
    rw [slice, ← List.take_add, Nat.add_sub_cancel' le, List.take_append_drop]
  have bytes : bytesBefore text.toList span.stop =
      String.utf8Len (text.toList.take span.start) + String.utf8Len (span.slice text.toList) :=
    span.bytesBefore_stop text.toList le
  have taken := String.extract_of_valid (text.toList.take span.start) (span.slice text.toList)
    (text.toList.drop span.stop)
  rw [parts, String.ofList_toList, ← bytes] at taken
  rw [byteSlice, inBytes]
  exact (congrArg String.toList taken).trans String.toList_ofList

end Slice

end Regex.Span

/-- Ascending spans are counted in bytes one by one. -/
theorem byteSpansFrom_eq {text : List Char} {spans : List Span} {chars : Nat}
    (ordered : Span.Ordered text spans) (behind : ∀ span ∈ spans, chars ≤ span.start) :
    byteSpansFrom chars (bytesBefore text chars) (text.drop chars) spans =
      spans.map (·.inBytes text) := by
  have counted (cs : List Char) (size : Nat) :
      cs.foldl (fun size c => size + c.utf8Size) size = size + String.utf8Len cs := by
    induction cs generalizing size with
    | nil => simp
    | cons c cs ih =>
        rw [List.foldl_cons, ih, String.utf8Len_cons]
        omega
  induction spans generalizing chars with
  | nil => rfl
  | cons span spans ih =>
      have start_le := behind span List.mem_cons_self
      have nonempty := ordered.nonempty span List.mem_cons_self
      have start : bytesBefore text span.start = bytesBefore text chars +
          String.utf8Len (Span.slice ⟨chars, span.start⟩ text) :=
        Span.bytesBefore_stop ⟨chars, span.start⟩ text start_le
      simp only [byteSpansFrom, Span.splitAt_front text start_le,
        span.splitAt_drop text nonempty.le, counted, Nat.zero_add, ← start,
        ← span.bytesBefore_stop text nonempty.le]
      rw [ih ordered.tail ordered.stop_le_start]
      rfl

/-! ## Taking a text apart -/

/-- What a pass over spans takes out of a text from `last` on: the text in front of each span, which
is kept, the span itself, which is classified, and the text behind all of them. -/
def cuts (size last : Nat) : List (Span × TokenClass) → List (Span × Option TokenClass)
  | [] => [(⟨last, size⟩, none)]
  | (span, tokenClass) :: spans =>
      (⟨last, span.start⟩, none) :: (span, some tokenClass) :: cuts size span.stop spans

/-- Keeps or classifies a slice of a text. -/
def Draft.takeSlice (text : String) (draft : Draft) : Span × Option TokenClass → Draft
  | (span, none) => draft.keepAll (span.byteSlice text)
  | (span, some tokenClass) => draft.classify tokenClass (span.byteSlice text)

/-- The spans of a list in bytes. -/
def allInBytes (text : String) (spans : List (Span × TokenClass)) : List (Span × TokenClass) :=
  spans.map fun entry => (entry.1.inBytes text.toList, entry.2)

section Pass

variable {text : String} {spans : List (Span × TokenClass)} {offset : Nat}

/-- Between ascending spans, all that is taken out of a text is a slice of it. -/
theorem isSlice_of_mem_cuts (ordered : Span.Ordered text.toList (spans.map (·.1)))
    (behind : ∀ entry ∈ spans, offset ≤ entry.1.start) (inText : offset ≤ text.toList.length) :
    ∀ cut ∈ cuts text.utf8ByteSize (bytesBefore text.toList offset) (allInBytes text spans),
      cut.1.IsSlice text := by
  induction spans generalizing offset with
  | nil =>
      intro cut member
      rw [allInBytes, List.map_nil, cuts, List.mem_singleton] at member
      subst member
      rw [← bytesBefore_length]
      exact Span.isSlice_inBytes ⟨offset, text.toList.length⟩ inText
  | cons entry spans ih =>
      obtain ⟨span, tokenClass⟩ := entry
      have start_le : offset ≤ span.start := behind _ List.mem_cons_self
      have nonempty : span.start < span.stop := ordered.nonempty span (by simp)
      have later : ∀ other ∈ spans, span.stop ≤ other.1.start := fun other member =>
        ordered.stop_le_start other.1 (List.mem_map_of_mem member)
      intro cut member
      rw [allInBytes, List.map_cons, cuts, List.mem_cons, List.mem_cons] at member
      rcases member with rfl | rfl | inRest
      · exact Span.isSlice_inBytes ⟨offset, span.start⟩ start_le
      · exact span.isSlice_inBytes nonempty.le
      · exact ih ordered.tail later (ordered.stop_le span (by simp)) cut inRest

/-- A pass over ascending spans goes through these slices one after the other. -/
theorem Draft.classifySpans_eq_foldl_cuts (draft : Draft)
    (ordered : Span.Ordered text.toList (spans.map (·.1)))
    (behind : ∀ entry ∈ spans, offset ≤ entry.1.start) (inText : offset ≤ text.toList.length) :
    draft.classifySpans offset (text.toList.drop offset) spans =
      (cuts text.utf8ByteSize (bytesBefore text.toList offset) (allInBytes text spans)).foldl
        (Draft.takeSlice text) draft := by
  induction spans generalizing draft offset with
  | nil =>
      have rest : Span.byteSlice ⟨bytesBefore text.toList offset, _⟩ text = _ :=
        Span.byteSlice_inBytes ⟨offset, text.toList.length⟩ inText
      rw [bytesBefore_length] at rest
      rw [classifySpans, allInBytes, List.map_nil, cuts, List.foldl_cons, List.foldl_nil, takeSlice,
        rest, Span.slice, ← List.length_drop, List.take_length]
  | cons entry spans ih =>
      obtain ⟨span, tokenClass⟩ := entry
      have start_le : offset ≤ span.start := behind _ List.mem_cons_self
      have nonempty : span.start < span.stop := ordered.nonempty span (by simp)
      have later : ∀ other ∈ spans, span.stop ≤ other.1.start := fun other member =>
        ordered.stop_le_start other.1 (List.mem_map_of_mem member)
      have before : Span.byteSlice ⟨bytesBefore text.toList offset,
          bytesBefore text.toList span.start⟩ text = Span.slice ⟨offset, span.start⟩ text.toList :=
        Span.byteSlice_inBytes ⟨offset, span.start⟩ start_le
      simp only [classifySpans, Span.splitAt_front _ start_le, span.splitAt_drop _ nonempty.le,
        allInBytes, List.map_cons, cuts, List.foldl_cons, takeSlice]
      rw [ih _ ordered.tail later (ordered.stop_le span (by simp)),
        span.byteSlice_inBytes nonempty.le]
      simp only [Span.inBytes, before, allInBytes]

end Pass

/-! ## The spans of a rule -/

/-- What a rule classifies of a match, counted in bytes: its group, if there is one that took
characters. -/
def Rule.byteSpan? (rule : Rule) (text : String) (found : Match) : Option Span :=
  ((found.group? rule.group).filter fun span => span.start < span.stop).map
    (·.inBytes text.toList)

/-- Spans of a rule in a text as they have to be for the text to be taken apart by them.  The scan
for matches comes to an end, and each span is from a match of its own. -/
structure Rule.SpansOf (rule : Rule) (text : String) (spans : List Span) : Prop where
  nonempty : ∀ span ∈ spans, span.start < span.stop
  isSlice : ∀ span ∈ spans, span.IsSlice text
  inOrder : spans.Pairwise fun first second => first.stop ≤ second.start
  scanEnds : ∃ row, Reports rule.matcher.root (some (.start text.toList)) none row
  eq_filterMap : ∀ row, Reports rule.matcher.root (some (.start text.toList)) none row →
    spans = row.filterMap (rule.byteSpan? text)

/-- The slices that the pass of a rule takes out of a text. -/
def Rule.cuts (rule : Rule) (text : String) : List (Span × Option TokenClass) :=
  Tint.cuts text.utf8ByteSize 0 ((rule.byteSpans text).map fun span => (span, rule.tokenClass))

section Rule

variable (rule : Rule) (text : String)

theorem Rule.byteSpans_eq :
    rule.byteSpans text = (rule.spans text.toList).map (·.inBytes text.toList) :=
  byteSpansFrom_eq (rule.spans_ordered text.toList) fun _ _ => Nat.zero_le _

theorem Rule.cuts_eq :
    rule.cuts text = Tint.cuts text.utf8ByteSize (bytesBefore text.toList 0)
      (allInBytes text ((rule.spans text.toList).map fun span => (span, rule.tokenClass))) := by
  rw [Rule.cuts, Rule.byteSpans_eq, allInBytes, List.map_map, List.map_map]
  rfl

theorem Rule.spansOf_byteSpans : rule.SpansOf text (rule.byteSpans text) := by
  have ordered := rule.spans_ordered text.toList
  rw [Rule.byteSpans_eq]
  refine ⟨?_, ?_, ?_, ⟨_, rule.matcher.allMatches_reports text.toList⟩, ?_⟩
  · rw [List.forall_mem_map]
    intro span member
    exact bytesBefore_lt _ (ordered.nonempty span member) (ordered.stop_le span member)
  · rw [List.forall_mem_map]
    intro span member
    exact span.isSlice_inBytes (ordered.nonempty span member).le
  · rw [List.pairwise_map]
    exact ordered.inOrder.imp fun apart => bytesBefore_mono _ apart
  · intro row reports
    rw [reports.unique (rule.matcher.allMatches_reports text.toList), Rule.spans,
      List.map_filterMap]
    rfl

/-- Whatever the pattern of a rule and its group are, its spans are in order, apart from each other
and not empty, and the pass of the rule takes nothing out of a text that is no slice of it. -/
theorem Rule.byteSpans_wellFormed :
    rule.SpansOf text (rule.byteSpans text) ∧
      (∀ cut ∈ rule.cuts text, cut.1.IsSlice text) ∧
      ∀ stash : Stash, stash.applyRule rule text.toList =
        let draft := (rule.cuts text).foldl (Draft.takeSlice text) ⟨stash, []⟩
        (draft.stash, draft.text) := by
  have ordered : Span.Ordered text.toList
      (((rule.spans text.toList).map fun span => (span, rule.tokenClass)).map (·.1)) := by
    simpa [Function.comp_def] using rule.spans_ordered text.toList
  refine ⟨rule.spansOf_byteSpans text, ?_, fun stash => ?_⟩
  · rw [Rule.cuts_eq]
    exact isSlice_of_mem_cuts ordered (fun _ _ => Nat.zero_le _) (Nat.zero_le _)
  · have pass := Draft.classifySpans_eq_foldl_cuts ⟨stash, []⟩ ordered (fun _ _ => Nat.zero_le _)
      (Nat.zero_le _)
    rw [Stash.applyRule_eq_replaceSpans, Stash.replaceSpans, Rule.cuts_eq, ← pass]
    rfl

end Rule

end Tint
