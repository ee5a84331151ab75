import Tint.Proofs.Stash.Claims

/-!
# What a pass would write if there were room

Only the number of placeholders keeps a pass from putting all its segments away.  What it would
write if there were enough of them can be read off the segments.  As long as there are, that is what
it writes; once there are none left, it leaves text plain that would have been put away, and nothing
else changes.
-/

namespace Tint

open Tint.Regex Tint.Unicode

/-! ## Tokens left plain -/

namespace Token

/-- Both lists are the same but for plain tokens in the first one, in place of which the second one
has a classified token of the same text. -/
inductive LeavesPlain : List Token → List Token → Prop where
  | nil : LeavesPlain [] []
  | same (token : Token) {coarse fine : List Token} (rest : LeavesPlain coarse fine) :
      LeavesPlain (token :: coarse) (token :: fine)
  | put {token : Token} {run coarse fine : List Token} (isClassified : token.tokenClass.isSome)
      (runPlain : ∀ other ∈ run, other.tokenClass = none) (sameText : chars run = token.text.toList)
      (nonempty : chars run ≠ []) (rest : LeavesPlain coarse fine) :
      LeavesPlain (run ++ coarse) (token :: fine)

namespace LeavesPlain

variable {coarse fine : List Token}

theorem refl (tokens : List Token) : LeavesPlain tokens tokens := by
  induction tokens with
  | nil => exact .nil
  | cons token tokens ih => exact .same token ih

theorem append {otherCoarse otherFine : List Token} (first : LeavesPlain coarse fine)
    (second : LeavesPlain otherCoarse otherFine) :
    LeavesPlain (coarse ++ otherCoarse) (fine ++ otherFine) := by
  induction first with
  | nil => exact second
  | same token _ ih => exact .same token ih
  | put isClassified runPlain sameText nonempty _ ih =>
      rw [List.append_assoc]
      exact .put isClassified runPlain sameText nonempty ih

/-- When plain tokens that meet are joined, the second list divides the text more finely. -/
theorem subdivides_joinFrom (leaves : LeavesPlain coarse fine) (plain : List Char) :
    Subdivides (joinFrom plain coarse) (joinFrom plain fine) := by
  induction leaves generalizing plain with
  | nil => exact .refl _
  | same token _ ih =>
      cases found : token.tokenClass with
      | none =>
          rw [joinFrom_cons_plain found, joinFrom_cons_plain found]
          exact ih _
      | some tokenClass =>
          have isSome : token.tokenClass.isSome := by simp [found]
          rw [joinFrom_cons_classified isSome, joinFrom_cons_classified isSome]
          exact .prepend _ (.keep token (ih []))
  | @put token run coarse fine isClassified runPlain sameText nonempty _ ih =>
      have cut :=
        Token.subdivides_joinFrom isClassified runPlain sameText nonempty plain [] coarse
      rw [List.nil_append, List.nil_append] at cut
      refine cut.trans ?_
      rw [joinFrom_cons_classified isClassified, joinFrom_cons_classified isClassified]
      exact .prepend _ (.keep token (ih []))

theorem subdivides_join (leaves : LeavesPlain coarse fine) :
    Subdivides (join coarse) (join fine) :=
  leaves.subdivides_joinFrom []

end LeavesPlain

/-- The number of classified tokens. -/
def classifiedCount (tokens : List Token) : Nat :=
  tokens.countP (·.tokenClass.isSome)

@[simp] theorem classifiedCount_append (first second : List Token) :
    classifiedCount (first ++ second) = classifiedCount first + classifiedCount second :=
  List.countP_append

theorem classifiedCount_of_plain {tokens : List Token}
    (allPlain : ∀ token ∈ tokens, token.tokenClass = none) : classifiedCount tokens = 0 := by
  rw [classifiedCount, List.countP_eq_zero]
  intro token member
  simp [allPlain token member]

/-- Tokens of some text each are no more than there are characters. -/
theorem classifiedCount_le_length {tokens : List Token}
    (nonempty : ∀ token ∈ tokens, token.tokenClass.isSome → token.text ≠ "") :
    classifiedCount tokens ≤ (chars tokens).length := by
  induction tokens with
  | nil => exact Nat.zero_le _
  | cons token tokens ih =>
      obtain ⟨first, later⟩ := List.forall_mem_cons.mp nonempty
      have fewer := ih later
      rw [classifiedCount] at fewer ⊢
      rw [List.countP_cons, chars_cons, List.length_append]
      split
      · rename_i isClassified
        have some : 0 < token.text.toList.length :=
          List.length_pos_iff.mpr (by simpa using first isClassified)
        omega
      · omega

theorem LeavesPlain.classifiedCount_le {coarse fine : List Token}
    (leaves : LeavesPlain coarse fine) : classifiedCount coarse ≤ classifiedCount fine := by
  induction leaves with
  | nil => exact le_rfl
  | same token _ ih =>
      rw [classifiedCount, classifiedCount, List.countP_cons, List.countP_cons]
      exact Nat.add_le_add_right ih _
  | @put token run coarse fine _ runPlain _ _ _ ih =>
      rw [classifiedCount_append, classifiedCount_of_plain runPlain, Nat.zero_add]
      exact ih.trans ((List.sublist_cons_self token fine).countP_le)

/-- Joining makes no classified tokens and loses none. -/
@[simp] theorem classifiedCount_join (tokens : List Token) :
    classifiedCount (join tokens) = classifiedCount tokens := by
  rw [classifiedCount, classifiedCount, List.countP_eq_length_filter,
    List.countP_eq_length_filter, join, filter_joinFrom]

end Token

/-! ## Segments -/

namespace Segment

/-- What a segment stands for if there is room; `shown` gives the token of a character that is kept.
-/
def ideal (shown : Char → Token) : Segment → List Token
  | keep text => text.map shown
  | claim tokenClass run =>
      if run.isEmpty then [] else [.classified tokenClass (String.ofList run)]

/-- Whether there is something to be put away. -/
def isClaim : Segment → Bool
  | keep _ => false
  | claim _ run => !run.isEmpty

@[simp] theorem flatMap_ideal_keepFront (shown : Char → Token) (front : List Char)
    (segments : List Segment) :
    (keepFront front segments).flatMap (ideal shown) =
      front.map shown ++ segments.flatMap (ideal shown) := by
  cases segments with
  | nil => simp [keepFront, ideal]
  | cons segment segments => cases segment <;> simp [keepFront, ideal]

theorem ideal_congr {shown other : Char → Token} {segment : Segment}
    (same : ∀ c ∈ segment.text, shown c = other c) :
    segment.ideal shown = segment.ideal other := by
  cases segment with
  | keep text => exact List.map_congr_left same
  | claim tokenClass run => rfl

theorem tokens_eq_ideal {stash : Stash} {segment : Segment}
    (room : segment.isClaim = true → stash.next?.isSome) :
    segment.tokens stash = segment.ideal stash.expand := by
  cases segment with
  | keep text => rfl
  | claim tokenClass run =>
      by_cases empty : run = []
      · subst empty
        cases free : stash.next? <;> simp [tokens, ideal, free]
      · obtain ⟨placeholder, free⟩ :=
          Option.isSome_iff_exists.mp (room (by simp [isClaim, empty]))
        simp [tokens, ideal, free]

section

variable {shown : Char → Token} (itself : ∀ c, isReserved c = false → shown c = Token.single c)
include itself

theorem map_shown_of_ordinary {run : List Char} (ordinary : ∀ c ∈ run, isReserved c = false) :
    run.map shown = run.map Token.single :=
  List.map_congr_left fun c member => itself c (ordinary c member)

/-- Text in a segment that is left plain. -/
theorem leavesPlain_ideal {segment : Segment} (ordinary : segment.Ordinary) :
    Token.LeavesPlain (segment.text.map shown) (segment.ideal shown) := by
  cases segment with
  | keep text => exact .refl _
  | claim tokenClass run =>
      rw [text_claim, map_shown_of_ordinary itself ordinary]
      by_cases empty : run = []
      · subst empty
        exact .nil
      · rw [← List.append_nil (run.map Token.single), ideal, if_neg (by simpa using empty)]
        refine .put rfl ?_ ?_ (by simpa using empty) .nil
        · intro token member
          obtain ⟨c, -, rfl⟩ := List.mem_map.mp member
          rfl
        · simp [Token.classified]

theorem leavesPlain_flatMap_ideal {segments : List Segment}
    (ordinary : ∀ segment ∈ segments, segment.Ordinary) :
    Token.LeavesPlain ((segments.flatMap text).map shown) (segments.flatMap (ideal shown)) := by
  induction segments with
  | nil => exact .nil
  | cons segment segments ih =>
      rw [List.flatMap_cons, List.map_append, List.flatMap_cons]
      exact (leavesPlain_ideal itself (ordinary segment List.mem_cons_self)).append
        (ih fun other member => ordinary other (List.mem_cons_of_mem _ member))

/-- Each segment to be put away makes one classified token; the others are there already. -/
theorem classifiedCount_ideal {segments : List Segment}
    (ordinary : ∀ segment ∈ segments, segment.Ordinary) :
    Token.classifiedCount (segments.flatMap (ideal shown)) =
      segments.countP isClaim + Token.classifiedCount ((segments.flatMap text).map shown) := by
  induction segments with
  | nil => rfl
  | cons segment segments ih =>
      have later := ih fun other member => ordinary other (List.mem_cons_of_mem _ member)
      have first : Token.classifiedCount (segment.ideal shown) =
          (if segment.isClaim then 1 else 0) +
            Token.classifiedCount (segment.text.map shown) := by
        cases segment with
        | keep text => simp [ideal, isClaim]
        | claim tokenClass run =>
            have isOrdinary : ∀ c ∈ run, isReserved c = false := ordinary _ List.mem_cons_self
            have plain : Token.classifiedCount (run.map shown) = 0 := by
              rw [map_shown_of_ordinary itself isOrdinary]
              exact Token.classifiedCount_of_plain (by simp)
            rw [text_claim, plain]
            by_cases empty : run = [] <;>
              simp [ideal, isClaim, empty, Token.classifiedCount, Token.classified]
      rw [List.flatMap_cons, List.flatMap_cons, List.map_append, Token.classifiedCount_append,
        Token.classifiedCount_append, first, later, List.countP_cons]
      omega

end

end Segment

/-! ## Passes -/

namespace Draft

/-- A pass puts segments away as long as there are placeholders. -/
theorem size_foldl_write (draft : Draft) (within : draft.stash.tokens.size ≤ slotLimit)
    (segments : List Segment) :
    (segments.foldl write draft).stash.tokens.size =
      min slotLimit (draft.stash.tokens.size + segments.countP Segment.isClaim) := by
  induction segments generalizing draft with
  | nil => simpa using within
  | cons segment segments ih =>
      have first : (draft.write segment).stash.tokens.size =
          min slotLimit (draft.stash.tokens.size + if segment.isClaim then 1 else 0) := by
        cases segment with
        | keep text => simpa [write, keepAll, Segment.isClaim] using within
        | claim tokenClass run =>
            by_cases empty : run = []
            · simpa [write, Segment.isClaim, empty] using within
            · have claims : (Segment.claim tokenClass run).isClaim = true := by
                simp [Segment.isClaim, empty]
              rw [write, claims, if_pos rfl]
              cases free : draft.stash.next? with
              | none =>
                  have full := Stash.next?_eq_none_iff.mp free
                  rw [classifyRun_of_full free, keepAll]
                  dsimp only
                  omega
              | some placeholder =>
                  have room := Stash.lt_of_next?_eq_some free
                  rw [classifyRun_of_free free empty, Stash.size_push]
                  omega
      rw [List.foldl_cons, ih _ (by omega), first, List.countP_cons]
      omega

variable {draft : Draft} {segments : List Segment} {rest : List Char}

/-- In a step of a pass, the segment is written, and those behind it stand for what they stood for.
-/
theorem write_step {segment : Segment}
    (ordinary : ∀ other ∈ segment :: segments, other.Ordinary)
    (consistent : Consistent
      (draft.working ((segment :: segments).flatMap Segment.text ++ rest))) :
    (draft.write segment).tokens = draft.tokens ++ segment.tokens draft.stash ∧
      Consistent ((draft.write segment).working (segments.flatMap Segment.text ++ rest)) ∧
      segments.flatMap (Segment.ideal (draft.write segment).stash.expand) =
        segments.flatMap (Segment.ideal draft.stash.expand) := by
  rw [List.flatMap_cons, List.append_assoc] at consistent
  obtain ⟨written, unread⟩ := tokens_write consistent
  have step := draft.write_putsAway (ordinary segment List.mem_cons_self)
    (segments.flatMap Segment.text ++ rest)
  refine ⟨written, consistent.putsAway step, List.flatMap_congr fun other member => ?_⟩
  refine Segment.ideal_congr fun c inText => unread c (List.mem_append_left rest ?_)
  exact List.mem_flatMap.mpr ⟨other, member, inText⟩

/-- Whatever room there is, a pass writes what it would write with room for all, or leaves some of
it plain. -/
theorem leavesPlain_foldl_write (ordinary : ∀ segment ∈ segments, segment.Ordinary)
    (consistent : Consistent (draft.working (segments.flatMap Segment.text ++ rest))) :
    ∃ written, (segments.foldl write draft).tokens = draft.tokens ++ written ∧
      Token.LeavesPlain written (segments.flatMap (Segment.ideal draft.stash.expand)) := by
  induction segments generalizing draft with
  | nil => exact ⟨[], by simp, .nil⟩
  | cons segment segments ih =>
      obtain ⟨first, next, same⟩ := write_step ordinary consistent
      obtain ⟨written, later, leaves⟩ :=
        ih (fun other member => ordinary other (List.mem_cons_of_mem _ member)) next
      rw [same] at leaves
      refine ⟨segment.tokens draft.stash ++ written, ?_, ?_⟩
      · rw [List.foldl_cons, later, first, List.append_assoc]
      · rw [List.flatMap_cons]
        refine Token.LeavesPlain.append ?_ leaves
        cases free : draft.stash.next? with
        | some placeholder =>
            rw [Segment.tokens_eq_ideal (by simp [free])]
            exact .refl _
        | none =>
            have plain : segment.tokens draft.stash = segment.text.map draft.stash.expand := by
              cases segment with
              | keep kept => rfl
              | claim tokenClass run => simp [Segment.tokens, free]
            rw [plain]
            exact Segment.leavesPlain_ideal (fun c => Stash.expand_of_ordinary)
              (ordinary segment List.mem_cons_self)

/-- A pass with room for all its segments puts all of them away. -/
theorem tokens_foldl_write_of_room (ordinary : ∀ segment ∈ segments, segment.Ordinary)
    (consistent : Consistent (draft.working (segments.flatMap Segment.text ++ rest)))
    (room : draft.stash.tokens.size + segments.countP Segment.isClaim ≤ slotLimit) :
    (segments.foldl write draft).tokens =
      draft.tokens ++ segments.flatMap (Segment.ideal draft.stash.expand) := by
  induction segments generalizing draft with
  | nil => simp
  | cons segment segments ih =>
      obtain ⟨first, next, same⟩ := write_step ordinary consistent
      have size := draft.size_foldl_write (by omega) [segment]
      rw [List.countP_cons] at room
      rw [List.foldl_cons, List.foldl_nil, List.countP_singleton] at size
      have isIdeal : segment.tokens draft.stash = segment.ideal draft.stash.expand := by
        refine Segment.tokens_eq_ideal fun isClaim => ?_
        rw [isClaim, if_pos rfl] at room
        exact Option.isSome_iff_exists.mpr (Stash.exists_next?_eq_some (by omega))
      rw [List.foldl_cons, ih (fun other member => ordinary other (List.mem_cons_of_mem _ member))
        next (by omega), first, same, isIdeal, List.flatMap_cons, List.append_assoc]

end Draft

/-- A pass over a working text, as its ideal tells: the pass comes to it or leaves some of it plain,
and takes a placeholder for each classified token that the ideal has and the working text has not.
-/
structure Passed (working : Working) (ideal : List Token) (passed : Working) : Prop where
  leaves : Token.LeavesPlain passed.tokens ideal
  size : passed.1.tokens.size + Token.classifiedCount working.tokens =
    min (slotLimit + Token.classifiedCount working.tokens)
      (working.1.tokens.size + Token.classifiedCount ideal)
  exact : working.1.tokens.size + Token.classifiedCount ideal ≤
    slotLimit + Token.classifiedCount working.tokens → passed.tokens = ideal

theorem slotOf?_lt {c : Char} {slot : Nat} (found : slotOf? c = some slot) : slot < slotLimit := by
  have hasPlaceholder := slotOf?_eq_some_iff.mp found
  exact (slotChar?_isSome_iff slot).mp (Option.isSome_of_eq_some hasPlaceholder)

namespace Consistent

variable {working : Working} (consistent : Consistent working)
include consistent

theorem size_le : working.1.tokens.size ≤ slotLimit := by
  by_contra beyond
  have used : slotLimit ∈ List.range working.1.tokens.size := List.mem_range.mpr (by omega)
  obtain ⟨c, -, found⟩ := List.mem_filterMap.mp (consistent.slots.mem_iff.mpr used)
  exact absurd (slotOf?_lt found) (Nat.lt_irrefl _)

/-- The reserved characters of a working text are its placeholders. -/
theorem countP_isReserved : working.2.countP isReserved = working.1.tokens.size := by
  have placed : working.2.countP isReserved = (working.2.filterMap slotOf?).length := by
    rw [List.length_filterMap_eq_countP]
    refine List.countP_congr fun c member => ?_
    constructor
    · exact consistent.reserved c member
    · intro hasSlot
      obtain ⟨slot, found⟩ := Option.isSome_iff_exists.mp hasSlot
      exact isReserved_of_slotOf? found
  rw [placed, consistent.slots.length_eq, List.length_range]

/-- A reserved character stands for something that has been put away, any other for itself. -/
theorem expand_cases {c : Char} (member : c ∈ working.2) :
    (isReserved c = true ∧ (working.1.expand c).Stashed) ∨
      (isReserved c = false ∧ working.1.expand c = Token.single c) := by
  cases reserved : isReserved c with
  | false => exact .inr ⟨rfl, Stash.expand_of_ordinary reserved⟩
  | true =>
      obtain ⟨slot, isSlot⟩ :=
        Option.isSome_iff_exists.mp (consistent.reserved c member reserved)
      have used := consistent.slot_lt member isSlot
      have held : working.1.held? c = some (slot, working.1.tokens[slot]) :=
        Stash.held?_eq_some_iff.mpr ⟨isSlot, Array.getElem?_eq_getElem used⟩
      rw [Stash.expand_of_held? held]
      exact .inl ⟨rfl, consistent.entries _ (Array.getElem_mem used)⟩

end Consistent

/-- A text that cannot be protected has more reserved characters than there are placeholders. -/
theorem Stash.lt_of_protect_eq_none {source : List Char} (failed : protect source = none) :
    slotLimit < source.countP isReserved := by
  have beyond (source : List Char) (draft : Draft) (failed : protectFrom draft source = none) :
      slotLimit < draft.stash.tokens.size + source.countP isReserved := by
    induction source generalizing draft with
    | nil => simp [protectFrom] at failed
    | cons c rest ih =>
        cases reserved : isReserved c with
        | false =>
            rw [protectFrom, reserved, if_neg (by simp)] at failed
            rw [List.countP_cons_of_neg (by simp [reserved])]
            exact ih (draft.keep c) failed
        | true =>
            rw [List.countP_cons_of_pos (by simp [reserved])]
            cases free : draft.stash.next? with
            | none =>
                have full := Stash.next?_eq_none_iff.mp free
                omega
            | some placeholder =>
                simp only [protectFrom, reserved, if_true, free] at failed
                have later := ih _ failed
                rw [Stash.size_push] at later
                omega
  simpa using beyond source ⟨{}, []⟩ (by simpa [protect] using failed)

theorem Consistent.passed {working : Working} (consistent : Consistent working)
    (spans : List (Span × TokenClass)) :
    Passed working
      ((Segment.ofSpans 0 working.2 spans).flatMap (Segment.ideal working.1.expand))
      (working.1.replaceSpans working.2 spans) := by
  obtain ⟨stash, text⟩ := working
  have ordinary := Segment.ordinary_of_mem_ofSpans 0 text spans
  have whole := Segment.flatMap_text_ofSpans 0 text spans
  have begun := consistent.ofSpans spans
  have isPassed : Working.tokens (stash.replaceSpans text spans) =
      ((Segment.ofSpans 0 text spans).foldl Draft.write ⟨stash, []⟩).tokens := by
    rw [Stash.replaceSpans, Draft.classifySpans_eq_foldl]
    rfl
  have size : (stash.replaceSpans text spans).1.tokens.size =
      min slotLimit (stash.tokens.size +
        (Segment.ofSpans 0 text spans).countP Segment.isClaim) := by
    rw [Stash.replaceSpans, Draft.classifySpans_eq_foldl]
    exact Draft.size_foldl_write _ consistent.size_le _
  have count : Token.classifiedCount
        ((Segment.ofSpans 0 text spans).flatMap (Segment.ideal stash.expand)) =
      (Segment.ofSpans 0 text spans).countP Segment.isClaim +
        Token.classifiedCount (Working.tokens (stash, text)) := by
    rw [Segment.classifiedCount_ideal (fun c => Stash.expand_of_ordinary) ordinary, whole]
    rfl
  obtain ⟨written, isWritten, leaves⟩ := Draft.leavesPlain_foldl_write ordinary begun
  constructor
  · rw [isPassed, isWritten]
    exact leaves
  · rw [size, count]
    dsimp only
    omega
  · intro room
    rw [count] at room
    have enough : stash.tokens.size +
        (Segment.ofSpans 0 text spans).countP Segment.isClaim ≤ slotLimit := by
      dsimp only at room
      omega
    rw [isPassed, Draft.tokens_foldl_write_of_room ordinary begun enough]
    rfl

end Tint
