import Tint.Proofs.Structured.Excerpt
import Tint.Proofs.Unicode.Blank

/-!
# Numbers, constants and punctuation in a stretch of text

The patterns of the second pass are blind to reserved characters, so what the pass finds between two
of them is what it would find there in a text of its own.  This is said of the tokens that come of
its spans: those of a stretch are those of its excerpt, and then come those of what follows.
-/

namespace Tint.Structured

open Tint.Regex Tint.Unicode

/-! ## The patterns -/

theorem blind_char {c : Char} (ordinary : isReserved c = false) : Blind (.char c) := by
  intro d reserved
  rw [CharSet.contains_single, beq_eq_false_iff_ne]
  rintro rfl
  simp [ordinary] at reserved

theorem blind_oneOf {cs : List Char} (ordinary : ∀ c ∈ cs, isReserved c = false) :
    Blind (.oneOf cs) := by
  intro d reserved
  induction cs with
  | nil => rfl
  | cons c cs ih =>
      have first : (CharSet.single c).contains d = false :=
        blind_char (ordinary c List.mem_cons_self) d reserved
      cases cs with
      | nil => exact first
      | cons other cs =>
          have later := ih fun other member => ordinary other (List.mem_cons_of_mem c member)
          simp [CharSet.ofList, CharSet.contains, first, later]

theorem blind_sequence {patterns : List Pattern} (all : ∀ pattern ∈ patterns, Blind pattern) :
    Blind (.sequence patterns) := by
  induction patterns with
  | nil => trivial
  | cons pattern patterns ih =>
      have first := all pattern List.mem_cons_self
      cases patterns with
      | nil => exact first
      | cons other patterns =>
          exact ⟨first, ih fun other member => all other (List.mem_cons_of_mem pattern member)⟩

theorem blind_word {name : String} (ordinary : ∀ c ∈ name.toList, isReserved c = false) :
    Blind (.word name) := by
  refine blind_sequence fun pattern member => ?_
  obtain ⟨c, inName, rfl⟩ := List.mem_map.mp member
  exact blind_char (ordinary c inName)

theorem blind_digit : Blind (.set .digit) := by
  intro c reserved
  have code : 0xF0000 ≤ c.toNat := by simpa [isReserved] using reserved
  have notAscii : ¬c.toNat < 0x80 := by omega
  simp only [CharSet.contains, isDigit, notAscii, ↓reduceIte]
  rw [if_pos (by omega)]

theorem blind_number : Blind number := by
  have boundary : Blind (.look (.boundary .unicode)) := rfl
  have digits : Blind (.many1 (.set .digit)) := blind_digit
  have minus : Blind (.optional (.char '-')) := blind_char rfl
  have point : Blind (.char '.') := blind_char rfl
  have letter : Blind (.oneOf ['e', 'E']) := blind_oneOf (by simp [isReserved])
  have sign : Blind (.optional (.oneOf ['+', '-'])) := blind_oneOf (by simp [isReserved])
  exact ⟨minus, boundary, digits, ⟨point, digits⟩, ⟨letter, sign, digits⟩, boundary⟩

theorem blind_constant : Blind constant := by
  have boundary : Blind (.look (.boundary .unicode)) := rfl
  have names : ∀ name ∈ ["true", "false", "null"], Blind (.word name) := by
    simpa using ⟨blind_word (by simp [isReserved]), blind_word (by simp [isReserved]),
      blind_word (by simp [isReserved])⟩
  exact ⟨boundary, ⟨names _ (by simp), names _ (by simp), names _ (by simp)⟩, boundary⟩

theorem blind_punctuation : Blind punctuation :=
  blind_oneOf (by simp [isReserved])

/-! ## What is found at a position -/

/-- What is found at a position, if anything: the first way through one of the patterns, and the
class that goes with it. -/
def scalar? (cursor : Cursor) : Option (Way × TokenClass) :=
  (number.ways cursor).head?.map (·, .number) <|>
    (constant.ways cursor).head?.map (·, .keyword) <|>
      (punctuation.ways cursor).head?.map (·, .punctuation)

theorem mem_scalarClasses {cursor : Cursor} {way : Way} {tokenClass : TokenClass}
    (found : scalar? cursor = some (way, tokenClass)) : tokenClass ∈ Json.scalarClasses := by
  simp only [scalar?, Option.orElse_eq_orElse, Option.orElse_eq_or, Option.or_eq_some_iff,
    Option.map_eq_some_iff, Prod.mk.injEq] at found
  rcases found with ⟨_, _, _, rfl⟩ | ⟨_, ⟨_, _, _, rfl⟩ | ⟨_, _, _, _, rfl⟩⟩ <;> decide

/-- A way that has been found is the first one through the whole pattern, where it sets the slots of
the group that tells its class. -/
theorem head?_scalar (cursor : Cursor) :
    (scalar.ways cursor).head? = (scalar? cursor).map fun found =>
      ⟨found.1.cursor, [(2 * Json.groupOf found.2, cursor.offset),
        (2 * Json.groupOf found.2 + 1, found.1.cursor.offset)]⟩ := by
  have grouped (index : Nat) {pattern : Pattern} (blind : Blind pattern) :
      (pattern.ways.group index cursor).head? = (pattern.ways cursor).head?.map fun way =>
        ⟨way.cursor, [(2 * index, cursor.offset), (2 * index + 1, way.cursor.offset)]⟩ := by
    rw [Ways.group, List.head?_map]
    cases isFirst : (pattern.ways cursor).head? with
    | none => rfl
    | some way => simp [blind.writes_eq_nil isFirst]
  change (Ways.orElse (number.ways.group 1)
    (Ways.orElse (constant.ways.group 2) (punctuation.ways.group 3)) cursor).head? = _
  rw [Ways.orElse, Ways.orElse, List.head?_append, List.head?_append, grouped 1 blind_number,
    grouped 2 blind_constant, grouped 3 blind_punctuation, scalar?]
  cases (number.ways cursor).head? with
  | some way => rfl
  | none =>
      cases (constant.ways cursor).head? with
      | some way => rfl
      | none => cases (punctuation.ways cursor).head? <;> rfl

theorem scalar?_leads {cursor : Cursor} {way : Way} {tokenClass : TokenClass}
    (found : scalar? cursor = some (way, tokenClass)) :
    cursor.Leads way.cursor ∧ way.cursor.rest.length < cursor.rest.length := by
  have isFirst := head?_scalar cursor
  rw [found, Option.map_some] at isFirst
  have advances : scalar.ways.Advances := Pattern.advances rfl
  have member := List.mem_of_mem_head? isFirst
  have leads := advances.forward _ _ member
  have taken := advances.taken _ _ member
  exact ⟨leads, taken⟩

/-- Nothing that is found goes on into a text: its first character is part of no word, and none of
the patterns takes it. -/
structure Stops (tail : List Char) : Prop where
  word : WordKind.unicode.holds tail.head? = false
  takes : ∀ c ∈ tail.head?, scalar.takes c = false

theorem Stops.nil : Stops [] := ⟨rfl, by simp⟩

theorem Stops.cons {c : Char} (notWord : isWord c = false) (notTaken : scalar.takes c = false)
    (tail : List Char) : Stops (c :: tail) :=
  ⟨notWord, by simpa using notTaken⟩

theorem takes_scalar (c : Char) :
    scalar.takes c = (number.takes c || (constant.takes c || punctuation.takes c)) := rfl

theorem Stops.of_isReserved {tail : List Char} (ends : ∀ c ∈ tail.head?, isReserved c = true) :
    Stops tail := by
  cases tail with
  | nil => exact .nil
  | cons c tail =>
      have reserved := ends c rfl
      refine .cons (Json.holds_of_isReserved reserved) ?_ tail
      rw [takes_scalar, blind_number.takes_eq_false reserved,
        blind_constant.takes_eq_false reserved, blind_punctuation.takes_eq_false reserved]
      rfl

section

variable {r : Char → Char → Prop} {tail : List Char} {here there : Cursor}
  (alike : ∀ {c d}, r c d → AlikeChars c d) (stops : Stops tail)
include alike stops

/-- What is found at a position is found at the same one of an excerpt. -/
theorem Excerpt.rel_scalar? (excerpt : Excerpt r tail here there) :
    Option.Rel (fun found other => found.2 = other.2 ∧ Onward r tail here there found.1 other.1)
      (scalar? here) (scalar? there) := by
  have first {pattern : Pattern} (blind : Blind pattern)
      (within : ∀ c, scalar.takes c = false → pattern.takes c = false) :=
    rel_head? (blind.isLocal alike stops.word (fun c member => within c (stops.takes c member))
      here there excerpt)
  have isNumber := first blind_number fun c => by simp +contextual [takes_scalar]
  have isConstant := first blind_constant fun c => by simp +contextual [takes_scalar]
  have isMark := first blind_punctuation fun c => by simp +contextual [takes_scalar]
  rw [scalar?, scalar?]
  generalize (number.ways here).head? = numberHere at *
  generalize (number.ways there).head? = numberThere at *
  cases isNumber with
  | some onward => exact .some ⟨rfl, onward⟩
  | none =>
      generalize (constant.ways here).head? = constantHere at *
      generalize (constant.ways there).head? = constantThere at *
      cases isConstant with
      | some onward => exact .some ⟨rfl, onward⟩
      | none =>
          generalize (punctuation.ways here).head? = markHere at *
          generalize (punctuation.ways there).head? = markThere at *
          cases isMark with
          | some onward => exact .some ⟨rfl, onward⟩
          | none => exact .none

/-- A token is found at both positions, and the texts go on alike behind it. -/
structure FoundBoth (r : Char → Char → Prop) (tail : List Char) (here there : Cursor)
    (tokenClass : TokenClass) (run : List Char) (way other : Way) : Prop where
  isHere : scalar? here = some (way, tokenClass)
  isThere : scalar? there = some (other, tokenClass)
  nonempty : run ≠ []
  ordinary : ∀ c ∈ run, isReserved c = false
  restHere : here.rest = run ++ way.cursor.rest
  restThere : there.rest = run ++ other.cursor.rest
  excerpt : Excerpt r tail way.cursor other.cursor

/-- At a position and the same one of an excerpt, the same token is found or none is. -/
theorem Excerpt.scalar?_cases (excerpt : Excerpt r tail here there) :
    (scalar? here = none ∧ scalar? there = none) ∨
      ∃ tokenClass run way other, FoundBoth r tail here there tokenClass run way other := by
  have related := excerpt.rel_scalar? alike stops
  cases isHere : scalar? here with
  | none =>
      rw [isHere] at related
      cases isThere : scalar? there with
      | none => exact .inl ⟨rfl, rfl⟩
      | some found =>
          rw [isThere] at related
          cases related
  | some found =>
      rw [isHere] at related
      cases isThere : scalar? there with
      | none =>
          rw [isThere] at related
          cases related
      | some other =>
          rw [isThere] at related
          obtain ⟨way, tokenClass⟩ := found
          obtain ⟨other, otherClass⟩ := other
          cases related with
          | some both =>
              obtain ⟨rfl, onward⟩ := both
              obtain ⟨run, ordinary, restHere, restThere⟩ := onward.taken
              refine .inr ⟨tokenClass, run, way, other, isHere, isThere, ?_, ordinary, restHere,
                restThere, onward.excerpt⟩
              rintro rfl
              have taken := (scalar?_leads isHere).2
              simp [restHere] at taken

end

/-! ## Spans -/

/-- The spans of numbers, constants and punctuation from a position on. -/
def scalarsFrom (cursor : Cursor) : List (Span × TokenClass) :=
  Json.scalarsOf (scalar.ways.scan cursor)

theorem scalarSpans_eq_scalarsFrom (text : List Char) :
    scalarSpans text = scalarsFrom (.start text) := by
  rw [scalarSpans, scalarMatcher, Matcher.allMatches_ofPattern rfl rfl]
  rfl

theorem scalarsFrom_take {cursor : Cursor} {way : Way} {tokenClass : TokenClass}
    (found : scalar? cursor = some (way, tokenClass)) :
    scalarsFrom cursor =
      (⟨cursor.offset, way.cursor.offset⟩, tokenClass) :: scalarsFrom way.cursor := by
  have isFirst := head?_scalar cursor
  rw [found, Option.map_some] at isFirst
  have isScalar := mem_scalarClasses found
  rw [scalarsFrom, Ways.scan_take (Pattern.advances rfl) isFirst, Json.scalarsOf,
    List.filterMap_cons]
  simp only [Json.scalarClasses, List.mem_cons, List.not_mem_nil, or_false] at isScalar
  rcases isScalar with rfl | rfl | rfl <;> rfl

theorem scalarsFrom_skip {cursor : Cursor} (missing : scalar? cursor = none) {c : Char}
    {rest : List Char} (isRest : cursor.rest = c :: rest) :
    scalarsFrom cursor = scalarsFrom ⟨some c, rest, cursor.offset + 1⟩ := by
  have noWay := head?_scalar cursor
  rw [missing, Option.map_none, List.head?_eq_none_iff] at noWay
  rw [scalarsFrom, Ways.scan_skip noWay isRest, scalarsFrom]

theorem scalarsFrom_end {cursor : Cursor} (atEnd : cursor.rest = []) : scalarsFrom cursor = [] := by
  rw [scalarsFrom, Ways.scan_end (Pattern.advances rfl) atEnd]
  rfl

/-- A number begins with a sign or a digit, so none begins with white space or a reserved
character; nothing else does either. -/
theorem scalar_begins_idle {c : Char} (idle : isReserved c = true ∨ isSpace c = true) :
    scalar.begins c = false := by
  rcases idle with reserved | space
  · exact Json.scalar_begins_reserved reserved
  · have other (symbol : Char) (visible : isSpace symbol = false) : c ≠ symbol := by
      rintro rfl
      simp [visible] at space
    rw [Json.scalar_begins, Json.number_begins, Json.constant_begins, Json.punctuation_begins,
      isDigit_of_isSpace space]
    simp [Json.marks, other _ (rfl : isSpace '-' = false), other _ (rfl : isSpace 't' = false),
      other _ (rfl : isSpace 'f' = false), other _ (rfl : isSpace 'n' = false),
      other _ (rfl : isSpace '\x7B' = false), other _ (rfl : isSpace '\x7D' = false),
      other _ (rfl : isSpace '[' = false), other _ (rfl : isSpace ']' = false),
      other _ (rfl : isSpace ',' = false), other _ (rfl : isSpace ':' = false)]

theorem le_start_of_mem_scalarsFrom (cursor : Cursor) :
    ∀ entry ∈ scalarsFrom cursor, cursor.offset ≤ entry.1.start := by
  cases found : scalar? cursor with
  | some first =>
      obtain ⟨way, tokenClass⟩ := first
      obtain ⟨leads, shorter⟩ := scalar?_leads found
      have total := leads.offset_add_length
      intro entry member
      rw [scalarsFrom_take found] at member
      rcases List.mem_cons.mp member with rfl | later
      · exact le_rfl
      · have behind := le_start_of_mem_scalarsFrom way.cursor entry later
        omega
  | none =>
      cases isRest : cursor.rest with
      | nil => simp [scalarsFrom_end isRest]
      | cons c rest =>
          have shorter : rest.length < cursor.rest.length := by simp [isRest]
          intro entry member
          rw [scalarsFrom_skip found isRest] at member
          have behind :=
            le_start_of_mem_scalarsFrom ⟨some c, rest, cursor.offset + 1⟩ entry member
          exact (Nat.le_succ _).trans behind
termination_by cursor.rest.length

/-- Nothing is found where none of the patterns can begin. -/
theorem scalar?_of_begins {cursor : Cursor} {c : Char} {rest : List Char}
    (isRest : cursor.rest = c :: rest) (begins : scalar.begins c = false) :
    scalar? cursor = none := by
  have noWay : scalar.ways cursor = [] :=
    Pattern.ways_eq_nil rfl (by simpa [isRest] using begins)
  have isFirst := head?_scalar cursor
  rw [noWay, List.head?_nil] at isFirst
  exact Option.map_eq_none_iff.mp isFirst.symm

theorem scalar?_of_idle {cursor : Cursor} {c : Char} {rest : List Char}
    (isRest : cursor.rest = c :: rest) (idle : isReserved c = true ∨ isSpace c = true) :
    scalar? cursor = none :=
  scalar?_of_begins isRest (scalar_begins_idle idle)

/-! ## Tokens -/

/-- A way to read a text with spans as tokens.  A character outside of the spans stands for the
token that `shown` gives, and a span of ordinary characters for one token of its class. -/
structure Reads (shown : Char → Token)
    (read : Nat → List Char → List (Span × TokenClass) → List Token) : Prop where
  all (offset : Nat) (text : List Char) : read offset text [] = text.map shown
  skip {offset : Nat} {c : Char} {text : List Char} {spans : List (Span × TokenClass)}
    (behind : ∀ entry ∈ spans, offset + 1 ≤ entry.1.start) :
    read offset (c :: text) spans = shown c :: read (offset + 1) text spans
  take {offset : Nat} {run text : List Char} {tokenClass : TokenClass}
    {spans : List (Span × TokenClass)} (nonempty : run ≠ [])
    (ordinary : ∀ c ∈ run, isReserved c = false) :
    read offset (run ++ text) ((⟨offset, offset + run.length⟩, tokenClass) :: spans) =
      .classified tokenClass (String.ofList run) :: read (offset + run.length) text spans

/-- What a text reads as from a position on, with the spans that are found there. -/
def readAt (read : Nat → List Char → List (Span × TokenClass) → List Token) (cursor : Cursor) :
    List Token :=
  read cursor.offset cursor.rest (scalarsFrom cursor)

namespace Reads

variable {shown : Char → Token} {read : Nat → List Char → List (Span × TokenClass) → List Token}
  (reads : Reads shown read)
include reads

theorem readAt_end {cursor : Cursor} (atEnd : cursor.rest = []) : readAt read cursor = [] := by
  rw [readAt, scalarsFrom_end atEnd, atEnd, reads.all, List.map_nil]

theorem readAt_skip {cursor : Cursor} (missing : scalar? cursor = none) {c : Char}
    {rest : List Char} (isRest : cursor.rest = c :: rest) :
    readAt read cursor = shown c :: readAt read ⟨some c, rest, cursor.offset + 1⟩ := by
  rw [readAt, scalarsFrom_skip missing isRest, isRest, readAt]
  exact reads.skip (le_start_of_mem_scalarsFrom ⟨some c, rest, cursor.offset + 1⟩)

theorem readAt_take {cursor : Cursor} {way : Way} {tokenClass : TokenClass} {run : List Char}
    (found : scalar? cursor = some (way, tokenClass)) (nonempty : run ≠ [])
    (ordinary : ∀ c ∈ run, isReserved c = false) (isRest : cursor.rest = run ++ way.cursor.rest) :
    readAt read cursor =
      .classified tokenClass (String.ofList run) :: readAt read way.cursor := by
  have total := (scalar?_leads found).1.offset_add_length
  rw [isRest, List.length_append] at total
  have isOffset : way.cursor.offset = cursor.offset + run.length := by omega
  rw [readAt, scalarsFrom_take found, isRest, isOffset, reads.take nonempty ordinary, readAt,
    isOffset]

/-- White space and reserved characters are passed over. -/
theorem readAt_idle {block : List Char}
    (idle : ∀ c ∈ block, isReserved c = true ∨ isSpace c = true) (before : Option Char)
    (rest : List Char) (offset : Nat) :
    readAt read ⟨before, block ++ rest, offset⟩ = block.map shown ++
      readAt read ⟨lastOf before block, rest, offset + block.length⟩ := by
  induction block generalizing before offset with
  | nil => rfl
  | cons c block ih =>
      have isRest : (Cursor.mk before ((c :: block) ++ rest) offset).rest = c :: (block ++ rest) :=
        rfl
      have missing := scalar?_of_idle isRest (idle c List.mem_cons_self)
      rw [reads.readAt_skip missing isRest,
        ih fun other member => idle other (List.mem_cons_of_mem c member), lastOf_cons,
        List.length_cons, Nat.add_assoc, Nat.add_comm 1]
      rfl

/-- The tokens of a stretch of text are those of its excerpt, and those of what comes behind follow
them.  The induction goes from one token or character to the next, which are the same in both. -/
theorem readAt_excerpt {otherShown : Char → Token}
    {otherRead : Nat → List Char → List (Span × TokenClass) → List Token}
    (others : Reads otherShown otherRead) {r : Char → Char → Prop} {tail : List Char}
    (alike : ∀ {c d}, r c d → AlikeChars c d) (same : ∀ {c d}, r c d → shown c = otherShown d)
    (ends : ∀ c ∈ tail.head?, isReserved c = true) {here there : Cursor}
    (excerpt : Excerpt r tail here there) :
    ∃ behind : Cursor, behind.rest = tail ∧
      readAt read here = readAt otherRead there ++ readAt read behind := by
  rcases excerpt.scalar?_cases alike (.of_isReserved ends) with
    ⟨noneHere, noneThere⟩ | ⟨tokenClass, run, way, other, found⟩
  · obtain ⟨stretch, restHere, related⟩ := excerpt.rest
    generalize restThere : there.rest = text at related
    cases related with
    | nil =>
        refine ⟨here, restHere, ?_⟩
        rw [others.readAt_end restThere, List.nil_append]
    | @cons c d stretch text isRelated related =>
        rw [List.cons_append] at restHere
        have shorter : text.length < there.rest.length := by simp [restThere]
        have next : Excerpt r tail ⟨some c, stretch ++ tail, here.offset + 1⟩
            ⟨some d, text, there.offset + 1⟩ := by
          refine ⟨⟨stretch, rfl, related⟩, ?_⟩
          rcases alike isRelated with rfl | ⟨reserved, otherReserved⟩
          · rfl
          · rw [Json.holds_of_isReserved reserved, Json.holds_of_isReserved otherReserved]
        obtain ⟨behind, isBehind, later⟩ := readAt_excerpt others alike same ends next
        refine ⟨behind, isBehind, ?_⟩
        rw [reads.readAt_skip noneHere restHere, others.readAt_skip noneThere restThere, later,
          same isRelated, List.cons_append]
  · have shorter := (scalar?_leads found.isThere).2
    obtain ⟨behind, isBehind, later⟩ := readAt_excerpt others alike same ends found.excerpt
    refine ⟨behind, isBehind, ?_⟩
    rw [reads.readAt_take found.isHere found.nonempty found.ordinary found.restHere,
      others.readAt_take found.isThere found.nonempty found.ordinary found.restThere, later,
      List.cons_append]
termination_by there.rest.length

/-- Alike texts read alike. -/
theorem readAt_alike {otherShown : Char → Token}
    {otherRead : Nat → List Char → List (Span × TokenClass) → List Token}
    (others : Reads otherShown otherRead) {r : Char → Char → Prop} {text other : List Char}
    (alike : ∀ {c d}, r c d → AlikeChars c d) (same : ∀ {c d}, r c d → shown c = otherShown d)
    (related : List.Forall₂ r text other) :
    readAt read (.start text) = readAt otherRead (.start other) := by
  have excerpt : Excerpt r [] (.start text) (.start other) :=
    ⟨⟨text, by simp [Cursor.start], related⟩, rfl⟩
  obtain ⟨behind, isBehind, both⟩ := reads.readAt_excerpt others alike same (by simp) excerpt
  rw [both, reads.readAt_end isBehind, List.append_nil]

end Reads

end Tint.Structured
