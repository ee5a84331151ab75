import Tint.Proofs.Stash.Escaped
import Tint.Proofs.Structured.Literals
import Tint.Proofs.Structured.Scalars

/-!
# Tokens of escaped text

Escaping a text and splitting it into tokens gives the escaped tokens of the text.  An entity has no
quote and no backslash, so literals are found where they were: a backslash takes the ampersand of an
entity in place of the character.  An entity begins and ends with characters that are part of no
word, and nothing in it is a number, a constant or punctuation, so the same is found between two
entities as between the characters that they stand for.
-/

namespace Tint.Structured

open Tint.Html Tint.Regex Tint.Unicode

/-! ## Literals -/

/-- Characters that neither end a literal nor escape another one are passed over. -/
theorem closing?_append {front : List Char} (plain : ∀ c ∈ front, c ≠ '"' ∧ c ≠ '\\')
    (rest : List Char) : closing? (front ++ rest) = (closing? rest).map (· + front.length) := by
  induction front with
  | nil => simp
  | cons c front ih =>
      have isPlain := plain c List.mem_cons_self
      rw [List.cons_append, closing?_plain isPlain.1 isPlain.2,
        ih fun other member => plain other (List.mem_cons_of_mem c member), Option.map_map]
      rfl

theorem Units.append {front rest : List Char} (plain : ∀ c ∈ front, c ≠ '"' ∧ c ≠ '\\')
    (isUnits : Units rest) : Units (front ++ rest) := by
  induction front with
  | nil => exact isUnits
  | cons c front ih =>
      have isPlain := plain c List.mem_cons_self
      exact .plain isPlain.1 isPlain.2
        (ih fun other member => plain other (List.mem_cons_of_mem c member))

theorem plain_escapeChar {c : Char} (notQuote : c ≠ '"') (notBackslash : c ≠ '\\') :
    ∀ d ∈ escapeChar c, d ≠ '"' ∧ d ≠ '\\' :=
  forall_mem_escapeChar ⟨notQuote, notBackslash⟩ (by simp [entityChars])

/-- A backslash in front of a character takes the first one of its written form, and the others are
plain. -/
theorem exists_escapeChar_eq_cons (c : Char) :
    ∃ first more, escapeChar c = first :: more ∧ (first = '\n' ↔ c = '\n') ∧
      ∀ d ∈ more, d ≠ '"' ∧ d ≠ '\\' := by
  by_cases special : c ∈ specialChars
  · rcases mem_specialChars.mp special with rfl | rfl | rfl
    · exact ⟨'&', "amp;".toList, rfl, by decide, by simp⟩
    · exact ⟨'&', "lt;".toList, rfl, by decide, by simp⟩
    · exact ⟨'&', "gt;".toList, rfl, by decide, by simp⟩
  · exact ⟨c, [], escapeChar_of_not_mem special, Iff.rfl, by simp⟩

theorem escapeChar_quote : escapeChar '"' = ['"'] := rfl

theorem escapeChar_backslash : escapeChar '\\' = ['\\'] := rfl

theorem Units.escapeAll {units : List Char} (isUnits : Units units) : Units (escapeAll units) := by
  induction isUnits with
  | nil => exact .nil
  | plain notQuote notBackslash _ ih => exact .append (plain_escapeChar notQuote notBackslash) ih
  | @escaped c units notFeed _ ih =>
      obtain ⟨first, more, written, isFeed, plain⟩ := exists_escapeChar_eq_cons c
      rw [escapeAll_cons, escapeAll_cons, escapeChar_backslash, written]
      exact .escaped (isFeed.not.mpr notFeed) (.append plain ih)

/-- A quote closes a literal in the escaped text if one does in the text. -/
theorem isSome_closing?_escapeAll (text : List Char) :
    (closing? (escapeAll text)).isSome = (closing? text).isSome := by
  fun_induction closing? text with
  | case1 => rfl
  | case2 rest =>
      rw [escapeAll_cons, escapeChar_quote, List.singleton_append, closing?_quote]
  | case3 => rfl
  | case4 rest notQuote =>
      have feedItself : escapeChar '\n' = ['\n'] := rfl
      rw [escapeAll_cons, escapeAll_cons, escapeChar_backslash, feedItself, List.singleton_append,
        List.singleton_append, closing?_escaped, if_pos rfl]
  | case5 c rest notFeed notQuote ih =>
      obtain ⟨first, more, written, isFeed, plain⟩ := exists_escapeChar_eq_cons c
      rw [escapeAll_cons, escapeAll_cons, escapeChar_backslash, written, List.singleton_append,
        List.cons_append, closing?_escaped, if_neg (isFeed.not.mpr notFeed), closing?_append plain]
      simpa using ih
  | case6 c rest notQuote notBackslash ih =>
      rw [escapeAll_cons, closing?_append (plain_escapeChar notQuote notBackslash)]
      simpa using ih

theorem isKey_cons (c : Char) (rest : List Char) :
    isKey (c :: rest) = if isSpace c then isKey rest else c == ':' := by
  rw [isKey, List.dropWhile_cons]
  split
  · rfl
  · simp

@[simp] theorem isKey_escapeAll (rest : List Char) : isKey (escapeAll rest) = isKey rest := by
  induction rest with
  | nil => rfl
  | cons c rest ih =>
      rw [escapeAll_cons, isKey_cons]
      by_cases special : c ∈ specialChars
      · rcases mem_specialChars.mp special with rfl | rfl | rfl <;> rfl
      · rw [escapeChar_of_not_mem special, List.singleton_append, isKey_cons, ih]

/-- The parts of the escaped text. -/
def Parts.escape : Parts → Parts
  | last gap => last (escapeAll gap)
  | next gap tokenClass literal rest =>
      next (escapeAll gap) tokenClass (escapeAll literal) rest.escape

theorem Parts.escape_push (c : Char) (parts : Parts) :
    (parts.push c).escape = (escapeChar c).foldr push parts.escape := by
  have pushed (front : List Char) (parts : Parts) : front.foldr push parts = match parts with
      | last gap => last (front ++ gap)
      | next gap tokenClass literal rest => next (front ++ gap) tokenClass literal rest := by
    induction front with
    | nil => cases parts <;> rfl
    | cons d front ih => cases parts <;> simp [ih, push]
  cases parts <;> simp [push, escape, pushed]

/-- Characters that are no quotes open no literals. -/
theorem cut_append {front : List Char} (noQuote : ∀ c ∈ front, c ≠ '"') (rest : List Char) :
    cut (front ++ rest) = front.foldr Parts.push (cut rest) := by
  induction front with
  | nil => rfl
  | cons c front ih =>
      rw [List.cons_append, cut_skip fun isQuote => absurd isQuote (noQuote c List.mem_cons_self),
        ih fun other member => noQuote other (List.mem_cons_of_mem c member), List.foldr_cons]

/-- An escaped text is cut where the text is. -/
theorem cut_escapeAll (text : List Char) : cut (escapeAll text) = (cut text).escape := by
  induction text using cut_induction with
  | nil =>
      rw [escapeAll_nil, cut]
      rfl
  | literal rest length closes ih =>
      obtain ⟨units, after, isUnits, rfl, rfl⟩ := closing?_eq_some_iff.mp closes
      rw [drop_units] at ih
      rw [cut_units isUnits]
      simp only [escapeAll_cons, escapeAll_append, escapeChar_quote, List.singleton_append,
        cut_units isUnits.escapeAll, isKey_escapeAll, ih, Parts.escape, escapeAll_nil]
  | skip c rest opens ih =>
      rw [cut_skip opens, Parts.escape_push, ← ih, escapeAll_cons]
      by_cases isQuote : c = '"'
      · subst isQuote
        have noneEscaped : closing? (escapeAll rest) = none := by
          rw [← Option.not_isSome_iff_eq_none, isSome_closing?_escapeAll, opens rfl]
          simp
        rw [escapeChar_quote, List.singleton_append, cut_skip fun _ => noneEscaped]
        rfl
      · exact cut_append (forall_mem_escapeChar isQuote (by simp [entityChars])) _

theorem Parts.escape_segments (parts : Parts) :
    parts.segments.map Segment.escape = parts.escape.segments := by
  induction parts with
  | last gap => rfl
  | next gap tokenClass literal rest ih =>
      simp only [segments, escape, List.map_cons, List.map_append, Segment.escape_ofMatch, ih,
        Segment.escape_keep]

/-- The first pass over an escaped text goes through the escaped segments. -/
theorem escape_literalSegments (text : List Char) :
    (Segment.ofSpans 0 text (literalSpans text)).map Segment.escape =
      Segment.ofSpans 0 (escapeAll text) (literalSpans (escapeAll text)) := by
  have segments (text : List Char) :
      Segment.ofSpans 0 text (literalSpans text) = (cut text).segments := by
    have whole := (cut text).ofSpans_literals 0
    rwa [text_cut, ← literalSpans_eq_literals] at whole
  rw [segments, segments, Parts.escape_segments, cut_escapeAll]

/-! ## Numbers, constants and punctuation -/

/-- The segments of a text from a position on, with the spans that are found there. -/
def segmentsAt (cursor : Cursor) : List Segment :=
  Segment.ofSpans cursor.offset cursor.rest (scalarsFrom cursor)

theorem segmentsAt_end {cursor : Cursor} (atEnd : cursor.rest = []) :
    segmentsAt cursor = [.keep []] := by
  rw [segmentsAt, scalarsFrom_end atEnd, atEnd, Segment.ofSpans]

theorem segmentsAt_skip {cursor : Cursor} (missing : scalar? cursor = none) {c : Char}
    {rest : List Char} (isRest : cursor.rest = c :: rest) :
    segmentsAt cursor = Segment.keepFront [c] (segmentsAt ⟨some c, rest, cursor.offset + 1⟩) := by
  rw [segmentsAt, scalarsFrom_skip missing isRest, isRest]
  exact Segment.ofSpans_skip (le_start_of_mem_scalarsFrom ⟨some c, rest, cursor.offset + 1⟩)

theorem segmentsAt_take {cursor : Cursor} {way : Way} {tokenClass : TokenClass} {run : List Char}
    (found : scalar? cursor = some (way, tokenClass))
    (isRest : cursor.rest = run ++ way.cursor.rest) :
    segmentsAt cursor = .keep [] :: (Segment.ofMatch tokenClass run ++ segmentsAt way.cursor) := by
  have total := (scalar?_leads found).1.offset_add_length
  rw [isRest, List.length_append] at total
  have length : way.cursor.offset - cursor.offset = run.length := by omega
  rw [segmentsAt, scalarsFrom_take found, isRest, Segment.ofSpans]
  simp [length, segmentsAt]

/-- Nothing is found in an entity. -/
theorem segmentsAt_escapeChar {c : Char} (special : c ∈ specialChars) (before : Option Char)
    (rest : List Char) (offset : Nat) :
    segmentsAt ⟨before, escapeChar c ++ rest, offset⟩ = Segment.keepFront (escapeChar c)
      (segmentsAt ⟨some ';', rest, offset + (escapeChar c).length⟩) := by
  have skip {d : Char} (begins : scalar.begins d = false) (before : Option Char)
      (rest : List Char) (offset : Nat) : segmentsAt ⟨before, d :: rest, offset⟩ =
        Segment.keepFront [d] (segmentsAt ⟨some d, rest, offset + 1⟩) :=
    segmentsAt_skip (scalar?_of_begins rfl begins) rfl
  -- a constant may begin with the last letter, but not inside of a word
  have skipLast {letter : Char} (alone : (scalar? ⟨some letter, ['t'], 0⟩).isNone = true)
      (rest : List Char) (offset : Nat) : segmentsAt ⟨some letter, 't' :: ';' :: rest, offset⟩ =
        Segment.keepFront ['t'] (segmentsAt ⟨some 't', ';' :: rest, offset + 1⟩) := by
    have stops : Stops (';' :: rest) := .cons (by decide +kernel) (by decide +kernel) rest
    have excerpt : Excerpt Eq (';' :: rest) ⟨some letter, 't' :: ';' :: rest, offset⟩
        ⟨some letter, ['t'], 0⟩ := ⟨⟨['t'], rfl, by simp⟩, rfl⟩
    rcases excerpt.scalar?_cases .inl stops with ⟨missing, -⟩ | ⟨_, _, _, _, found⟩
    · exact segmentsAt_skip missing rfl
    · rw [found.isThere] at alone
      cases alone
  have ampersand : scalar.begins '&' = false := by decide +kernel
  have semicolon : scalar.begins ';' = false := by decide +kernel
  rcases mem_specialChars.mp special with rfl | rfl | rfl
  · change segmentsAt ⟨before, '&' :: 'a' :: 'm' :: 'p' :: ';' :: rest, offset⟩ = _
    rw [skip ampersand, skip (by decide +kernel), skip (by decide +kernel),
      skip (by decide +kernel), skip semicolon]
    simp only [Segment.keepFront_keepFront]
    rfl
  · change segmentsAt ⟨before, '&' :: 'l' :: 't' :: ';' :: rest, offset⟩ = _
    rw [skip ampersand, skip (by decide +kernel), skipLast (by decide +kernel), skip semicolon]
    simp only [Segment.keepFront_keepFront]
    rfl
  · change segmentsAt ⟨before, '&' :: 'g' :: 't' :: ';' :: rest, offset⟩ = _
    rw [skip ampersand, skip (by decide +kernel), skipLast (by decide +kernel), skip semicolon]
    simp only [Segment.keepFront_keepFront]
    rfl

/-- A position in a text and the one that it becomes when the text is escaped. -/
structure Escapes (here there : Cursor) : Prop where
  rest : there.rest = escapeAll here.rest
  beside : WordKind.unicode.holds here.before = WordKind.unicode.holds there.before

/-- A number, a constant or a mark is found at both positions, and behind it the text goes on as it
does when it is escaped. -/
structure FoundEscaped (here there : Cursor) (tokenClass : TokenClass) (run : List Char)
    (way other : Way) : Prop where
  isHere : scalar? here = some (way, tokenClass)
  isThere : scalar? there = some (other, tokenClass)
  itself : escapeAll run = run
  restHere : here.rest = run ++ way.cursor.rest
  restThere : there.rest = run ++ other.cursor.rest
  behind : Escapes way.cursor other.cursor

theorem escapeAll_of_plain {text : List Char} (plain : ∀ c ∈ text, c ∉ specialChars) :
    escapeAll text = text := by
  induction text with
  | nil => rfl
  | cons c text ih =>
      rw [escapeAll_cons, escapeChar_of_not_mem (plain c List.mem_cons_self), List.singleton_append,
        ih fun other member => plain other (List.mem_cons_of_mem c member)]

theorem stops_of_special {c : Char} (special : c ∈ specialChars) (tail : List Char) :
    Stops (c :: tail) := by
  rcases mem_specialChars.mp special with rfl | rfl | rfl <;>
    exact .cons (by decide +kernel) (by decide +kernel) tail

theorem exists_escapeChar_eq {c : Char} (special : c ∈ specialChars) :
    ∃ name, escapeChar c = '&' :: name := by
  rcases mem_specialChars.mp special with rfl | rfl | rfl <;> exact ⟨_, rfl⟩

/-- A text up to its first special character, and the same when it is escaped. -/
theorem exists_plain_append (text : List Char) :
    ∃ stretch tail, text = stretch ++ tail ∧ (∀ c ∈ stretch, c ∉ specialChars) ∧ Stops tail ∧
      Stops (escapeAll tail) := by
  induction text with
  | nil => exact ⟨[], [], rfl, by simp, .nil, .nil⟩
  | cons c text ih =>
      by_cases special : c ∈ specialChars
      · obtain ⟨name, written⟩ := exists_escapeChar_eq special
        refine ⟨[], c :: text, rfl, by simp, stops_of_special special text, ?_⟩
        rw [escapeAll_cons, written]
        exact stops_of_special (by decide) _
      · obtain ⟨stretch, tail, rfl, plain, stops, escapedStops⟩ := ih
        refine ⟨c :: stretch, tail, rfl, ?_, stops, escapedStops⟩
        simpa using ⟨special, plain⟩

/-- The same is found at both positions, or nothing is. -/
theorem Escapes.scalar?_cases {here there : Cursor} (escapes : Escapes here there) :
    (scalar? here = none ∧ scalar? there = none) ∨
      ∃ tokenClass run way other, FoundEscaped here there tokenClass run way other := by
  obtain ⟨stretch, tail, isRest, plain, stops, escapedStops⟩ := exists_plain_append here.rest
  have isEscaped : there.rest = stretch ++ escapeAll tail := by
    rw [escapes.rest, isRest, escapeAll_append, escapeAll_of_plain plain]
  -- both positions are compared with the stretch up to the first special character, by itself
  have whole : List.Forall₂ Eq stretch stretch := List.forall₂_same.mpr fun _ _ => rfl
  let alone : Cursor := ⟨here.before, stretch, 0⟩
  have first : Excerpt Eq tail here alone := ⟨⟨stretch, isRest, whole⟩, rfl⟩
  have second : Excerpt Eq (escapeAll tail) there alone :=
    ⟨⟨stretch, isEscaped, whole⟩, escapes.beside.symm⟩
  rcases first.scalar?_cases .inl stops with
    ⟨noneHere, noneAlone⟩ | ⟨tokenClass, run, way, middle, found⟩
  · rcases second.scalar?_cases .inl escapedStops with
      ⟨noneThere, -⟩ | ⟨_, _, _, _, otherFound⟩
    · exact .inl ⟨noneHere, noneThere⟩
    · exact absurd otherFound.isThere (by simp [noneAlone])
  · rcases second.scalar?_cases .inl escapedStops with
      ⟨-, noneAlone⟩ | ⟨otherClass, otherRun, other, otherMiddle, otherFound⟩
    · exact absurd found.isThere (by simp [noneAlone])
    · have sameFound := found.isThere.symm.trans otherFound.isThere
      rw [Option.some_inj, Prod.mk.injEq] at sameFound
      obtain ⟨rfl, rfl⟩ := sameFound
      obtain rfl : run = otherRun :=
        List.append_cancel_right (found.restThere.symm.trans otherFound.restThere)
      have itself : escapeAll run = run := by
        refine escapeAll_of_plain fun c member => plain c ?_
        have isStretch : stretch = run ++ middle.cursor.rest := found.restThere
        rw [isStretch]
        exact List.mem_append_left _ member
      have behind : Escapes way.cursor other.cursor := by
        refine ⟨?_, found.excerpt.beside.trans otherFound.excerpt.beside.symm⟩
        have isThere := escapes.rest
        rw [otherFound.restHere, found.restHere, escapeAll_append, itself] at isThere
        exact List.append_cancel_left isThere
      exact .inr ⟨tokenClass, run, way, other, found.isHere, otherFound.isHere, itself,
        found.restHere, otherFound.restHere, behind⟩

/-- The segments of the second pass are escaped segments from each position on. -/
theorem Escapes.segmentsAt_eq {here there : Cursor} (escapes : Escapes here there) :
    (segmentsAt here).map Segment.escape = segmentsAt there := by
  have isThere := escapes.rest
  rcases escapes.scalar?_cases with
    ⟨noneHere, noneThere⟩ | ⟨tokenClass, run, way, other, found⟩
  · cases isRest : here.rest with
    | nil =>
        rw [isRest, escapeAll_nil] at isThere
        rw [segmentsAt_end isRest, segmentsAt_end isThere]
        rfl
    | cons c rest =>
        have shorter : rest.length < here.rest.length := by simp [isRest]
        rw [isRest, escapeAll_cons] at isThere
        rw [segmentsAt_skip noneHere isRest, Segment.map_escape_keepFront, escapeAll_cons,
          escapeAll_nil, List.append_nil]
        by_cases special : c ∈ specialChars
        · obtain ⟨before, text, offset⟩ := there
          dsimp only at isThere
          have next : Escapes ⟨some c, rest, here.offset + 1⟩
              ⟨some ';', escapeAll rest, offset + (escapeChar c).length⟩ := by
            have noWord : WordKind.unicode.holds (some ';') = false := by decide +kernel
            exact ⟨rfl, (stops_of_special special rest).word.trans noWord.symm⟩
          rw [isThere, segmentsAt_escapeChar special, segmentsAt_eq next]
        · rw [escapeChar_of_not_mem special, List.singleton_append] at isThere
          have next : Escapes ⟨some c, rest, here.offset + 1⟩
              ⟨some c, escapeAll rest, there.offset + 1⟩ := ⟨rfl, rfl⟩
          rw [segmentsAt_skip noneThere isThere, escapeChar_of_not_mem special, segmentsAt_eq next]
  · have shorter := (scalar?_leads found.isHere).2
    rw [segmentsAt_take found.isHere found.restHere, segmentsAt_take found.isThere found.restThere,
      List.map_cons, List.map_append, Segment.escape_ofMatch, found.itself,
      segmentsAt_eq found.behind]
    rfl
termination_by here.rest.length

/-- The second pass over an escaped text goes through the escaped segments. -/
theorem escape_scalarSegments (text : List Char) :
    (Segment.ofSpans 0 text (scalarSpans text)).map Segment.escape =
      Segment.ofSpans 0 (escapeAll text) (scalarSpans (escapeAll text)) := by
  have escapes : Escapes (.start text) (.start (escapeAll text)) := ⟨rfl, rfl⟩
  rw [scalarSpans_eq_scalarsFrom, scalarSpans_eq_scalarsFrom]
  exact escapes.segmentsAt_eq

/-! ## The tokenizer -/

theorem passes_escape (start : Working) :
    passes (Working.escape start) = (passes start).escape := by
  have literals := Working.escape_replaceSpans (escape_literalSegments start.2)
  generalize isMiddle : start.1.replaceSpans start.2 (literalSpans start.2) = middle at literals
  have scalars := Working.escape_replaceSpans (escape_scalarSegments middle.2)
  have isEscaped : start.escape.1.replaceSpans start.escape.2 (literalSpans start.escape.2) =
      Working.escape middle := literals
  rw [passes, passes, isMiddle, isEscaped]
  exact scalars

/-- Splitting a text into tokens commutes with escaping, whether it is well-formed or not, with
reserved characters in it or without, and also when the placeholders run out. -/
theorem tokenize_escape (text : String) :
    tokenize (Html.escape text) = (tokenize text).map fun token =>
      { token with text := Html.escape token.text } := by
  rw [tokenize_eq_tokensBy, tokenize_eq_tokensBy, tokensBy_escape passes_escape]
  rfl

end Tint.Structured
