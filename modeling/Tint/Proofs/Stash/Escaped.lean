import Tint.Proofs.Markup.Reading
import Tint.Proofs.Tokenized

/-!
# Passes over escaped text

Escaping changes what is put away and what is left, but not how many characters are reserved, which
runs are there to be put away, and how many slots they take.  So a pass over an escaped text, if it
goes through the segments of the text in their escaped form, comes to the escaped form of what the
pass over the text itself comes to.
-/

namespace Tint

open Tint.Regex Tint.Unicode

namespace Html

/-- The characters of a text in their written forms. -/
def escapeAll (text : List Char) : List Char :=
  text.flatMap escapeChar

@[simp] theorem escapeAll_nil : escapeAll [] = [] := rfl

@[simp] theorem escapeAll_cons (c : Char) (text : List Char) :
    escapeAll (c :: text) = escapeChar c ++ escapeAll text := rfl

@[simp] theorem escapeAll_append (first second : List Char) :
    escapeAll (first ++ second) = escapeAll first ++ escapeAll second :=
  List.flatMap_append

theorem escape_eq (text : String) : escape text = String.ofList (escapeAll text.toList) := by
  rw [← String.toList_inj, toList_escape, String.toList_ofList, escapeAll]

/-- The characters that entities are made of. -/
def entityChars : List Char :=
  ['&', 'a', 'm', 'p', 'l', 't', 'g', ';']

/-- What holds of a character and of those of the entities holds of its written form. -/
theorem forall_mem_escapeChar {holds : Char → Prop} {c : Char} (itself : holds c)
    (entities : ∀ d ∈ entityChars, holds d) : ∀ d ∈ escapeChar c, holds d := by
  intro d member
  by_cases special : c ∈ specialChars
  · refine entities d ?_
    rcases mem_specialChars.mp special with rfl | rfl | rfl <;>
      simp [escapeChar, entityChars] at member ⊢ <;> grind
  · rw [escapeChar_of_not_mem special, List.mem_singleton] at member
    rwa [member]

theorem escapeChar_ne_nil (c : Char) : escapeChar c ≠ [] := by
  by_cases special : c ∈ specialChars
  · rcases mem_specialChars.mp special with rfl | rfl | rfl <;> decide
  · simp [escapeChar_of_not_mem special]

@[simp] theorem escapeAll_eq_nil_iff {text : List Char} : escapeAll text = [] ↔ text = [] := by
  cases text with
  | nil => simp
  | cons c text => simp [escapeChar_ne_nil]

/-- Reserved characters have no entities. -/
theorem escapeChar_of_isReserved {c : Char} (reserved : isReserved c = true) :
    escapeChar c = [c] := by
  refine escapeChar_of_not_mem fun special => ?_
  have ordinary : ∀ d ∈ specialChars, isReserved d = false := by simp [specialChars, isReserved]
  simp [ordinary c special] at reserved

theorem ordinary_escapeChar {c : Char} (ordinary : isReserved c = false) :
    ∀ d ∈ escapeChar c, isReserved d = false :=
  forall_mem_escapeChar ordinary (by simp [entityChars, isReserved])

@[simp] theorem any_isReserved_escapeAll (text : List Char) :
    (escapeAll text).any isReserved = text.any isReserved := by
  induction text with
  | nil => rfl
  | cons c text ih =>
      rw [escapeAll_cons, List.any_append, List.any_cons, ih]
      congr 1
      cases reserved : isReserved c with
      | true => simp [escapeChar_of_isReserved reserved, reserved]
      | false => simpa using ordinary_escapeChar reserved

theorem isSpace_of_mem_specialChars {c : Char} (special : c ∈ specialChars) :
    isSpace c = false := by
  rcases mem_specialChars.mp special with rfl | rfl | rfl <;> rfl

@[simp] theorem all_isSpace_escapeAll (text : List Char) :
    (escapeAll text).all isSpace = text.all isSpace := by
  induction text with
  | nil => rfl
  | cons c text ih =>
      rw [escapeAll_cons, List.all_append, List.all_cons, ih]
      congr 1
      by_cases special : c ∈ specialChars
      · rw [isSpace_of_mem_specialChars special]
        rcases mem_specialChars.mp special with rfl | rfl | rfl <;> decide
      · simp [escapeChar_of_not_mem special]

end Html

open Html

/-! ## Escaped forms -/

/-- A token of the escaped text, in the same class. -/
def Token.escape (token : Token) : Token :=
  { token with text := Html.escape token.text }

namespace Token

@[simp] theorem tokenClass_escape (token : Token) : token.escape.tokenClass = token.tokenClass :=
  rfl

@[simp] theorem toList_text_escape (token : Token) :
    token.escape.text.toList = escapeAll token.text.toList := by
  rw [escape, toList_escape, escapeAll]

theorem escape_plain (text : List Char) :
    (plain (String.ofList text)).escape = plain (String.ofList (escapeAll text)) := by
  simp [escape, plain, escape_eq]

theorem escape_classified (tokenClass : TokenClass) (run : List Char) :
    (classified tokenClass (String.ofList run)).escape =
      classified tokenClass (String.ofList (escapeAll run)) := by
  simp [escape, classified, escape_eq]

end Token

/-- The stash of the escaped tokens. -/
def Stash.escape (stash : Stash) : Stash :=
  ⟨stash.tokens.map Token.escape⟩

namespace Stash

@[simp] theorem escape_empty : Stash.escape {} = {} := by
  simp [escape]

@[simp] theorem next?_escape (stash : Stash) : stash.escape.next? = stash.next? := by
  simp [next?, escape]

theorem escape_push (stash : Stash) (token : Token) :
    (stash.push token).escape = stash.escape.push token.escape := by
  simp [push, escape]

theorem held?_escape (stash : Stash) (c : Char) :
    stash.escape.held? c = (stash.held? c).map fun held => (held.1, held.2.escape) := by
  cases slotEq : slotOf? c with
  | none => simp [held?, slotEq]
  | some slot => cases found : stash.tokens[slot]? <;> simp [held?, slotEq, escape, found]

theorem escape_takeText (stash : Stash) (slot : Nat) :
    (stash.takeText slot).escape = stash.escape.takeText slot := by
  have empty : Html.escape "" = "" := rfl
  refine congrArg Stash.mk (Array.ext_getElem? fun other => ?_)
  simp only [escape, takeText, Array.getElem?_map, Array.getElem?_modify]
  split
  · simp [Token.escape, empty, Function.comp_def]
  · rfl

end Stash

/-- The segment of the escaped text, with the same to be done. -/
def Segment.escape : Segment → Segment
  | keep text => keep (escapeAll text)
  | claim tokenClass run => claim tokenClass (escapeAll run)

namespace Segment

@[simp] theorem escape_keep (kept : List Char) : (keep kept).escape = keep (escapeAll kept) := rfl

@[simp] theorem escape_claim (tokenClass : TokenClass) (run : List Char) :
    (claim tokenClass run).escape = claim tokenClass (escapeAll run) := rfl

theorem escape_piece (tokenClass : TokenClass) (run : List Char) :
    (piece tokenClass run).escape = piece tokenClass (escapeAll run) := by
  rw [piece, piece, all_isSpace_escapeAll]
  split <;> rfl

/-- Ordinary characters only make the run longer that a piece begins with. -/
theorem pieces_append {tokenClass : TokenClass} {front : List Char}
    (ordinary : ∀ c ∈ front, isReserved c = false) (run text : List Char) :
    pieces tokenClass run (front ++ text) = pieces tokenClass (front.reverse ++ run) text := by
  induction front generalizing run with
  | nil => rfl
  | cons c front ih =>
      rw [List.cons_append, pieces, ordinary c List.mem_cons_self, if_neg (by simp),
        ih fun other member => ordinary other (List.mem_cons_of_mem c member)]
      simp

theorem escape_pieces (tokenClass : TokenClass) (run text : List Char) :
    (pieces tokenClass run text).map escape =
      pieces tokenClass (escapeAll run.reverse).reverse (escapeAll text) := by
  induction text generalizing run with
  | nil => simp [pieces, escape_piece]
  | cons c text ih =>
      rw [pieces]
      cases reserved : isReserved c with
      | true =>
          have itself := escapeChar_of_isReserved reserved
          simp only [if_true, List.map_cons, escape_piece, ih, escape_keep, escapeAll_cons,
            escapeAll_nil, itself, List.singleton_append, pieces, reserved, List.reverse_reverse,
            List.reverse_nil]
      | false =>
          rw [if_neg (by simp), ih, escapeAll_cons, pieces_append (ordinary_escapeChar reserved),
            List.reverse_cons, escapeAll_append, List.reverse_append]
          simp

/-- The segments of an escaped match are those of the match. -/
theorem escape_ofMatch (tokenClass : TokenClass) (matched : List Char) :
    (ofMatch tokenClass matched).map escape = ofMatch tokenClass (escapeAll matched) := by
  rw [ofMatch, ofMatch, any_isReserved_escapeAll]
  split
  · rw [escape_pieces]
    rfl
  · rfl

theorem map_escape_keepFront (front : List Char) (segments : List Segment) :
    (keepFront front segments).map escape =
      keepFront (escapeAll front) (segments.map escape) := by
  cases segments with
  | nil => rfl
  | cons segment segments => cases segment <;> simp [keepFront]

end Segment

/-! ## Passes -/

/-- A draft of the escaped text: what has been put away and what has been written are the escaped
forms of what they are in a draft of the text. -/
structure Draft.Escapes (draft escaped : Draft) : Prop where
  stash : escaped.stash = draft.stash.escape
  text : escaped.text = escapeAll draft.text

namespace Draft

namespace Escapes

variable {draft escaped : Draft}

theorem keepAll (escapes : draft.Escapes escaped) (kept : List Char) :
    (draft.keepAll kept).Escapes (escaped.keepAll (escapeAll kept)) where
  stash := escapes.stash
  text := by simp [escapes.text]

theorem put {placeholder : Char} (free : draft.stash.next? = some placeholder)
    (escapes : draft.Escapes escaped) (token : Token) :
    Draft.Escapes ⟨draft.stash.push token, placeholder :: draft.written⟩
      ⟨escaped.stash.push token.escape, placeholder :: escaped.written⟩ where
  stash := by rw [escapes.stash, Stash.escape_push]
  text := by
    have itself : escapeChar placeholder = [placeholder] :=
      escapeChar_of_isReserved (isReserved_of_slotOf? (slotOf?_slotChar? free))
    have sameText := escapes.text
    simp only [Draft.text] at sameText
    simp [Draft.text, itself, sameText]

theorem write (escapes : draft.Escapes escaped) (segment : Segment) :
    (draft.write segment).Escapes (escaped.write segment.escape) := by
  cases segment with
  | keep kept => exact escapes.keepAll kept
  | claim tokenClass run =>
      rw [Segment.escape, Draft.write, Draft.write]
      by_cases empty : run = []
      · subst empty
        exact escapes
      · have sameNext : escaped.stash.next? = draft.stash.next? := by
          rw [escapes.stash, Stash.next?_escape]
        cases free : draft.stash.next? with
        | none =>
            rw [classifyRun_of_full free, classifyRun_of_full (sameNext.trans free)]
            exact escapes.keepAll run
        | some placeholder =>
            rw [classifyRun_of_free free empty,
              classifyRun_of_free (sameNext.trans free) (by simpa using empty),
              ← Token.escape_classified]
            exact escapes.put free _

theorem foldl_write (escapes : draft.Escapes escaped) (segments : List Segment) :
    (segments.foldl Draft.write draft).Escapes
      ((segments.map Segment.escape).foldl Draft.write escaped) := by
  induction segments generalizing draft escaped with
  | nil => exact escapes
  | cons segment segments ih => exact ih (escapes.write segment)

end Escapes

end Draft

/-- A working text and its stash in their escaped forms. -/
def Working.escape (working : Working) : Working :=
  (working.1.escape, escapeAll working.2)

theorem Draft.Escapes.working_eq {draft escaped : Draft} (escapes : draft.Escapes escaped) :
    (escaped.stash, escaped.text) = Working.escape (draft.stash, draft.text) :=
  Prod.ext escapes.stash escapes.text

/-- A pass over an escaped text that goes through the escaped segments of the text. -/
theorem Working.escape_replaceSpans {working : Working}
    {spans escapedSpans : List (Span × TokenClass)}
    (same : (Segment.ofSpans 0 working.2 spans).map Segment.escape =
      Segment.ofSpans 0 (escapeAll working.2) escapedSpans) :
    working.escape.1.replaceSpans working.escape.2 escapedSpans =
      Working.escape (working.1.replaceSpans working.2 spans) := by
  have begun : Draft.Escapes ⟨working.1, []⟩ ⟨working.escape.1, []⟩ := ⟨rfl, rfl⟩
  have passed := begun.foldl_write (Segment.ofSpans 0 working.2 spans)
  rw [same, ← Draft.classifySpans_eq_foldl, ← Draft.classifySpans_eq_foldl] at passed
  exact passed.working_eq

/-! ## Before and after the passes -/

namespace Stash

/-- Ordinary characters are only kept. -/
theorem protectFrom_append {front : List Char} (ordinary : ∀ c ∈ front, isReserved c = false)
    (draft : Draft) (rest : List Char) :
    protectFrom draft (front ++ rest) = protectFrom (draft.keepAll front) rest := by
  induction front generalizing draft with
  | nil => rfl
  | cons c front ih =>
      rw [List.cons_append, protectFrom, ordinary c List.mem_cons_self, if_neg (by simp),
        ih fun other member => ordinary other (List.mem_cons_of_mem c member)]
      rfl

theorem protectFrom_escapes {draft escaped : Draft} (escapes : draft.Escapes escaped)
    (source : List Char) :
    Option.Rel Draft.Escapes (protectFrom draft source)
      (protectFrom escaped (escapeAll source)) := by
  induction source generalizing draft escaped with
  | nil => exact .some escapes
  | cons c source ih =>
      rw [escapeAll_cons]
      cases reserved : isReserved c with
      | true =>
          have itself := escapeChar_of_isReserved reserved
          have literal : (Token.plain c.toString).escape = Token.plain c.toString := by
            have single := Token.escape_plain [c]
            rwa [escapeAll_cons, escapeAll_nil, List.append_nil, itself] at single
          have sameNext : escaped.stash.next? = draft.stash.next? := by
            rw [escapes.stash, Stash.next?_escape]
          rw [itself, List.singleton_append, protectFrom, protectFrom, reserved, if_pos rfl,
            if_pos rfl, sameNext]
          cases free : draft.stash.next? with
          | none => exact .none
          | some placeholder =>
              have next := escapes.put free (Token.plain c.toString)
              rw [literal] at next
              exact ih next
      | false =>
          rw [protectFrom_append (ordinary_escapeChar reserved), protectFrom, reserved,
            if_neg (by simp)]
          have kept := escapes.keepAll [c]
          rw [escapeAll_cons, escapeAll_nil, List.append_nil] at kept
          exact ih kept

theorem protect_escapeAll (source : List Char) :
    protect (escapeAll source) = (protect source).map Working.escape := by
  have begun : Draft.Escapes ⟨{}, []⟩ ⟨{}, []⟩ := ⟨Stash.escape_empty.symm, rfl⟩
  have related := protectFrom_escapes begun source
  rw [protect, protect]
  generalize protectFrom ⟨{}, []⟩ source = result at *
  generalize protectFrom ⟨{}, []⟩ (escapeAll source) = escapedResult at *
  cases related with
  | none => rfl
  | some escapes => exact congrArg some escapes.working_eq

theorem flushPlain_escape (plain : List Char) (done : List Token) :
    flushPlain (escapeAll plain.reverse).reverse (done.map Token.escape) =
      (flushPlain plain done).map Token.escape := by
  by_cases empty : plain = []
  · subst empty
    rfl
  · simp [flushPlain, empty, Token.escape_plain]

/-- Characters that hold nothing are plain text. -/
theorem resolveFrom_append {stash : Stash} {front : List Char}
    (missing : ∀ c ∈ front, stash.held? c = none) (plain : List Char) (done : List Token)
    (rest : List Char) :
    stash.resolveFrom plain done (front ++ rest) =
      stash.resolveFrom (front.reverse ++ plain) done rest := by
  induction front generalizing plain with
  | nil => rfl
  | cons c front ih =>
      rw [List.cons_append, resolveFrom, missing c List.mem_cons_self]
      dsimp only
      rw [ih fun other member => missing other (List.mem_cons_of_mem c member)]
      simp

/-- The tokens of an escaped working text are the escaped tokens. -/
theorem resolveFrom_escape (stash : Stash) (plain : List Char) (done : List Token)
    (text : List Char) :
    stash.escape.resolveFrom (escapeAll plain.reverse).reverse (done.map Token.escape)
        (escapeAll text) =
      (stash.resolveFrom plain done text).map Token.escape := by
  induction text generalizing stash plain done with
  | nil => rw [resolveFrom, escapeAll_nil, resolveFrom, flushPlain_escape, List.map_reverse]
  | cons c text ih =>
      cases found : stash.held? c with
      | none =>
          have missing : ∀ d ∈ escapeChar c, stash.escape.held? d = none := by
            refine forall_mem_escapeChar ?_ fun d member => ?_
            · rw [held?_escape, found, Option.map_none]
            · have ordinary : ∀ d ∈ entityChars, isReserved d = false := by
                simp [entityChars, isReserved]
              exact held?_of_ordinary (ordinary d member)
          have later := ih stash (c :: plain) done
          rw [List.reverse_cons, escapeAll_append, List.reverse_append] at later
          rw [escapeAll_cons, resolveFrom_append missing, resolveFrom, found]
          simpa using later
      | some held =>
          obtain ⟨slot, token⟩ := held
          have reserved := isReserved_of_slotOf? (held?_eq_some_iff.mp found).1
          rw [escapeAll_cons, escapeChar_of_isReserved reserved, List.singleton_append, resolveFrom,
            resolveFrom, held?_escape, found]
          simp only [Option.map_some, Token.tokenClass_escape]
          cases token.tokenClass with
          | none =>
              have later := ih stash (token.text.toList.reverseAux plain) done
              simpa using later
          | some tokenClass =>
              have later := ih (stash.takeText slot) [] (token :: flushPlain plain done)
              rw [flushPlain_escape, ← escape_takeText]
              exact later

theorem resolve_escape (working : Working) :
    working.escape.1.resolve working.escape.2 =
      (working.1.resolve working.2).map Token.escape :=
  resolveFrom_escape working.1 [] [] working.2

end Stash

/-- Tokenizing commutes with escaping if the passes do. -/
theorem tokensBy_escape {passes : Working → Working}
    (commute : ∀ start, passes (Working.escape start) = (passes start).escape) (text : String) :
    tokensBy passes (Html.escape text) = (tokensBy passes text).map Token.escape := by
  rw [tokensBy, tokensBy, toList_escape, ← escapeAll, Stash.protect_escapeAll]
  cases Stash.protect text.toList with
  | none => rfl
  | some start =>
      simp only [Option.map_some, commute]
      exact Stash.resolve_escape (passes start)

end Tint
