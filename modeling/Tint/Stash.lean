import Tint.Regex.Matcher
import Tint.Token

/-!
# Putting classified text away

Rules are applied one after the other to a working text.  What a rule matches is put away in a
`Stash` and a single placeholder character is left in its place, so that no later rule can match it
again or match across its contents.  At the end the placeholders are turned back into classified
tokens.

Placeholders are characters of the two supplementary private use planes, which are no word
characters, digits or blanks.  Characters of these planes that the text itself contains are put away
as plain text before any rule runs.
-/

namespace Tint

open Tint.Regex Tint.Unicode

/-- Characters of the two supplementary private use planes, which are kept for placeholders. -/
def isReserved (c : Char) : Bool :=
  0xF0000 ≤ c.toNat

/-- The placeholders of one plane: the last two code points of a plane are no characters. -/
def slotsPerPlane : Nat := 0xFFFE

/-- The number of placeholders. -/
def slotLimit : Nat := 2 * slotsPerPlane

/-- The placeholder of a slot; `none` if there are not that many. -/
def slotChar? (slot : Nat) : Option Char :=
  if slot < slotsPerPlane then some (Char.ofNat (0xF0000 + slot))
  else if slot < slotLimit then some (Char.ofNat (0x100000 + (slot - slotsPerPlane)))
  else none

/-- The slot of a placeholder. -/
def slotOf? (c : Char) : Option Nat :=
  let code := c.toNat
  if 0xF0000 ≤ code ∧ code < 0xF0000 + slotsPerPlane then some (code - 0xF0000)
  else if 0x100000 ≤ code ∧ code < 0x100000 + slotsPerPlane then
    some (code - 0x100000 + slotsPerPlane)
  else none

/-- The tokens put away, in the order of their slots. -/
structure Stash where
  tokens : Array Token := #[]
  deriving Repr

namespace Stash

/-- The placeholder of the next token to be put away; `none` once all are in use. -/
def next? (stash : Stash) : Option Char :=
  slotChar? stash.tokens.size

/-- Puts a token away in the next slot. -/
def push (stash : Stash) (token : Token) : Stash :=
  ⟨stash.tokens.push token⟩

end Stash

/-- A working text being written: the stash so far, and the text so far with its last character
first. -/
structure Draft where
  stash : Stash
  written : List Char := []

namespace Draft

/-- Writes one character as it is. -/
def keep (draft : Draft) (c : Char) : Draft :=
  { draft with written := c :: draft.written }

/-- Writes text as it is. -/
def keepAll (draft : Draft) (text : List Char) : Draft :=
  { draft with written := text.reverseAux draft.written }

/-- The finished text. -/
def text (draft : Draft) : List Char :=
  draft.written.reverse

/-- Puts a run of text away under a class and writes its placeholder.  The run stays as it is if it
is empty or if no placeholder is left. -/
def classifyRun (draft : Draft) (tokenClass : TokenClass) (run : List Char) : Draft :=
  if run.isEmpty then draft
  else
    let ⟨stash, written⟩ := draft
    match stash.next? with
    | some c => ⟨stash.push (.classified tokenClass (String.ofList run)), c :: written⟩
    | none => ⟨stash, run.reverseAux written⟩

/-- Classifies a run next to a placeholder; blanks alone stay plain there. -/
def classifyPiece (draft : Draft) (tokenClass : TokenClass) (run : List Char) : Draft :=
  if run.all isSpace then draft.keepAll run else draft.classifyRun tokenClass run

/-- Classifies the runs between the placeholders of a match, which stay as they are.  `run` holds
the characters since the last placeholder, last first. -/
def classifyPieces (draft : Draft) (tokenClass : TokenClass) (run : List Char) :
    List Char → Draft
  | [] => draft.classifyPiece tokenClass run.reverse
  | c :: rest =>
      if isReserved c then
        ((draft.classifyPiece tokenClass run.reverse).keep c).classifyPieces tokenClass [] rest
      else draft.classifyPieces tokenClass (c :: run) rest

/-- Classifies a match: as a whole, or the runs between the placeholders in it. -/
def classify (draft : Draft) (tokenClass : TokenClass) (matched : List Char) : Draft :=
  if matched.any isReserved then draft.classifyPieces tokenClass [] matched
  else draft.classifyRun tokenClass matched

/-- Classifies the given spans of a text and keeps what lies between them.  `offset` counts the
characters that come before `text`. -/
def classifySpans (draft : Draft) (offset : Nat) (text : List Char) :
    List (Span × TokenClass) → Draft
  | [] => draft.keepAll text
  | (span, tokenClass) :: spans =>
      let (before, text) := text.splitAt (span.start - offset)
      let (matched, text) := text.splitAt (span.stop - span.start)
      ((draft.keepAll before).classify tokenClass matched).classifySpans span.stop text spans

end Draft

namespace Stash

/-- Puts away the reserved characters of a text as plain tokens, behind what `draft` holds; `none`
if the text has more of them than there are placeholders. -/
def protectFrom (draft : Draft) : List Char → Option Draft
  | [] => some draft
  | c :: rest =>
      if isReserved c then
        let ⟨stash, written⟩ := draft
        match stash.next? with
        | some placeholder =>
            protectFrom ⟨stash.push (.plain c.toString), placeholder :: written⟩ rest
        | none => none
      else protectFrom (draft.keep c) rest

/-- The working text for a source text, with a stash of its reserved characters. -/
def protect (text : List Char) : Option (Stash × List Char) :=
  (protectFrom ⟨{}, []⟩ text).map fun draft => (draft.stash, draft.text)

/-- Puts away the given spans of a working text, which are in order and apart from each other. -/
def replaceSpans (stash : Stash) (text : List Char) (spans : List (Span × TokenClass)) :
    Stash × List Char :=
  let draft := Draft.classifySpans ⟨stash, []⟩ 0 text spans
  (draft.stash, draft.text)

/-- The tokens so far, last first, with the plain text gathered since as a token of its own.  The
plain text is given last character first. -/
def flushPlain (plain : List Char) (done : List Token) : List Token :=
  if plain.isEmpty then done else .plain (String.ofList plain.reverse) :: done

/-- The slot of a placeholder that is in use, and the token in it. -/
def held? (stash : Stash) (c : Char) : Option (Nat × Token) := do
  let slot ← slotOf? c
  let token ← stash.tokens[slot]?
  return (slot, token)

/-- Moves the text out of a slot. -/
def takeText (stash : Stash) (slot : Nat) : Stash :=
  ⟨stash.tokens.modify slot fun token => { token with text := "" }⟩

/-- Turns a working text back into tokens: a placeholder stands for the token put away in its slot,
whose text moves out with it, and plain text that meets is joined. -/
def resolveFrom (stash : Stash) (plain : List Char) (done : List Token) :
    List Char → List Token
  | [] => (flushPlain plain done).reverse
  | c :: rest =>
      match stash.held? c with
      | none => resolveFrom stash (c :: plain) done rest
      | some (slot, token) =>
          match token.tokenClass with
          | none => resolveFrom stash (token.text.toList.reverseAux plain) done rest
          | some _ =>
              resolveFrom (stash.takeText slot) [] (token :: flushPlain plain done) rest

/-- The tokens of a working text. -/
def resolve (stash : Stash) (text : List Char) : List Token :=
  resolveFrom stash [] [] text

end Stash

end Tint
