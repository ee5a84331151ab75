import Tint.Proofs.Json.Grammar
import Tint.Proofs.Regex.Prefers
import Tint.Structured

/-!
# What stands beside a lexical token

A tokenizer without a grammar goes by neighbours: a string is a name if a colon comes next, and
numbers and constants end where a character comes that cannot be part of a word.  In a valid text
these signs agree with the grammar, however deep the text is nested, because a value is followed by
a comma, a closing bracket or the end, and a name by a colon.

The induction over a derivation carries what may follow, so that each case can look at its
neighbours without knowing what is around it.
-/

namespace Tint.Json

open Tint.Regex Tint.Unicode

/-- A neighbour that no word or number can run into, or none at all. -/
def IsApart (neighbour : Option Char) : Prop :=
  ∀ c ∈ neighbour, c ∈ blanks ++ marks

/-- Pieces each of which has beside it what its class asks for.  `before` is the character in front
of them. -/
inductive IsLexical : Option Char → List Token → Prop where
  | nil {before : Option Char} : IsLexical before []
  | blank {before : Option Char} {run : List Char} {rest : List Token} (isBlank : IsBlank run)
      (isRest : IsLexical (lastOf before run) rest) : IsLexical before (blankPiece run :: rest)
  | mark {before : Option Char} {mark : Char} {rest : List Token} (known : mark ∈ marks)
      (isRest : IsLexical (some mark) rest) : IsLexical before (markPiece mark :: rest)
  | constant {before : Option Char} {name : String} {rest : List Token}
      (known : name ∈ ["true", "false", "null"]) (apartBefore : IsApart before)
      (apartAfter : IsApart (Token.chars rest).head?)
      (isRest : IsLexical (lastOf before name.toList) rest) :
      IsLexical before (.classified .keyword name :: rest)
  | number {before : Option Char} {text : String} {rest : List Token}
      (isNumber : IsNumber text.toList) (apartBefore : IsApart before)
      (apartAfter : IsApart (Token.chars rest).head?)
      (isRest : IsLexical (lastOf before text.toList) rest) :
      IsLexical before (.classified .number text :: rest)
  | string {before : Option Char} {text : String} {rest : List Token}
      (isString : IsString text.toList) (noKey : Structured.isKey (Token.chars rest) = false)
      (isRest : IsLexical (lastOf before text.toList) rest) :
      IsLexical before (.classified .string text :: rest)
  | name {before : Option Char} {text : String} {rest : List Token}
      (isString : IsString text.toList) (key : Structured.isKey (Token.chars rest) = true)
      (isRest : IsLexical (lastOf before text.toList) rest) :
      IsLexical before (.classified .property text :: rest)

/-! ## Blanks and marks -/

@[simp] theorem text_blankPiece (run : List Char) : (blankPiece run).text.toList = run := by
  simp [blankPiece, Token.plain]

@[simp] theorem text_markPiece (mark : Char) : (markPiece mark).text.toList = [mark] := by
  simp [markPiece, Token.classified]

theorem IsLexical.tail {before : Option Char} {token : Token} {tokens : List Token}
    (lexical : IsLexical before (token :: tokens)) :
    IsLexical (lastOf before token.text.toList) tokens := by
  cases lexical with
  | blank isBlank isRest => rwa [text_blankPiece]
  | mark known isRest => rwa [text_markPiece, lastOf_singleton]
  | constant _ _ _ isRest | number _ _ _ isRest | string _ _ isRest | name _ _ isRest =>
      exact isRest

theorem isSpace_of_mem_blanks {c : Char} (isBlank : c ∈ blanks) : isSpace c = true := by
  simp only [blanks, List.mem_cons, List.not_mem_nil, or_false] at isBlank
  rcases isBlank with rfl | rfl | rfl | rfl <;> rfl

theorem isSpace_of_mem_marks {c : Char} (isMark : c ∈ marks) : isSpace c = false := by
  simp only [marks, List.mem_cons, List.not_mem_nil, or_false] at isMark
  rcases isMark with rfl | rfl | rfl | rfl | rfl | rfl <;> rfl

/-- Behind blanks, a mark decides whether what came before is a key. -/
theorem isKey_mark {before : List Char} (isBlank : IsBlank before) {mark : Char}
    (isMark : mark ∈ marks) (rest : List Char) :
    Structured.isKey (before ++ mark :: rest) = (mark == ':') := by
  have passed : (before ++ mark :: rest).dropWhile isSpace = mark :: rest := by
    rw [List.dropWhile_append_of_pos fun c member => isSpace_of_mem_blanks (isBlank c member),
      List.dropWhile_cons_of_neg (by simp [isSpace_of_mem_marks isMark])]
  rw [Structured.isKey, passed]
  rfl

theorem isKey_blank {run : List Char} (isBlank : IsBlank run) :
    Structured.isKey run = false := by
  have passed : run.dropWhile isSpace = [] := by
    rw [List.dropWhile_eq_nil_iff]
    intro c member
    exact isSpace_of_mem_blanks (isBlank c member)
  rw [Structured.isKey, passed]
  rfl

theorem isApart_lastOf {before : Option Char} {run : List Char} (apart : IsApart before)
    (isBlank : IsBlank run) : IsApart (lastOf before run) := by
  intro c isLast
  rw [lastOf, Option.mem_def, Option.or_eq_some_iff] at isLast
  rcases isLast with inRun | ⟨-, isBefore⟩
  · exact List.mem_append_left _ (isBlank c (List.mem_of_getLast? inRun))
  · exact apart c isBefore

theorem isApart_head?_mark {before : List Char} (isBlank : IsBlank before) {mark : Char}
    (isMark : mark ∈ marks) (rest : List Char) :
    IsApart (before ++ mark :: rest).head? := by
  intro c isHead
  cases before with
  | nil =>
      rw [List.nil_append, List.head?_cons, Option.mem_some_iff] at isHead
      exact List.mem_append_right _ (isHead ▸ isMark)
  | cons first before =>
      rw [List.cons_append, List.head?_cons, Option.mem_some_iff] at isHead
      exact List.mem_append_left _ (isHead ▸ isBlank first List.mem_cons_self)

/-! ## What may follow a value -/

/-- What may follow a value: pieces that do not run into it and do not make a key of it. -/
structure IsFollow (rest : List Token) : Prop where
  apart : IsApart (Token.chars rest).head?
  noKey : Structured.isKey (Token.chars rest) = false
  lexical : ∀ before, IsLexical before rest

theorem chars_structural {before after : List Char} (mark : Char) (rest : List Token) :
    Token.chars ([blankPiece before, markPiece mark, blankPiece after] ++ rest) =
      before ++ mark :: (after ++ Token.chars rest) := by
  simp

/-- A mark may stand behind anything, and what comes behind it is apart from what came before. -/
theorem IsStructural.lexical {mark : Char} {pieces rest : List Token} (isMark : mark ∈ marks)
    (structural : IsStructural mark pieces)
    (later : ∀ before, IsApart before → IsLexical before rest) (before : Option Char) :
    IsLexical before (pieces ++ rest) := by
  cases structural with
  | spaced blankBefore blankAfter =>
      have markApart : IsApart (some mark) := by
        intro c isMark'
        rw [Option.mem_some_iff] at isMark'
        exact List.mem_append_right _ (isMark' ▸ isMark)
      exact .blank blankBefore (.mark isMark
        (.blank blankAfter (later _ (isApart_lastOf markApart blankAfter))))

theorem IsStructural.isFollow {mark : Char} {pieces rest : List Token} (isMark : mark ∈ marks)
    (notColon : mark ≠ ':') (structural : IsStructural mark pieces)
    (later : ∀ before, IsApart before → IsLexical before rest) : IsFollow (pieces ++ rest) where
  lexical := structural.lexical isMark later
  apart := by
    cases structural with
    | spaced blankBefore blankAfter =>
        rw [chars_structural]
        exact isApart_head?_mark blankBefore isMark _
  noKey := by
    cases structural with
    | spaced blankBefore blankAfter =>
        rw [chars_structural, isKey_mark blankBefore isMark]
        simpa using notColon

/-- Whatever a symbol derives stands well between neighbours that a value can have. -/
theorem Derives.lexical {symbol : Symbol} {pieces rest : List Token}
    (derives : Derives symbol pieces) (follow : IsFollow rest) (before : Option Char)
    (apart : IsApart before) : IsLexical before (pieces ++ rest) := by
  induction derives generalizing rest before with
  | constant known => exact .constant known apart follow.apart (follow.lexical _)
  | number isNumber => exact .number isNumber apart follow.apart (follow.lexical _)
  | string isString => exact .string isString follow.noKey (follow.lexical _)
  | emptyArray isOpening isClosing | emptyObject isOpening isClosing =>
      have closing := isClosing.lexical (by decide) fun before _ => follow.lexical before
      rw [List.append_assoc]
      exact isOpening.lexical (by decide) (fun before _ => closing before) before
  | array isOpening isInner isClosing ih | object isOpening isInner isClosing ih =>
      have closing := isClosing.isFollow (by decide) (by decide) fun before _ =>
        follow.lexical before
      rw [List.append_assoc, List.append_assoc]
      exact isOpening.lexical (by decide) (fun before apart => ih closing before apart) before
  | lastElement isValue ih | lastMember isMember ih => exact ih follow before apart
  | moreElements isValue isSeparator isElements valueIH elementsIH
  | moreMembers isValue isSeparator isElements valueIH elementsIH =>
      have separator := isSeparator.isFollow (by decide) (by decide) fun before apart =>
        elementsIH follow before apart
      rw [List.append_assoc, List.append_assoc]
      exact valueIH separator before apart
  | member isString isSeparator isValue ih =>
      have value := isSeparator.lexical (by decide) fun before apart => ih follow before apart
      rw [List.cons_append, List.append_assoc]
      refine .name isString ?_ (value _)
      cases isSeparator with
      | spaced blankBefore blankAfter =>
          rw [chars_structural, isKey_mark blankBefore (by decide)]
          rfl

/-- The pieces of a valid text stand well beside each other. -/
theorem IsDocument.lexical {pieces : List Token} (document : IsDocument pieces) :
    IsLexical none pieces := by
  cases document with
  | spaced blankBefore isValue blankAfter =>
      have follow : IsFollow [blankPiece _] :=
        { apart := by
            intro c isHead
            simp only [Token.chars_cons, text_blankPiece, Token.chars_nil, List.append_nil]
              at isHead
            exact List.mem_append_left _ (blankAfter c (List.mem_of_mem_head? isHead))
          noKey := by
            simpa using isKey_blank blankAfter
          lexical := fun before => .blank blankAfter .nil }
      have nothing : IsApart none := by simp [IsApart]
      exact .blank blankBefore
        (isValue.lexical follow _ (isApart_lastOf nothing blankBefore))

end Tint.Json
