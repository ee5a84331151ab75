import Mathlib
import Tint.Proofs.Tokens

/-!
# Lines and their suffixes

A line ends with a line feed, a carriage return, or a carriage return and the line feed behind it.
The last line of a text may lack an end; behind one, there is no further line.

A comment that a marker begins goes from the first marker in a line up to the end of the line, which
is no part of it.
-/

namespace Tint

/-- The two characters that lines end with. -/
def isLineEnd (c : Char) : Bool :=
  c == '\r' || c == '\n'

theorem some_ne_return {c : Char} (notEnd : isLineEnd c = false) : some c ≠ some '\r' := by
  rintro ⟨⟩
  simp [isLineEnd] at notEnd

/-- A line: its characters, and those that end it. -/
structure Line where
  text : List Char
  ending : List Char
  deriving DecidableEq, Repr

/-- The lines of a text. -/
def lines : List Char → List Line
  | [] => []
  | '\r' :: '\n' :: rest => ⟨[], ['\r', '\n']⟩ :: lines rest
  | c :: rest =>
      if isLineEnd c then ⟨[], [c]⟩ :: lines rest
      else match lines rest with
        | [] => [⟨[c], []⟩]
        | line :: later => ⟨c :: line.text, line.ending⟩ :: later

/-- What ends a line in front of a text. -/
inductive IsEnding : List Char → List Char → Prop where
  | both (rest : List Char) : IsEnding ['\r', '\n'] rest
  | feed (rest : List Char) : IsEnding ['\n'] rest
  | return {rest : List Char} (alone : rest.head? ≠ some '\n') : IsEnding ['\r'] rest

namespace IsEnding

variable {ending rest : List Char}

theorem isLineEnd_of_mem (isEnding : IsEnding ending rest) : ∀ c ∈ ending, isLineEnd c = true := by
  cases isEnding <;> simp [isLineEnd]

theorem ne_nil (isEnding : IsEnding ending rest) : ending ≠ [] := by
  cases isEnding <;> simp

end IsEnding

/-- A text is divided into lines. -/
inductive Divided : List Char → List Line → Prop where
  | nil : Divided [] []
  | last {text : List Char} (nonempty : text ≠ []) (inLine : ∀ c ∈ text, isLineEnd c = false) :
      Divided text [⟨text, []⟩]
  | ended {text ending rest : List Char} {later : List Line}
      (inLine : ∀ c ∈ text, isLineEnd c = false) (isEnding : IsEnding ending rest)
      (behind : Divided rest later) : Divided (text ++ ending ++ rest) (⟨text, ending⟩ :: later)

/-- The lines of a text divide it. -/
theorem divided_lines (text : List Char) : Divided text (lines text) := by
  fun_induction lines text with
  | case1 => exact .nil
  | case2 rest ih => exact @Divided.ended [] _ _ _ (List.forall_mem_nil _) (.both rest) ih
  | case3 c rest notBoth isEnd ih =>
      have isEnding : IsEnding [c] rest := by
        rcases Bool.or_eq_true_iff.mp isEnd with isReturn | isFeed
        · cases beq_iff_eq.mp isReturn
          refine .return fun isFeed => ?_
          obtain ⟨_, rfl⟩ := List.head?_eq_some_iff.mp isFeed
          exact notBoth _ rfl rfl
        · cases beq_iff_eq.mp isFeed
          exact .feed rest
      exact @Divided.ended [] _ _ _ (List.forall_mem_nil _) isEnding ih
  | case4 c rest notBoth notEnd noLines ih =>
      rw [noLines] at ih
      cases ih
      exact .last (List.cons_ne_nil c []) (by simpa using notEnd)
  | case5 c rest notBoth notEnd line later isLines ih =>
      rw [isLines] at ih
      have inLine {text : List Char} (all : ∀ d ∈ text, isLineEnd d = false) :
          ∀ d ∈ c :: text, isLineEnd d = false :=
        List.forall_mem_cons.mpr ⟨by simpa using notEnd, all⟩
      cases ih with
      | last _ all => exact .last (List.cons_ne_nil c _) (inLine all)
      | ended all isEnding behind => exact .ended (inLine all) isEnding behind

/-- No line has a character of an end in it. -/
theorem Divided.inLine {text : List Char} {divided : List Line} (divides : Divided text divided) :
    ∀ line ∈ divided, ∀ c ∈ line.text, isLineEnd c = false := by
  induction divides with
  | nil => simp
  | last _ inLine => simpa using inLine
  | ended inLine _ _ ih => exact List.forall_mem_cons.mpr ⟨inLine, ih⟩

/-! ## Comments -/

section Comments

variable {marker : List Char} {line : Line}

namespace Line

/-- The part of a line from the first marker on, if there is one in it. -/
def comment? (marker : List Char) (line : Line) : Option (List Char) :=
  line.text.tails.find? fun suffix => marker.isPrefixOf suffix

theorem suffix_of_comment? {comment : List Char} (found : line.comment? marker = some comment) :
    comment <:+ line.text :=
  (List.mem_tails _ _).mp (List.mem_of_find?_eq_some found)

theorem prefix_of_comment? {comment : List Char} (found : line.comment? marker = some comment) :
    marker <+: comment :=
  List.isPrefixOf_iff_prefix.mp (List.find?_some found)

/-- The tokens that a line comes to if its comment is all that is classified. -/
def pieces (marker : List Char) (line : Line) : List Token :=
  match line.comment? marker with
  | none => [.plain (String.ofList line.text), .plain (String.ofList line.ending)]
  | some comment =>
      [.plain (String.ofList (line.text.take (line.text.length - comment.length))),
        .classified .comment (String.ofList comment), .plain (String.ofList line.ending)]

theorem chars_pieces (marker : List Char) (line : Line) :
    Token.chars (line.pieces marker) = line.text ++ line.ending := by
  rw [pieces]
  cases found : line.comment? marker with
  | none => simp [Token.plain]
  | some comment =>
      have whole := List.suffix_iff_eq_append.mp (suffix_of_comment? found)
      simp only [Token.plain, Token.classified, Token.chars_cons, Token.chars_nil,
        String.toList_ofList, List.append_nil]
      rw [← List.append_assoc, whole]

end Line

theorem Divided.chars_pieces {text : List Char} {divided : List Line}
    (divides : Divided text divided) (marker : List Char) :
    Token.chars (divided.flatMap (Line.pieces marker)) = text := by
  induction divides with
  | nil => rfl
  | last => simp [Line.chars_pieces]
  | ended _ _ _ ih => rw [List.flatMap_cons, Token.chars_append, Line.chars_pieces, ih]

/-- The comments of lines, each with the number of characters before it.  `offset` counts those
before the lines. -/
def commentsFrom (marker : List Char) (offset : Nat) : List Line → List (Nat × Token)
  | [] => []
  | line :: later =>
      let behind := commentsFrom marker (offset + line.text.length + line.ending.length) later
      match line.comment? marker with
      | none => behind
      | some comment =>
          (offset + (line.text.length - comment.length),
            .classified .comment (String.ofList comment)) :: behind

/-- A comment is that of one of the lines. -/
theorem exists_of_mem_commentsFrom {offset : Nat} {lines : List Line} {entry : Nat × Token}
    (member : entry ∈ commentsFrom marker offset lines) :
    ∃ line ∈ lines, ∃ comment, line.comment? marker = some comment ∧
      entry.2 = .classified .comment (String.ofList comment) := by
  induction lines generalizing offset with
  | nil => cases member
  | cons line later ih =>
      rw [commentsFrom] at member
      cases found : line.comment? marker with
      | none =>
          simp only [found] at member
          obtain ⟨other, isLater, rest⟩ := ih member
          exact ⟨other, List.mem_cons_of_mem _ isLater, rest⟩
      | some comment =>
          simp only [found, List.mem_cons] at member
          rcases member with rfl | behind
          · exact ⟨line, List.mem_cons_self, comment, found, rfl⟩
          · obtain ⟨other, isLater, rest⟩ := ih behind
            exact ⟨other, List.mem_cons_of_mem _ isLater, rest⟩

/-- Comments stay in their lines. -/
theorem inLine_of_mem_commentsFrom {offset : Nat} {lines : List Line} {entry : Nat × Token}
    (inLine : ∀ line ∈ lines, ∀ c ∈ line.text, isLineEnd c = false)
    (member : entry ∈ commentsFrom marker offset lines) :
    ∀ c ∈ entry.2.text.toList, isLineEnd c = false := by
  obtain ⟨line, isLine, comment, found, isComment⟩ := exists_of_mem_commentsFrom member
  intro c inComment
  have inText : c ∈ comment := by simpa [isComment, Token.classified] using inComment
  exact inLine line isLine c ((Line.suffix_of_comment? found).subset inText)

end Comments

end Tint
