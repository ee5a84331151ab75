import Tint.Builtin.Catalog
import Tint.Proofs.Comments.Scan
import Tint.Proofs.Config.Reading
import Tint.Proofs.Regex.Taken

/-!
# What the patterns of several languages are read as

Comments, quoted strings and numbers.  A comment and a string begin and end with signs of their own,
so neither has an end inside of a word.
-/

namespace Tint.Builtin

open Tint.Regex Tint.Unicode

/-! ## Comments -/

/-- A comment between two signs, as short as it can be. -/
def blockComment : Pattern :=
  .concat (.char '/') (.concat (.char '*')
    (.concat (.repeated 0 none false (.set (.union .space (.compl .space))))
      (.concat (.char '*') (.char '/'))))

/-- A comment up to the end of a line, or between two signs. -/
def lineOrBlockComment (marker : List Char) : Pattern :=
  .choice (lineComment marker) blockComment

theorem read_blockComment :
    Pattern.read { carriageReturn := true } "/\\*[\\s\\S]*?\\*/".toList = .ok blockComment := by
  rw [← toOption_eq_some]
  decide +kernel

theorem read_slashComment :
    Pattern.read { multiLine := true, carriageReturn := true } "//.*$".toList =
      .ok (lineComment ['/', '/']) := by
  rw [← toOption_eq_some]
  decide +kernel

theorem read_slashOrBlockComment :
    Pattern.read { multiLine := true, carriageReturn := true }
      "//.*$|/\\*[\\s\\S]*?\\*/".toList = .ok (lineOrBlockComment ['/', '/']) := by
  rw [← toOption_eq_some]
  decide +kernel

theorem read_dashOrBlockComment :
    Pattern.read { multiLine := true, carriageReturn := true }
      "--.*$|/\\*[\\s\\S]*?\\*/".toList = .ok (lineOrBlockComment ['-', '-']) := by
  rw [← toOption_eq_some]
  decide +kernel

/-! ## Quoted strings -/

/-- A character between quotes, or a backslash and the character after it. -/
def quotedChar (quote : Char) : Pattern :=
  .choice (.set (.compl (.union (.single quote) (.union (.single '\\') (.single '\n')))))
    (.concat (.char '\\') (.set (.compl lineEnds)))

/-- A string between quotes. -/
def quoted (quote : Char) : Pattern :=
  .concat (.char quote) (.concat (.many (quotedChar quote)) (.char quote))

/-- A string between quotes of either kind. -/
def quotedText : Pattern :=
  .choice (quoted '"') (quoted '\'')

theorem read_quotedString :
    Pattern.read { carriageReturn := true } quotedString.toList = .ok quotedText := by
  rw [← toOption_eq_some]
  decide +kernel

/-! ## Numbers -/

/-- Digits, and perhaps a point and more digits, between the ends of words. -/
def numeral : Pattern :=
  .concat (.look (.boundary .unicode)) (.concat (.many1 (.set .digit))
    (.concat (.optional (.char '.')) (.concat (.many (.set .digit))
      (.look (.boundary .unicode)))))

theorem read_number :
    Pattern.read { carriageReturn := true } number.toList = .ok numeral := by
  rw [← toOption_eq_some]
  decide +kernel

/-! ## Words -/

/-- One of some words, between the ends of words. -/
def anyWord (list : List String) : Pattern :=
  .concat (.look (.boundary .unicode)) (.concat (.group 1 (.firstOf (list.map .word)))
    (.look (.boundary .unicode)))

theorem toList_words (list : List String) :
    (words list).toList = "\\b(".toList ++ ['|'].intercalate (list.map String.toList) ++
      ")\\b".toList := by
  rw [words, String.toList_append, String.toList_append, String.toList_intercalate]
  rfl

@[simp] theorem anyWord_takes (list : List String) (c : Char) :
    (anyWord list).takes c = list.any (·.toList.contains c) := by
  simp [anyWord, Pattern.takes, Function.comp_def]

/-- What a list of words takes is one of them. -/
theorem anyWord_takes_iff {list : List String} (nonempty : list ≠ []) {before : Option Char}
    {taken rest : List Char} :
    (anyWord list).Takes before taken rest ↔
      (∃ word ∈ list, taken = word.toList) ∧
        (Look.boundary .unicode).holds before (taken ++ rest).head? = true ∧
        (Look.boundary .unicode).holds (lastOf before taken) rest.head? = true := by
  have oneOf : (Pattern.firstOf (list.map .word)).Takes before taken rest ↔
      ∃ word ∈ list, taken = word.toList := by
    rw [Pattern.Takes.firstOf_iff (by simpa using nonempty)]
    simp [Pattern.Takes.word_iff]
  rw [← oneOf]
  constructor
  · intro takes
    obtain ⟨none, more, rfl, starts, takes⟩ := takes.exists_of_concat
    cases starts with
    | look startHolds =>
        obtain ⟨taken, none, rfl, inGroup, ends⟩ := takes.exists_of_concat
        cases ends with
        | look endHolds =>
            cases inGroup with
            | group _ isWord =>
                rw [List.append_nil] at startHolds ⊢
                exact ⟨isWord, startHolds, endHolds⟩
  · rintro ⟨isWord, startHolds, endHolds⟩
    have ends : (Pattern.look (.boundary .unicode)).Takes (lastOf before taken) [] rest :=
      .look endHolds
    have both : (Pattern.concat (.group 1 (.firstOf (list.map .word)))
        (.look (.boundary .unicode))).Takes before (taken ++ []) rest :=
      .concat (.group 1 isWord) ends
    rw [List.append_nil] at both
    exact .concat (.look startHolds) both

end Tint.Builtin
