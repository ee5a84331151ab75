import Tint.Unicode.Age
import Tint.Unicode.Break
import Tint.Unicode.Case
import Tint.Unicode.Class
import Tint.Unicode.Property
import Tint.Unicode.Script

/-!
# Sets of characters

What a bracketed class, an escape such as `\w` or a single literal stands for in a pattern.  A set
is kept as the expression that the pattern wrote down and is evaluated one character at a time, so
that membership in a compound set is by definition what its connective says.
-/

namespace Tint.Regex

open Tint.Unicode

/-- A set of characters, written with ranges, named classes and set operations. -/
inductive CharSet where
  /-- No character. -/
  | none
  /-- Every character. -/
  | any
  /-- The characters from `first` to `last`. -/
  | range (first last : Char)
  /-- Decimal digits of all scripts. -/
  | digit
  /-- Word characters of all scripts. -/
  | word
  /-- White space of all scripts. -/
  | space
  /-- Characters whose general category is in the list. -/
  | category (categories : List GeneralCategory)
  /-- Characters of the script with this code. -/
  | script (code : String)
  /-- Characters that the script with this code uses. -/
  | scriptUse (code : String)
  /-- Characters that a version of the character set has, be it that or an earlier one that brought
  them. -/
  | age (version : Nat)
  /-- Characters of one class for breaks between units. -/
  | graphemeBreak (kind : GraphemeBreak)
  /-- Characters of one class for breaks between words. -/
  | wordBreak (kind : WordBreak)
  /-- Characters of one class for breaks between sentences. -/
  | sentenceBreak (kind : SentenceBreak)
  /-- Characters with a property. -/
  | property (property : Property)
  | union (left right : CharSet)
  | inter (left right : CharSet)
  | diff (left right : CharSet)
  | symmDiff (left right : CharSet)
  | compl (set : CharSet)
  /-- The characters that differ from one of the set at most in case. -/
  | anyCase (set : CharSet)
  /-- As `anyCase`, but only ASCII letters have case. -/
  | anyAsciiCase (set : CharSet)
  deriving DecidableEq, Repr

namespace CharSet

/-- The ASCII letter that differs from this one in case only. -/
def asciiCaseVariants (c : Char) : List Char :=
  if 'a' ≤ c && c ≤ 'z' then [Char.ofNat (c.toNat - 32)]
  else if 'A' ≤ c && c ≤ 'Z' then [Char.ofNat (c.toNat + 32)]
  else []

/-- Whether a character is in the set. -/
def contains : CharSet → Char → Bool
  | none, _ => false
  | any, _ => true
  | range first last, c => first ≤ c && c ≤ last
  | digit, c => isDigit c
  | word, c => isWord c
  | space, c => isSpace c
  | category categories, c => categories.contains (GeneralCategory.of c)
  | script code, c => Script.of c == code
  | scriptUse code, c => Script.uses code c
  | age version, c => (Age.of? c).any (· ≤ version)
  | graphemeBreak kind, c => GraphemeBreak.of c == kind
  | wordBreak kind, c => WordBreak.of c == kind
  | sentenceBreak kind, c => SentenceBreak.of c == kind
  | property p, c => p.holds c
  | union left right, c => left.contains c || right.contains c
  | inter left right, c => left.contains c && right.contains c
  | diff left right, c => left.contains c && !right.contains c
  | symmDiff left right, c => left.contains c != right.contains c
  | compl set, c => !set.contains c
  | anyCase set, c => set.contains c || (caseVariants c).any set.contains
  | anyAsciiCase set, c => set.contains c || (asciiCaseVariants c).any set.contains

/-- The set of one character. -/
def single (c : Char) : CharSet :=
  range c c

/-- The characters of a list. -/
def ofList : List Char → CharSet
  | [] => none
  | [c] => single c
  | c :: rest => union (single c) (ofList rest)

/-- The union of a list of sets. -/
def unions : List CharSet → CharSet
  | [] => none
  | [set] => set
  | set :: rest => union set (unions rest)

/-- ASCII decimal digits. -/
def asciiDigit : CharSet :=
  range '0' '9'

/-- ASCII letters. -/
def asciiLetter : CharSet :=
  union (range 'A' 'Z') (range 'a' 'z')

/-- ASCII letters and digits and the underscore. -/
def asciiWord : CharSet :=
  union asciiLetter (union asciiDigit (single '_'))

/-- ASCII white space. -/
def asciiSpace : CharSet :=
  union (range '\t' '\r') (single ' ')

/-- One character and its variants in case, as a plain list. -/
def letterInAnyCase (c : Char) : CharSet :=
  ofList (c :: caseVariants c)

@[simp] theorem contains_single (c x : Char) : (single c).contains x = (x == c) := by
  have char_le (a b : Char) : a ≤ b ↔ a.val ≤ b.val := Iff.rfl
  rw [Bool.eq_iff_iff]
  simp only [single, contains, Bool.and_eq_true, decide_eq_true_eq, beq_iff_eq, char_le]
  constructor
  · exact fun h => Char.ext (UInt32.le_antisymm h.2 h.1)
  · intro h
    subst h
    exact ⟨UInt32.le_refl _, UInt32.le_refl _⟩

end CharSet

end Tint.Regex
