import Tint.Proofs.Markup.Fragment

/-!
# Blocks of code

A fragment can be put into one element for code inside of another one.  The name of the language
stands in the tag of the inner one, in a form that cannot leave its quotes or close the tag, so
removing the tags takes the envelope away together with the spans of the fragment.
-/

namespace Tint.Html

/-- A text that means nothing but itself between the quotes of an attribute. -/
structure IsQuotable (value : String) : Prop where
  noQuote : '"' ∉ value.toList
  noLess : '<' ∉ value.toList
  noGreater : '>' ∉ value.toList

theorem toList_escapeAttribute (text : String) :
    (escapeAttribute text).toList = text.toList.flatMap escapeAttributeChar := by
  rw [escapeAttribute, toList_foldl_flatMap]
  rfl

theorem escapeAttributeChar_of_ne {c : Char} (notQuote : c ≠ '"') :
    escapeAttributeChar c = escapeChar c := by
  simp [escapeAttributeChar]

theorem not_mem_escapeAttributeChar {d : Char} (special : d = '"' ∨ d = '<' ∨ d = '>') (c : Char) :
    d ∉ escapeAttributeChar c := by
  by_cases isQuote : c = '"'
  · subst isQuote
    rcases special with rfl | rfl | rfl <;> decide
  · rw [escapeAttributeChar_of_ne isQuote]
    rcases special with rfl | angle
    · by_cases known : c ∈ specialChars
      · rcases mem_specialChars.mp known with rfl | rfl | rfl <;> decide
      · rw [escapeChar_of_not_mem known, List.mem_singleton]
        exact Ne.symm isQuote
    · simpa using not_mem_flatMap_escapeChar angle [c]

theorem isQuotable_escapeAttribute (text : String) : IsQuotable (escapeAttribute text) := by
  have never {d : Char} (special : d = '"' ∨ d = '<' ∨ d = '>') :
      d ∉ (escapeAttribute text).toList := by
    rw [toList_escapeAttribute, List.mem_flatMap]
    rintro ⟨c, -, written⟩
    exact not_mem_escapeAttributeChar special c written
  exact ⟨never (by simp), never (by simp), never (by simp)⟩

/-- A fragment in its envelope, with the value of the class that tells the language. -/
def inBlock (value fragment : String) : String :=
  String.join ["<pre><code class=\"language-", value, "\">", fragment, "</code></pre>"]

theorem wrapBlock_eq (fragment language : String) :
    wrapBlock fragment language = inBlock (escapeAttribute language) fragment := by
  have joined (a b c d e : String) : a ++ b ++ c ++ d ++ e = String.join [a, b, c, d, e] := by
    simp [← String.toList_inj]
  exact joined _ _ _ _ _

end Tint.Html
