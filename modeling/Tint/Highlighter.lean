import Tint.Catalog
import Tint.Html
import Tint.Structured

/-!
# Highlighters

A highlighter splits texts into tokens by the languages of a catalog and writes them as markup.
Texts in a language that the catalog does not have are plain.
-/

namespace Tint

/-- Puts away what a rule classifies in a working text. -/
def Stash.applyRule (rule : Rule) (stash : Stash) (text : List Char) : Stash × List Char :=
  match rule.spans text with
  | [] => (stash, text)
  | spans => stash.replaceSpans text (spans.map fun span => (span, rule.tokenClass))

/-- Splits a text into tokens by the rules of a language, one category after the other.  A text with
more reserved characters than there are placeholders stays plain. -/
def Language.tokenize (language : Language) (text : String) : List Token :=
  match Stash.protect text.toList with
  | none => [.plain text]
  | some start =>
      let (stash, working) := language.rules.foldl
        (fun state rule => state.1.applyRule rule state.2) start
      stash.resolve working

/-- The prefix of class names unless another is chosen. -/
def defaultClassPrefix : String := "syntax-"

/-- A catalog and the prefix of class names in markup. -/
structure Highlighter where
  catalog : Catalog
  classPrefix : String := defaultClassPrefix

namespace Highlighter

/-- Splits a text in a language into tokens. -/
def tokenize (highlighter : Highlighter) (text language : String) : List Token :=
  if text.isEmpty then []
  else match highlighter.catalog.get? language with
    | none => [.plain text]
    | some language => match language.strategy with
      | .generic => language.tokenize text
      | .structured => Structured.tokenize text

/-- A text in a language as a fragment of markup. -/
def highlight (highlighter : Highlighter) (text language : String) : String :=
  Html.render (highlighter.tokenize text language) highlighter.classPrefix

/-- A text of keys and values as a fragment of markup. -/
def highlightStructured (highlighter : Highlighter) (text : String) : String :=
  Html.render (Structured.tokenize text) highlighter.classPrefix

end Highlighter

end Tint
