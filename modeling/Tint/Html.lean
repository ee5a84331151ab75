import Tint.Token

/-!
# HTML

Plain tokens are escaped; classified ones are escaped and put into a span of their class.  Only `&`,
`<` and `>` are escaped, which is all that the content of an element needs.
-/

namespace Tint.Html

/-- The written form of a character in the content of an element. -/
def escapeChar : Char → List Char
  | '&' => "&amp;".toList
  | '<' => "&lt;".toList
  | '>' => "&gt;".toList
  | c => [c]

/-- Appends the escaped form of the text to `done`. -/
def appendEscaped (done text : String) : String :=
  text.toList.foldl (fun done c => (escapeChar c).foldl String.push done) done

/-- The text in a form that the content of an element can hold. -/
def escape (text : String) : String :=
  appendEscaped "" text

/-- Appends a token to a fragment. -/
def appendToken (classPrefix done : String) (token : Token) : String :=
  match token.tokenClass with
  | none => appendEscaped done token.text
  | some tokenClass =>
      appendEscaped (done ++ "<span class=\"" ++ classPrefix ++ tokenClass.name ++ "\">")
        token.text ++ "</span>"

/-- The tokens as a fragment of markup. -/
def render (tokens : List Token) (classPrefix : String) : String :=
  tokens.foldl (appendToken classPrefix) ""

/-- The written form of a character in a quoted attribute value. -/
def escapeAttributeChar : Char → List Char
  | '"' => "&quot;".toList
  | c => escapeChar c

/-- The text in a form that a quoted attribute value can hold. -/
def escapeAttribute (text : String) : String :=
  text.toList.foldl (fun done c => (escapeAttributeChar c).foldl String.push done) ""

/-- A fragment as a block of code in a language. -/
def wrapBlock (fragment language : String) : String :=
  "<pre><code class=\"language-" ++ escapeAttribute language ++ "\">" ++ fragment ++ "</code></pre>"

end Tint.Html
