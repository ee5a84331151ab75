import Tint.Stash

/-!
# Texts of keys and values

The tokenizer for brace-delimited data such as JSON.  Whether a quoted literal is a key or a value
depends on what follows it, so literals are put away first, each with its class; then numbers,
constants and punctuation are put away in one scan over what is left.

Nothing is rejected: a quote that is not closed stays plain text.
-/

namespace Tint.Structured

open Tint.Regex Tint.Unicode

/-- A quoted literal.  A backslash takes the character after it, which cannot be a line feed. -/
def quoted : Pattern :=
  let plain := Pattern.set (.compl (.ofList ['"', '\\']))
  let escaped := Pattern.concat (.char '\\') (.set (.compl (.single '\n')))
  .sequence [.char '"', .many (.choice plain escaped), .char '"']

/-- A number between word boundaries, with sign, fraction and exponent. -/
def number : Pattern :=
  let digits := Pattern.many1 (.set .digit)
  let boundary := Pattern.look (.boundary .unicode)
  .sequence
    [ .optional (.char '-'), boundary, digits, .optional (.concat (.char '.') digits),
      .optional (.sequence [.oneOf ['e', 'E'], .optional (.oneOf ['+', '-']), digits]), boundary ]

/-- A constant between word boundaries. -/
def constant : Pattern :=
  let boundary := Pattern.look (.boundary .unicode)
  .sequence [boundary, .firstOf [.word "true", .word "false", .word "null"], boundary]

/-- Punctuation. -/
def punctuation : Pattern :=
  .oneOf ['\x7B', '\x7D', '[', ']', ',', ':']

/-- A number, a constant or punctuation, each in a group of its own. -/
def scalar : Pattern :=
  .firstOf [.group 1 number, .group 2 constant, .group 3 punctuation]

/-- The matcher for literals. -/
def quotedMatcher : Matcher := .ofPattern quoted

/-- The matcher for what is not a literal. -/
def scalarMatcher : Matcher := .ofPattern scalar

/-- Whether the text after a literal makes it a key: a colon follows, behind blanks at most. -/
def isKey (rest : List Char) : Bool :=
  (rest.dropWhile isSpace).head? == some ':'

/-- The literals of a text with their classes. -/
def literalSpans (text : List Char) : List (Span × TokenClass) :=
  (quotedMatcher.allMatches text).map fun found =>
    (⟨found.start, found.stop⟩, if isKey found.after.rest then .property else .string)

/-- The numbers, constants and punctuation of a text with their classes. -/
def scalarSpans (text : List Char) : List (Span × TokenClass) :=
  (scalarMatcher.allMatches text).filterMap fun found =>
    match found.group? 1, found.group? 2, found.group? 3 with
    | some span, _, _ => some (span, .number)
    | none, some span, _ => some (span, .keyword)
    | none, none, some span => some (span, .punctuation)
    | none, none, none => none

/-- Splits a text into tokens. -/
def tokenize (text : String) : List Token :=
  match Stash.protect text.toList with
  | none => [.plain text]
  | some (stash, working) =>
      let (stash, working) := stash.replaceSpans working (literalSpans working)
      let (stash, working) := stash.replaceSpans working (scalarSpans working)
      stash.resolve working

end Tint.Structured
