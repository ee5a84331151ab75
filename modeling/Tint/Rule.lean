import Tint.Regex.Matcher
import Tint.Token

/-!
# Rules

A rule pairs a category with a pattern.  It is sought in the whole text: every match counts, from
left to right.  A rule can classify a group of its pattern only; what the match takes outside the
group is context, which stays as it is.
-/

namespace Tint

open Tint.Regex

/-- The text of a rule's pattern and the two flags that a rule can set.  Line ends are those of all
systems: a line feed, a carriage return, or both together. -/
structure RuleSource where
  text : String
  ignoreCase : Bool := false
  multiLine : Bool := false
  deriving DecidableEq, Repr

/-- Reads the pattern. -/
def RuleSource.matcher (source : RuleSource) : Read Matcher :=
  Matcher.ofText
    { ignoreCase := source.ignoreCase, multiLine := source.multiLine, carriageReturn := true }
    source.text

/-- A rule, which holds the matcher of its source. -/
structure Rule where
  category : Category
  source : RuleSource
  matcher : Matcher
  /-- The class of what the rule classifies. -/
  tokenClass : TokenClass := category.defaultClass
  /-- The group that is classified, or 0 for the whole match. -/
  group : Nat := 0
  matcher_eq : source.matcher = .ok matcher

namespace Rule

/-- A rule for the whole match with the default class of its category. -/
def ofSource (category : Category) (source : RuleSource) : Read Rule :=
  match h : source.matcher with
  | .ok matcher => .ok { category, source, matcher, matcher_eq := h }
  | .error error => .error error

/-- The rule with another class. -/
def withClass (rule : Rule) (tokenClass : TokenClass) : Rule :=
  { rule with tokenClass }

/-- The rule for one group of its pattern. -/
def withGroup (rule : Rule) (group : Nat) : Rule :=
  { rule with group }

/-- The spans to classify, counted in characters. -/
def spans (rule : Rule) (text : List Char) : List Span :=
  (rule.matcher.allMatches text).filterMap fun found =>
    (found.group? rule.group).filter fun span => span.start < span.stop

end Rule

/-- Replaces counts of characters by counts of bytes in ascending spans.  `chars` and `bytes` count
what comes before `text`. -/
def byteSpansFrom (chars bytes : Nat) (text : List Char) : List Span → List Span
  | [] => []
  | span :: spans =>
      let size (cs : List Char) : Nat := cs.foldl (fun size c => size + c.utf8Size) 0
      let (before, text) := text.splitAt (span.start - chars)
      let (inside, text) := text.splitAt (span.stop - span.start)
      let start := bytes + size before
      let stop := start + size inside
      ⟨start, stop⟩ :: byteSpansFrom span.stop stop text spans

/-- The spans to classify in a text, counted in bytes. -/
def Rule.byteSpans (rule : Rule) (text : String) : List Span :=
  byteSpansFrom 0 0 text.toList (rule.spans text.toList)

end Tint
