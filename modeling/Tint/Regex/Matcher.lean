import Tint.Regex.Reader
import Tint.Regex.Search

/-!
# Matchers

A pattern that has been read and laid out, ready to be sought in texts.
-/

namespace Tint.Regex

/-- A part of a text: the number of characters before it and before its end. -/
structure Span where
  start : Nat
  stop : Nat
  deriving DecidableEq, Repr

/-- A pattern ready to be sought in texts. -/
structure Matcher where
  root : Node
  /-- The number of groups, the whole match not counted. -/
  groupCount : Nat
  deriving Repr

/-- The span of a group; group 0 is the whole match. -/
def Match.group? (found : Match) (index : Nat) : Option Span :=
  if index = 0 then some ⟨found.start, found.stop⟩
  else (found.slots.group? index).map fun (start, stop) => ⟨start, stop⟩

namespace Matcher

/-- Lays out a pattern. -/
def ofPattern (pattern : Pattern) : Matcher :=
  ⟨(pattern.layout false 0).1, pattern.groupCount⟩

/-- Reads a pattern under the given flags. -/
def ofText (flags : Flags) (text : String) : Read Matcher :=
  ofPattern <$> Pattern.read flags text.toList

/-- All matches in a text, from left to right and apart from each other. -/
def allMatches (matcher : Matcher) (text : List Char) : List Match :=
  matchesFrom matcher.root (text.length + 1) (.start text) none []

end Matcher

end Tint.Regex
