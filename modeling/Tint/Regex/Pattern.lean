import Tint.Regex.CharSet
import Tint.Regex.Look

/-!
# Patterns

The tree that a pattern's text stands for, after its flags have been applied: each set, assertion
and repetition says by itself what it matches.
-/

namespace Tint.Regex

/-- What a pattern matches. -/
inductive Pattern where
  /-- The empty text. -/
  | empty
  /-- One character of a set. -/
  | set (set : CharSet)
  /-- The empty text, at positions where an assertion holds. -/
  | look (look : Look)
  | concat (first second : Pattern)
  /-- Either pattern, the first preferred. -/
  | choice (first second : Pattern)
  /-- At least `least` and at most `most` times in a row, as often as possible if `greedy`, else as
  seldom as possible. -/
  | repeated (least : Nat) (most : Option Nat) (greedy : Bool) (body : Pattern)
  /-- A numbered group, whose last match is recorded. -/
  | group (index : Nat) (body : Pattern)
  deriving DecidableEq, Repr

namespace Pattern

/-- Whether the pattern can match the empty text, taking every assertion to hold. -/
def nullable : Pattern → Bool
  | empty | look _ => true
  | set _ => false
  | concat first second => first.nullable && second.nullable
  | choice first second => first.nullable || second.nullable
  | repeated least _ _ body => least == 0 || body.nullable
  | group _ body => body.nullable

/-- Whether the pattern matches the empty text at most. -/
def onlyEmpty : Pattern → Bool
  | empty | look _ => true
  | set _ => false
  | concat first second => first.onlyEmpty && second.onlyEmpty
  | choice first second => first.onlyEmpty && second.onlyEmpty
  | repeated _ most _ body => most == some 0 || body.onlyEmpty
  | group _ body => body.onlyEmpty

/-- The number of groups.  What is repeated no times has none. -/
def groupCount : Pattern → Nat
  | empty | look _ | set _ => 0
  | concat first second => first.groupCount + second.groupCount
  | choice first second => first.groupCount + second.groupCount
  | repeated _ most _ body => if most = some 0 then 0 else body.groupCount
  | group _ body => body.groupCount + 1

/-- One character. -/
def char (c : Char) : Pattern :=
  set (.single c)

/-- One character of a list. -/
def oneOf (cs : List Char) : Pattern :=
  set (.ofList cs)

/-- The patterns of a list in a row. -/
def sequence : List Pattern → Pattern
  | [] => empty
  | [pattern] => pattern
  | pattern :: rest => concat pattern (sequence rest)

/-- One of the patterns of a list, an earlier one preferred. -/
def firstOf : List Pattern → Pattern
  | [] => empty
  | [pattern] => pattern
  | pattern :: rest => choice pattern (firstOf rest)

/-- A word, character by character. -/
def word (text : String) : Pattern :=
  sequence (text.toList.map char)

/-- The pattern or nothing, the pattern preferred. -/
def optional (pattern : Pattern) : Pattern :=
  repeated 0 (some 1) true pattern

/-- The pattern any number of times, as often as possible. -/
def many (pattern : Pattern) : Pattern :=
  repeated 0 none true pattern

/-- The pattern once at least, as often as possible. -/
def many1 (pattern : Pattern) : Pattern :=
  repeated 1 none true pattern

end Pattern

end Tint.Regex
