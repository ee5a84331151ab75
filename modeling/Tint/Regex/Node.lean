import Tint.Regex.Pattern

/-!
# The layout of a pattern for the search

The search follows all ways to match a pattern at once, in order of preference.  A `Node` is a
pattern laid out for it: counted repetitions are written out, and every place that takes a character
has a number, so that two ways that have come to the same place are recognised as one.

A loop whose body can match nothing needs care, because a way through it could come back to where it
was without having taken a character.  In and around such a loop, gates let only the first way pass
at each position.
-/

namespace Tint.Regex

/-- A pattern laid out for the search. -/
inductive Node where
  | empty
  /-- One character of a set; `place` tells this occurrence from the others. -/
  | one (place : Nat) (set : CharSet)
  | look (look : Look)
  /-- Matches the empty text, but only once at each position. -/
  | gate (mark : Nat)
  | seq (first second : Node)
  /-- Either node, the first preferred. -/
  | alt (first second : Node)
  /-- Any number of rounds, none of them empty; more rounds are preferred if `greedy`.  With a mark,
  the loop can come between two rounds only once at each position. -/
  | star (mark : Option Nat) (greedy : Bool) (body : Node)
  /-- One round at least, of which the first may be empty. -/
  | plus (mark : Option Nat) (greedy : Bool) (body : Node)
  /-- Records the start and, at the end of the body, the end of a group. -/
  | group (index : Nat) (body : Node)
  /-- Records the end of a group. -/
  | close (index : Nat)
  deriving Repr

namespace Node

/-- Either the body or nothing; the body is preferred if `greedy`. -/
def optional (greedy : Bool) (body : Node) : Node :=
  if greedy then alt body empty else alt empty body

/-- A gate in front of the node. -/
def gated (mark : Nat) (node : Node) : Node :=
  seq (gate mark) node

end Node

/-- A way to lay out a pattern: given the first number that is free, the node and the next one. -/
abbrev Layout := Nat → Node × Nat

namespace Layout

/-- `count` copies of a layout in a row, followed by `rest`. -/
def copies (layout : Layout) : (count : Nat) → (rest : Node) → Layout
  | 0, rest, free => (rest, free)
  | count + 1, rest, free =>
      let (node, free) := layout free
      copies layout count (.seq node rest) free

/-- At most `count` copies of a layout in a row, each optional, followed by `rest` inside them. -/
def optionalCopies (layout : Layout) (gates greedy : Bool) :
    (count : Nat) → (rest : Node) → Layout
  | 0, rest, free => (rest, free)
  | count + 1, rest, free =>
      let (node, free) := layout free
      let node := match rest with
        | .empty => node
        | rest => .seq node rest
      let node := Node.optional greedy node
      let (node, free) := if gates then (node.gated free, free + 1) else (node, free)
      optionalCopies layout gates greedy count node free

end Layout

namespace Pattern

/-- Lays out a pattern.  `gates` asks for the gates that a loop around the pattern needs. -/
def layout : (pattern : Pattern) → (gates : Bool) → Layout
  | empty, _, free => (.empty, free)
  | set s, _, free => (.one free s, free + 1)
  | look l, _, free => (.look l, free)
  | concat first second, gates, free =>
      let (first, free) := first.layout gates free
      let (second, free) := second.layout gates free
      (.seq first second, free)
  | choice first second, gates, free =>
      let both := first.nullable && second.nullable
      let (first, free) := first.layout gates free
      let (second, free) := second.layout gates free
      let node := Node.alt first second
      let (node, free) := if gates then (node.gated free, free + 1) else (node, free)
      if both then (.seq node (.gate free), free + 1) else (node, free)
  | group index body, gates, free =>
      let (body, free) := body.layout gates free
      (.group index body, free)
  | repeated least most greedy body, gates, free =>
      match least, most with
      | 0, none =>
          if body.nullable then
            let (body, free) := body.layout true free
            let loop := Node.plus (some free) greedy (.gated (free + 1) body)
            (.seq (.gated (free + 2) (.optional greedy loop)) (.gate (free + 3)), free + 4)
          else
            let (body, free) := body.layout gates free
            if gates then (.star (some free) greedy body, free + 1)
            else (.star none greedy body, free)
      | least + 1, none =>
          let gated := gates || body.nullable
          let (last, free) := body.layout gated free
          let (last, free) :=
            if gated then (Node.plus (some free) greedy (.gated (free + 1) last), free + 2)
            else (.plus none greedy last, free)
          (Layout.copies (body.layout gates) least last) free
      | least, some most =>
          let extra := most - least
          let (rest, free) :=
            (Layout.optionalCopies (body.layout gates) gates greedy extra .empty) free
          let (rest, free) :=
            if extra != 0 && body.nullable then (Node.seq rest (.gate free), free + 1)
            else (rest, free)
          match rest, least with
          | .empty, least + 1 =>
              let (last, free) := body.layout gates free
              (Layout.copies (body.layout gates) least last) free
          | rest, least => (Layout.copies (body.layout gates) least rest) free

end Pattern

end Tint.Regex
