import Tint.Regex.Pattern
import Tint.Regex.Utf8

/-!
# Patterns without what does not matter

The shape of a pattern is the pattern in a plain form that many patterns share: literals next to
each other are one literal, a choice of characters is a set, and what all branches of a choice start
with stands before it.  How much room a pattern takes is decided by its shape.
-/

namespace Tint.Regex

/-- A pattern in its plain form. -/
inductive Shape where
  | empty
  /-- The characters of a text in a row. -/
  | literal (codes : List Nat)
  /-- One character of a set. -/
  | set (ranges : List CodeRange)
  | look (look : Look)
  /-- At least `least` and at most `most` times in a row. -/
  | repeated (least : Nat) (most : Option Nat) (greedy : Bool) (body : Shape)
  | group (index : Nat) (body : Shape)
  /-- Two parts or more in a row.  The first is no row itself. -/
  | concat (first rest : Shape)
  /-- Two branches or more.  The first is no choice itself. -/
  | choice (first rest : Shape)
  deriving DecidableEq, Repr

namespace Shape

/-- The parts of a row. -/
def parts : Shape → List Shape
  | concat first rest => first :: rest.parts
  | shape => [shape]

/-- The branches of a choice. -/
def branches : Shape → List Shape
  | choice first rest => first :: rest.branches
  | shape => [shape]

/-- Parts in a row. -/
def ofParts : List Shape → Shape
  | [] => empty
  | [part] => part
  | part :: rest => concat part (ofParts rest)

/-- A choice of branches.  No branch at all is a set without characters. -/
def ofBranches : List Shape → Shape
  | [] => set []
  | [branch] => branch
  | branch :: rest => choice branch (ofBranches rest)

/-- The number of constructors. -/
def size : Shape → Nat
  | empty | literal _ | set _ | look _ => 1
  | repeated _ _ _ body | group _ body => body.size + 1
  | concat first rest | choice first rest => first.size + rest.size + 1

/-- One character of a set; a set of one character is a literal. -/
def ofRanges : List CodeRange → Shape
  | [⟨first, last⟩] => if first = last then literal [first] else set [⟨first, last⟩]
  | ranges => set ranges

/-- Shapes in a row.  Rows in the row are opened, empty parts left out and literals joined. -/
def inRow (shapes : List Shape) : Shape :=
  let add (part : Shape) (rest : List Shape) : List Shape :=
    match part, rest with
    | empty, rest => rest
    | literal codes, literal more :: rest => literal (codes ++ more) :: rest
    | part, rest => part :: rest
  ofParts ((shapes.flatMap parts).foldr add [])

/-- The characters of a literal of one character. -/
def asCharacter? : Shape → Option (List CodeRange)
  | literal [code] => some [⟨code, code⟩]
  | _ => none

/-- The characters of a set. -/
def asSet? : Shape → Option (List CodeRange)
  | set ranges => some ranges
  | _ => none

/-- Whether the shape is a row of parts. -/
def isRow : Shape → Bool
  | concat _ _ => true
  | _ => false

/-- The common start of two lists. -/
def commonStart : List Shape → List Shape → List Shape
  | first :: rest, other :: others => if first = other then first :: commonStart rest others else []
  | _, _ => []

/-- The parts with which all branches start, if all are rows. -/
def sharedStart : List Shape → List Shape
  | [] => []
  | first :: others =>
      if first.isRow && others.all isRow then
        others.foldl (fun shared branch => commonStart shared branch.parts) first.parts
      else []

/-- One of several shapes.  Choices among them are opened; single characters, or sets, become one
set; and what all start with is put before the choice.  `steps` bounds how often that is done. -/
def anyOf : (steps : Nat) → List Shape → Shape
  | _, [shape] => shape
  | 0, shapes => ofBranches shapes
  | steps + 1, shapes =>
      let branches := shapes.flatMap branches
      match branches.mapM asCharacter?, branches.mapM asSet? with
      | some characters, _ => ofRanges (CodeRange.union characters.flatten)
      | none, some sets => ofRanges (CodeRange.union sets.flatten)
      | none, none =>
          match sharedStart branches with
          | [] => ofBranches branches
          | shared =>
              let rests := branches.map fun branch => ofParts (branch.parts.drop shared.length)
              inRow (shared ++ [anyOf steps rests])

/-- One of several shapes. -/
def oneOf (shapes : List Shape) : Shape :=
  anyOf (shapes.foldl (fun steps shape => steps + shape.size) 1) shapes

/-- A repetition; what is repeated never or once is none. -/
def times (least : Nat) (most : Option Nat) (greedy : Bool) (body : Shape) : Shape :=
  if most = some 0 then empty
  else if least = 1 ∧ most = some 1 then body
  else repeated least most greedy body

/-- The length of the shortest text that the shape matches, in characters; `none` if it matches
nothing. -/
def shortest? : Shape → Option Nat
  | empty | look _ => some 0
  | literal codes => some codes.length
  | set [] => none
  | set _ => some 1
  | repeated least _ _ body => body.shortest?.map (least * ·)
  | group _ body => body.shortest?
  | concat first rest => do return (← first.shortest?) + (← rest.shortest?)
  | choice first rest => do return min (← first.shortest?) (← rest.shortest?)

/-- Whether the shape matches the empty text at most. -/
def onlyEmpty : Shape → Bool
  | empty | look _ => true
  | literal _ | set _ => false
  | repeated _ most _ body => most == some 0 || body.onlyEmpty
  | group _ body => body.onlyEmpty
  | concat first rest | choice first rest => first.onlyEmpty && rest.onlyEmpty

end Shape

/-- The branches of a pattern in their plain form, given the ranges of each set. -/
def Pattern.shapes (ranges : CharSet → List CodeRange) : Pattern → List Shape
  | .empty => [.empty]
  | .set s => [.ofRanges (ranges s)]
  | .look l => [.look l]
  | .concat first second =>
      [.inRow [.oneOf (first.shapes ranges), .oneOf (second.shapes ranges)]]
  | .choice first second => .oneOf (first.shapes ranges) :: second.shapes ranges
  | .repeated least most greedy body => [.times least most greedy (.oneOf (body.shapes ranges))]
  | .group index body => [.group index (.oneOf (body.shapes ranges))]

/-- The sets of a pattern. -/
def Pattern.sets : Pattern → List CharSet
  | .empty | .look _ => []
  | .set s => [s]
  | .concat first second | .choice first second => first.sets ++ second.sets
  | .repeated _ _ _ body | .group _ body => body.sets

/-- The plain form of a pattern.  The ranges of each set are found once. -/
def Pattern.shape (pattern : Pattern) : Shape :=
  let table := pattern.sets.eraseDups.map fun set => (set, set.ranges)
  .oneOf (pattern.shapes fun set => (table.lookup set).getD [])

end Tint.Regex
