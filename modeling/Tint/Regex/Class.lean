import Tint.Regex.Escape

/-!
# Bracketed classes

Reads the set between brackets: single characters, ranges, escapes, named ASCII classes such as
`[:alpha:]` and nested classes, joined by union and by the operators `&&` (both), `--` (the first
without the second) and `~~` (exactly one).  The operators bind to the left, and juxtaposition binds
closer than they do.

Beside each set the reader keeps its depth, the number of brackets, unions and operators around its
innermost part.
-/

namespace Tint.Regex

open Tint.Unicode

/-- The operators between sets. -/
inductive SetOperator where
  | inter | diff | symmDiff
  deriving DecidableEq, Repr

/-- The set that an operator makes of two others. -/
def SetOperator.apply : SetOperator → CharSet → CharSet → CharSet
  | inter => .inter
  | diff => .diff
  | symmDiff => .symmDiff

/-- A set as read so far, and its depth. -/
structure ReadSet where
  set : CharSet
  depth : Nat
  deriving Repr

/-- The union of the items between two operators, last item first. -/
def ReadSet.unionOf : List ReadSet → ReadSet
  | [] => ⟨.none, 0⟩
  | [item] => item
  | items =>
      ⟨.unions (items.map (·.set)).reverse, (items.map (·.depth)).foldl max 0 + 1⟩

/-- What is still open while a class is read, innermost first. -/
inductive ClassFrame where
  /-- A bracket, with the items that came before it outside. -/
  | bracket (outer : List ReadSet) (negated : Bool)
  /-- An operator whose right side is being read. -/
  | operator (operator : SetOperator) (left : ReadSet)
  deriving Repr

/-- The set with its letters in either case, if the flags ask for it. -/
def Flags.foldCase (flags : Flags) (set : CharSet) : CharSet :=
  if flags.ignoreCase then (if flags.unicode then .anyCase set else .anyAsciiCase set) else set

/-- The set with its case folded and then complemented.  Outside Unicode mode a complement could
match half a character. -/
def Flags.foldAndNegate (flags : Flags) (negated : Bool) (set : CharSet) : Read CharSet :=
  if !negated then pure (flags.foldCase set)
  else if flags.unicode then pure (.compl (flags.foldCase set))
  else throw .notText

/-- The set of a class that an escape names. -/
def Flags.namedSet (flags : Flags) (name : ClassName) (negated : Bool) : Read CharSet :=
  let set : CharSet :=
    match name, flags.unicode with
    | .digit, true => .digit
    | .space, true => .space
    | .word, true => .word
    | .digit, false => .asciiDigit
    | .space, false => .asciiSpace
    | .word, false => .asciiWord
  if !negated then pure set
  else if flags.unicode then pure (.compl set)
  else throw .notText

/-- The set of characters with a property, which only Unicode mode has. -/
def Flags.propertySet (flags : Flags) (set : CharSet) (negated : Bool) : Read CharSet :=
  if flags.unicode then flags.foldAndNegate negated set else throw .notText

/-- The ASCII classes that have a name between colons. -/
def asciiClass? (name : String) : Option CharSet :=
  let upper : CharSet := .range 'A' 'Z'
  let lower : CharSet := .range 'a' 'z'
  let alpha : CharSet := .union upper lower
  let numeral : CharSet := .range '0' '9'
  match name with
  | "alnum" => some (.union numeral alpha)
  | "alpha" => some alpha
  | "ascii" => some (.range '\x00' '\x7F')
  | "blank" => some (.ofList ['\t', ' '])
  | "cntrl" => some (.union (.range '\x00' '\x1F') (.single '\x7F'))
  | "digit" => some numeral
  | "graph" => some (.range '!' '~')
  | "lower" => some lower
  | "print" => some (.range ' ' '~')
  | "punct" => some
      (.unions [.range '!' '/', .range ':' '@', .range '[' '\x60', .range '\x7B' '~'])
  | "space" => some (.union (.range '\t' '\r') (.single ' '))
  | "upper" => some upper
  | "word" => some (.union numeral (.union alpha (.single '_')))
  | "xdigit" => some (.union numeral (.union (.range 'A' 'F') (.range 'a' 'f')))
  | _ => none

/-- Reads `:name:]` or `:^name:]` after a bracket inside a class.  Anything else is no named class,
and the bracket opens a nested one. -/
def readAsciiClass? (cs : List Char) : Option (CharSet × Bool × List Char) :=
  match cs with
  | ':' :: rest =>
      let (negated, rest) := match rest with
        | '^' :: rest => (true, rest)
        | _ => (false, rest)
      match rest.dropWhile (· != ':') with
      | ':' :: ']' :: after =>
          (asciiClass? (String.ofList (rest.takeWhile (· != ':')))).map (·, negated, after)
      | _ => none
  | _ => none

/-- A single character of a class, or a whole set that stands as one item of it. -/
inductive ClassItem where
  | literal (c : Char)
  | set (set : CharSet)
  deriving Repr

/-- Reads one item of a class: an escape or a plain character. -/
def readClassItem (flags : Flags) (cs : List Char) : Read (ClassItem × List Char) :=
  let literal (c : Char) (after : List Char) : Read (ClassItem × List Char) :=
    if !flags.unicode && 0x80 ≤ c.toNat then throw .notText else pure (.literal c, after)
  match cs with
  | [] => throw .classUnclosed
  | '\\' :: rest => do
      let (escape, after) ← readEscape flags rest
      match escape with
      | .literal c _ => literal c after
      | .named name negated => return (.set (← flags.namedSet name negated), after)
      | .property set negated => return (.set (← flags.propertySet set negated), after)
      | .look _ => throw .classInvalid
  | c :: rest => literal c rest

/-- The character after the next one, as free spacing sees it: blanks and the signs that open and
close comments are passed over. -/
def peekPast (flags : Flags) (after : List Char) : Option Char :=
  let rec pass (inComment : Bool) : List Char → Option Char
    | [] => after.head?
    | c :: rest =>
        if isSpace c then pass inComment rest
        else if !inComment && c == '#' then pass true rest
        else some c
  if flags.freeSpacing then pass false after else after.head?

/-- Reads an item and, if a hyphen follows, the range that it starts.  A hyphen before a closing
bracket or another hyphen starts no range. -/
def readClassRange (flags : Flags) (cs : List Char) : Read (CharSet × List Char) := do
  let (first, rest) ← readClassItem flags cs
  let alone : CharSet := match first with
    | .literal c => .single c
    | .set set => set
  match flags.skip rest with
  | [] => throw .classUnclosed
  | '-' :: after =>
      let next := peekPast flags after
      if next == some ']' || next == some '-' then return (alone, '-' :: after)
      match flags.skip after with
      | [] => throw .classUnclosed
      | after => do
          let (last, after) ← readClassItem flags after
          match first, last with
          | .literal first, .literal last =>
              if first ≤ last then return (.range first last, after) else throw .classInvalid
          | _, _ => throw .classInvalid
  | rest => return (alone, rest)

/-- Takes the hyphens at the start of a class, which stand for themselves.  `none` if the text ends.
-/
def takeHyphens? (flags : Flags) : (steps : Nat) → (items : List ReadSet) → List Char →
    Option (List ReadSet × List Char)
  | 0, _, _ => none
  | steps + 1, items, cs =>
      match cs with
      | [] => none
      | '-' :: rest => takeHyphens? flags steps (⟨.single '-', 0⟩ :: items) (flags.skip rest)
      | _ => some (items, cs)

/-- Reads the start of a class after its bracket: the sign of negation, hyphens and a closing
bracket, which stand for themselves there. -/
def openClass (flags : Flags) (cs : List Char) : Read (Bool × List ReadSet × List Char) :=
  let cs := flags.skip cs
  let (negated, cs) := match cs with
    | '^' :: rest => (true, flags.skip rest)
    | _ => (false, cs)
  match takeHyphens? flags (cs.length + 1) [] cs with
  | none => throw .classUnclosed
  | some ([], ']' :: rest) =>
      match flags.skip rest with
      | [] => throw .classUnclosed
      | rest => pure (negated, [⟨.single ']', 0⟩], rest)
  | some (items, rest) => pure (negated, items, rest)

/-- Ends the right side of an operator: the operator, if one is open, applies to both sides. -/
def closeOperator (flags : Flags) (right : ReadSet) :
    List ClassFrame → ReadSet × List ClassFrame
  | .operator operator left :: frames =>
      (⟨operator.apply (flags.foldCase left.set) (flags.foldCase right.set),
        max left.depth right.depth + 1⟩, frames)
  | frames => (right, frames)

/-- Reads a class to the end of its outermost bracket.  `items` holds what has been read since the
last bracket or operator, last item first. -/
def readClassFrom (flags : Flags) : (steps : Nat) → (frames : List ClassFrame) →
    (items : List ReadSet) → List Char → Read (ReadSet × List Char)
  | 0, _, _, _ => throw .classUnclosed
  | steps + 1, frames, items, cs =>
      let operator (operator : SetOperator) (rest : List Char) :=
        let (left, frames) := closeOperator flags (.unionOf items) frames
        readClassFrom flags steps (.operator operator left :: frames) [] rest
      match flags.skip cs with
      | [] => throw .classUnclosed
      | '[' :: rest =>
          match readAsciiClass? rest with
          | some (set, negated, after) => do
              let set ← flags.foldAndNegate negated set
              readClassFrom flags steps frames (⟨set, 0⟩ :: items) after
          | none => do
              let (negated, inner, after) ← openClass flags rest
              readClassFrom flags steps (.bracket items negated :: frames) inner after
      | ']' :: rest =>
          let (content, frames) := closeOperator flags (.unionOf items) frames
          match frames with
          | .bracket outer negated :: frames => do
              let set ← flags.foldAndNegate negated content.set
              let closed : ReadSet := ⟨set, content.depth + 1⟩
              if frames.isEmpty then return (closed, rest)
              else readClassFrom flags steps frames (closed :: outer) rest
          | _ => throw .classInvalid
      | '&' :: '&' :: rest => operator .inter rest
      | '-' :: '-' :: rest => operator .diff rest
      | '~' :: '~' :: rest => operator .symmDiff rest
      | cs => do
          let (set, rest) ← readClassRange flags cs
          readClassFrom flags steps frames (⟨set, 0⟩ :: items) rest

/-- Reads a class after its opening bracket. -/
def readClass (flags : Flags) (cs : List Char) : Read (ReadSet × List Char) := do
  let (negated, items, rest) ← openClass flags cs
  readClassFrom flags (rest.length + 1) [.bracket [] negated] items rest

end Tint.Regex
