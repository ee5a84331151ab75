import Tint.Regex.Shape

/-!
# The room that a pattern takes

A pattern is laid out twice as an automaton that reads bytes, once to read a text forwards and once
to read it backwards.  A state takes 32 bytes of room; to that come 4 bytes for each of the ways
that leave a fork, and 8 for each of the ranges of bytes that a branching state tells apart.  A
pattern is refused if either automaton takes more than ten mebibytes.

Within a set, states are shared.  Forwards, states are one that agree in all that can follow;
backwards, those that agree in the way to the end of the set.  The tables that remember the states
have a limited number of slots, so a state can be laid out again after it has been forgotten.
-/

namespace Tint.Regex

/-- The two ways to read a text. -/
inductive Direction where
  | forward
  | backward
  deriving DecidableEq, Repr

/-- The states laid out so far and the bytes that they take. -/
structure Room where
  states : Nat := 0
  bytes : Nat := 0
  deriving DecidableEq, Repr

/-- The most bytes that an automaton may take. -/
def Room.limit : Nat := 10 * 1024 * 1024

/-- A step of the layout; it fails when the limit is passed. -/
abbrev Laying := StateT Room Option

namespace Laying

/-- Lays out states, with the bytes that come to them. -/
def grow (states extra : Nat) : Laying Unit := fun room =>
  let room : Room := ⟨room.states + states, room.bytes + 32 * states + extra⟩
  if room.bytes ≤ Room.limit then some ((), room) else none

/-- What it takes to go on from the end of a part, which may be a fork. -/
def link (fork : Bool) : Nat :=
  if fork then 4 else 0

/-- A part laid out several times in a row, or one state that does nothing.  The result tells
whether it ends in a fork. -/
def copies (part : Laying Bool) : (count : Nat) → Laying Bool
  | 0 => do
      grow 1 0
      return false
  | 1 => part
  | count + 2 => do
      grow 0 (link (← part))
      copies part (count + 1)

/-- A part laid out several times in a row, each time behind a fork that can leave out all the rest.
`fork` tells whether what comes before ends in one. -/
def optionalCopies (part : Laying Bool) : (count : Nat) → (fork : Bool) → Laying Unit
  | 0, fork => grow 0 (link fork)
  | count + 1, fork => do
      grow 1 (8 + link fork)
      optionalCopies part count (← part)

end Laying

/-! ## Sets -/

/-- The ways that leave a state: which bytes lead where. -/
abbrev Links := List (ByteRange × Nat)

/-- Byte sequences by their first range, which neighbours can share. -/
def sequencesByFirst (sequences : List (List ByteRange)) :
    List (ByteRange × List (List ByteRange)) :=
  sequences.foldr
    (fun sequence groups =>
      match sequence, groups with
      | [], groups => groups
      | first :: rest, (other, rests) :: groups =>
          if first = other then (other, rest :: rests) :: groups
          else (first, [rest]) :: (other, rests) :: groups
      | first :: rest, [] => [(first, [rest])])
    []

/-- States that are remembered by what they do, so that none is laid out twice.  Each has a slot,
which a later state can take over. -/
structure StateTable (α : Type) where
  slots : Array (Option (α × Nat))
  /-- The number of the next state. -/
  free : Nat
  /-- The bytes that come to the states laid out. -/
  extra : Nat := 0

namespace StateTable

/-- A table with nothing in it. -/
def empty {α : Type} (size free : Nat) : StateTable α :=
  { slots := Array.replicate size none, free }

/-- The slot for numbers that tell what a state does. -/
def slot {α : Type} (table : StateTable α) (numbers : List Nat) : Nat :=
  let mix (hash : UInt64) (number : Nat) : UInt64 := (hash ^^^ number.toUInt64) * 1099511628211
  (numbers.foldl mix 14695981039346656037).toNat % table.slots.size

/-- The state that does a thing: the one in the slot, or a new one, for which `extra` bytes come to
the state. -/
def state {α : Type} [DecidableEq α] (table : StateTable α) (slot extra : Nat) (does : α) :
    Nat × StateTable α :=
  let known := (table.slots.getD slot none).bind fun (other, state) =>
    if other = does then some state else none
  match known with
  | some state => (state, table)
  | none =>
      (table.free,
        { slots := table.slots.setIfInBounds slot (some (does, table.free))
          free := table.free + 1
          extra := table.extra + extra })

end StateTable

/-- Lays out a state that reads one of the sequences, of at most `length` ranges each, and comes to
`last` after them. -/
def forwardState (last : Nat) : (length : Nat) → (sequences : List (List ByteRange)) →
    StateTable Links → Nat × StateTable Links
  | 0, _, table => (last, table)
  | length + 1, sequences, table =>
      if sequences.all List.isEmpty then (last, table)
      else
        let (links, table) := (sequencesByFirst sequences).foldl
          (fun (links, table) (first, rests) =>
            let (next, table) := forwardState last length rests table
            ((first, next) :: links, table))
          (([] : Links), table)
        let links := links.reverse
        let slot := table.slot (links.flatMap fun (range, next) => [range.first, range.last, next])
        table.state slot (8 * links.length) links

/-- Lays out a set for reading forwards: an end, and the states that lead to it. -/
def layForward (sequences : List (List ByteRange)) : Laying Unit := do
  let last := (← get).states
  let (_, table) := forwardState last 4 sequences (.empty 10000 (last + 1))
  Laying.grow (table.free - last) table.extra

/-- The state that reads a range and then goes on to `next`, read backwards. -/
def backwardState (next : Nat) (range : ByteRange) (table : StateTable (ByteRange × Nat)) :
    Nat × StateTable (ByteRange × Nat) :=
  table.state (table.slot [next, range.first, range.last]) 0 (range, next)

/-- Lays out a set for reading backwards: a fork, an end, and for each sequence a way from the fork
to the end, the last byte first. -/
def layBackward (sequences : List (List ByteRange)) : Laying Unit := do
  let fork := (← get).states
  let table := sequences.foldl
    (fun table sequence =>
      (sequence.foldl (fun (next, table) range => backwardState next range table)
        (fork + 1, table)).2)
    (.empty 1000 (fork + 2))
  Laying.grow (table.free - fork) (4 * sequences.length)

/-- Lays out a set.  One of ASCII characters only is a branching state and an end. -/
def laySet (direction : Direction) (ranges : List CodeRange) : Laying Unit :=
  if ranges.all (·.last < 0x80) then Laying.grow 2 (8 * ranges.length)
  else
    let sequences := ranges.flatMap CodeRange.sequences
    match direction with
    | .forward => layForward sequences
    | .backward => layBackward sequences

/-! ## Choices of literals -/

/-- Words by their first byte. -/
abbrev WordGroups := List (Nat × List (List Nat))

/-- Adds the rest of a word to the group of its first byte. -/
def WordGroups.add (byte : Nat) (rest : List Nat) : WordGroups → WordGroups
  | [] => [(byte, [rest])]
  | (other, rests) :: groups =>
      if other = byte then (other, rests ++ [rest]) :: groups
      else (other, rests) :: add byte rest groups

/-- The places of a word list where a word ends cut it into stages, which are tried in turns. -/
structure WordStages where
  finished : List WordGroups := []
  current : WordGroups := []

/-- Adds a word.  Its end closes the stage, unless nothing but ends has come so far. -/
def WordStages.add (stages : WordStages) (word : List Nat) : WordStages :=
  match word with
  | byte :: rest => { stages with current := stages.current.add byte rest }
  | [] =>
      if !stages.finished.isEmpty && (stages.current :: stages.finished).all List.isEmpty then
        stages
      else { finished := stages.current :: stages.finished, current := [] }

/-- The states, and the bytes that come to them, of a tree of words; a stage is a branching state,
and a fork chooses among the stages. -/
def wordTree : (length : Nat) → (words : List (List Nat)) → Nat × Nat
  | 0, _ => (0, 0)
  | length + 1, words =>
      let stages := words.foldl WordStages.add {}
      let all := stages.current :: stages.finished
      let filled := all.filter (!·.isEmpty)
      let ranges := (filled.map fun groups => if groups.length = 1 then 0 else groups.length).sum
      let below := filled.flatten.map fun (_, rests) =>
        if rests.all List.isEmpty then (0, 0) else wordTree length rests
      (filled.length + 1 + (below.map Prod.fst).sum,
        4 * (filled.length + stages.finished.length) + 8 * ranges + (below.map Prod.snd).sum)

/-- Lays out a choice of literals as a tree. -/
def layWords (direction : Direction) (words : List (List Nat)) : Laying Unit :=
  let words := match direction with
    | .forward => words
    | .backward => words.map List.reverse
  let (states, extra) := wordTree ((words.map List.length).foldl max 0 + 1) words
  Laying.grow (states + 1) extra

/-! ## Shapes -/

namespace Shape

/-- The bytes of a literal. -/
def literalBytes? : Shape → Option (List Nat)
  | literal codes => some (codes.flatMap utf8Bytes)
  | _ => none

/-- Whether a match can only start at the start of the text or, reading backwards, only end at its
end. -/
def anchored (direction : Direction) : Shape → Bool
  | look l =>
      match direction with
      | .forward => l = .textStart
      | .backward => l = .textEnd
  | repeated least _ _ body => least != 0 && body.anchored direction
  | group _ body => body.anchored direction
  | concat first rest =>
      match direction with
      | .forward => first.anchored direction || (first.onlyEmpty && rest.anchored direction)
      | .backward => rest.anchored direction || (rest.onlyEmpty && first.anchored direction)
  | choice first rest => first.anchored direction && rest.anchored direction
  | empty | literal _ | set _ => false

open Laying in
/-- Lays out a repetition of a part.  The result tells whether it ends in a fork. -/
def layTimes (least : Nat) (most : Option Nat) (takesText : Bool) (part : Laying Bool) :
    Laying Bool := do
  match least, most with
  | 0, some 1 =>
      grow 1 8
      grow 1 (link (← part))
      return false
  | 0, none =>
      if takesText then
        grow 1 4
        grow 0 (link (← part))
        return true
      else
        grow 3 (16 + link (← part))
        return false
  | 1, none =>
      grow 1 (4 + link (← part))
      return true
  | least, none =>
      grow 0 (link (← copies part (least - 1)))
      grow 1 (4 + link (← part))
      return true
  | least, some most =>
      let fork ← copies part least
      if least = most then return fork
      grow 1 0
      optionalCopies part (most - least) fork
      return false

open Laying in
/-- Ends a branch, if the shape is one: a fork leads to each branch, and each leads to one end.
Both are laid out after the second branch. -/
def closeBranch (before : Nat) (fork : Bool) : Laying Bool := do
  if before = 0 then return fork
  if before = 2 then grow 2 0
  grow 0 (4 + link fork)
  return false

open Laying in
/-- Lays out a shape.  `branch` is 0, or the number of the branch that the shape is in a choice.
The result tells whether the shape ends in a fork. -/
def lay (direction : Direction) : Shape → (branch : Nat) → Laying Bool
  | empty, branch | look _, branch => do
      grow 1 0
      closeBranch branch false
  | literal codes, branch => do
      grow (codes.flatMap utf8Bytes).length 0
      closeBranch branch false
  | set ranges, branch => do
      laySet direction ranges
      closeBranch branch false
  | repeated least most _ body, branch => do
      let takesText := body.shortest?.any (0 < ·)
      closeBranch branch (← layTimes least most takesText (body.lay direction 0))
  | group _ body, branch => do
      match direction with
      | .forward =>
          grow 1 0
          grow 1 (link (← body.lay direction 0))
          closeBranch branch false
      | .backward => closeBranch branch (← body.lay direction 0)
  | concat first rest, branch => do
      match direction with
      | .forward =>
          grow 0 (link (← first.lay direction 0))
          closeBranch branch (← rest.lay direction 0)
      | .backward =>
          grow 0 (link (← rest.lay direction 0))
          closeBranch branch (← first.lay direction 0)
  | choice first rest, branch => do
      match if branch = 0 then (choice first rest).branches.mapM literalBytes? else none with
      | some words =>
          layWords direction words
          return false
      | none =>
          let number := max branch 1
          let _ ← closeBranch number (← first.lay direction 0)
          rest.lay direction (number + 1)

open Laying in
/-- Lays out the automaton of a whole pattern.  Unless matches are anchored, a loop before it passes
over the text; reading forwards, it records where a match starts and ends. -/
def layWhole (direction : Direction) (shape : Shape) : Laying Unit := do
  if shape.anchored direction then grow 1 0 else grow 3 16
  match direction with
  | .forward =>
      grow 1 0
      grow 2 (link (← shape.lay direction 0))
  | .backward => grow 1 (link (← shape.lay direction 0))

/-- Whether both automata of a shape keep the limit. -/
def fits (shape : Shape) : Bool :=
  ((shape.layWhole .forward).run {}).isSome && ((shape.layWhole .backward).run {}).isSome

end Shape

/-! ## A quick estimate -/

namespace CharSet

/-- A bound on the bytes of a set, not a close one. -/
def roomBound : CharSet → Nat
  | none | any | compl none => 1200
  | range first last =>
      if last.toNat < 0x80 then 80
      else if first == last then 80 * first.utf8Size
      else 1500
  | space => 1200
  | digit => 6000
  | word | category _ | script _ | scriptUse _ | age _ | property _ => 60000
  | graphemeBreak _ | wordBreak _ | sentenceBreak _ => 60000
  | compl space => 3000
  | compl digit => 16000
  | compl word | compl (category _) | compl (property _) => 62000
  | compl set => 2000 + 8 * set.roomBound
  | union left right => left.roomBound + right.roomBound
  | inter left right | diff left right | symmDiff left right =>
      2000 + 8 * (left.roomBound + right.roomBound)
  | anyCase (range _ last) => if last.toNat < 0x80 then 500 else 40000
  | anyCase set => 40000 + 8 * set.roomBound
  | anyAsciiCase set => 500 + 8 * set.roomBound

end CharSet

namespace Pattern

/-- A bound on the bytes of a pattern, not a close one. -/
def roomBound : Pattern → Nat
  | empty | look _ => 40
  | set s => 40 + s.roomBound
  | concat first second => first.roomBound + second.roomBound
  | choice first second => 80 + first.roomBound + second.roomBound
  | repeated least most _ body =>
      match most with
      | none => 120 + max least 1 * (body.roomBound + 4)
      | some most => 120 + least * (body.roomBound + 4) + (most - least) * (body.roomBound + 48)
  | group _ body => 64 + body.roomBound

/-- Whether both automata of a pattern keep the limit.  If the estimate already does, nothing is
laid out. -/
def fits (pattern : Pattern) : Bool :=
  pattern.roomBound + 300 ≤ Room.limit || pattern.shape.fits

end Pattern

end Tint.Regex
