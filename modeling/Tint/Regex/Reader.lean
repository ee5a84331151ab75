import Tint.Regex.Class
import Tint.Regex.Room

/-!
# Reading patterns

Turns the text of a pattern into a `Pattern`.  The reader goes through the text once and keeps the
groups that are still open on a stack, so it needs as many steps as there are characters at most.

Flags set inside a group hold up to its end, across its alternatives.
-/

namespace Tint.Regex

open Tint.Unicode

/-- A part of a pattern as read: its meaning, the number of constructs nested in it, and whether a
repetition can follow it. -/
structure Part where
  pattern : Pattern
  depth : Nat
  repeatable : Bool := true
  deriving Repr

namespace Part

/-- The parts of one alternative in a row, given last part first. -/
def inSequence : List Part → Part
  | [] => ⟨.empty, 0, true⟩
  | [part] => part
  | last :: before =>
      { pattern := before.foldl (fun rest part => .concat part.pattern rest) last.pattern
        depth := before.foldl (fun depth part => max depth part.depth) last.depth + 1 }

/-- The alternatives of a group, given last alternative first. -/
def inChoice : List Part → Part
  | [] => ⟨.empty, 0, true⟩
  | [part] => part
  | last :: before =>
      { pattern := before.foldl (fun rest part => .choice part.pattern rest) last.pattern
        depth := before.foldl (fun depth part => max depth part.depth) last.depth + 1 }

/-- A repetition of a part.  What matches the empty text only is repeated once at most. -/
def times (part : Part) (least : Nat) (most : Option Nat) (greedy : Bool) : Part :=
  let (least, most) :=
    if part.pattern.onlyEmpty then (min least 1, some (min (most.getD 1) 1)) else (least, most)
  { pattern := .repeated least most greedy part.pattern, depth := part.depth + 1 }

end Part

/-- The alternatives of the group being read: the finished ones and the parts of the current one,
both last first. -/
structure Branches where
  finished : List Part := []
  current : List Part := []
  deriving Repr

/-- All alternatives as one part. -/
def Branches.close (branches : Branches) : Part :=
  .inChoice (.inSequence branches.current :: branches.finished)

/-- Adds a part to the current alternative. -/
def Branches.add (branches : Branches) (part : Part) : Branches :=
  { branches with current := part :: branches.current }

/-- A group that is still open. -/
structure OpenGroup where
  /-- What surrounds the group. -/
  outer : Branches
  /-- The number of a capturing group. -/
  index : Option Nat
  /-- The flags to go back to at its end. -/
  flags : Flags
  deriving Repr

/-- How far the reader has come. -/
structure ReadState where
  flags : Flags
  branches : Branches := {}
  groups : List OpenGroup := []
  /-- The number of capturing groups so far. -/
  groupCount : Nat := 0
  /-- Their names. -/
  names : List (List Char) := []
  deriving Repr

/-- Adds a part where the reader stands. -/
def ReadState.add (state : ReadState) (part : Part) : ReadState :=
  { state with branches := state.branches.add part }

/-- A literal character.  Outside Unicode mode, two hexadecimal digits above ASCII would be half a
character. -/
def literalPart (flags : Flags) (c : Char) (asByte : Bool) : Read Part :=
  if flags.unicode then
    pure ⟨.set (if flags.ignoreCase then .letterInAnyCase c else .single c), 0, true⟩
  else if asByte && 0x80 ≤ c.toNat then throw .notText
  else
    let variants := if flags.ignoreCase then CharSet.asciiCaseVariants c else []
    pure ⟨.set (.ofList (c :: variants)), 0, true⟩

/-- Any character, without the ends of lines unless the flags include them. -/
def dotPart (flags : Flags) : Read Part :=
  if !flags.unicode then throw .notText
  else
    let set : CharSet :=
      if flags.dotAll then .any
      else if flags.carriageReturn then .compl (.ofList ['\r', '\n'])
      else .compl (.single '\n')
    pure ⟨.set set, 0, true⟩

/-- The part that an escape stands for. -/
def escapePart (flags : Flags) : Escape → Read Part
  | .literal c asByte => literalPart flags c asByte
  | .named name negated => return ⟨.set (← flags.namedSet name negated), 0, true⟩
  | .property set negated => return ⟨.set (← flags.propertySet set negated), 0, true⟩
  | .look look => pure ⟨.look look, 0, true⟩

/-- Replaces the last part by its repetition. -/
def ReadState.repeatLast (state : ReadState) (least : Nat) (most : Option Nat) (lazy : Bool) :
    Read ReadState :=
  match state.branches.current with
  | [] => throw .repetitionWithoutOperand
  | last :: before =>
      if last.repeatable then
        pure { state with
          branches.current := last.times least most (lazy == state.flags.swapGreed) :: before }
      else throw .repetitionWithoutOperand

/-- Takes the decimal digits at the front, skipping blanks after each in free spacing. -/
def takeDigits (flags : Flags) : (steps : Nat) → List Char → List Char × List Char
  | 0, cs => ([], cs)
  | steps + 1, cs =>
      match cs with
      | [] => ([], [])
      | c :: rest =>
          if isAsciiDigit c then
            let (digits, after) := takeDigits flags steps (flags.skip rest)
            (c :: digits, after)
          else ([], cs)

/-- Reads a count with the blanks around it; `none` if it has no digits.  Counts have 32 bits. -/
def readCount (flags : Flags) (cs : List Char) : Read (Option Nat × List Char) :=
  let (digits, after) := takeDigits flags (cs.length + 1) (cs.dropWhile isSpace)
  let number := digits.foldl (fun number c => number * 10 + (c.toNat - '0'.toNat)) 0
  let after := flags.skip (after.dropWhile isSpace)
  if digits.isEmpty then pure (none, after)
  else if number < 0x100000000 then pure (some number, after)
  else throw .repetitionInvalid

/-- Reads a repetition's bounds after the opening brace: a least count and a most count, if any. -/
def readBounds (flags : Flags) (cs : List Char) : Read (Nat × Option Nat × List Char) := do
  let (least, after) ← readCount flags (flags.skip cs)
  let some least := least | throw .repetitionInvalid
  match after with
  | '}' :: rest => return (least, some least, rest)
  | ',' :: rest =>
      match flags.skip rest with
      | '}' :: rest => return (least, none, rest)
      | rest => do
          let (most, after) ← readCount flags rest
          let some most := most | throw .repetitionInvalid
          match after with
          | '}' :: rest =>
              if least ≤ most then return (least, some most, rest) else throw .repetitionInvalid
          | _ => throw .repetitionInvalid
  | _ => throw .repetitionInvalid

/-- Reads the letters of a flag group up to its colon or closing parenthesis, which it leaves.
`seen` holds the letters so far, `on` tells whether the minus sign is still to come, and `dangling`
whether it came last. -/
def readFlags (seen : List Char) (on dangling : Bool) (flags : Flags) :
    List Char → Read (Flags × Bool × List Char)
  | [] => throw .flagInvalid
  | c :: rest =>
      if c == ':' || c == ')' then
        if dangling then throw .flagInvalid else pure (flags, seen.isEmpty && on, c :: rest)
      else if c == '-' then
        if on then readFlags seen false true flags rest else throw .flagInvalid
      else
        match flags.switch? c on with
        | none => throw .flagInvalid
        | some flags =>
            if seen.contains c then throw .flagInvalid
            else readFlags (c :: seen) on false flags rest

/-- Characters that can stand in a group's name, and at its start. -/
def isNameChar (first : Bool) (c : Char) : Bool :=
  if first then c == '_' || isAlphabetic c
  else c == '_' || c == '.' || c == '[' || c == ']' || isAlphanumeric c

/-- Reads a group's name up to its closing angle bracket. -/
def readName (names : List (List Char)) (cs : List Char) : Read (List Char × List Char) :=
  let name := cs.takeWhile (· != '>')
  match name, cs.dropWhile (· != '>') with
  | first :: others, _ :: rest =>
      if !isNameChar true first || !others.all (isNameChar false) then throw .groupNameInvalid
      else if names.contains name then throw .groupNameTwice
      else pure (name, rest)
  | _, _ => throw .groupNameInvalid

/-- Opens a group: what has been read so far surrounds it. -/
def ReadState.openGroup (state : ReadState) (index : Option Nat) (flags : Flags) : ReadState :=
  { state with
    flags := flags
    branches := {}
    groups := ⟨state.branches, index, state.flags⟩ :: state.groups }

/-- Opens the next numbered group. -/
def ReadState.openNumbered (state : ReadState) : ReadState :=
  { state.openGroup (some (state.groupCount + 1)) state.flags with
    groupCount := state.groupCount + 1 }

/-- Reads what follows an opening parenthesis. -/
def readGroup (state : ReadState) (cs : List Char) : Read (ReadState × List Char) :=
  let named (rest : List Char) : Read (ReadState × List Char) := do
    let (name, rest) ← readName state.names rest
    return ({ state.openNumbered with names := name :: state.names }, rest)
  match state.flags.skip cs with
  | '?' :: '=' :: _ | '?' :: '!' :: _ | '?' :: '<' :: '=' :: _ | '?' :: '<' :: '!' :: _ =>
      throw .lookAround
  | '?' :: 'P' :: '<' :: rest => named rest
  | '?' :: '<' :: rest => named rest
  | '?' :: rest => do
      let (flags, empty, rest) ← readFlags [] true false state.flags rest
      match rest with
      | ')' :: rest =>
          if empty then throw .repetitionWithoutOperand
          else return ({ state.add ⟨.empty, 0, false⟩ with flags }, rest)
      | _ :: rest => return (state.openGroup none flags, rest)
      | [] => throw .groupUnclosed
  | rest => pure (state.openNumbered, rest)

/-- Closes the innermost group. -/
def ReadState.closeGroup (state : ReadState) : Read ReadState :=
  match state.groups with
  | [] => throw .groupUnopened
  | group :: groups =>
      let content := state.branches.close
      let pattern := match group.index with
        | none => content.pattern
        | some index => .group index content.pattern
      pure { state with
        flags := group.flags
        branches := group.outer.add ⟨pattern, content.depth + 1, true⟩
        groups := groups }

/-- Takes the question mark that makes a repetition lazy. -/
def takeLazy : List Char → Bool × List Char
  | '?' :: rest => (true, rest)
  | rest => (false, rest)

/-- Reads one construct, given its first character. -/
def readOne (state : ReadState) (c : Char) (rest : List Char) : Read (ReadState × List Char) :=
  let flags := state.flags
  let add (part : Part) : Read (ReadState × List Char) := pure (state.add part, rest)
  let repetition (least : Nat) (most : Option Nat) : Read (ReadState × List Char) := do
    let (lazy, rest) := takeLazy rest
    return (← state.repeatLast least most lazy, rest)
  match c with
  | '(' => readGroup state rest
  | ')' => return (← state.closeGroup, rest)
  | '|' =>
      let finished := .inSequence state.branches.current :: state.branches.finished
      pure ({ state with branches := ⟨finished, []⟩ }, rest)
  | '[' => do
      let (read, rest) ← readClass flags rest
      return (state.add ⟨.set read.set, read.depth, true⟩, rest)
  | '?' => repetition 0 (some 1)
  | '*' => repetition 0 none
  | '+' => repetition 1 none
  | '{' => do
      let (least, most, rest) ← readBounds flags rest
      let (lazy, rest) := takeLazy (flags.skip rest)
      return (← state.repeatLast least most lazy, rest)
  | '\\' => do
      let (escape, rest) ← readEscape flags rest
      return (state.add (← escapePart flags escape), rest)
  | '.' => do add (← dotPart flags)
  | '^' => add ⟨.look (if flags.multiLine then .lineStart flags.ending else .textStart), 0, true⟩
  | '$' => add ⟨.look (if flags.multiLine then .lineEnd flags.ending else .textEnd), 0, true⟩
  | c => do add (← literalPart flags c false)

/-- Reads to the end of the pattern.  Every step takes a character at least. -/
def readFrom : (steps : Nat) → ReadState → List Char → Read ReadState
  | 0, state, _ => pure state
  | steps + 1, state, cs =>
      match state.flags.skip cs with
      | [] => pure state
      | c :: rest => do
          let (state, rest) ← readOne state c rest
          readFrom steps state rest

/-- The deepest nesting that a pattern may have. -/
def depthLimit : Nat := 250

/-- Reads a pattern under the given flags. -/
def Pattern.read (flags : Flags) (text : List Char) : Read Pattern := do
  let state ← readFrom (text.length + 1) { flags } text
  if !state.groups.isEmpty then throw .groupUnclosed
  let whole := state.branches.close
  if depthLimit < whole.depth then throw .tooDeep
  if !whole.pattern.fits then throw .tooLarge
  return whole.pattern

end Tint.Regex
