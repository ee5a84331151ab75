import Tint.Regex.Node

/-!
# Searching a text

The search goes through the text once.  At each position it holds the ways to match that are still
alive, most preferred first; all of them have taken the same characters, so two ways that wait at
the same place have the same future and only the first is kept.  A way that reaches the end of the
pattern gives the match, unless a preferred one that is still alive gives another later.

The leftmost match wins: a way that started earlier is preferred to all that started later.
-/

namespace Tint.Regex

/-- A position in a text: the character before it, the characters after it and how many come
before. -/
structure Cursor where
  before : Option Char
  rest : List Char
  offset : Nat
  deriving Repr

namespace Cursor

/-- The start of a text. -/
def start (text : List Char) : Cursor :=
  ⟨none, text, 0⟩

/-- The position after the next character. -/
def next? (cursor : Cursor) : Option Cursor :=
  match cursor.rest with
  | [] => none
  | c :: rest => some ⟨some c, rest, cursor.offset + 1⟩

end Cursor

/-- Where groups start and end: the start of group `i` is slot `2 * i`, its end the slot after. -/
abbrev Slots := List (Nat × Nat)

namespace Slots

/-- Sets a slot, in its place if it was set before. -/
def set (slot offset : Nat) : Slots → Slots
  | [] => [(slot, offset)]
  | (other, value) :: rest =>
      if other = slot then (slot, offset) :: rest else (other, value) :: set slot offset rest

/-- The start and end of a group that has matched. -/
def group? (slots : Slots) (index : Nat) : Option (Nat × Nat) :=
  match slots.lookup (2 * index), slots.lookup (2 * index + 1) with
  | some start, some stop => some (start, stop)
  | _, _ => none

end Slots

/-- A match: where it starts and ends, and the groups in it. -/
structure Match where
  start : Nat
  /-- The position at its end. -/
  after : Cursor
  slots : Slots
  deriving Repr

/-- Where a match ends. -/
def Match.stop (found : Match) : Nat :=
  found.after.offset

/-- A way to match that is still alive: where it started, the groups so far and what it has yet to
go through. -/
structure Thread where
  start : Nat
  slots : Slots
  todo : List Node

/-- What the ways at one position come to. -/
structure Frontier where
  /-- The ways that take the next character, last first. -/
  threads : List Thread := []
  /-- The places at which they wait. -/
  places : List Nat := []
  /-- The gates that were passed at this position. -/
  gates : List Nat := []
  /-- The match that ends here, if there is one; the ways after it do not count. -/
  found : Option Match := none

/-- Passes a gate, if there is one; `none` if it was passed before. -/
def Frontier.pass? (frontier : Frontier) : (mark : Option Nat) → Option Frontier
  | none => some frontier
  | some mark =>
      if frontier.gates.contains mark then none
      else some { frontier with gates := mark :: frontier.gates }

namespace Node

/-- Follows a node from a position, for a way that started at `start`.  `todo` is what comes after
the node, to be gone through from a later position; `exit` goes on with it at this one. -/
def enter (here : Cursor) (start : Nat) : Node → (todo : List Node) →
    (exit : Slots → Frontier → Frontier) → Slots → Frontier → Frontier
  | empty, _, exit, slots, frontier => exit slots frontier
  | one place set, todo, _, slots, frontier =>
      match here.rest with
      | [] => frontier
      | c :: _ =>
          if set.contains c && frontier.found.isNone && !frontier.places.contains place then
            { frontier with
              threads := ⟨start, slots, todo⟩ :: frontier.threads
              places := place :: frontier.places }
          else frontier
  | look l, _, exit, slots, frontier =>
      if l.holds here.before here.rest.head? then exit slots frontier else frontier
  | gate mark, _, exit, slots, frontier =>
      match frontier.pass? (some mark) with
      | none => frontier
      | some frontier => exit slots frontier
  | seq first second, todo, exit, slots, frontier =>
      first.enter here start (second :: todo) (second.enter here start todo exit) slots frontier
  | alt first second, todo, exit, slots, frontier =>
      second.enter here start todo exit slots (first.enter here start todo exit slots frontier)
  | star mark greedy body, todo, exit, slots, frontier =>
      match frontier.pass? mark with
      | none => frontier
      | some frontier =>
          let round := body.enter here start (star mark greedy body :: todo)
            (fun _ frontier => frontier) slots
          if greedy then exit slots (round frontier) else round (exit slots frontier)
  | plus mark greedy body, todo, exit, slots, frontier =>
      body.enter here start (star mark greedy body :: todo) exit slots frontier
  | group index body, todo, exit, slots, frontier =>
      body.enter here start (close index :: todo)
        (fun slots frontier => exit (slots.set (2 * index + 1) here.offset) frontier)
        (slots.set (2 * index) here.offset) frontier
  | close index, _, exit, slots, frontier =>
      exit (slots.set (2 * index + 1) here.offset) frontier

/-- Follows nodes one after the other.  A way that has gone through all of them has matched. -/
def enterAll (here : Cursor) (start : Nat) : List Node → Slots → Frontier → Frontier
  | [], slots, frontier =>
      if frontier.found.isNone then { frontier with found := some ⟨start, here, slots⟩ }
      else frontier
  | node :: todo, slots, frontier =>
      node.enter here start todo (enterAll here start todo) slots frontier

end Node

/-- Follows the ways that have reached a position, and then, if no match has been found yet, a new
one that starts there. -/
def Frontier.at (root : Node) (here : Cursor) (threads : List Thread) (fresh : Bool) : Frontier :=
  let frontier := threads.foldl
    (fun frontier thread => Node.enterAll here thread.start thread.todo thread.slots frontier) {}
  if fresh then Node.enterAll here here.offset [root] [] frontier else frontier

/-- Goes through the rest of a text with the ways alive; `best` is the match found so far. -/
def searchFrom (root : Node) : (rest : List Char) → (before : Option Char) → (offset : Nat) →
    (threads : List Thread) → (best : Option Match) → Option Match
  | rest, before, offset, threads, best =>
    let frontier := Frontier.at root ⟨before, rest, offset⟩ threads best.isNone
    let best := frontier.found <|> best
    match rest with
    | [] => best
    | c :: rest =>
        if best.isSome && frontier.threads.isEmpty then best
        else searchFrom root rest (some c) (offset + 1) frontier.threads.reverse best

/-- The leftmost match that starts at the cursor or after it. -/
def search (root : Node) (cursor : Cursor) : Option Match :=
  searchFrom root cursor.rest cursor.before cursor.offset [] none

/-- Adds all matches from the cursor on to `done`, which holds those before, last first.  The next
match is sought from the end of the last one; `last` is that end if the match took characters, and
an empty match there does not count.  After an empty match the search moves on by one character. -/
def matchesFrom (root : Node) : (steps : Nat) → Cursor → (last : Option Nat) →
    (done : List Match) → List Match
  | 0, _, _, done => done.reverse
  | steps + 1, cursor, last, done =>
      match search root cursor with
      | none => done.reverse
      | some found =>
          if found.start < found.stop then
            matchesFrom root steps found.after (some found.stop) (found :: done)
          else
            let done := if last == some found.stop then done else found :: done
            match found.after.next? with
            | none => done.reverse
            | some cursor => matchesFrom root steps cursor none done

end Tint.Regex
