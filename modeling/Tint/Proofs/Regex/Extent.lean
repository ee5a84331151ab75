import Tint.Proofs.Regex.Ways
import Tint.Rule

/-!
# Where matches lie

Whatever the pattern is, a match ends where it starts or behind it, its groups lie inside it, and
the next match does not start before it ends.  None of this asks which ways the search prefers or
drops: a way records the position at which it is, and the search only moves on.  So it holds for all
nodes, gates included.
-/

namespace Tint.Regex

namespace Cursor.Leads

theorem offset_le {first last : Cursor} (leads : Leads first last) :
    first.offset ≤ last.offset := by
  have total := leads.offset_add_length
  have shorter := leads.length_le
  omega

theorem of_next? {cursor next : Cursor} (found : cursor.next? = some next) : Leads cursor next := by
  rcases cursor with ⟨before, _ | ⟨c, rest⟩, offset⟩
  · simp [next?] at found
  · simp only [next?, Option.some.injEq] at found
    exact .step (found ▸ .refl _)

end Cursor.Leads

/-! ## Slots -/

/-- All slots that are set hold positions between the bounds. -/
def Slots.Within (low high : Nat) (slots : Slots) : Prop :=
  ∀ entry ∈ slots, low ≤ entry.2 ∧ entry.2 ≤ high

namespace Slots.Within

variable {low high : Nat} {slots : Slots}

theorem nil : Within low high [] := by
  intro entry member
  cases member

theorem set (within : Within low high slots) (slot : Nat) {offset : Nat} (above : low ≤ offset)
    (below : offset ≤ high) : Within low high (slots.set slot offset) := by
  induction slots with
  | nil => simpa [Slots.set, Within] using ⟨above, below⟩
  | cons entry rest ih =>
      have restWithin : Within low high rest := fun other member =>
        within other (List.mem_cons_of_mem _ member)
      rw [Slots.set]
      split
      · exact List.forall_mem_cons.mpr ⟨⟨above, below⟩, restWithin⟩
      · exact List.forall_mem_cons.mpr ⟨within entry List.mem_cons_self, ih restWithin⟩

theorem mono (within : Within low high slots) {further : Nat} (le : high ≤ further) :
    Within low further slots := fun entry member =>
  ⟨(within entry member).1, (within entry member).2.trans le⟩

theorem lookup (within : Within low high slots) {slot value : Nat}
    (found : slots.lookup slot = some value) : low ≤ value ∧ value ≤ high := by
  obtain ⟨earlier, later, split, -⟩ := List.lookup_eq_some_iff.mp found
  exact within (slot, value) (by simp [split])

theorem group? (within : Within low high slots) {index start stop : Nat}
    (found : slots.group? index = some (start, stop)) : low ≤ start ∧ stop ≤ high := by
  rw [Slots.group?] at found
  split at found
  · rename_i first last startFound stopFound
    cases found
    exact ⟨(within.lookup startFound).1, (within.lookup stopFound).2⟩
  · cases found

end Slots.Within

/-! ## One position -/

/-- A way that started at `low` or behind it and has come to `high`. -/
structure Thread.Within (low high : Nat) (thread : Thread) : Prop where
  low_le : low ≤ thread.start
  le_high : thread.start ≤ high
  slots : thread.slots.Within thread.start high

/-- A match found from `origin` on. -/
structure Match.FoundFrom (origin : Cursor) (found : Match) : Prop where
  leads : origin.Leads found.after
  origin_le : origin.offset ≤ found.start
  start_le : found.start ≤ found.stop
  slots : found.slots.Within found.start found.stop

theorem Thread.Within.mono {low high further : Nat} {thread : Thread}
    (within : thread.Within low high) (le : high ≤ further) : thread.Within low further :=
  ⟨within.low_le, within.le_high.trans le, within.slots.mono le⟩

theorem Match.FoundFrom.of_leads {origin cursor : Cursor} {found : Match}
    (fromCursor : found.FoundFrom cursor) (leads : origin.Leads cursor) : found.FoundFrom origin :=
  ⟨leads.trans fromCursor.leads, leads.offset_le.trans fromCursor.origin_le, fromCursor.start_le,
    fromCursor.slots⟩

/-- All that the ways at a position have come to lies between the origin and that position. -/
structure Frontier.Bounded (origin here : Cursor) (frontier : Frontier) : Prop where
  threads : ∀ thread ∈ frontier.threads, thread.Within origin.offset here.offset
  found : ∀ found, frontier.found = some found → found.FoundFrom origin

namespace Frontier.Bounded

variable {origin here : Cursor} {frontier passed : Frontier}

theorem empty : Frontier.Bounded origin here {} where
  threads := by
    intro thread member
    cases member
  found := by
    intro found isFound
    cases isFound

theorem pass? (bounded : frontier.Bounded origin here) {mark : Option Nat}
    (isPassed : frontier.pass? mark = some passed) : passed.Bounded origin here := by
  cases mark with
  | none =>
      cases isPassed
      exact bounded
  | some mark =>
      simp only [Frontier.pass?] at isPassed
      split at isPassed
      · cases isPassed
      · cases isPassed
        exact ⟨bounded.threads, bounded.found⟩

end Frontier.Bounded

section Position

variable {origin here : Cursor} {start : Nat}

/-- Following a node keeps the bounds if what comes after it does. -/
theorem Node.enter_bounded (low : origin.offset ≤ start) (high : start ≤ here.offset) (node : Node)
    {todo : List Node} {exit : Slots → Frontier → Frontier}
    (exits : ∀ slots frontier, slots.Within start here.offset → frontier.Bounded origin here →
      (exit slots frontier).Bounded origin here)
    {slots : Slots} {frontier : Frontier} (within : slots.Within start here.offset)
    (bounded : frontier.Bounded origin here) :
    (node.enter here start todo exit slots frontier).Bounded origin here := by
  induction node generalizing todo exit slots frontier with
  | empty => exact exits slots frontier within bounded
  | one place set =>
      rw [enter]
      split
      · exact bounded
      · split
        · exact ⟨List.forall_mem_cons.mpr ⟨⟨low, high, within⟩, bounded.threads⟩, bounded.found⟩
        · exact bounded
  | look l =>
      rw [enter]
      split
      · exact exits slots frontier within bounded
      · exact bounded
  | gate mark =>
      rw [enter]
      split
      · exact bounded
      · rename_i isPassed
        exact exits slots _ within (bounded.pass? isPassed)
  | seq first second firstIH secondIH =>
      exact firstIH (fun slots frontier => secondIH exits) within bounded
  | alt first second firstIH secondIH =>
      exact secondIH exits within (firstIH exits within bounded)
  | star mark greedy body ih =>
      rw [enter]
      split
      · exact bounded
      · rename_i passed isPassed
        have passedBounded := bounded.pass? isPassed
        have round {frontier : Frontier} (bounded : frontier.Bounded origin here) :
            (body.enter here start (.star mark greedy body :: todo) (fun _ frontier => frontier)
              slots frontier).Bounded origin here :=
          ih (fun _ _ _ bounded => bounded) within bounded
        split
        · exact exits slots _ within (round passedBounded)
        · exact round (exits slots _ within passedBounded)
  | plus mark greedy body ih => exact ih exits within bounded
  | group index body ih =>
      have opened := within.set (2 * index) high le_rfl
      exact ih (fun slots frontier inside => exits _ _ (inside.set _ high le_rfl)) opened bounded
  | close index => exact exits _ _ (within.set _ high le_rfl) bounded

theorem Node.enterAll_bounded (leads : origin.Leads here) (low : origin.offset ≤ start)
    (high : start ≤ here.offset) (todo : List Node) {slots : Slots} {frontier : Frontier}
    (within : slots.Within start here.offset) (bounded : frontier.Bounded origin here) :
    (enterAll here start todo slots frontier).Bounded origin here := by
  induction todo generalizing slots frontier with
  | nil =>
      rw [enterAll]
      split
      · refine ⟨bounded.threads, ?_⟩
        intro found isFound
        cases isFound
        exact ⟨leads, low, high, within⟩
      · exact bounded
  | cons node todo ih =>
      exact node.enter_bounded low high (fun slots frontier => ih) within bounded

/-- The ways that have reached a position, and a new one, stay within the bounds. -/
theorem Frontier.at_bounded (leads : origin.Leads here) (root : Node) {threads : List Thread}
    (within : ∀ thread ∈ threads, thread.Within origin.offset here.offset) (fresh : Bool) :
    (Frontier.at root here threads fresh).Bounded origin here := by
  have followed {frontier : Frontier} (bounded : frontier.Bounded origin here) :
      (threads.foldl (fun frontier thread =>
        Node.enterAll here thread.start thread.todo thread.slots frontier)
          frontier).Bounded origin here := by
    induction threads generalizing frontier with
    | nil => exact bounded
    | cons thread threads ih =>
        have head := within thread List.mem_cons_self
        exact ih (fun other member => within other (List.mem_cons_of_mem _ member))
          (Node.enterAll_bounded leads head.low_le head.le_high thread.todo head.slots bounded)
  rw [Frontier.at]
  split
  · exact Node.enterAll_bounded leads leads.offset_le le_rfl [root] .nil (followed .empty)
  · exact followed .empty

end Position

/-! ## The search -/

/-- What is found at a position takes the place of what was found before. -/
theorem Frontier.Bounded.orElse {origin here : Cursor} {frontier : Frontier} {best : Option Match}
    (bounded : frontier.Bounded origin here)
    (bestFrom : ∀ found, best = some found → found.FoundFrom origin) :
    ∀ found, (frontier.found <|> best) = some found → found.FoundFrom origin := by
  intro found isFound
  rw [Option.orElse_eq_some] at isFound
  rcases isFound with isHere | ⟨-, isBest⟩
  · exact bounded.found found isHere
  · exact bestFrom found isBest

theorem searchFrom_foundFrom {origin : Cursor} {root : Node} {rest : List Char}
    {before : Option Char} {offset : Nat} {threads : List Thread} {best : Option Match}
    (leads : origin.Leads ⟨before, rest, offset⟩)
    (within : ∀ thread ∈ threads, thread.Within origin.offset offset)
    (bestFrom : ∀ found, best = some found → found.FoundFrom origin) {found : Match}
    (isFound : searchFrom root rest before offset threads best = some found) :
    found.FoundFrom origin := by
  induction rest generalizing before offset threads best with
  | nil =>
      have bounded := Frontier.at_bounded leads root within best.isNone
      rw [searchFrom] at isFound
      exact bounded.orElse bestFrom found isFound
  | cons c rest ih =>
      have bounded := Frontier.at_bounded leads root within best.isNone
      have betterFrom := bounded.orElse bestFrom
      rw [searchFrom] at isFound
      split at isFound
      · exact betterFrom found isFound
      · refine ih (leads.trans (.step (.refl _))) ?_ betterFrom isFound
        intro thread member
        exact (bounded.threads thread (List.mem_reverse.mp member)).mono (Nat.le_succ offset)

/-- The match that a search finds starts at the cursor or behind it, and its groups lie in it. -/
theorem search_foundFrom {root : Node} {cursor : Cursor} {found : Match}
    (isFound : search root cursor = some found) : found.FoundFrom cursor := by
  refine searchFrom_foundFrom (.refl cursor) ?_ ?_ isFound
  · intro thread member
    cases member
  · intro best isBest
    cases isBest

/-- Matches from a cursor on, each of which ends before the next one starts. -/
structure Match.RowFrom (cursor : Cursor) (row : List Match) : Prop where
  foundFrom : ∀ found ∈ row, found.FoundFrom cursor
  inOrder : row.Pairwise fun first second => first.stop ≤ second.start

namespace Match.RowFrom

variable {origin cursor : Cursor} {row : List Match}

theorem nil : RowFrom cursor [] := ⟨by simp, .nil⟩

theorem of_leads (fromCursor : RowFrom cursor row) (leads : origin.Leads cursor) :
    RowFrom origin row :=
  ⟨fun found member => (fromCursor.foundFrom found member).of_leads leads, fromCursor.inOrder⟩

theorem cons {found : Match} (first : found.FoundFrom cursor) (behind : RowFrom found.after row) :
    RowFrom cursor (found :: row) where
  foundFrom := List.forall_mem_cons.mpr ⟨first, (behind.of_leads first.leads).foundFrom⟩
  inOrder := List.pairwise_cons.mpr
    ⟨fun other member => (behind.foundFrom other member).origin_le, behind.inOrder⟩

end Match.RowFrom

/-- The matches from a cursor on are a row behind those before it. -/
theorem matchesFrom_rowFrom (root : Node) (steps : Nat) (cursor : Cursor) (last : Option Nat)
    (done : List Match) :
    ∃ row, matchesFrom root steps cursor last done = done.reverse ++ row ∧
      Match.RowFrom cursor row := by
  induction steps generalizing cursor last done with
  | zero => exact ⟨[], by simp [matchesFrom], .nil⟩
  | succ steps ih =>
      rw [matchesFrom]
      split
      · exact ⟨[], by simp, .nil⟩
      · rename_i found isFound
        have first := search_foundFrom isFound
        split
        · rcases ih found.after (some found.stop) (found :: done) with ⟨row, rowEq, behind⟩
          exact ⟨found :: row, by simpa using rowEq, .cons first behind⟩
        · -- an empty match counts or not; in either case the search goes on one character later
          cases next : found.after.next? with
          | none =>
              split
              · exact ⟨[], by simp, .nil⟩
              · exact ⟨[found], by simp, .cons first .nil⟩
          | some onward =>
              have leads := Cursor.Leads.of_next? next
              split
              · rcases ih onward none done with ⟨row, rowEq, behind⟩
                exact ⟨row, rowEq, (behind.of_leads leads).of_leads first.leads⟩
              · rcases ih onward none (found :: done) with ⟨row, rowEq, behind⟩
                exact ⟨found :: row, by simpa using rowEq, .cons first (behind.of_leads leads)⟩

theorem Matcher.allMatches_rowFrom (matcher : Matcher) (text : List Char) :
    Match.RowFrom (.start text) (matcher.allMatches text) := by
  rcases matchesFrom_rowFrom matcher.root (text.length + 1) (.start text) none [] with
    ⟨row, rowEq, fromStart⟩
  rw [Matcher.allMatches, rowEq]
  exact fromStart

/-! ## Groups -/

namespace Match.FoundFrom

variable {text : List Char} {found : Match}

theorem stop_le (fromStart : found.FoundFrom (.start text)) : found.stop ≤ text.length := by
  have total := fromStart.leads.offset_add_length
  simp only [Cursor.start, Match.stop] at total ⊢
  omega

/-- A group lies in its match. -/
theorem group_within {origin : Cursor} (fromOrigin : found.FoundFrom origin) {index : Nat}
    {span : Span} (isGroup : found.group? index = some span) :
    found.start ≤ span.start ∧ span.stop ≤ found.stop := by
  rw [Match.group?] at isGroup
  split at isGroup
  · cases isGroup
    exact ⟨le_rfl, le_rfl⟩
  · rcases Option.map_eq_some_iff.mp isGroup with ⟨bounds, groupFound, rfl⟩
    exact fromOrigin.slots.group? groupFound

end Match.FoundFrom

/-! ## Spans -/

/-- Spans of a text that are not empty and come one behind the other. -/
structure Span.Ordered (text : List Char) (spans : List Span) : Prop where
  nonempty : ∀ span ∈ spans, span.start < span.stop
  stop_le : ∀ span ∈ spans, span.stop ≤ text.length
  inOrder : spans.Pairwise fun first second => first.stop ≤ second.start

theorem Span.Ordered.tail {text : List Char} {span : Span} {spans : List Span}
    (ordered : Span.Ordered text (span :: spans)) : Span.Ordered text spans where
  nonempty other member := ordered.nonempty other (List.mem_cons_of_mem _ member)
  stop_le other member := ordered.stop_le other (List.mem_cons_of_mem _ member)
  inOrder := ordered.inOrder.tail

theorem Span.Ordered.stop_le_start {text : List Char} {span : Span} {spans : List Span}
    (ordered : Span.Ordered text (span :: spans)) : ∀ other ∈ spans, span.stop ≤ other.start :=
  fun _ member => List.rel_of_pairwise_cons ordered.inOrder member

end Tint.Regex

namespace Tint

open Tint.Regex

/-- The spans of a rule are in order and apart from each other, whatever its pattern and its group
are. -/
theorem Rule.spans_ordered (rule : Rule) (text : List Char) :
    Span.Ordered text (rule.spans text) := by
  have row := rule.matcher.allMatches_rowFrom text
  have inMatch {found : Match} (member : found ∈ rule.matcher.allMatches text) {span : Span}
      (isSpan : (found.group? rule.group).filter (fun span => span.start < span.stop) = some span) :
      span.start < span.stop ∧ found.start ≤ span.start ∧ span.stop ≤ found.stop := by
    rcases Option.filter_eq_some_iff.mp isSpan with ⟨isGroup, nonempty⟩
    exact ⟨by simpa using nonempty, (row.foundFrom found member).group_within isGroup⟩
  refine ⟨?_, ?_, ?_⟩
  · intro span isSpan
    rcases List.mem_filterMap.mp isSpan with ⟨found, member, isSpan⟩
    exact (inMatch member isSpan).1
  · intro span isSpan
    rcases List.mem_filterMap.mp isSpan with ⟨found, member, isSpan⟩
    exact (inMatch member isSpan).2.2.trans (row.foundFrom found member).stop_le
  · rw [Rule.spans, List.pairwise_filterMap]
    refine row.inOrder.imp_of_mem ?_
    intro first second firstMember secondMember apart firstSpan isFirst secondSpan isSecond
    have firstWithin := inMatch firstMember isFirst
    have secondWithin := inMatch secondMember isSecond
    omega

end Tint
