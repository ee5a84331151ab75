import Tint.Proofs.Regex.Ways

/-!
# The search follows the ways

A search holds many ways at once and drops one that waits where another already waits.  This loses
no answer: what comes after a place is settled by the node, so the way that is dropped has the same
positions ahead as the one that is kept, and that one is preferred.

The measure of a frontier is its best answer: the first match that its ways come to, were each
followed through all that it has yet to do.  Following a node from a position adds the ways through
it behind the answers that are there.  By induction over the text, the search finds the most
preferred way from the leftmost position that has one.
-/

namespace Tint.Regex

/-! ## Nodes that can be followed in lockstep -/

namespace Node

/-- The places of a node. -/
def places : Node → List Nat
  | empty | look _ | gate _ | close _ => []
  | one place _ => [place]
  | seq first second | alt first second => first.places ++ second.places
  | star _ _ body | plus _ _ body | group _ body => body.places

/-- Whether nothing in a node keeps ways from passing a position twice. -/
def gateFree : Node → Bool
  | empty | one _ _ | look _ | close _ => true
  | gate _ => false
  | seq first second | alt first second => first.gateFree && second.gateFree
  | star mark _ body | plus mark _ body => mark.isNone && body.gateFree
  | group _ body => body.gateFree

/-- The ways through a node.  Gates are for the search alone and let every way through here. -/
def ways : Node → Ways
  | empty | gate _ => .stay
  | one _ set => .one set
  | look l => .look l
  | seq first second => first.ways.andThen second.ways
  | alt first second => first.ways.orElse second.ways
  | star _ greedy body => body.ways.rounds greedy
  | plus _ greedy body => fun cursor =>
      (body.ways cursor).flatMap fun way =>
        if way.cursor.rest.length < cursor.rest.length then
          way.extend (body.ways.rounds greedy way.cursor)
        else [way]
  | group index body => body.ways.group index
  | close index => fun cursor => [⟨cursor, [(2 * index + 1, cursor.offset)]⟩]

/-- A way through a node goes forward in the text. -/
theorem forward_ways (node : Node) : node.ways.Forward := by
  induction node with
  | empty | gate => exact Ways.forward_stay
  | one place set => exact Ways.forward_one set
  | look l => exact Ways.forward_look l
  | seq first second firstIH secondIH => exact firstIH.andThen secondIH
  | alt first second firstIH secondIH => exact firstIH.orElse secondIH
  | star mark greedy body ih => exact ih.rounds greedy
  | plus mark greedy body ih =>
      intro cursor way member
      rcases List.mem_flatMap.mp member with ⟨front, inBody, later⟩
      have bodyLeads := ih cursor front inBody
      split at later
      · rcases List.mem_map.mp later with ⟨back, inRounds, rfl⟩
        exact bodyLeads.trans (ih.rounds greedy front.cursor back inRounds)
      · rw [List.mem_singleton] at later
        rwa [later]
  | group index body ih => exact ih.group index
  | close index =>
      intro cursor way member
      rw [ways, List.mem_singleton] at member
      rw [member]
      exact .refl cursor

/-- The ways through nodes in a row. -/
def waysAll : List Node → Ways
  | [] => .stay
  | node :: todo => node.ways.andThen (waysAll todo)

theorem waysAll_singleton (node : Node) : waysAll [node] = node.ways :=
  Ways.andThen_stay node.ways

/-- A node that has no gates and whose places are told apart. -/
structure Regular (node : Node) : Prop where
  gateFree : node.gateFree = true
  distinct : node.places.Nodup

/-- What comes after a place is as `ahead` says, for all places of a node that is followed by
`todo`. -/
def Follows (ahead : Nat → List Node) : Node → (todo : List Node) → Prop
  | empty, _ | look _, _ | close _, _ => True
  | gate _, _ => False
  | one place _, todo => ahead place = todo
  | seq first second, todo => first.Follows ahead (second :: todo) ∧ second.Follows ahead todo
  | alt first second, todo => first.Follows ahead todo ∧ second.Follows ahead todo
  | star mark greedy body, todo =>
      mark = none ∧ body.Follows ahead (star mark greedy body :: todo)
  | plus mark greedy body, todo =>
      mark = none ∧ body.Follows ahead (star mark greedy body :: todo)
  | group index body, todo => body.Follows ahead (close index :: todo)

/-- The same for nodes in a row. -/
def FollowsAll (ahead : Nat → List Node) : List Node → Prop
  | [] => True
  | node :: todo => node.Follows ahead todo ∧ FollowsAll ahead todo

/-- What comes after a place of a node that is followed by `todo`. -/
def after? : Node → (todo : List Node) → Nat → Option (List Node)
  | empty, _, _ | look _, _, _ | close _, _, _ | gate _, _, _ => none
  | one other _, todo, place => if place = other then some todo else none
  | seq first second, todo, place =>
      first.after? (second :: todo) place <|> second.after? todo place
  | alt first second, todo, place => first.after? todo place <|> second.after? todo place
  | star mark greedy body, todo, place | plus mark greedy body, todo, place =>
      body.after? (star mark greedy body :: todo) place
  | group index body, todo, place => body.after? (close index :: todo) place

theorem after?_isSome_iff (node : Node) (todo : List Node) (place : Nat) :
    (node.after? todo place).isSome ↔ place ∈ node.places := by
  induction node generalizing todo with
  | empty | look | gate | close => simp [after?, places]
  | one other set => simp [after?, places]
  | seq first second firstIH secondIH | alt first second firstIH secondIH =>
      simp [after?, places, Option.isSome_or, firstIH, secondIH]
  | star mark greedy body ih | plus mark greedy body ih | group index body ih =>
      exact ih _

/-- Two nodes side by side agree with `ahead` if what they say together does. -/
theorem ahead_of_or {ahead : Nat → List Node} {first second : Node}
    {firstTodo secondTodo : List Node}
    (agrees : ∀ place ∈ first.places ++ second.places,
      (first.after? firstTodo place <|> second.after? secondTodo place) = some (ahead place))
    (distinct : (first.places ++ second.places).Nodup) :
    (∀ place ∈ first.places, first.after? firstTodo place = some (ahead place)) ∧
      ∀ place ∈ second.places, second.after? secondTodo place = some (ahead place) := by
  constructor
  · intro place member
    have both := agrees place (List.mem_append_left _ member)
    obtain ⟨after, found⟩ :=
      Option.isSome_iff_exists.mp ((first.after?_isSome_iff firstTodo place).mpr member)
    rwa [found] at both ⊢
  · intro place member
    have both := agrees place (List.mem_append_right _ member)
    have elsewhere : place ∉ first.places := by
      intro inFirst
      exact List.disjoint_of_nodup_append distinct inFirst member
    have missing : first.after? firstTodo place = none := by
      rw [← Option.not_isSome_iff_eq_none, after?_isSome_iff]
      exact elsewhere
    rwa [missing] at both

theorem follows_of_after? {ahead : Nat → List Node} {node : Node} {todo : List Node}
    (regular : node.Regular)
    (agrees : ∀ place ∈ node.places, node.after? todo place = some (ahead place)) :
    node.Follows ahead todo := by
  rcases regular with ⟨gateFree, distinct⟩
  induction node generalizing todo with
  | empty | look | close => trivial
  | gate => simp [Node.gateFree] at gateFree
  | one place set =>
      have here := agrees place (by simp [places])
      rw [after?, if_pos rfl, Option.some.injEq] at here
      exact here.symm
  | seq first second firstIH secondIH | alt first second firstIH secondIH =>
      simp only [Node.gateFree, Bool.and_eq_true] at gateFree
      rcases ahead_of_or agrees distinct with ⟨inFirst, inSecond⟩
      constructor
      · exact firstIH inFirst gateFree.1 distinct.of_append_left
      · exact secondIH inSecond gateFree.2 distinct.of_append_right
  | star mark greedy body ih | plus mark greedy body ih =>
      simp only [Node.gateFree, Bool.and_eq_true, Option.isNone_iff_eq_none] at gateFree
      exact ⟨gateFree.1, ih agrees gateFree.2 distinct⟩
  | group index body ih => exact ih agrees gateFree distinct

/-- What comes after the places of a regular node can be said once for all of them. -/
theorem Regular.exists_follows {node : Node} (regular : node.Regular) :
    ∃ ahead, node.Follows ahead [] := by
  refine ⟨fun place => (node.after? [] place).getD [], follows_of_after? regular ?_⟩
  intro place member
  obtain ⟨after, found⟩ :=
    Option.isSome_iff_exists.mp ((node.after?_isSome_iff [] place).mpr member)
  rw [found, Option.getD_some]

end Node

/-! ## The answers of a frontier -/

/-- The match that a way gives. -/
def Match.ofWay (start : Nat) (slots : Slots) (way : Way) : Match :=
  ⟨start, way.cursor, slots.setAll way.writes⟩

/-- The matches that a thread comes to from a position. -/
def Thread.answers (thread : Thread) (cursor : Cursor) : List Match :=
  (Node.waysAll thread.todo cursor).map (.ofWay thread.start thread.slots)

/-- The matches that threads come to from a position. -/
def futures (threads : List Thread) (cursor : Cursor) : List Match :=
  threads.flatMap (·.answers cursor)

/-- The matches that a frontier comes to: those of its threads from the next position, if there is
one, and behind them the one that it has found. -/
def Frontier.answers (frontier : Frontier) (next : Option Cursor) : List Match :=
  next.toList.flatMap (futures frontier.threads.reverse) ++ frontier.found.toList

/-- The match that a frontier comes to. -/
def Frontier.best (frontier : Frontier) (next : Option Cursor) : Option Match :=
  (frontier.answers next).head?

namespace Frontier

variable {ahead : Nat → List Node} {next : Option Cursor}

/-- For every place that is taken, a thread waits with what comes after the place. -/
structure Sound (ahead : Nat → List Node) (frontier : Frontier) : Prop where
  waiting : ∀ place ∈ frontier.places, ∃ thread ∈ frontier.threads, thread.todo = ahead place
  follows : ∀ thread ∈ frontier.threads, Node.FollowsAll ahead thread.todo

@[simp] theorem best_empty : ({} : Frontier).best next = none := by
  simp [best, answers, futures]

theorem best_isSome_of_found {frontier : Frontier} (found : frontier.found.isSome) :
    (frontier.best next).isSome := by
  rcases Option.isSome_iff_exists.mp found with ⟨match', isFound⟩
  simp [best, answers, isFound]

theorem best_isSome_of_thread {frontier : Frontier} {thread : Thread} {cursor : Cursor}
    (member : thread ∈ frontier.threads) (alive : Node.waysAll thread.todo cursor ≠ []) :
    (frontier.best (some cursor)).isSome := by
  rw [best, Option.isSome_iff_ne_none, ne_eq, List.head?_eq_none_iff]
  intro none
  apply alive
  have all : ∀ thread ∈ frontier.threads.reverse, thread.answers cursor = [] := by
    simpa [answers, futures] using (List.append_eq_nil_iff.mp none).1
  exact List.map_eq_nil_iff.mp (all thread (List.mem_reverse.mpr member))

/-- An update of frontiers that adds matches behind the answers that are there. -/
def Adds (ahead : Nat → List Node) (next : Option Cursor) (update : Frontier → Frontier)
    (matches' : List Match) : Prop :=
  ∀ frontier, Sound ahead frontier → Sound ahead (update frontier) ∧
    (update frontier).best next = (frontier.best next).or matches'.head?

namespace Adds

theorem keep : Adds ahead next (fun frontier => frontier) [] := by
  intro frontier sound
  exact ⟨sound, by simp⟩

theorem comp {first second : Frontier → Frontier} {early late : List Match}
    (firstAdds : Adds ahead next first early) (secondAdds : Adds ahead next second late) :
    Adds ahead next (fun frontier => second (first frontier)) (early ++ late) := by
  intro frontier sound
  rcases firstAdds frontier sound with ⟨soundFirst, bestFirst⟩
  rcases secondAdds _ soundFirst with ⟨soundSecond, bestSecond⟩
  refine ⟨soundSecond, ?_⟩
  rw [bestSecond, bestFirst, List.head?_append, Option.or_assoc]

end Adds

end Frontier

/-! ## Following a node -/

namespace Node

open Frontier

variable {ahead : Nat → List Node} {here : Cursor} {start : Nat}

/-- The matches that go on from a way through a node.  A way that has taken characters goes through
`todo` from where it is; one that has not goes on as `exit` says. -/
def continued (here : Cursor) (start : Nat) (slots : Slots) (todo : List Node)
    (exit : Slots → List Match) (way : Way) : List Match :=
  if way.cursor.rest.length < here.rest.length then
    (way.extend (waysAll todo way.cursor)).map (.ofWay start slots)
  else exit (slots.setAll way.writes)

variable {slots : Slots} {todo : List Node} {exit : Slots → List Match}

theorem continued_here (writes : List (Nat × Nat)) :
    continued here start slots todo exit ⟨here, writes⟩ = exit (slots.setAll writes) :=
  if_neg (lt_irrefl _)

/-- After characters have been taken, going through a node and then on is going on through more. -/
theorem flatMap_continued_extend {way : Way}
    (taken : way.cursor.rest.length < here.rest.length) {later : List Way}
    (forward : ∀ other ∈ later, way.cursor.Leads other.cursor) :
    (way.extend later).flatMap (continued here start slots todo exit) =
      (way.extend (later.flatMap fun other => other.extend (waysAll todo other.cursor))).map
        (.ofWay start slots) := by
  induction later with
  | nil => rfl
  | cons other later ih =>
      have further := (forward other List.mem_cons_self).length_le
      have tail := ih (fun another member => forward another (List.mem_cons_of_mem _ member))
      rw [Way.extend_cons, List.flatMap_cons, tail, continued, if_pos (by simp; omega)]
      simp [Way.extend, Function.comp_def]

/-- The slots that a way has set before can be set first. -/
theorem continued_append (writes : List (Nat × Nat)) (way : Way) :
    continued here start slots todo exit ⟨way.cursor, writes ++ way.writes⟩ =
      continued here start (slots.setAll writes) todo exit way := by
  unfold continued
  split
  · simp [Way.extend, Match.ofWay, Function.comp_def]
  · rw [Slots.setAll_append]

/-- Going through a node from a way is going through it later, or, if the way has not moved, now. -/
theorem continued_node {node : Node} {way : Way} (leads : here.Leads way.cursor) :
    continued here start slots (node :: todo)
        (fun slots => (node.ways here).flatMap (continued here start slots todo exit)) way =
      (way.extend (node.ways way.cursor)).flatMap (continued here start slots todo exit) := by
  by_cases taken : way.cursor.rest.length < here.rest.length
  · rw [flatMap_continued_extend taken (node.forward_ways way.cursor), continued, if_pos taken,
      waysAll, Ways.andThen]
  · rcases way with ⟨cursor, writes⟩
    obtain rfl : cursor = here := leads.eq_of_not_lt taken
    rw [continued_here, Way.extend, List.flatMap_map]
    simp only [continued_append]

/-- Between two rounds of a loop. -/
theorem continued_star {mark : Option Nat} {greedy : Bool} {body : Node} {way : Way}
    (taken : way.cursor.rest.length < here.rest.length) (otherExit : Slots → List Match) :
    continued here start slots (star mark greedy body :: todo) otherExit way =
      (way.extend (body.ways.rounds greedy way.cursor)).flatMap
        (continued here start slots todo exit) := by
  rw [flatMap_continued_extend taken (body.forward_ways.rounds greedy way.cursor), continued,
    if_pos taken, waysAll, ways, Ways.andThen]

/-- A loop goes through its body and then again through itself, or leaves at once. -/
theorem flatMap_continued_rounds (mark : Option Nat) {greedy : Bool} {body : Node} :
    (body.ways.rounds greedy here).flatMap (continued here start slots todo exit) =
      let round := (body.ways here).flatMap
        (continued here start slots (star mark greedy body :: todo) fun _ => [])
      if greedy then round ++ exit slots else exit slots ++ round := by
  have more : ((body.ways here).flatMap fun way =>
        if way.cursor.rest.length < here.rest.length then
          way.extend (body.ways.rounds greedy way.cursor)
        else []).flatMap (continued here start slots todo exit) =
      (body.ways here).flatMap
        (continued here start slots (star mark greedy body :: todo) fun _ => []) := by
    rw [List.flatMap_assoc]
    apply List.flatMap_congr
    intro way member
    by_cases taken : way.cursor.rest.length < here.rest.length
    · rw [if_pos taken, continued_star taken]
    · rw [if_neg taken, continued, if_neg taken, List.flatMap_nil]
  have leave : continued here start slots todo exit ⟨here, []⟩ = exit slots :=
    continued_here []
  rw [Ways.rounds]
  cases greedy with
  | true => simp only [↓reduceIte, List.flatMap_append, List.flatMap_singleton, more, leave]
  | false => simp only [Bool.false_eq_true, ↓reduceIte, List.flatMap_cons, more, leave]

/-- The first round of a loop that has to be gone through once. -/
theorem flatMap_continued_plus {mark : Option Nat} {greedy : Bool} {body : Node} :
    ((plus mark greedy body).ways here).flatMap (continued here start slots todo exit) =
      (body.ways here).flatMap
        (continued here start slots (star mark greedy body :: todo) exit) := by
  rw [ways, List.flatMap_assoc]
  apply List.flatMap_congr
  intro way member
  by_cases taken : way.cursor.rest.length < here.rest.length
  · rw [if_pos taken, continued_star taken]
  · rw [if_neg taken, List.flatMap_singleton, continued, continued, if_neg taken, if_neg taken]

/-- A group sets a slot before its body and another one behind it. -/
theorem flatMap_continued_group {index : Nat} {body : Node} :
    ((group index body).ways here).flatMap (continued here start slots todo exit) =
      (body.ways here).flatMap
        (continued here start (slots.set (2 * index) here.offset) (close index :: todo)
          fun slots => exit (slots.set (2 * index + 1) here.offset)) := by
  rw [ways, Ways.group, List.flatMap_map]
  apply List.flatMap_congr
  intro way member
  by_cases taken : way.cursor.rest.length < here.rest.length
  · simp [continued, taken, waysAll, ways, Ways.andThen, Way.extend, Match.ofWay, Function.comp_def]
  · have still := (body.forward_ways here way member).eq_of_not_lt taken
    simp [continued, still]

/-- Waiting at a place adds what comes after it.  If another thread waits there, it has the same
answers. -/
theorem wait_adds {next : Cursor} {place : Nat} {set : CharSet} {c : Char}
    (known : ahead place = todo) (todoFollows : FollowsAll ahead todo) (holds : set.contains c) :
    Adds ahead (some next)
      (fun frontier =>
        if set.contains c && frontier.found.isNone && !frontier.places.contains place then
          { frontier with
            threads := ⟨start, slots, todo⟩ :: frontier.threads
            places := place :: frontier.places }
        else frontier)
      ((waysAll todo next).map (.ofWay start slots)) := by
  intro frontier sound
  simp only [holds, Bool.true_and]
  split
  · rename_i free
    simp only [Bool.and_eq_true, Option.isNone_iff_eq_none] at free
    constructor
    · constructor
      · intro other member
        rcases List.mem_cons.mp member with rfl | earlier
        · exact ⟨_, List.mem_cons_self, known.symm⟩
        · rcases sound.waiting other earlier with ⟨thread, waits, same⟩
          exact ⟨thread, List.mem_cons_of_mem _ waits, same⟩
      · intro thread member
        rcases List.mem_cons.mp member with rfl | earlier
        · exact todoFollows
        · exact sound.follows thread earlier
    · simp [best, answers, futures, Thread.answers, free.1, List.head?_append]
  · rename_i taken
    refine ⟨sound, ?_⟩
    by_cases alive : waysAll todo next = []
    · simp [alive]
    · apply (Option.or_eq_left_of_isSome _).symm
      by_cases found : frontier.found.isSome
      · exact best_isSome_of_found found
      · have isTaken : place ∈ frontier.places := by
          simpa [Option.not_isSome_iff_eq_none.mp found] using taken
        rcases sound.waiting place isTaken with ⟨thread, waits, same⟩
        apply best_isSome_of_thread waits
        rwa [same, known]

/-- Following a node adds the matches that go on from the ways through it. -/
theorem enter_adds (start : Nat) (node : Node) {todo : List Node}
    (follows : node.Follows ahead todo) (todoFollows : FollowsAll ahead todo)
    {exit : Slots → Frontier → Frontier} {exitMatches : Slots → List Match}
    (exits : ∀ slots, Adds ahead here.next? (exit slots) (exitMatches slots)) (slots : Slots) :
    Adds ahead here.next? (node.enter here start todo exit slots)
      ((node.ways here).flatMap (continued here start slots todo exitMatches)) := by
  induction node generalizing todo exit exitMatches slots with
  | empty =>
      have stays := exits slots
      simpa [ways, Ways.stay, continued_here, enter] using stays
  | gate mark => exact follows.elim
  | close index =>
      have stays := exits (slots.set (2 * index + 1) here.offset)
      simpa [ways, Ways.stay, continued_here, enter] using stays
  | look l =>
      by_cases holds : l.holds here.before here.rest.head?
      · have stays := exits slots
        simpa [ways, Ways.look, holds, continued_here, enter] using stays
      · simpa [ways, Ways.look, holds, enter] using Adds.keep
  | one place set =>
      cases found : here.rest with
      | nil => simpa [ways, Ways.one, found, enter] using Adds.keep
      | cons c rest =>
          by_cases holds : set.contains c
          · have next : here.next? = some here.step := by simp [Cursor.step, Cursor.next?, found]
            have waits : Adds ahead (some here.step) _ ((waysAll todo here.step).map
                (.ofWay start slots)) := wait_adds follows todoFollows holds
            have shorter : here.step.rest.length ≤ rest.length := by
              simp [Cursor.step_of_rest found]
            simpa [ways, Ways.one, found, holds, enter, continued, shorter, Way.extend, next]
              using waits
          · simpa [ways, Ways.one, found, holds, enter] using Adds.keep
  | seq first second firstIH secondIH =>
      have secondExits (slots : Slots) := secondIH follows.2 todoFollows exits slots
      have both := firstIH follows.1 ⟨follows.2, todoFollows⟩ secondExits slots
      rw [ways, Ways.andThen, List.flatMap_assoc]
      rw [List.flatMap_congr fun way member => continued_node (first.forward_ways here way member)]
        at both
      exact both
  | alt first second firstIH secondIH =>
      rw [ways, Ways.orElse, List.flatMap_append]
      exact (firstIH follows.1 todoFollows exits slots).comp
        (secondIH follows.2 todoFollows exits slots)
  | star mark greedy body ih =>
      -- A round has to take text to come back here, so what it exits to without text adds nothing.
      rcases follows with ⟨rfl, bodyFollows⟩
      have round := ih bodyFollows ⟨⟨rfl, bodyFollows⟩, todoFollows⟩
        (fun _ => Adds.keep) slots
      rw [ways, flatMap_continued_rounds none]
      cases greedy with
      | true => exact round.comp (exits slots)
      | false => exact (exits slots).comp round
  | plus mark greedy body ih =>
      rcases follows with ⟨rfl, bodyFollows⟩
      rw [flatMap_continued_plus]
      exact ih bodyFollows ⟨⟨rfl, bodyFollows⟩, todoFollows⟩ exits slots
  | group index body ih =>
      rw [flatMap_continued_group]
      have closes (slots : Slots) := exits (slots.set (2 * index + 1) here.offset)
      exact ih follows ⟨trivial, todoFollows⟩ closes (slots.set (2 * index) here.offset)

/-- Following nodes in a row adds the matches of the ways through all of them. -/
theorem enterAll_adds (start : Nat) {todo : List Node} (follows : FollowsAll ahead todo)
    (slots : Slots) :
    Adds ahead here.next? (enterAll here start todo slots)
      ((waysAll todo here).map (.ofWay start slots)) := by
  induction todo generalizing slots with
  | nil =>
      intro frontier sound
      by_cases found : frontier.found.isSome
      · have better : (frontier.best here.next?).isSome := best_isSome_of_found found
        have notNone : frontier.found.isNone = false := by simpa using found
        simp only [enterAll, notNone, Bool.false_eq_true, ↓reduceIte]
        exact ⟨sound, (Option.or_eq_left_of_isSome better).symm⟩
      · have isNone := Option.not_isSome_iff_eq_none.mp found
        simp only [enterAll, isNone, Option.isNone_none, ↓reduceIte]
        refine ⟨⟨sound.waiting, sound.follows⟩, ?_⟩
        simp [best, answers, isNone, waysAll, Ways.stay, Match.ofWay, List.head?_append]
  | cons node todo ih =>
      have later :=
        enter_adds start node follows.1 follows.2 (fun slots => ih follows.2 slots) slots
      have passed : (waysAll (node :: todo) here).map (.ofWay start slots) =
          (node.ways here).flatMap (continued here start slots todo fun slots =>
            (waysAll todo here).map (.ofWay start slots)) := by
        rw [waysAll, Ways.andThen, List.map_flatMap]
        apply List.flatMap_congr
        intro way member
        by_cases taken : way.cursor.rest.length < here.rest.length
        · rw [continued, if_pos taken]
        · have still := (node.forward_ways here way member).eq_of_not_lt taken
          simp [continued, still, Way.extend, Match.ofWay, Function.comp_def]
      rw [passed]
      exact later

end Node

/-! ## Going through a text -/

/-- The most preferred match from a position. -/
def Ways.first? (ways : Ways) (here : Cursor) : Option Match :=
  (ways here).head?.map (.ofWay here.offset [])

/-- The most preferred match from the leftmost position that has one. -/
def leftmostFrom (ways : Ways) : (rest : List Char) → (before : Option Char) →
    (offset : Nat) → Option Match
  | rest, before, offset =>
    (ways.first? ⟨before, rest, offset⟩).or
      (match rest with
      | [] => none
      | c :: rest => leftmostFrom ways rest (some c) (offset + 1))

namespace Frontier

variable {ahead : Nat → List Node}

/-- At a position, the ways that have reached it come first, then those that start there. -/
theorem at_sound (here : Cursor) {root : Node} {threads : List Thread}
    (rootFollows : root.Follows ahead [])
    (follows : ∀ thread ∈ threads, Node.FollowsAll ahead thread.todo) (fresh : Bool) :
    Sound ahead (Frontier.at root here threads fresh) ∧
      (Frontier.at root here threads fresh).best here.next? =
        ((futures threads here).head?).or (if fresh then root.ways.first? here else none) := by
  have start : Sound ahead {} := ⟨by simp, by simp⟩
  have reached : Adds ahead here.next?
      (fun frontier => threads.foldl
        (fun frontier thread =>
          Node.enterAll here thread.start thread.todo thread.slots frontier) frontier)
      (futures threads here) := by
    induction threads with
    | nil => exact Adds.keep
    | cons thread threads ih =>
        have head : Adds ahead here.next? _ (thread.answers here) :=
          Node.enterAll_adds thread.start (follows thread List.mem_cons_self) thread.slots
        exact head.comp (ih fun other member => follows other (List.mem_cons_of_mem _ member))
  rcases reached {} start with ⟨soundReached, bestReached⟩
  cases fresh with
  | false =>
      rw [best_empty, Option.none_or] at bestReached
      exact ⟨soundReached, by simpa [Frontier.at] using bestReached⟩
  | true =>
      have rootAll : Node.FollowsAll ahead [root] := ⟨rootFollows, trivial⟩
      have begins : Adds ahead here.next? (Node.enterAll here here.offset [root] []) _ :=
        Node.enterAll_adds here.offset rootAll []
      rcases begins _ soundReached with ⟨soundBegins, bestBegins⟩
      refine ⟨soundBegins, ?_⟩
      rw [bestReached, best_empty, Option.none_or, Node.waysAll_singleton,
        List.head?_map] at bestBegins
      exact bestBegins

end Frontier

open Frontier

/-- From any position on, the ways that are alive come first, then the match found before, then the
ones that start later. -/
theorem searchFrom_eq {ahead : Nat → List Node} {root : Node}
    (rootFollows : root.Follows ahead []) {rest : List Char} {before : Option Char} {offset : Nat}
    {threads : List Thread} (follows : ∀ thread ∈ threads, Node.FollowsAll ahead thread.todo)
    (best : Option Match) :
    searchFrom root rest before offset threads best =
      ((futures threads ⟨before, rest, offset⟩).head?.or best).or
        (leftmostFrom root.ways rest before offset) := by
  induction rest generalizing before offset threads best with
  | nil =>
      have here := (at_sound ⟨before, [], offset⟩ rootFollows follows best.isNone).2
      simp only [Frontier.best, answers, Cursor.next?, Option.toList_none, List.flatMap_nil,
        List.nil_append, Option.head?_toList] at here
      rw [searchFrom, leftmostFrom]
      cases best with
      | none => simpa using here
      | some best =>
          have reached : (Frontier.at root ⟨before, [], offset⟩ threads false).found =
              (futures threads ⟨before, [], offset⟩).head? := by
            simpa using here
          simp [reached]
  | cons c rest ih =>
      rcases at_sound ⟨before, c :: rest, offset⟩ rootFollows follows best.isNone with ⟨sound, here⟩
      rw [searchFrom, leftmostFrom]
      simp only [Option.orElse_eq_orElse, Option.orElse_eq_or]
      generalize Frontier.at root ⟨before, c :: rest, offset⟩ threads best.isNone = frontier at *
      have alive : ∀ thread ∈ frontier.threads.reverse, Node.FollowsAll ahead thread.todo := by
        intro thread member
        exact sound.follows thread (List.mem_reverse.mp member)
      -- Stopping early is no different from going on: with no threads left, a match is there for
      -- good.
      have further : (if (frontier.found.or best).isSome && frontier.threads.isEmpty then
            frontier.found.or best
          else searchFrom root rest (some c) (offset + 1) frontier.threads.reverse
            (frontier.found.or best)) =
          ((futures frontier.threads.reverse ⟨some c, rest, offset + 1⟩).head?.or
            (frontier.found.or best)).or (leftmostFrom root.ways rest (some c) (offset + 1)) := by
        split
        · rename_i done
          simp only [Bool.and_eq_true, List.isEmpty_iff] at done
          rw [done.2, List.reverse_nil, futures, List.flatMap_nil, List.head?_nil, Option.none_or]
          exact (Option.or_eq_left_of_isSome done.1).symm
        · exact ih alive (frontier.found.or best)
      have ahead' : (futures frontier.threads.reverse ⟨some c, rest, offset + 1⟩).head?.or
            frontier.found =
          (futures threads ⟨before, c :: rest, offset⟩).head?.or
            (if best.isNone then root.ways.first? ⟨before, c :: rest, offset⟩ else none) := by
        rw [← here]
        simp [Frontier.best, answers, Cursor.next?, List.head?_append]
      rw [further, ← Option.or_assoc, ahead']
      cases best with
      | none => simp [Option.or_assoc]
      | some best => simp

/-- The search finds the most preferred way from the leftmost position that has one. -/
theorem search_eq {root : Node} (regular : root.Regular) (cursor : Cursor) :
    search root cursor = leftmostFrom root.ways cursor.rest cursor.before cursor.offset := by
  rcases regular.exists_follows with ⟨ahead, rootFollows⟩
  have none : ∀ thread ∈ ([] : List Thread), Node.FollowsAll ahead thread.todo := by simp
  rw [search, searchFrom_eq rootFollows none]
  simp [futures]

end Tint.Regex
