import Mathlib
import Tint.Regex.Search

/-!
# The ways to go through a pattern

What a pattern matches, said without a search: from each position, the list of all ways through it,
most preferred first.  A way is the position that it comes to and the slots that it sets.  Neither
depends on what has happened before, so that two searches which come to the same place have the same
ways ahead.

A loop takes no empty rounds.  That is the meaning of a pattern whose loops have bodies that always
take characters; around other bodies, the search has rules of its own.
-/

namespace Tint.Regex

/-! ## Positions -/

namespace Cursor

/-- The position behind the next character, or the same one at the end. -/
def step (cursor : Cursor) : Cursor :=
  cursor.next?.getD cursor

theorem step_of_rest {cursor : Cursor} {c : Char} {rest : List Char}
    (found : cursor.rest = c :: rest) : cursor.step = ⟨some c, rest, cursor.offset + 1⟩ := by
  simp [step, next?, found]

/-- The second position is behind the first one in the same text, or the same. -/
inductive Leads : Cursor → Cursor → Prop where
  | refl (cursor : Cursor) : Leads cursor cursor
  | step {before : Option Char} {c : Char} {rest : List Char} {offset : Nat} {last : Cursor}
      (further : Leads ⟨some c, rest, offset + 1⟩ last) : Leads ⟨before, c :: rest, offset⟩ last

namespace Leads

theorem trans {first second third : Cursor} (before : Leads first second)
    (after : Leads second third) : Leads first third := by
  induction before with
  | refl => exact after
  | step _ ih => exact .step (ih after)

/-- What is taken from the rest is added to the offset. -/
theorem offset_add_length {first last : Cursor} (leads : Leads first last) :
    last.offset + last.rest.length = first.offset + first.rest.length := by
  induction leads with
  | refl => rfl
  | step _ ih =>
      simp only [List.length_cons] at ih ⊢
      omega

theorem length_le {first last : Cursor} (leads : Leads first last) :
    last.rest.length ≤ first.rest.length := by
  induction leads with
  | refl => exact le_rfl
  | step _ ih =>
      simp only [List.length_cons] at ih ⊢
      omega

/-- A position that is no further is the same one. -/
theorem eq_of_not_lt {first last : Cursor} (leads : Leads first last)
    (still : ¬last.rest.length < first.rest.length) : last = first := by
  cases leads with
  | refl => rfl
  | step further =>
      have shorter := further.length_le
      simp only [List.length_cons] at shorter still
      omega

end Leads

end Cursor

/-! ## Ways -/

/-- A way through a pattern: the position that it comes to and the slots that it sets, in order. -/
structure Way where
  cursor : Cursor
  writes : List (Nat × Nat) := []

/-- Sets slots one after the other. -/
def Slots.setAll (slots : Slots) (writes : List (Nat × Nat)) : Slots :=
  writes.foldl (fun slots write => slots.set write.1 write.2) slots

@[simp] theorem Slots.setAll_nil (slots : Slots) : slots.setAll [] = slots := rfl

@[simp] theorem Slots.setAll_cons (slots : Slots) (write : Nat × Nat)
    (writes : List (Nat × Nat)) :
    slots.setAll (write :: writes) = (slots.set write.1 write.2).setAll writes := rfl

@[simp] theorem Slots.setAll_append (slots : Slots) (first second : List (Nat × Nat)) :
    slots.setAll (first ++ second) = (slots.setAll first).setAll second :=
  List.foldl_append

/-- The ways that begin as this one and go on as one of the later ones. -/
def Way.extend (way : Way) (later : List Way) : List Way :=
  later.map fun other => ⟨other.cursor, way.writes ++ other.writes⟩

@[simp] theorem Way.extend_nil (way : Way) : way.extend [] = [] := rfl

@[simp] theorem Way.extend_cons (way other : Way) (later : List Way) :
    way.extend (other :: later) =
      ⟨other.cursor, way.writes ++ other.writes⟩ :: way.extend later := rfl

/-- The ways from each position, most preferred first. -/
abbrev Ways := Cursor → List Way

namespace Ways

/-- The one way that stays where it is. -/
def stay : Ways := fun cursor => [⟨cursor, []⟩]

/-- The ways through one character of a set. -/
def one (set : CharSet) : Ways := fun cursor =>
  match cursor.rest with
  | [] => []
  | c :: _ => if set.contains c then [⟨cursor.step, []⟩] else []

/-- The way that stays, where an assertion holds. -/
def look (look : Look) : Ways := fun cursor =>
  if look.holds cursor.before cursor.rest.head? then [⟨cursor, []⟩] else []

/-- The ways through two things in a row. -/
def andThen (first second : Ways) : Ways := fun cursor =>
  (first cursor).flatMap fun way => way.extend (second way.cursor)

/-- The ways through one of two things, those through the first preferred. -/
def orElse (first second : Ways) : Ways := fun cursor =>
  first cursor ++ second cursor

/-- The ways through something that may be left out; those through it are preferred if `greedy`. -/
def optional (greedy : Bool) (body : Ways) : Ways :=
  if greedy then body.orElse stay else stay.orElse body

/-- The ways through any number of rounds of a body, none of them empty. -/
def rounds (greedy : Bool) (body : Ways) : Ways := fun cursor =>
  let more := (body cursor).flatMap fun way =>
    if way.cursor.rest.length < cursor.rest.length then
      way.extend (rounds greedy body way.cursor)
    else []
  if greedy then more ++ [⟨cursor, []⟩] else ⟨cursor, []⟩ :: more
termination_by cursor => cursor.rest.length

/-- The ways through a number of rounds and then through something else. -/
def inARow (body : Ways) : (count : Nat) → (last : Ways) → Ways
  | 0, last => last
  | count + 1, last => body.andThen (inARow body count last)

/-- The ways through a number of rounds at most. -/
def upTo (greedy : Bool) (body : Ways) : (count : Nat) → Ways
  | 0 => stay
  | count + 1 => (body.andThen (upTo greedy body count)).optional greedy

/-- The ways through the body of a group. -/
def group (index : Nat) (body : Ways) : Ways := fun cursor =>
  (body cursor).map fun way =>
    ⟨way.cursor, (2 * index, cursor.offset) :: way.writes ++ [(2 * index + 1, way.cursor.offset)]⟩

end Ways

/-- The ways through a pattern. -/
def Pattern.ways : Pattern → Ways
  | empty => .stay
  | set s => .one s
  | look l => .look l
  | concat first second => first.ways.andThen second.ways
  | choice first second => first.ways.orElse second.ways
  | repeated least none greedy body => body.ways.inARow least (body.ways.rounds greedy)
  | repeated least (some most) greedy body =>
      body.ways.inARow least (body.ways.upTo greedy (most - least))
  | group index body => body.ways.group index

namespace Ways

@[simp] theorem andThen_stay (first : Ways) : first.andThen stay = first := by
  funext cursor
  simp [andThen, stay]

theorem inARow_andThen (body last : Ways) (count : Nat) :
    body.inARow count (body.andThen last) = body.inARow (count + 1) last := by
  induction count with
  | zero => rfl
  | succ count ih =>
      rw [inARow, ih]
      rfl

/-- A way through a loop that takes characters begins with one through its body. -/
theorem mem_rounds {greedy : Bool} {body : Ways} {cursor : Cursor} {way : Way}
    (member : way ∈ body.rounds greedy cursor) :
    way = ⟨cursor, []⟩ ∨ ∃ front ∈ body cursor,
      front.cursor.rest.length < cursor.rest.length ∧
        way ∈ front.extend (body.rounds greedy front.cursor) := by
  rw [rounds] at member
  cases greedy with
  | true =>
      simp only [↓reduceIte, List.mem_append, List.mem_flatMap, List.mem_ite_nil_right,
        List.mem_singleton] at member
      exact member.symm
  | false =>
      simp only [Bool.false_eq_true, ↓reduceIte, List.mem_cons, List.mem_flatMap,
        List.mem_ite_nil_right] at member
      exact member

theorem mem_optional {greedy : Bool} {body : Ways} {cursor : Cursor} {way : Way} :
    way ∈ body.optional greedy cursor ↔ way = ⟨cursor, []⟩ ∨ way ∈ body cursor := by
  cases greedy <;> simp [optional, orElse, stay, or_comm]

end Ways

namespace Pattern

@[simp] theorem ways_optional (pattern : Pattern) :
    pattern.optional.ways = pattern.ways.optional true := by
  simp [optional, ways, Ways.inARow, Ways.upTo]

@[simp] theorem ways_many (pattern : Pattern) :
    pattern.many.ways = pattern.ways.rounds true := rfl

@[simp] theorem ways_many1 (pattern : Pattern) :
    pattern.many1.ways = pattern.ways.andThen (pattern.ways.rounds true) := rfl

end Pattern

namespace Ways

/-! ## Ways go forward -/

/-- No way goes back in the text. -/
def Forward (ways : Ways) : Prop :=
  ∀ cursor, ∀ way ∈ ways cursor, cursor.Leads way.cursor

theorem forward_stay : Forward stay := by
  intro cursor way member
  rw [stay, List.mem_singleton] at member
  rw [member]
  exact .refl cursor

theorem forward_one (set : CharSet) : Forward (one set) := by
  rintro ⟨before, rest, offset⟩ way member
  cases rest with
  | nil => simp [one] at member
  | cons c rest =>
      simp only [one, List.mem_ite_nil_right, List.mem_singleton] at member
      rw [member.2, Cursor.step_of_rest rfl]
      exact .step (.refl _)

theorem forward_look (l : Look) : Forward (look l) := by
  intro cursor way member
  simp only [look, List.mem_ite_nil_right, List.mem_singleton] at member
  rw [member.2]
  exact .refl cursor

namespace Forward

variable {first second body last : Ways}

theorem andThen (firstForward : Forward first) (secondForward : Forward second) :
    Forward (first.andThen second) := by
  intro cursor way member
  rcases List.mem_flatMap.mp member with ⟨front, inFirst, later⟩
  rcases List.mem_map.mp later with ⟨back, inSecond, rfl⟩
  exact (firstForward cursor front inFirst).trans (secondForward front.cursor back inSecond)

theorem orElse (firstForward : Forward first) (secondForward : Forward second) :
    Forward (first.orElse second) := by
  intro cursor way member
  rcases List.mem_append.mp member with inFirst | inSecond
  · exact firstForward cursor way inFirst
  · exact secondForward cursor way inSecond

theorem optional (greedy : Bool) (forward : Forward body) : Forward (body.optional greedy) := by
  cases greedy with
  | true => exact forward.orElse forward_stay
  | false => exact forward_stay.orElse forward

theorem rounds (greedy : Bool) (forward : Forward body) : Forward (body.rounds greedy) := by
  intro cursor way member
  rcases mem_rounds member with rfl | ⟨front, inBody, shorter, later⟩
  · exact .refl cursor
  · rcases List.mem_map.mp later with ⟨back, inRounds, rfl⟩
    exact (forward cursor front inBody).trans
      (rounds greedy forward front.cursor back inRounds)
termination_by cursor => cursor.rest.length

theorem inARow (count : Nat) (forward : Forward body) (lastForward : Forward last) :
    Forward (body.inARow count last) := by
  induction count with
  | zero => exact lastForward
  | succ count ih => exact forward.andThen ih

theorem upTo (greedy : Bool) (count : Nat) (forward : Forward body) :
    Forward (body.upTo greedy count) := by
  induction count with
  | zero => exact forward_stay
  | succ count ih => exact (forward.andThen ih).optional greedy

theorem group (index : Nat) (forward : Forward body) : Forward (body.group index) := by
  intro cursor way member
  rcases List.mem_map.mp member with ⟨inner, inBody, rfl⟩
  exact forward cursor inner inBody

end Forward

end Ways

/-- A way through a pattern goes forward in the text. -/
theorem Pattern.forward_ways (pattern : Pattern) : pattern.ways.Forward := by
  induction pattern with
  | empty => exact Ways.forward_stay
  | set s => exact Ways.forward_one s
  | look l => exact Ways.forward_look l
  | concat first second firstIH secondIH => exact firstIH.andThen secondIH
  | choice first second firstIH secondIH => exact firstIH.orElse secondIH
  | repeated least most greedy body ih =>
      cases most with
      | none => exact ih.inARow least (ih.rounds greedy)
      | some most => exact ih.inARow least (ih.upTo greedy (most - least))
  | group index body ih => exact ih.group index

end Tint.Regex
