import Tint.Proofs.Json.Tokenized
import Tint.Proofs.Reserved

/-!
# Matching inside an excerpt

A stretch of text between reserved characters is matched as if it were a text of its own, by any
pattern that takes no reserved character and asks for nothing but boundaries of words: reserved
characters are no part of a word, and neither are the ends of a text.  The ways from a position in
the stretch then correspond one to one with those in an excerpt of it, in the same order, and they
take the same characters.  Any other character will do at the end of the stretch that is part of no
word and that the pattern does not take.

The excerpt need not be the same text either.  It is enough that its characters are alike, since
those that differ are taken by no way.
-/

namespace Tint.Structured

open Tint.Regex Tint.Unicode

/-- The first position is in a stretch of text that ends at `tail`, and the second one is at the
same place in an excerpt of it, where each character is related to the one it stands for. -/
structure Excerpt (r : Char → Char → Prop) (tail : List Char) (here there : Cursor) : Prop where
  rest : ∃ run, here.rest = run ++ tail ∧ List.Forall₂ r run there.rest
  beside : WordKind.unicode.holds here.before = WordKind.unicode.holds there.before

/-- Two ways, one from each position, that set no slots, take the same ordinary characters and come
to a position in the stretch and the same one in its excerpt. -/
structure Onward (r : Char → Char → Prop) (tail : List Char) (here there : Cursor)
    (way other : Way) : Prop where
  taken : ∃ run, (∀ c ∈ run, isReserved c = false) ∧ here.rest = run ++ way.cursor.rest ∧
    there.rest = run ++ other.cursor.rest
  excerpt : Excerpt r tail way.cursor other.cursor
  silent : way.writes = [] ∧ other.writes = []

namespace Onward

variable {r : Char → Char → Prop} {tail : List Char} {here there : Cursor} {way other : Way}

theorem stay (excerpt : Excerpt r tail here there) :
    Onward r tail here there ⟨here, []⟩ ⟨there, []⟩ where
  taken := ⟨[], by simp⟩
  excerpt := excerpt
  silent := ⟨rfl, rfl⟩

theorem trans {next further : Way} (first : Onward r tail here there way other)
    (second : Onward r tail way.cursor other.cursor next further) :
    Onward r tail here there ⟨next.cursor, way.writes ++ next.writes⟩
      ⟨further.cursor, other.writes ++ further.writes⟩ where
  taken := by
    obtain ⟨run, ordinary, isRest, isOther⟩ := first.taken
    obtain ⟨more, moreOrdinary, isNextRest, isNextOther⟩ := second.taken
    refine ⟨run ++ more, ?_, by simp [isRest, isNextRest], by simp [isOther, isNextOther]⟩
    intro c member
    rcases List.mem_append.mp member with inRun | inMore
    · exact ordinary c inRun
    · exact moreOrdinary c inMore
  excerpt := second.excerpt
  silent := by simp [first.silent, second.silent]

/-- Ways that begin alike and go on alike. -/
theorem forall₂_extend (first : Onward r tail here there way other) {later others : List Way}
    (goOn : List.Forall₂ (Onward r tail way.cursor other.cursor) later others) :
    List.Forall₂ (Onward r tail here there) (way.extend later) (other.extend others) := by
  rw [Way.extend, Way.extend, List.forall₂_map_left_iff, List.forall₂_map_right_iff]
  exact goOn.imp fun _ _ further => first.trans further

/-- Both take characters or neither does. -/
theorem length_lt_iff (onward : Onward r tail here there way other) :
    way.cursor.rest.length < here.rest.length ↔
      other.cursor.rest.length < there.rest.length := by
  obtain ⟨run, -, isRest, isOther⟩ := onward.taken
  simp [isRest, isOther]

end Onward

/-- What ways come to in a stretch of text, they come to in an excerpt of it. -/
def IsLocal (r : Char → Char → Prop) (tail : List Char) (ways : Ways) : Prop :=
  ∀ here there, Excerpt r tail here there →
    List.Forall₂ (Onward r tail here there) (ways here) (ways there)

namespace IsLocal

variable {r : Char → Char → Prop} {tail : List Char} {first second body last : Ways}

theorem stay : IsLocal r tail .stay := by
  intro here there excerpt
  exact .cons (.stay excerpt) .nil

theorem andThen (firstLocal : IsLocal r tail first) (secondLocal : IsLocal r tail second) :
    IsLocal r tail (first.andThen second) := by
  intro here there excerpt
  refine List.rel_flatMap (firstLocal here there excerpt) ?_
  intro way other onward
  exact onward.forall₂_extend (secondLocal _ _ onward.excerpt)

theorem orElse (firstLocal : IsLocal r tail first) (secondLocal : IsLocal r tail second) :
    IsLocal r tail (first.orElse second) := by
  intro here there excerpt
  exact List.rel_append (firstLocal here there excerpt) (secondLocal here there excerpt)

theorem optional (greedy : Bool) (bodyLocal : IsLocal r tail body) :
    IsLocal r tail (body.optional greedy) := by
  cases greedy with
  | true => exact bodyLocal.orElse stay
  | false => exact stay.orElse bodyLocal

theorem rounds (greedy : Bool) (bodyLocal : IsLocal r tail body) :
    IsLocal r tail (body.rounds greedy) := by
  intro here there excerpt
  have more : List.Forall₂ (Onward r tail here there)
      ((body here).flatMap fun way =>
        if way.cursor.rest.length < here.rest.length then
          way.extend (body.rounds greedy way.cursor) else [])
      ((body there).flatMap fun way =>
        if way.cursor.rest.length < there.rest.length then
          way.extend (body.rounds greedy way.cursor) else []) := by
    refine List.rel_flatMap (bodyLocal here there excerpt) ?_
    intro way other onward
    dsimp only
    by_cases shorter : way.cursor.rest.length < here.rest.length
    · rw [if_pos shorter, if_pos (onward.length_lt_iff.mp shorter)]
      exact onward.forall₂_extend (rounds greedy bodyLocal _ _ onward.excerpt)
    · rw [if_neg shorter, if_neg (onward.length_lt_iff.not.mp shorter)]
      exact .nil
  have none := Onward.stay excerpt
  rw [Ways.rounds, Ways.rounds]
  cases greedy with
  | true => exact List.rel_append more (.cons none .nil)
  | false => exact .cons none more
termination_by here => here.rest.length

theorem inARow (count : Nat) (bodyLocal : IsLocal r tail body) (lastLocal : IsLocal r tail last) :
    IsLocal r tail (body.inARow count last) := by
  induction count with
  | zero => exact lastLocal
  | succ count ih => exact bodyLocal.andThen ih

theorem upTo (greedy : Bool) (count : Nat) (bodyLocal : IsLocal r tail body) :
    IsLocal r tail (body.upTo greedy count) := by
  induction count with
  | zero => exact stay
  | succ count ih => exact (bodyLocal.andThen ih).optional greedy

end IsLocal

section

variable {r : Char → Char → Prop} {tail : List Char} {here there : Cursor}
  (alike : ∀ {c d}, r c d → AlikeChars c d)
include alike

/-- What comes next is part of a word in both texts, or in neither. -/
theorem Excerpt.holds_head? (ends : WordKind.unicode.holds tail.head? = false)
    (excerpt : Excerpt r tail here there) :
    WordKind.unicode.holds here.rest.head? = WordKind.unicode.holds there.rest.head? := by
  obtain ⟨run, isRest, related⟩ := excerpt.rest
  rw [isRest]
  generalize there.rest = other at related
  cases related with
  | nil => exact ends
  | @cons c d _ _ isRelated _ =>
      rw [List.cons_append, List.head?_cons, List.head?_cons]
      rcases alike isRelated with rfl | ⟨reserved, otherReserved⟩
      · rfl
      · rw [Json.holds_of_isReserved reserved, Json.holds_of_isReserved otherReserved]

theorem IsLocal.boundary (ends : WordKind.unicode.holds tail.head? = false) :
    IsLocal r tail (.look (.boundary .unicode)) := by
  intro here there excerpt
  have same : (Look.boundary .unicode).holds here.before here.rest.head? =
      (Look.boundary .unicode).holds there.before there.rest.head? := by
    rw [Look.holds, Look.holds, excerpt.beside, excerpt.holds_head? alike ends]
  rw [Ways.look, Ways.look, same]
  split
  · exact .cons (.stay excerpt) .nil
  · exact .nil

theorem IsLocal.one {set : CharSet} (ends : ∀ c ∈ tail.head?, set.contains c = false)
    (blind : ∀ c, isReserved c = true → set.contains c = false) :
    IsLocal r tail (.one set) := by
  rintro ⟨before, text, offset⟩ ⟨otherBefore, other, otherOffset⟩ ⟨⟨run, isRest, related⟩, beside⟩
  simp only at isRest related
  subst isRest
  cases related with
  | nil =>
      cases tail with
      | nil => exact .nil
      | cons c tail => simp [Ways.one, ends c rfl]
  | @cons c d run other isRelated related =>
      rcases alike isRelated with rfl | ⟨reserved, otherReserved⟩
      · by_cases holds : set.contains c = true
        · have ordinary : isReserved c = false := by
            rw [Bool.eq_false_iff]
            intro reserved
            simp [blind c reserved] at holds
          have onward : Onward r tail ⟨before, c :: (run ++ tail), offset⟩
              ⟨otherBefore, c :: other, otherOffset⟩ ⟨⟨some c, run ++ tail, offset + 1⟩, []⟩
              ⟨⟨some c, other, otherOffset + 1⟩, []⟩ :=
            ⟨⟨[c], by simpa using ordinary, rfl, rfl⟩, ⟨⟨run, rfl, related⟩, rfl⟩, ⟨rfl, rfl⟩⟩
          simp [Ways.one, holds, Cursor.step, Cursor.next?, onward]
        · simp [Ways.one, holds]
      · simp [Ways.one, blind c reserved, blind d otherReserved]

end

/-! ## Patterns -/

/-- The pattern takes no reserved character, asks for nothing but boundaries of words and has no
groups. -/
def Blind : Pattern → Prop
  | .empty => True
  | .set s => ∀ c, isReserved c = true → s.contains c = false
  | .look l => l = .boundary .unicode
  | .concat first second | .choice first second => Blind first ∧ Blind second
  | .repeated _ _ _ body => Blind body
  | .group _ _ => False

theorem Blind.takes_eq_false {pattern : Pattern} (blind : Blind pattern) {c : Char}
    (reserved : isReserved c = true) : pattern.takes c = false := by
  induction pattern with
  | empty | look l => rfl
  | set s => exact blind c reserved
  | concat first second firstIH secondIH | choice first second firstIH secondIH =>
      rw [Pattern.takes, firstIH blind.1, secondIH blind.2, Bool.false_or]
  | repeated least most greedy body ih => exact ih blind
  | group index body ih => exact blind.elim

/-- The ways through such a pattern are the same in an excerpt. -/
theorem Blind.isLocal {pattern : Pattern} (blind : Blind pattern) {r : Char → Char → Prop}
    {tail : List Char} (alike : ∀ {c d}, r c d → AlikeChars c d)
    (wordEnds : WordKind.unicode.holds tail.head? = false)
    (ends : ∀ c ∈ tail.head?, pattern.takes c = false) : IsLocal r tail pattern.ways := by
  induction pattern with
  | empty => exact .stay
  | set s => exact .one alike ends blind
  | look l =>
      rw [show l = .boundary .unicode from blind]
      exact .boundary alike wordEnds
  | concat first second firstIH secondIH =>
      have both c member := Bool.or_eq_false_iff.mp (ends c member)
      exact (firstIH blind.1 fun c member => (both c member).1).andThen
        (secondIH blind.2 fun c member => (both c member).2)
  | choice first second firstIH secondIH =>
      have both c member := Bool.or_eq_false_iff.mp (ends c member)
      exact (firstIH blind.1 fun c member => (both c member).1).orElse
        (secondIH blind.2 fun c member => (both c member).2)
  | repeated least most greedy body ih =>
      cases most with
      | none => exact (ih blind ends).inARow least ((ih blind ends).rounds greedy)
      | some most => exact (ih blind ends).inARow least ((ih blind ends).upTo greedy (most - least))
  | group index body ih => exact blind.elim

/-- Every text is an excerpt of itself. -/
theorem Excerpt.whole (cursor : Cursor) : Excerpt Eq [] cursor cursor where
  rest := ⟨cursor.rest, by simp, List.forall₂_same.mpr fun _ _ => rfl⟩
  beside := rfl

theorem rel_head? {α β : Type} {relation : α → β → Prop} {first : List α} {second : List β}
    (related : List.Forall₂ relation first second) :
    Option.Rel relation first.head? second.head? := by
  cases related with
  | nil => exact .none
  | cons head _ => exact .some head

theorem Blind.writes_eq_nil {pattern : Pattern} (blind : Blind pattern) {cursor : Cursor}
    {way : Way} (first : (pattern.ways cursor).head? = some way) : way.writes = [] := by
  have related := rel_head? (blind.isLocal .inl rfl (by simp) cursor cursor (.whole cursor))
  rw [first] at related
  cases related with
  | some onward => exact onward.silent.1

end Tint.Structured
