import Tint.Proofs.Regex.Ways

/-!
# How ways begin

Whether a way takes any character, and which one it takes first, can be read off the pattern.  Most
positions of a text are ruled out by that alone.
-/

namespace Tint.Regex

namespace Ways

/-- Every way goes forward and takes characters. -/
structure Advances (ways : Ways) : Prop where
  forward : ways.Forward
  taken : ∀ cursor, ∀ way ∈ ways cursor, way.cursor.rest.length < cursor.rest.length

theorem Advances.eq_nil_of_atEnd {ways : Ways} {cursor : Cursor} (advances : ways.Advances)
    (atEnd : cursor.rest = []) : ways cursor = [] := by
  rw [List.eq_nil_iff_forall_not_mem]
  intro way member
  have taken := advances.taken cursor way member
  simp [atEnd] at taken

/-- Some way may stay where it is only if `nullable` says so. -/
def StaysOnlyIf (ways : Ways) (nullable : Prop) : Prop :=
  ∀ cursor, ∀ way ∈ ways cursor, ¬way.cursor.rest.length < cursor.rest.length → nullable

/-- Every way that takes characters begins with one that `begins` allows. -/
def BeginsOnlyBy (ways : Ways) (begins : Char → Prop) : Prop :=
  ∀ cursor, ∀ way ∈ ways cursor, way.cursor.rest.length < cursor.rest.length →
    ∃ c rest, cursor.rest = c :: rest ∧ begins c

section

variable {first second body last : Ways} {nullable otherNullable : Prop}
  {begins otherBegins : Char → Prop}

theorem StaysOnlyIf.andThen (firstForward : first.Forward) (secondForward : second.Forward)
    (firstStays : first.StaysOnlyIf nullable) (secondStays : second.StaysOnlyIf otherNullable) :
    (first.andThen second).StaysOnlyIf (nullable ∧ otherNullable) := by
  intro cursor way member still
  rcases List.mem_flatMap.mp member with ⟨front, inFirst, later⟩
  rcases List.mem_map.mp later with ⟨back, inSecond, rfl⟩
  have frontLe := (firstForward cursor front inFirst).length_le
  have backLe := (secondForward front.cursor back inSecond).length_le
  simp only at still
  constructor
  · exact firstStays cursor front inFirst (by omega)
  · exact secondStays front.cursor back inSecond (by omega)

theorem StaysOnlyIf.orElse (firstStays : first.StaysOnlyIf nullable)
    (secondStays : second.StaysOnlyIf otherNullable) :
    (first.orElse second).StaysOnlyIf (nullable ∨ otherNullable) := by
  intro cursor way member still
  rcases List.mem_append.mp member with inFirst | inSecond
  · exact .inl (firstStays cursor way inFirst still)
  · exact .inr (secondStays cursor way inSecond still)

theorem BeginsOnlyBy.andThen (firstForward : first.Forward)
    (firstStays : first.StaysOnlyIf nullable) (firstBegins : first.BeginsOnlyBy begins)
    (secondBegins : second.BeginsOnlyBy otherBegins) :
    (first.andThen second).BeginsOnlyBy fun c => begins c ∨ (nullable ∧ otherBegins c) := by
  intro cursor way member taken
  rcases List.mem_flatMap.mp member with ⟨front, inFirst, later⟩
  rcases List.mem_map.mp later with ⟨back, inSecond, rfl⟩
  by_cases frontTaken : front.cursor.rest.length < cursor.rest.length
  · rcases firstBegins cursor front inFirst frontTaken with ⟨c, rest, found, allowed⟩
    exact ⟨c, rest, found, .inl allowed⟩
  · have same := (firstForward cursor front inFirst).eq_of_not_lt frontTaken
    rw [same] at inSecond
    rcases secondBegins cursor back inSecond taken with ⟨c, rest, found, allowed⟩
    exact ⟨c, rest, found, .inr ⟨firstStays cursor front inFirst frontTaken, allowed⟩⟩

theorem BeginsOnlyBy.orElse (firstBegins : first.BeginsOnlyBy begins)
    (secondBegins : second.BeginsOnlyBy otherBegins) :
    (first.orElse second).BeginsOnlyBy fun c => begins c ∨ otherBegins c := by
  intro cursor way member taken
  rcases List.mem_append.mp member with inFirst | inSecond
  · rcases firstBegins cursor way inFirst taken with ⟨c, rest, found, allowed⟩
    exact ⟨c, rest, found, .inl allowed⟩
  · rcases secondBegins cursor way inSecond taken with ⟨c, rest, found, allowed⟩
    exact ⟨c, rest, found, .inr allowed⟩

theorem BeginsOnlyBy.mono (bodyBegins : body.BeginsOnlyBy begins)
    (weaker : ∀ c, begins c → otherBegins c) : body.BeginsOnlyBy otherBegins := by
  intro cursor way member taken
  rcases bodyBegins cursor way member taken with ⟨c, rest, found, allowed⟩
  exact ⟨c, rest, found, weaker c allowed⟩

theorem beginsOnlyBy_stay : stay.BeginsOnlyBy begins := by
  intro cursor way member taken
  rw [stay, List.mem_singleton] at member
  simp [member] at taken

theorem BeginsOnlyBy.optional (greedy : Bool) (bodyBegins : body.BeginsOnlyBy begins) :
    (body.optional greedy).BeginsOnlyBy begins := by
  intro cursor way member taken
  rcases mem_optional.mp member with rfl | inBody
  · simp at taken
  · exact bodyBegins cursor way inBody taken

theorem BeginsOnlyBy.rounds (greedy : Bool) (bodyBegins : body.BeginsOnlyBy begins) :
    (body.rounds greedy).BeginsOnlyBy begins := by
  intro cursor way member taken
  rcases mem_rounds member with rfl | ⟨front, inBody, frontTaken, -⟩
  · simp at taken
  · exact bodyBegins cursor front inBody frontTaken

theorem BeginsOnlyBy.inARow (count : Nat) (forward : body.Forward)
    (bodyBegins : body.BeginsOnlyBy begins) (lastBegins : last.BeginsOnlyBy begins) :
    (body.inARow count last).BeginsOnlyBy begins := by
  induction count with
  | zero => exact lastBegins
  | succ count ih =>
      have any : body.StaysOnlyIf True := fun _ _ _ _ => trivial
      exact (BeginsOnlyBy.andThen forward any bodyBegins ih).mono (by tauto)

theorem BeginsOnlyBy.upTo (greedy : Bool) (count : Nat) (forward : body.Forward)
    (bodyBegins : body.BeginsOnlyBy begins) : (body.upTo greedy count).BeginsOnlyBy begins := by
  induction count with
  | zero => exact beginsOnlyBy_stay
  | succ count ih =>
      have any : body.StaysOnlyIf True := fun _ _ _ _ => trivial
      exact ((BeginsOnlyBy.andThen forward any bodyBegins ih).mono (by tauto)).optional greedy

end

end Ways

namespace Pattern

/-- Whether a way through the pattern may take this character first. -/
def begins : Pattern → Char → Bool
  | empty, _ | look _, _ => false
  | set s, c => s.contains c
  | concat first second, c => first.begins c || (first.nullable && second.begins c)
  | choice first second, c => first.begins c || second.begins c
  | repeated _ _ _ body, c | group _ body, c => body.begins c

/-- Whether some set of the pattern has this character, so that a way through it may take it. -/
def takes : Pattern → Char → Bool
  | empty, _ | look _, _ => false
  | set s, c => s.contains c
  | concat first second, c | choice first second, c => first.takes c || second.takes c
  | repeated _ _ _ body, c | group _ body, c => body.takes c

/-- Only a nullable pattern has ways that take no characters. -/
theorem staysOnlyIf_nullable (pattern : Pattern) :
    pattern.ways.StaysOnlyIf pattern.nullable := by
  induction pattern with
  | empty | look => exact fun _ _ _ _ => rfl
  | set s =>
      rintro ⟨before, rest, offset⟩ way member still
      cases rest with
      | nil => simp [ways, Ways.one] at member
      | cons c rest =>
          simp only [ways, Ways.one, List.mem_ite_nil_right, List.mem_singleton] at member
          simp [member.2, Cursor.step, Cursor.next?] at still
  | concat first second firstIH secondIH =>
      simpa [ways, nullable] using
        firstIH.andThen first.forward_ways second.forward_ways secondIH
  | choice first second firstIH secondIH =>
      simpa [ways, nullable] using firstIH.orElse secondIH
  | repeated least most greedy body ih =>
      intro cursor way member still
      cases least with
      | zero => rfl
      | succ least =>
          have forward : ∀ last : Ways, last.Forward → (body.ways.inARow least last).Forward :=
            fun last lastForward => body.forward_ways.inARow least lastForward
          have any (later : Ways) : later.StaysOnlyIf True := fun _ _ _ _ => trivial
          have bodyStays : body.nullable := by
            cases most with
            | none =>
                exact (ih.andThen body.forward_ways
                  (forward _ (body.forward_ways.rounds greedy)) (any _) cursor way member still).1
            | some most =>
                exact (ih.andThen body.forward_ways
                  (forward _ (body.forward_ways.upTo greedy _)) (any _) cursor way member still).1
          simp [nullable, bodyStays]
  | group index body ih =>
      intro cursor way member still
      rcases List.mem_map.mp member with ⟨inner, inBody, rfl⟩
      exact ih cursor inner inBody still

theorem beginsOnlyBy_begins (pattern : Pattern) :
    pattern.ways.BeginsOnlyBy (pattern.begins ·) := by
  induction pattern with
  | empty => exact Ways.beginsOnlyBy_stay
  | look l =>
      intro cursor way member taken
      simp only [ways, Ways.look, List.mem_ite_nil_right, List.mem_singleton] at member
      simp [member.2] at taken
  | set s =>
      rintro ⟨before, rest, offset⟩ way member taken
      cases rest with
      | nil => simp [ways, Ways.one] at member
      | cons c rest =>
          simp only [ways, Ways.one, List.mem_ite_nil_right] at member
          exact ⟨c, rest, rfl, member.1⟩
  | concat first second firstIH secondIH =>
      simpa [ways, begins] using
        firstIH.andThen first.forward_ways first.staysOnlyIf_nullable secondIH
  | choice first second firstIH secondIH =>
      simpa [ways, begins] using firstIH.orElse secondIH
  | repeated least most greedy body ih =>
      cases most with
      | none => exact ih.inARow least body.forward_ways (ih.rounds greedy)
      | some most =>
          exact ih.inARow least body.forward_ways (ih.upTo greedy _ body.forward_ways)
  | group index body ih =>
      intro cursor way member taken
      rcases List.mem_map.mp member with ⟨inner, inBody, rfl⟩
      exact ih cursor inner inBody taken

/-- The ways through a pattern that cannot match the empty text take characters. -/
theorem advances {pattern : Pattern} (nonempty : pattern.nullable = false) :
    pattern.ways.Advances where
  forward := pattern.forward_ways
  taken := by
    intro cursor way member
    by_contra still
    have isNullable := pattern.staysOnlyIf_nullable cursor way member still
    simp [nonempty] at isNullable

/-- A pattern that cannot match the empty text has no way from a position where it cannot begin. -/
theorem ways_eq_nil {pattern : Pattern} {cursor : Cursor} (nonempty : pattern.nullable = false)
    (cannot : ∀ c ∈ cursor.rest.head?, pattern.begins c = false) : pattern.ways cursor = [] := by
  rw [List.eq_nil_iff_forall_not_mem]
  intro way member
  have taken := (advances nonempty).taken cursor way member
  rcases pattern.beginsOnlyBy_begins cursor way member taken with ⟨c, rest, found, begins⟩
  have cannotHere := cannot c (by simp [found])
  simp [begins] at cannotHere

end Pattern

end Tint.Regex
