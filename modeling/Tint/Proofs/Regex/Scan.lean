import Tint.Proofs.Regex.Begins
import Tint.Proofs.Regex.Lockstep
import Tint.Regex.Matcher

/-!
# All matches of a text

For ways that always take characters, the matches of a text are found by a plain scan: at a position
that has a way, the most preferred one is taken and the scan goes on behind it; at any other
position it moves on by one character.
-/

namespace Tint.Regex

/-- The matches from a position on. -/
def Ways.scan (ways : Ways) (cursor : Cursor) : List Match :=
  match (ways cursor).head? with
  | some way =>
      if way.cursor.rest.length < cursor.rest.length then
        .ofWay cursor.offset [] way :: scan ways way.cursor
      else []
  | none =>
      match found : cursor.rest with
      | [] => []
      | c :: rest => scan ways ⟨some c, rest, cursor.offset + 1⟩
termination_by cursor.rest.length
decreasing_by
  · assumption
  · simp [found]

namespace Ways

variable {ways : Ways} {cursor : Cursor}

theorem scan_take {way : Way} (advances : ways.Advances)
    (first : (ways cursor).head? = some way) :
    ways.scan cursor = .ofWay cursor.offset [] way :: ways.scan way.cursor := by
  have taken := advances.taken cursor way (List.mem_of_mem_head? first)
  rw [scan]
  simp [first, taken]

theorem scan_skip {c : Char} {rest : List Char} (noWay : ways cursor = [])
    (found : cursor.rest = c :: rest) :
    ways.scan cursor = ways.scan ⟨some c, rest, cursor.offset + 1⟩ := by
  rcases cursor with ⟨before, text, offset⟩
  simp only at found
  subst found
  rw [scan]
  simp [noWay]

theorem scan_end (advances : ways.Advances) (atEnd : cursor.rest = []) :
    ways.scan cursor = [] := by
  have noWay := advances.eq_nil_of_atEnd atEnd
  rcases cursor with ⟨before, text, offset⟩
  simp only at atEnd
  subst atEnd
  rw [scan]
  simp [noWay]

/-- A match takes characters. -/
theorem Advances.leftmostFrom_taken (advances : ways.Advances) {rest : List Char}
    {before : Option Char} {offset : Nat} {found : Match}
    (isFound : leftmostFrom ways rest before offset = some found) :
    found.start < found.stop ∧ found.after.rest.length < rest.length := by
  have here (rest : List Char) (before : Option Char) (offset : Nat)
      (isHere : ways.first? ⟨before, rest, offset⟩ = some found) :
      found.start < found.stop ∧ found.after.rest.length < rest.length := by
    rcases Option.map_eq_some_iff.mp isHere with ⟨way, first, rfl⟩
    have member := List.mem_of_mem_head? first
    have total := (advances.forward _ way member).offset_add_length
    have taken := advances.taken _ way member
    simp only [Match.ofWay, Match.stop] at total taken ⊢
    omega
  induction rest generalizing before offset with
  | nil =>
      rw [leftmostFrom, Option.or_none] at isFound
      exact here [] before offset isFound
  | cons c rest ih =>
      rw [leftmostFrom, Option.or_eq_some_iff] at isFound
      rcases isFound with isHere | ⟨-, later⟩
      · exact here (c :: rest) before offset isHere
      · have further := ih later
        rw [List.length_cons]
        omega

/-- The scan takes the leftmost match and goes on behind it. -/
theorem scan_eq_leftmost (advances : ways.Advances) (rest : List Char) (before : Option Char)
    (offset : Nat) :
    ways.scan ⟨before, rest, offset⟩ =
      (leftmostFrom ways rest before offset).elim [] fun found =>
        found :: ways.scan found.after := by
  induction rest generalizing before offset with
  | nil =>
      rw [leftmostFrom, Ways.first?]
      cases first : (ways ⟨before, [], offset⟩).head? with
      | some way => rw [scan_take advances first]; rfl
      | none => rw [scan_end advances rfl]; rfl
  | cons c rest ih =>
      rw [leftmostFrom, Ways.first?]
      cases first : (ways ⟨before, c :: rest, offset⟩).head? with
      | some way => rw [scan_take advances first]; rfl
      | none => rw [scan_skip (List.head?_eq_none_iff.mp first) rfl, ih]; rfl

end Ways

/-- Going from match to match gives the scan. -/
theorem matchesFrom_eq_scan {root : Node} (regular : root.Regular)
    (advances : root.ways.Advances) {steps : Nat} {cursor : Cursor}
    (enough : cursor.rest.length < steps) (last : Option Nat) (done : List Match) :
    matchesFrom root steps cursor last done = done.reverse ++ root.ways.scan cursor := by
  induction steps generalizing cursor last done with
  | zero => exact absurd enough (Nat.not_lt_zero _)
  | succ steps ih =>
      rcases cursor with ⟨before, rest, offset⟩
      rw [matchesFrom, search_eq regular, Ways.scan_eq_leftmost advances]
      cases isFound : leftmostFrom root.ways rest before offset with
      | none => simp
      | some found =>
          rcases advances.leftmostFrom_taken isFound with ⟨taken, shorter⟩
          have enoughLater : found.after.rest.length < steps := by
            simp only at enough
            omega
          simp [taken, ih enoughLater]

/-- A match that takes characters is kept as a span. -/
theorem Match.filter_group?_zero {found : Match} (taken : found.start < found.stop) :
    (found.group? 0).filter (fun span => span.start < span.stop) =
      some ⟨found.start, found.stop⟩ :=
  Option.filter_eq_some_iff.mpr ⟨rfl, by simpa using taken⟩

end Tint.Regex
