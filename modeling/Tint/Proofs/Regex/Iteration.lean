import Tint.Proofs.Regex.Extent

/-!
# Going from match to match

The matches of a text are found one after the other.  Each search begins where the match before
ended, one character further on after an empty match, and an empty match that touches the one before
does not count.  `Reports` says just this, with no bound on the number of searches.

The scan has a bound, the length of the text, and never comes to it: every search leaves less of the
text than the one before.
-/

namespace Tint.Regex

/-- The matches that count from a position on, or behind the end of the text.  `last` is where the
match before ended, if it took characters. -/
inductive Reports (root : Node) : Option Cursor → (last : Option Nat) → List Match → Prop where
  | behindEnd (last : Option Nat) : Reports root none last []
  | nothing {cursor : Cursor} (last : Option Nat) (notFound : search root cursor = none) :
      Reports root (some cursor) last []
  | taken {cursor : Cursor} {found : Match} {row : List Match} (last : Option Nat)
      (isFound : search root cursor = some found) (takes : found.start < found.stop)
      (rest : Reports root (some found.after) (some found.stop) row) :
      Reports root (some cursor) last (found :: row)
  | empty {cursor : Cursor} {last : Option Nat} {found : Match} {row : List Match}
      (isFound : search root cursor = some found) (isEmpty : found.start = found.stop)
      (apart : last ≠ some found.stop) (rest : Reports root found.after.next? none row) :
      Reports root (some cursor) last (found :: row)
  | touching {cursor : Cursor} {last : Option Nat} {found : Match} {row : List Match}
      (isFound : search root cursor = some found) (isEmpty : found.start = found.stop)
      (touches : last = some found.stop) (rest : Reports root found.after.next? none row) :
      Reports root (some cursor) last row

/-- There is one row of matches to report. -/
theorem Reports.unique {root : Node} {cursor : Option Cursor} {last : Option Nat}
    {row other : List Match} (reports : Reports root cursor last row)
    (otherReports : Reports root cursor last other) : row = other := by
  induction reports generalizing other with
  | behindEnd =>
      cases otherReports
      rfl
  | nothing last notFound =>
      cases otherReports with
      | nothing => rfl
      | taken _ isFound => cases notFound.symm.trans isFound
      | empty isFound => cases notFound.symm.trans isFound
      | touching isFound => cases notFound.symm.trans isFound
  | taken last isFound takes rest ih =>
      cases otherReports with
      | nothing _ notFound => cases notFound.symm.trans isFound
      | taken _ again _ later =>
          cases isFound.symm.trans again
          rw [ih later]
      | empty again isEmpty =>
          cases isFound.symm.trans again
          exact absurd isEmpty takes.ne
      | touching again isEmpty =>
          cases isFound.symm.trans again
          exact absurd isEmpty takes.ne
  | empty isFound isEmpty apart rest ih =>
      cases otherReports with
      | nothing _ notFound => cases notFound.symm.trans isFound
      | taken _ again takes =>
          cases isFound.symm.trans again
          exact absurd isEmpty takes.ne
      | empty again _ _ later =>
          cases isFound.symm.trans again
          rw [ih later]
      | touching again _ touches =>
          cases isFound.symm.trans again
          exact absurd touches apart
  | touching isFound isEmpty touches rest ih =>
      cases otherReports with
      | nothing _ notFound => cases notFound.symm.trans isFound
      | taken _ again takes =>
          cases isFound.symm.trans again
          exact absurd isEmpty takes.ne
      | empty again _ apart =>
          cases isFound.symm.trans again
          exact absurd touches apart
      | touching again _ _ later =>
          cases isFound.symm.trans again
          exact ih later

/-! ## Every search leaves less of the text -/

theorem Match.FoundFrom.length_lt {cursor : Cursor} {found : Match}
    (fromCursor : found.FoundFrom cursor) (takes : found.start < found.stop) :
    found.after.rest.length < cursor.rest.length := by
  have total := fromCursor.leads.offset_add_length
  have behind := fromCursor.origin_le
  rw [Match.stop] at takes
  omega

theorem Match.FoundFrom.length_next?_lt {cursor next : Cursor} {found : Match}
    (fromCursor : found.FoundFrom cursor) (isNext : found.after.next? = some next) :
    next.rest.length < cursor.rest.length := by
  have onward := Cursor.Leads.of_next? isNext
  have shorter := fromCursor.leads.length_le
  have total := onward.offset_add_length
  have further : next.offset = found.after.offset + 1 := by
    rcases afterEq : found.after with ⟨before, _ | ⟨c, rest⟩, offset⟩
    · simp [afterEq, Cursor.next?] at isNext
    · rw [afterEq, Cursor.next?, Option.some.injEq] at isNext
      rw [← isNext]
  omega

/-! ## The scan reports all matches -/

section Scan

variable {root : Node} {steps : Nat} {cursor : Cursor} {found : Match}

theorem matchesFrom_of_none (notFound : search root cursor = none) (last : Option Nat)
    (done : List Match) : matchesFrom root (steps + 1) cursor last done = done.reverse := by
  rw [matchesFrom, notFound]

theorem matchesFrom_of_taken (isFound : search root cursor = some found)
    (takes : found.start < found.stop) (last : Option Nat) (done : List Match) :
    matchesFrom root (steps + 1) cursor last done =
      matchesFrom root steps found.after (some found.stop) (found :: done) := by
  rw [matchesFrom, isFound]
  exact if_pos takes

/-- Behind an empty match the scan goes on one character later, or ends. -/
theorem matchesFrom_of_empty (isFound : search root cursor = some found)
    (isEmpty : found.start = found.stop) (last : Option Nat) (done : List Match) :
    let counted := if last = some found.stop then done else found :: done
    matchesFrom root (steps + 1) cursor last done =
      found.after.next?.elim counted.reverse (matchesFrom root steps · none counted) := by
  rw [matchesFrom, isFound]
  simp only [isEmpty, lt_irrefl, ↓reduceIte, beq_iff_eq]
  cases found.after.next? <;> rfl

/-- With a step for each character that is left and one more, nothing is cut off. -/
theorem matchesFrom_reports (enough : cursor.rest.length < steps) (last : Option Nat)
    (done : List Match) :
    ∃ row, matchesFrom root steps cursor last done = done.reverse ++ row ∧
      Reports root (some cursor) last row := by
  induction steps generalizing cursor last done with
  | zero => exact absurd enough (Nat.not_lt_zero _)
  | succ steps ih =>
      cases isFound : search root cursor with
      | none => exact ⟨[], by simp [matchesFrom_of_none isFound], .nothing last isFound⟩
      | some found =>
          have fromCursor := search_foundFrom isFound
          rcases fromCursor.start_le.lt_or_eq with takes | isEmpty
          · have shorter := fromCursor.length_lt takes
            have stillEnough : found.after.rest.length < steps := by omega
            obtain ⟨row, rowEq, rest⟩ := ih stillEnough (some found.stop) (found :: done)
            rw [matchesFrom_of_taken isFound takes, rowEq]
            exact ⟨found :: row, by simp, .taken last isFound takes rest⟩
          · have onward (done : List Match) : ∃ row,
                found.after.next?.elim done.reverse (matchesFrom root steps · none done) =
                  done.reverse ++ row ∧ Reports root found.after.next? none row := by
              cases isNext : found.after.next? with
              | none => exact ⟨[], by simp, .behindEnd none⟩
              | some next =>
                  have shorter := fromCursor.length_next?_lt isNext
                  have stillEnough : next.rest.length < steps := by omega
                  exact ih stillEnough none done
            rw [matchesFrom_of_empty isFound isEmpty]
            by_cases touches : last = some found.stop
            · obtain ⟨row, rowEq, rest⟩ := onward done
              exact ⟨row, by simpa [touches] using rowEq, .touching isFound isEmpty touches rest⟩
            · obtain ⟨row, rowEq, rest⟩ := onward (found :: done)
              exact ⟨found :: row, by simpa [touches] using rowEq,
                .empty isFound isEmpty touches rest⟩

end Scan

/-- The matches of a text are all that are reported from its start on. -/
theorem Matcher.allMatches_reports (matcher : Matcher) (text : List Char) :
    Reports matcher.root (some (.start text)) none (matcher.allMatches text) := by
  have enough : (Cursor.start text).rest.length < text.length + 1 := Nat.lt_succ_self _
  obtain ⟨row, rowEq, reports⟩ := matchesFrom_reports enough none []
  rw [Matcher.allMatches, rowEq]
  exact reports

end Tint.Regex
