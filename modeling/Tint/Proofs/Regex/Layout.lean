import Tint.Proofs.Regex.Scan

/-!
# Laying out keeps the ways

A pattern is steady if no loop in it has a body that can match the empty text, and no choice in it
has two such alternatives.  Its layout has no gates, and writing out its counted repetitions changes
neither the ways through it nor their order.

Nodes are laid out with numbers from a range that each step takes up where the last one left it, so
the invariant of the layout is the range that the places of a node lie in.
-/

namespace Tint.Regex

/-- Whether the search needs no gates for a pattern. -/
def Pattern.steady : Pattern → Bool
  | empty | set _ | look _ => true
  | concat first second => first.steady && second.steady
  | choice first second =>
      first.steady && second.steady && !(first.nullable && second.nullable)
  | repeated _ _ _ body => body.steady && !body.nullable
  | group _ body => body.steady

/-- A node for given ways, regular and with its places between two numbers. -/
structure LaidOut (ways : Ways) (low : Nat) (node : Node) (high : Nat) : Prop where
  same : node.ways = ways
  regular : node.Regular
  le : low ≤ high
  within : ∀ place ∈ node.places, low ≤ place ∧ place < high

namespace LaidOut

variable {firstWays secondWays body last : Ways} {low mid high : Nat}
  {first second node : Node}

/-- Nodes whose places are in ranges apart are told apart. -/
theorem distinct_append (firstLaid : LaidOut firstWays low first mid)
    (secondLaid : LaidOut secondWays mid second high) :
    (first.places ++ second.places).Nodup := by
  refine List.nodup_append.mpr ⟨firstLaid.regular.distinct, secondLaid.regular.distinct, ?_⟩
  rintro place inFirst other inSecond rfl
  have below := (firstLaid.within place inFirst).2
  have above := (secondLaid.within place inSecond).1
  omega

theorem within_append (firstLaid : LaidOut firstWays low first mid)
    (secondLaid : LaidOut secondWays mid second high) :
    ∀ place ∈ first.places ++ second.places, low ≤ place ∧ place < high := by
  intro place member
  have firstLe := firstLaid.le
  have secondLe := secondLaid.le
  rcases List.mem_append.mp member with inFirst | inSecond
  · have inside := firstLaid.within place inFirst
    omega
  · have inside := secondLaid.within place inSecond
    omega

theorem seq (firstLaid : LaidOut firstWays low first mid)
    (secondLaid : LaidOut secondWays mid second high) :
    LaidOut (firstWays.andThen secondWays) low (.seq first second) high where
  same := by rw [Node.ways, firstLaid.same, secondLaid.same]
  regular :=
    { gateFree := by simp [Node.gateFree, firstLaid.regular.gateFree, secondLaid.regular.gateFree]
      distinct := firstLaid.distinct_append secondLaid }
  le := firstLaid.le.trans secondLaid.le
  within := firstLaid.within_append secondLaid

/-- What comes second may be laid out first. -/
theorem seqBefore (secondLaid : LaidOut secondWays low second mid)
    (firstLaid : LaidOut firstWays mid first high) :
    LaidOut (firstWays.andThen secondWays) low (.seq first second) high where
  same := by rw [Node.ways, firstLaid.same, secondLaid.same]
  regular :=
    { gateFree := by simp [Node.gateFree, firstLaid.regular.gateFree, secondLaid.regular.gateFree]
      distinct := List.nodup_append_comm.mp (secondLaid.distinct_append firstLaid) }
  le := secondLaid.le.trans firstLaid.le
  within := by
    intro place member
    have swapped : place ∈ second.places ++ first.places :=
      List.mem_append.mpr (List.mem_append.mp member).symm
    exact secondLaid.within_append firstLaid place swapped

theorem alt (firstLaid : LaidOut firstWays low first mid)
    (secondLaid : LaidOut secondWays mid second high) :
    LaidOut (firstWays.orElse secondWays) low (.alt first second) high where
  same := by rw [Node.ways, firstLaid.same, secondLaid.same]
  regular :=
    { gateFree := by simp [Node.gateFree, firstLaid.regular.gateFree, secondLaid.regular.gateFree]
      distinct := firstLaid.distinct_append secondLaid }
  le := firstLaid.le.trans secondLaid.le
  within := firstLaid.within_append secondLaid

theorem empty (low : Nat) : LaidOut .stay low .empty low where
  same := rfl
  regular := ⟨rfl, List.nodup_nil⟩
  le := le_rfl
  within := by simp [Node.places]

theorem optional (greedy : Bool) (laid : LaidOut body low node high) :
    LaidOut (body.optional greedy) low (.optional greedy node) high := by
  cases greedy with
  | true => exact laid.alt (.empty high)
  | false => exact (LaidOut.empty low).alt laid

theorem group (index : Nat) (laid : LaidOut body low node high) :
    LaidOut (body.group index) low (.group index node) high where
  same := by rw [Node.ways, laid.same]
  regular := ⟨laid.regular.gateFree, laid.regular.distinct⟩
  le := laid.le
  within := laid.within

theorem star (greedy : Bool) (laid : LaidOut body low node high) :
    LaidOut (body.rounds greedy) low (.star none greedy node) high where
  same := by rw [Node.ways, laid.same]
  regular := ⟨laid.regular.gateFree, laid.regular.distinct⟩
  le := laid.le
  within := laid.within

/-- A body that always takes characters is gone through once and then any number of times. -/
theorem plus (greedy : Bool) (advances : body.Advances) (laid : LaidOut body low node high) :
    LaidOut (body.andThen (body.rounds greedy)) low (.plus none greedy node) high where
  same := by
    funext cursor
    rw [Node.ways, laid.same, Ways.andThen]
    apply List.flatMap_congr
    intro way member
    rw [if_pos (advances.taken cursor way member)]
  regular := ⟨laid.regular.gateFree, laid.regular.distinct⟩
  le := laid.le
  within := laid.within

theorem widen {lower : Nat} (laid : LaidOut body low node high) (le : lower ≤ low) :
    LaidOut body lower node high where
  same := laid.same
  regular := laid.regular
  le := le.trans laid.le
  within := by
    intro place member
    have inside := laid.within place member
    exact ⟨le.trans inside.1, inside.2⟩

/-- Nothing is put behind a node if nothing is to come behind it. -/
theorem before : LaidOut last low second mid → LaidOut body mid first high →
    LaidOut (body.andThen last) low
      (match second with
      | .empty => first
      | second => .seq first second) high := by
  intro lastLaid laid
  split
  · have nothing : last = .stay := lastLaid.same.symm
    rw [nothing, Ways.andThen_stay]
    exact laid.widen lastLaid.le
  · exact lastLaid.seqBefore laid

end LaidOut

namespace Layout

/-- A layout for given ways. -/
def Lays (layout : Layout) (ways : Ways) : Prop :=
  ∀ free, LaidOut ways free (layout free).1 (layout free).2

variable {layout : Layout} {body last : Ways} {low free : Nat} {rest : Node}

theorem copies_laidOut (lays : layout.Lays body) (count : Nat)
    (laid : LaidOut last low rest free) :
    LaidOut (body.inARow count last) low (layout.copies count rest free).1
      (layout.copies count rest free).2 := by
  induction count generalizing last rest free with
  | zero => exact laid
  | succ count ih =>
      rw [← Ways.inARow_andThen]
      exact ih (laid.seqBefore (lays free))

theorem optionalCopies_laidOut (greedy : Bool) (lays : layout.Lays body) (count done : Nat)
    (laid : LaidOut (body.upTo greedy done) low rest free) :
    LaidOut (body.upTo greedy (done + count)) low
      (layout.optionalCopies false greedy count rest free).1
      (layout.optionalCopies false greedy count rest free).2 := by
  induction count generalizing done rest free with
  | zero => exact laid
  | succ count ih =>
      have longer : LaidOut (body.upTo greedy (done + 1)) low _ _ :=
        (laid.before (lays free)).optional greedy
      have further := ih (done + 1) longer
      rw [Nat.add_right_comm] at further
      exact further

/-- If nothing is to come behind the copies, the last copy comes last. -/
theorem copies_laidOut_of_empty (lays : layout.Lays body) (count : Nat) :
    LaidOut last low rest free →
      let laid := match rest, count with
        | .empty, count + 1 => layout.copies count (layout free).1 (layout free).2
        | rest, count => layout.copies count rest free
      LaidOut (body.inARow count last) low laid.1 laid.2 := by
  intro lastLaid
  split
  · rename_i count
    have nothing : last = .stay := lastLaid.same.symm
    have laid := copies_laidOut lays count ((lays free).widen lastLaid.le)
    rw [nothing, ← Ways.inARow_andThen, Ways.andThen_stay]
    exact laid
  · exact copies_laidOut lays _ lastLaid

end Layout

/-- The layout of a steady pattern is regular and has the ways of the pattern. -/
theorem Pattern.layout_lays {pattern : Pattern} (steady : pattern.steady = true) :
    (pattern.layout false).Lays pattern.ways := by
  induction pattern with
  | empty => exact LaidOut.empty
  | set s =>
      intro free
      refine ⟨rfl, ⟨rfl, List.nodup_singleton free⟩, Nat.le_succ free, ?_⟩
      simp [layout, Node.places]
  | look l =>
      intro free
      refine ⟨rfl, ⟨rfl, List.nodup_nil⟩, le_rfl, ?_⟩
      simp [layout, Node.places]
  | concat first second firstIH secondIH =>
      intro free
      simp only [Pattern.steady, Bool.and_eq_true] at steady
      exact (firstIH steady.1 free).seq (secondIH steady.2 _)
  | choice first second firstIH secondIH =>
      intro free
      simp only [Pattern.steady, Bool.and_eq_true, Bool.not_eq_true'] at steady
      have laid := (firstIH steady.1.1 free).alt (secondIH steady.1.2 _)
      simpa [layout, ways, steady.2] using laid
  | group index body ih =>
      intro free
      exact (ih steady free).group index
  | repeated least most greedy body ih =>
      intro free
      simp only [Pattern.steady, Bool.and_eq_true, Bool.not_eq_true'] at steady
      have lays := ih steady.1
      have advances := advances steady.2
      cases most with
      | none =>
          cases least with
          | zero => simpa [layout, ways, Ways.inARow, steady.2] using (lays free).star greedy
          | succ least =>
              have laid := Layout.copies_laidOut lays least ((lays free).plus greedy advances)
              rw [Ways.inARow_andThen] at laid
              simpa [layout, ways, steady.2] using laid
      | some most =>
          have upTo := Layout.optionalCopies_laidOut greedy lays (most - least) 0
            (LaidOut.empty free)
          rw [Nat.zero_add] at upTo
          have laid := Layout.copies_laidOut_of_empty lays least upTo
          simp only [layout, ways, steady.2, Bool.and_false, Bool.false_eq_true, ↓reduceIte]
          exact laid

/-- The matches of a pattern that is steady and cannot match the empty text are those of the
scan. -/
theorem Matcher.allMatches_ofPattern {pattern : Pattern} (steady : pattern.steady = true)
    (nonempty : pattern.nullable = false) (text : List Char) :
    (Matcher.ofPattern pattern).allMatches text = pattern.ways.scan (.start text) := by
  have laid := Pattern.layout_lays steady 0
  have advances : (pattern.layout false 0).1.ways.Advances := by
    rw [laid.same]
    exact Pattern.advances nonempty
  have enough : (Cursor.start text).rest.length < text.length + 1 := Nat.lt_succ_self _
  rw [Matcher.allMatches, Matcher.ofPattern, matchesFrom_eq_scan laid.regular advances enough,
    laid.same]
  rfl

end Tint.Regex
