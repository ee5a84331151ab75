import Tint.Proofs.Regex.Scan

/-!
# Preferred ways

What a pattern takes from a text is settled by its first way alone.  The rules here put the first
way through a pattern together from the first ways through its parts, as long as each part can be
followed by what comes next: a part that takes as much as it should is never gone back to.
-/

namespace Tint.Regex

/-- The character before a position that is reached by taking characters. -/
def lastOf (before : Option Char) (taken : List Char) : Option Char :=
  taken.getLast?.or before

@[simp] theorem lastOf_nil (before : Option Char) : lastOf before [] = before := rfl

@[simp] theorem lastOf_singleton (before : Option Char) (c : Char) :
    lastOf before [c] = some c := rfl

@[simp] theorem lastOf_append (before : Option Char) (first second : List Char) :
    lastOf before (first ++ second) = lastOf (lastOf before first) second := by
  simp [lastOf, List.getLast?_append, Option.or_assoc]

theorem lastOf_cons (before : Option Char) (c : Char) (taken : List Char) :
    lastOf before (c :: taken) = lastOf (some c) taken :=
  lastOf_append before [c] taken

namespace Ways

/-- From a text that begins with `taken`, the first way takes just that, and sets no slots. -/
def Prefers (ways : Ways) (before : Option Char) (taken rest : List Char) : Prop :=
  ∀ offset, (ways ⟨before, taken ++ rest, offset⟩).head? =
    some ⟨⟨lastOf before taken, rest, offset + taken.length⟩, []⟩

/-- From a text there is no way. -/
def Refuses (ways : Ways) (before : Option Char) (text : List Char) : Prop :=
  ∀ offset, ways ⟨before, text, offset⟩ = []

variable {first second body : Ways} {before : Option Char} {taken more rest : List Char}

theorem prefers_stay : stay.Prefers before [] rest := by
  intro offset
  rfl

theorem prefers_one {set : CharSet} {c : Char} (holds : set.contains c) :
    (one set).Prefers before [c] rest := by
  intro offset
  simp [one, holds, Cursor.step, Cursor.next?]

theorem prefers_look {l : Look} (holds : l.holds before rest.head?) :
    (look l).Prefers before [] rest := by
  intro offset
  simp [look, holds]

theorem refuses_one {set : CharSet} {text : List Char}
    (cannot : ∀ c ∈ text.head?, set.contains c = false) : (one set).Refuses before text := by
  intro offset
  cases text with
  | nil => rfl
  | cons c text => simp [one, cannot c (by simp)]

theorem Prefers.andThen (firstPrefers : first.Prefers before taken (more ++ rest))
    (secondPrefers : second.Prefers (lastOf before taken) more rest) :
    (first.andThen second).Prefers before (taken ++ more) rest := by
  intro offset
  have head := firstPrefers offset
  have next := secondPrefers (offset + taken.length)
  rw [List.head?_eq_some_iff] at head next
  rcases head with ⟨otherFirst, firstWays⟩
  rcases next with ⟨otherSecond, secondWays⟩
  simp [Ways.andThen, firstWays, secondWays, Nat.add_assoc]

theorem Refuses.andThen {text : List Char} (refuses : first.Refuses before text) :
    (first.andThen second).Refuses before text := by
  intro offset
  rw [Ways.andThen, refuses offset, List.flatMap_nil]

theorem Prefers.orElse (firstPrefers : first.Prefers before taken rest) :
    (first.orElse second).Prefers before taken rest := by
  intro offset
  rw [Ways.orElse, List.head?_append, firstPrefers offset, Option.some_or]

theorem Refuses.orElse_prefers (refuses : first.Refuses before (taken ++ rest))
    (secondPrefers : second.Prefers before taken rest) :
    (first.orElse second).Prefers before taken rest := by
  intro offset
  rw [Ways.orElse, refuses offset, List.nil_append, secondPrefers offset]

theorem Refuses.orElse {text : List Char} (firstRefuses : first.Refuses before text)
    (secondRefuses : second.Refuses before text) : (first.orElse second).Refuses before text := by
  intro offset
  rw [Ways.orElse, firstRefuses offset, secondRefuses offset, List.append_nil]

theorem Prefers.optional (prefers : body.Prefers before taken rest) :
    (body.optional true).Prefers before taken rest :=
  prefers.orElse

theorem Refuses.optional (refuses : body.Refuses before rest) :
    (body.optional true).Prefers before [] rest :=
  Refuses.orElse_prefers refuses prefers_stay

theorem Refuses.rounds (refuses : body.Refuses before rest) :
    (body.rounds true).Prefers before [] rest := by
  intro offset
  rw [Ways.rounds, List.nil_append, refuses offset]
  rfl

/-- A loop goes on as long as it can. -/
theorem Prefers.rounds (prefers : body.Prefers before taken (more ++ rest))
    (nonempty : taken ≠ [])
    (again : (body.rounds true).Prefers (lastOf before taken) more rest) :
    (body.rounds true).Prefers before (taken ++ more) rest := by
  intro offset
  have head := prefers offset
  have next := again (offset + taken.length)
  rw [List.head?_eq_some_iff] at head next
  rcases head with ⟨otherFirst, firstWays⟩
  rcases next with ⟨otherSecond, secondWays⟩
  have shorter : 0 < taken.length := List.length_pos_iff.mpr nonempty
  rw [Ways.rounds, List.append_assoc, firstWays]
  simp [secondWays, Nat.add_assoc, shorter]

/-- A loop over one set takes all characters of the set that come. -/
theorem prefers_rounds_one {set : CharSet} (all : ∀ c ∈ taken, set.contains c)
    (stops : ∀ c ∈ rest.head?, set.contains c = false) :
    ((one set).rounds true).Prefers before taken rest := by
  induction taken generalizing before with
  | nil => exact (refuses_one stops).rounds
  | cons c taken ih =>
      have again : ((one set).rounds true).Prefers (some c) taken rest :=
        ih fun other member => all other (by simp [member])
      exact (prefers_one (all c (by simp))).rounds (by simp) again

/-- A loop over one set, once at least, takes all characters of the set that come. -/
theorem prefers_many1_set {set : CharSet} (nonempty : taken ≠ [])
    (all : ∀ c ∈ taken, set.contains c) (stops : ∀ c ∈ rest.head?, set.contains c = false) :
    (Pattern.many1 (.set set)).ways.Prefers before taken rest := by
  cases taken with
  | nil => exact absurd rfl nonempty
  | cons first taken =>
      have one : (Ways.one set).Prefers before [first] (taken ++ rest) :=
        prefers_one (all first (by simp))
      have more : ((Ways.one set).rounds true).Prefers (some first) taken rest :=
        prefers_rounds_one (fun c member => all c (by simp [member])) stops
      exact one.andThen more

/-- The first way through a group sets its slots. -/
theorem Prefers.group (index : Nat) (prefers : body.Prefers before taken rest) (offset : Nat) :
    (body.group index ⟨before, taken ++ rest, offset⟩).head? =
      some ⟨⟨lastOf before taken, rest, offset + taken.length⟩,
        [(2 * index, offset), (2 * index + 1, offset + taken.length)]⟩ := by
  rw [Ways.group, List.head?_map, prefers offset]
  rfl

end Ways

/-- A pattern that cannot match the empty text refuses what it cannot begin with. -/
theorem Pattern.refuses {pattern : Pattern} {before : Option Char} {text : List Char}
    (nonempty : pattern.nullable = false)
    (cannot : ∀ c ∈ text.head?, pattern.begins c = false) : pattern.ways.Refuses before text := by
  intro offset
  exact Pattern.ways_eq_nil nonempty cannot

/-! ## In a scan -/

namespace Pattern

variable {pattern : Pattern} {before : Option Char} {taken rest : List Char} {offset : Nat}

/-- A scan passes over characters that the pattern cannot begin with. -/
theorem scan_pass (nonempty : pattern.nullable = false)
    (cannot : ∀ c ∈ taken, pattern.begins c = false) :
    pattern.ways.scan ⟨before, taken ++ rest, offset⟩ =
      pattern.ways.scan ⟨lastOf before taken, rest, offset + taken.length⟩ := by
  induction taken generalizing before offset with
  | nil => rfl
  | cons c taken ih =>
      have cannotHere : ∀ other ∈ ((c :: taken) ++ rest).head?, pattern.begins other = false := by
        intro other isHead
        rw [List.cons_append, List.head?_cons, Option.mem_some_iff] at isHead
        exact isHead ▸ cannot c List.mem_cons_self
      have found : (Cursor.mk before ((c :: taken) ++ rest) offset).rest = c :: (taken ++ rest) :=
        rfl
      rw [Ways.scan_skip (ways_eq_nil nonempty cannotHere) found,
        ih fun other member => cannot other (List.mem_cons_of_mem _ member), lastOf_cons,
        List.length_cons, Nat.add_assoc, Nat.add_comm 1]

/-- A scan takes what the pattern prefers. -/
theorem scan_prefers (nonempty : pattern.nullable = false)
    (prefers : pattern.ways.Prefers before taken rest) :
    pattern.ways.scan ⟨before, taken ++ rest, offset⟩ =
      ⟨offset, ⟨lastOf before taken, rest, offset + taken.length⟩, []⟩ ::
        pattern.ways.scan ⟨lastOf before taken, rest, offset + taken.length⟩ :=
  Ways.scan_take (advances nonempty) (prefers offset)

end Pattern

end Tint.Regex
