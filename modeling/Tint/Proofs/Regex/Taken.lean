import Tint.Proofs.Regex.Extent
import Tint.Proofs.Regex.Layout
import Tint.Proofs.Regex.Prefers

/-!
# What a pattern takes

The ways through a pattern say in which order a search tries them.  Often that does not matter, and
it is enough to know which texts can be taken at all between two neighbours.  `Takes` says this with
one rule for each kind of pattern, and every way through a pattern goes by these rules.

Which characters are taken, how often one of them is at least, and what is next to the two ends can
be read off the pattern.

A scan finds only what can be taken, and it passes over nothing: where something can be taken, it
has found a match that begins there or goes on over that position.
-/

namespace Tint.Regex

/-- Where two divisions of a text are apart, the part between them is in both. -/
theorem exists_between {front rest otherFront otherRest : List Char}
    (same : front ++ rest = otherFront ++ otherRest) (le : front.length ≤ otherFront.length) :
    ∃ between, otherFront = front ++ between ∧ rest = between ++ otherRest := by
  have isPrefix : front <+: otherFront :=
    List.prefix_of_prefix_length_le (List.prefix_append front rest)
      (same ▸ List.prefix_append otherFront otherRest) le
  obtain ⟨between, rfl⟩ := isPrefix
  rw [List.append_assoc] at same
  exact ⟨between, rfl, List.append_cancel_left same⟩

/-- From the first position, the second is reached by taking these characters. -/
structure Cursor.Passes (first : Cursor) (taken : List Char) (last : Cursor) : Prop where
  rest : first.rest = taken ++ last.rest
  before : last.before = lastOf first.before taken
  offset : last.offset = first.offset + taken.length

namespace Cursor.Passes

theorem refl (cursor : Cursor) : cursor.Passes [] cursor :=
  ⟨rfl, rfl, rfl⟩

theorem single (before : Option Char) (c : Char) (rest : List Char) (offset : Nat) :
    Passes ⟨before, c :: rest, offset⟩ [c] ⟨some c, rest, offset + 1⟩ :=
  ⟨rfl, rfl, rfl⟩

theorem trans {first second third : Cursor} {early late : List Char}
    (toSecond : first.Passes early second) (toThird : second.Passes late third) :
    first.Passes (early ++ late) third where
  rest := by rw [toSecond.rest, toThird.rest, List.append_assoc]
  before := by rw [toThird.before, toSecond.before, lastOf_append]
  offset := by rw [toThird.offset, toSecond.offset, List.length_append, Nat.add_assoc]

end Cursor.Passes

namespace Pattern

/-- What a pattern can take behind `before` and in front of `rest`. -/
inductive Takes : Pattern → (before : Option Char) → (taken rest : List Char) → Prop where
  | empty {before : Option Char} {rest : List Char} : Takes empty before [] rest
  | set {s : CharSet} {c : Char} {before : Option Char} {rest : List Char}
      (holds : s.contains c = true) : Takes (set s) before [c] rest
  | look {l : Look} {before : Option Char} {rest : List Char}
      (holds : l.holds before rest.head? = true) : Takes (look l) before [] rest
  | concat {first second : Pattern} {before : Option Char} {early late rest : List Char}
      (isFirst : Takes first before early (late ++ rest))
      (isSecond : Takes second (lastOf before early) late rest) :
      Takes (concat first second) before (early ++ late) rest
  | left {first : Pattern} (second : Pattern) {before : Option Char} {taken rest : List Char}
      (isFirst : Takes first before taken rest) : Takes (choice first second) before taken rest
  | right (first : Pattern) {second : Pattern} {before : Option Char} {taken rest : List Char}
      (isSecond : Takes second before taken rest) : Takes (choice first second) before taken rest
  | enough {most : Option Nat} {greedy : Bool} {body : Pattern} {before : Option Char}
      {rest : List Char} : Takes (repeated 0 most greedy body) before [] rest
  | round {least : Nat} {most : Option Nat} {greedy : Bool} {body : Pattern}
      {before : Option Char} {early late rest : List Char} (more : least ≠ 0 ∨ most ≠ some 0)
      (isBody : Takes body before early (late ++ rest))
      (others : Takes (repeated (least - 1) (most.map (· - 1)) greedy body)
        (lastOf before early) late rest) :
      Takes (repeated least most greedy body) before (early ++ late) rest
  | group (index : Nat) {body : Pattern} {before : Option Char} {taken rest : List Char}
      (isBody : Takes body before taken rest) : Takes (group index body) before taken rest

/-- How often a pattern takes this very character at least. -/
def least (c : Char) : Pattern → Nat
  | empty | look _ => 0
  | set s => if s = .single c then 1 else 0
  | concat first second => first.least c + second.least c
  | choice first second => min (first.least c) (second.least c)
  | repeated count _ _ body => count * body.least c
  | group _ body => body.least c

/-- Whether the pattern can begin between these neighbours. -/
def opens : Pattern → (before after : Option Char) → Bool
  | empty, _, _ => true
  | set s, _, after => after.any s.contains
  | look l, before, after => l.holds before after
  | concat (look l) second, before, after => l.holds before after && second.opens before after
  | concat first _, before, after => first.opens before after
  | choice first second, before, after => first.opens before after || second.opens before after
  | repeated count _ _ body, before, after => count == 0 || body.opens before after
  | group _ body, before, after => body.opens before after

/-- Whether the pattern can end between these neighbours.  Nothing is said of the end of a
repetition. -/
def closes : Pattern → (before after : Option Char) → Bool
  | empty, _, _ => true
  | set s, before, _ => before.any s.contains
  | look l, before, after => l.holds before after
  | concat _ second, before, after => second.closes before after
  | choice first second, before, after =>
      first.closes before after || second.closes before after
  | repeated _ _ _ _, _, _ => true
  | group _ body, before, after => body.closes before after

@[simp] theorem any_contains_single (c : Char) (neighbour : Option Char) :
    neighbour.any (CharSet.single c).contains = true ↔ neighbour = some c := by
  cases neighbour <;> simp

@[simp] theorem takes_firstOf (patterns : List Pattern) (c : Char) :
    (firstOf patterns).takes c = patterns.any (·.takes c) := by
  induction patterns with
  | nil => rfl
  | cons pattern patterns ih =>
      cases patterns with
      | nil => simp [firstOf]
      | cons other patterns =>
          rw [List.any_cons, ← ih]
          rfl

@[simp] theorem takes_word (text : String) (c : Char) :
    (word text).takes c = text.toList.contains c := by
  rw [word]
  generalize text.toList = chars
  induction chars with
  | nil => rfl
  | cons d chars ih =>
      cases chars with
      | nil => simp [sequence, char, takes, Bool.beq_eq_decide_eq]
      | cons e chars =>
          rw [List.contains_cons, ← ih]
          simp [sequence, char, takes]

namespace Takes

variable {pattern first second body : Pattern} {before : Option Char} {taken rest : List Char}

/-! ## What is taken -/

theorem allowed (takes : pattern.Takes before taken rest) :
    ∀ c ∈ taken, pattern.takes c = true := by
  induction takes with
  | empty | look | enough => simp
  | set holds => simpa [Pattern.takes] using holds
  | concat _ _ firstIH secondIH =>
      intro c member
      cases List.mem_append.mp member with
      | inl inFirst => simp [Pattern.takes, firstIH c inFirst]
      | inr inSecond => simp [Pattern.takes, secondIH c inSecond]
  | left second _ ih =>
      intro c member
      simp [Pattern.takes, ih c member]
  | right first _ ih =>
      intro c member
      simp [Pattern.takes, ih c member]
  | round _ _ _ bodyIH othersIH =>
      intro c member
      cases List.mem_append.mp member with
      | inl inBody => exact bodyIH c inBody
      | inr inOthers => exact othersIH c inOthers
  | group index _ ih => exact ih

theorem least_le (takes : pattern.Takes before taken rest) (c : Char) :
    pattern.least c ≤ taken.count c := by
  induction takes with
  | empty | look | enough => simp [least]
  | @set s d before rest holds =>
      rw [least]
      split
      · rename_i isSingle
        have same : d = c := by simpa [isSingle] using holds
        simp [same]
      · exact Nat.zero_le _
  | concat _ _ firstIH secondIH =>
      rw [least, List.count_append]
      exact Nat.add_le_add firstIH secondIH
  | left second _ ih => exact (Nat.min_le_left _ _).trans ih
  | right first _ ih => exact (Nat.min_le_right _ _).trans ih
  | @round count most greedy body before early late rest _ _ _ bodyIH othersIH =>
      rw [least] at othersIH ⊢
      rw [List.count_append]
      cases count with
      | zero => simp
      | succ count =>
          rw [Nat.add_sub_cancel] at othersIH
          rw [Nat.succ_mul]
          omega
  | group index _ ih => exact ih

theorem nonempty (takes : pattern.Takes before taken rest)
    (notNullable : pattern.nullable = false) : taken ≠ [] := by
  induction takes with
  | empty | look | enough => simp [nullable] at notNullable
  | set holds => simp
  | concat _ _ firstIH secondIH =>
      rw [nullable, Bool.and_eq_false_iff] at notNullable
      cases notNullable with
      | inl inFirst => simp [firstIH inFirst]
      | inr inSecond => simp [secondIH inSecond]
  | left second _ ih =>
      rw [nullable, Bool.or_eq_false_iff] at notNullable
      exact ih notNullable.1
  | right first _ ih =>
      rw [nullable, Bool.or_eq_false_iff] at notNullable
      exact ih notNullable.2
  | round _ _ _ bodyIH othersIH =>
      rw [nullable, Bool.or_eq_false_iff] at notNullable
      simp [bodyIH notNullable.2]
  | group index _ ih => exact ih notNullable

/-! ## The two ends -/

theorem opens (takes : pattern.Takes before taken rest) :
    pattern.opens before (taken ++ rest).head? = true := by
  induction takes with
  | empty => rfl
  | enough => simp [Pattern.opens]
  | set holds => simpa [Pattern.opens] using holds
  | look holds => exact holds
  | concat isFirst _ firstIH secondIH =>
      rw [← List.append_assoc] at firstIH
      cases isFirst with
      | look holds =>
          rw [List.nil_append] at firstIH ⊢
          rw [Pattern.opens, Bool.and_eq_true]
          exact ⟨holds, secondIH⟩
      | empty | set | concat | left | right | enough | round | group => exact firstIH
  | left second _ ih => rw [Pattern.opens, ih, Bool.true_or]
  | right first _ ih => rw [Pattern.opens, ih, Bool.or_true]
  | round _ _ _ bodyIH _ =>
      rw [← List.append_assoc] at bodyIH
      rw [Pattern.opens, bodyIH, Bool.or_true]
  | group index _ ih => exact ih

theorem closes (takes : pattern.Takes before taken rest) :
    pattern.closes (lastOf before taken) rest.head? = true := by
  induction takes with
  | empty | enough | round => rfl
  | set holds => simpa [Pattern.closes] using holds
  | look holds => exact holds
  | concat _ _ _ secondIH => rwa [lastOf_append]
  | left second _ ih => rw [Pattern.closes, ih, Bool.true_or]
  | right first _ ih => rw [Pattern.closes, ih, Bool.or_true]
  | group index _ ih => exact ih

theorem exists_of_concat (takes : (Pattern.concat first second).Takes before taken rest) :
    ∃ early late, taken = early ++ late ∧ first.Takes before early (late ++ rest) ∧
      second.Takes (lastOf before early) late rest := by
  cases takes with
  | concat isFirst isSecond => exact ⟨_, _, rfl, isFirst, isSecond⟩

theorem exists_of_set {set : CharSet} (takes : (Pattern.set set).Takes before taken rest) :
    ∃ c, taken = [c] ∧ set.contains c = true := by
  cases takes with
  | set holds => exact ⟨_, rfl, holds⟩

theorem eq_of_char {c : Char} (takes : (char c).Takes before taken rest) : taken = [c] := by
  obtain ⟨d, rfl, holds⟩ := exists_of_set takes
  rw [CharSet.contains_single, beq_iff_eq] at holds
  rw [holds]

theorem word_iff {text : String} : (word text).Takes before taken rest ↔ taken = text.toList := by
  rw [word]
  generalize text.toList = chars
  induction chars generalizing before taken with
  | nil =>
      constructor
      · rintro ⟨⟩
        rfl
      · rintro rfl
        exact .empty
  | cons c chars ih =>
      cases chars with
      | nil =>
          constructor
          · exact eq_of_char
          · rintro rfl
            exact .set (by simp)
      | cons d chars =>
          constructor
          · intro takes
            obtain ⟨early, late, rfl, first, later⟩ := exists_of_concat takes
            rw [eq_of_char first, ih.mp later]
            rfl
          · rintro rfl
            exact @Takes.concat _ _ _ [c] _ _ (.set (by simp)) (ih.mpr rfl)

theorem firstOf_iff {patterns : List Pattern} (nonempty : patterns ≠ []) :
    (firstOf patterns).Takes before taken rest ↔
      ∃ pattern ∈ patterns, pattern.Takes before taken rest := by
  induction patterns with
  | nil => exact absurd rfl nonempty
  | cons pattern patterns ih =>
      cases patterns with
      | nil => simp [firstOf]
      | cons other patterns =>
          rw [List.exists_mem_cons_iff, ← ih (List.cons_ne_nil _ _)]
          constructor
          · intro takes
            cases takes with
            | left _ isFirst => exact .inl isFirst
            | right _ isLater => exact .inr isLater
          · rintro (isFirst | isLater)
            · exact .left _ isFirst
            · exact .right _ isLater

/-- A loop over one set can take any characters of the set. -/
theorem many_set {set : CharSet} (all : ∀ c ∈ taken, set.contains c = true) :
    (many (.set set)).Takes before taken rest := by
  induction taken generalizing before with
  | nil => exact .enough
  | cons c taken ih =>
      obtain ⟨holds, later⟩ := List.forall_mem_cons.mp all
      exact @Takes.round 0 none _ _ _ [c] taken _ (.inr (by simp)) (.set holds) (ih later)

theorem many1_set {set : CharSet} (nonempty : taken ≠ [])
    (all : ∀ c ∈ taken, set.contains c = true) : (many1 (.set set)).Takes before taken rest := by
  obtain ⟨c, taken, rfl⟩ := List.exists_cons_of_ne_nil nonempty
  obtain ⟨holds, later⟩ := List.forall_mem_cons.mp all
  exact @Takes.round 1 none _ _ _ [c] taken _ (.inr (by simp)) (.set holds) (many_set later)

end Takes

/-! ## Ways go by these rules -/

section Ways

variable {pattern body : Pattern} {cursor : Cursor} {way : Way}

/-- A way through rounds that take characters makes none, or goes through the body and then through
the other rounds. -/
theorem mem_ways_repeated (advances : body.ways.Advances) {least : Nat} {most : Option Nat}
    {greedy : Bool} :
    way ∈ (repeated least most greedy body).ways cursor ↔
      (least = 0 ∧ way = ⟨cursor, []⟩) ∨
        ((least ≠ 0 ∨ most ≠ some 0) ∧ ∃ front ∈ body.ways cursor,
          way ∈ front.extend
            ((repeated (least - 1) (most.map (· - 1)) greedy body).ways front.cursor)) := by
  cases least with
  | succ least =>
      have unrolled : (repeated (least + 1) most greedy body).ways =
          body.ways.andThen ((repeated least (most.map (· - 1)) greedy body).ways) := by
        cases most with
        | none => rfl
        | some most =>
            have same : most - (least + 1) = most - 1 - least := by omega
            simp only [ways, Option.map_some, same]
            rfl
      rw [unrolled, Ways.andThen, List.mem_flatMap]
      simp
  | zero =>
      cases most with
      | none =>
          have more : (body.ways cursor).flatMap (fun front =>
              if front.cursor.rest.length < cursor.rest.length then
                front.extend (body.ways.rounds greedy front.cursor) else []) =
              (body.ways cursor).flatMap fun front =>
                front.extend (body.ways.rounds greedy front.cursor) :=
            List.flatMap_congr fun front member => if_pos (advances.taken cursor front member)
          have unrolled : way ∈ body.ways.rounds greedy cursor ↔ way = ⟨cursor, []⟩ ∨
              ∃ front ∈ body.ways cursor,
                way ∈ front.extend (body.ways.rounds greedy front.cursor) := by
            rw [Ways.rounds, more, ← List.mem_flatMap]
            cases greedy <;> simp [or_comm]
          simpa [ways, Ways.inARow] using unrolled
      | some most =>
          cases most with
          | zero => simp [ways, Ways.inARow, Ways.upTo, Ways.stay]
          | succ most =>
              have unrolled : (repeated 0 (some (most + 1)) greedy body).ways =
                  (body.ways.andThen ((repeated 0 (some most) greedy body).ways)).optional
                    greedy :=
                rfl
              rw [unrolled, Ways.mem_optional, Ways.andThen, List.mem_flatMap]
              simp

/-- Where a way through a pattern leads to, it has taken what the pattern can take. -/
theorem exists_takes_of_mem_ways (steady : pattern.steady = true)
    (member : way ∈ pattern.ways cursor) :
    ∃ taken, cursor.Passes taken way.cursor ∧
      pattern.Takes cursor.before taken way.cursor.rest := by
  induction pattern generalizing cursor way with
  | empty =>
      rw [ways, Ways.stay, List.mem_singleton] at member
      subst member
      exact ⟨[], .refl cursor, .empty⟩
  | set s =>
      obtain ⟨before, rest, offset⟩ := cursor
      cases rest with
      | nil => simp [ways, Ways.one] at member
      | cons c rest =>
          simp only [ways, Ways.one, List.mem_ite_nil_right, List.mem_singleton] at member
          obtain ⟨holds, rfl⟩ := member
          exact ⟨[c], .single before c rest offset, .set holds⟩
  | look l =>
      simp only [ways, Ways.look, List.mem_ite_nil_right, List.mem_singleton] at member
      obtain ⟨holds, rfl⟩ := member
      exact ⟨[], .refl cursor, .look holds⟩
  | concat first second firstIH secondIH =>
      rw [Pattern.steady, Bool.and_eq_true] at steady
      obtain ⟨front, inFirst, later⟩ := List.mem_flatMap.mp member
      obtain ⟨back, inSecond, rfl⟩ := List.mem_map.mp later
      obtain ⟨early, passesEarly, firstTakes⟩ := firstIH steady.1 inFirst
      obtain ⟨late, passesLate, secondTakes⟩ := secondIH steady.2 inSecond
      rw [passesLate.rest] at firstTakes
      rw [passesEarly.before] at secondTakes
      exact ⟨early ++ late, passesEarly.trans passesLate, .concat firstTakes secondTakes⟩
  | choice first second firstIH secondIH =>
      simp only [Pattern.steady, Bool.and_eq_true] at steady
      cases List.mem_append.mp member with
      | inl inFirst =>
          obtain ⟨taken, passes, takes⟩ := firstIH steady.1.1 inFirst
          exact ⟨taken, passes, .left second takes⟩
      | inr inSecond =>
          obtain ⟨taken, passes, takes⟩ := secondIH steady.1.2 inSecond
          exact ⟨taken, passes, .right first takes⟩
  | repeated least most greedy body ih =>
      simp only [Pattern.steady, Bool.and_eq_true, Bool.not_eq_true'] at steady
      have advances := Pattern.advances steady.2
      induction length : cursor.rest.length using Nat.strong_induction_on
        generalizing least most cursor way with
      | _ count roundsIH =>
          rcases (mem_ways_repeated advances).mp member with
            ⟨rfl, rfl⟩ | ⟨more, front, inBody, later⟩
          · exact ⟨[], .refl cursor, .enough⟩
          · obtain ⟨back, inOthers, rfl⟩ := List.mem_map.mp later
            have shorter := advances.taken cursor front inBody
            obtain ⟨early, passesEarly, bodyTakes⟩ := ih steady.1 inBody
            obtain ⟨late, passesLate, othersTakes⟩ :=
              roundsIH _ (length ▸ shorter) _ _ inOthers rfl
            rw [passesLate.rest] at bodyTakes
            rw [passesEarly.before] at othersTakes
            exact ⟨early ++ late, passesEarly.trans passesLate, .round more bodyTakes othersTakes⟩
  | group index body ih =>
      obtain ⟨inner, inBody, rfl⟩ := List.mem_map.mp member
      obtain ⟨taken, passes, takes⟩ := ih steady inBody
      exact ⟨taken, passes, .group index takes⟩

/-- For what a pattern can take there is a way. -/
theorem Takes.exists_mem_ways {before : Option Char} {taken rest : List Char}
    (takes : pattern.Takes before taken rest) (steady : pattern.steady = true) (offset : Nat) :
    ∃ writes, ⟨⟨lastOf before taken, rest, offset + taken.length⟩, writes⟩ ∈
      pattern.ways ⟨before, taken ++ rest, offset⟩ := by
  induction takes generalizing offset with
  | empty => exact ⟨[], List.mem_singleton.mpr rfl⟩
  | set holds => exact ⟨[], by simp [ways, Ways.one, holds, Cursor.step, Cursor.next?]⟩
  | look holds => exact ⟨[], by simp [ways, Ways.look, holds]⟩
  | @concat first second before early late rest _ _ firstIH secondIH =>
      rw [Pattern.steady, Bool.and_eq_true] at steady
      obtain ⟨firstWrites, inFirst⟩ := firstIH steady.1 offset
      obtain ⟨secondWrites, inSecond⟩ := secondIH steady.2 (offset + early.length)
      rw [← List.append_assoc] at inFirst
      refine ⟨firstWrites ++ secondWrites, List.mem_flatMap.mpr ⟨_, inFirst, ?_⟩⟩
      rw [lastOf_append, List.length_append, ← Nat.add_assoc]
      exact List.mem_map_of_mem inSecond
  | left second _ ih =>
      simp only [Pattern.steady, Bool.and_eq_true] at steady
      obtain ⟨writes, inFirst⟩ := ih steady.1.1 offset
      exact ⟨writes, List.mem_append_left _ inFirst⟩
  | right first _ ih =>
      simp only [Pattern.steady, Bool.and_eq_true] at steady
      obtain ⟨writes, inSecond⟩ := ih steady.1.2 offset
      exact ⟨writes, List.mem_append_right _ inSecond⟩
  | enough =>
      simp only [Pattern.steady, Bool.and_eq_true, Bool.not_eq_true'] at steady
      exact ⟨[], (mem_ways_repeated (Pattern.advances steady.2)).mpr (.inl ⟨rfl, rfl⟩)⟩
  | @round least most greedy body before early late rest more _ _ bodyIH othersIH =>
      have both := steady
      simp only [Pattern.steady, Bool.and_eq_true, Bool.not_eq_true'] at both
      obtain ⟨bodyWrites, inBody⟩ := bodyIH both.1 offset
      obtain ⟨otherWrites, inOthers⟩ := othersIH steady (offset + early.length)
      rw [← List.append_assoc] at inBody
      refine ⟨bodyWrites ++ otherWrites, (mem_ways_repeated (Pattern.advances both.2)).mpr
        (.inr ⟨more, _, inBody, ?_⟩)⟩
      rw [lastOf_append, List.length_append, ← Nat.add_assoc]
      exact List.mem_map_of_mem inOthers
  | group index _ ih =>
      obtain ⟨writes, inBody⟩ := ih steady offset
      exact ⟨_, List.mem_map.mpr ⟨_, inBody, rfl⟩⟩

end Ways

end Pattern

/-! ## In a scan -/

namespace Cursor.Leads

/-- A position behind another one is reached by taking characters. -/
theorem exists_passes {first last : Cursor} (leads : first.Leads last) :
    ∃ taken, first.Passes taken last := by
  induction leads with
  | refl cursor => exact ⟨[], .refl cursor⟩
  | @step before c rest offset last _ ih =>
      obtain ⟨taken, passes⟩ := ih
      exact ⟨[c] ++ taken, (Passes.single before c rest offset).trans passes⟩

theorem of_append (before : Option Char) (taken rest : List Char) (offset : Nat) :
    Leads ⟨before, taken ++ rest, offset⟩
      ⟨lastOf before taken, rest, offset + taken.length⟩ := by
  induction taken generalizing before offset with
  | nil => exact .refl _
  | cons c taken ih =>
      rw [lastOf_cons, List.length_cons, Nat.add_comm taken.length, ← Nat.add_assoc]
      exact .step (ih (some c) (offset + 1))

/-- Of two positions in a text, the one with no more characters before it leads to the other. -/
theorem leads_of_le {origin first second : Cursor} (toFirst : origin.Leads first)
    (toSecond : origin.Leads second) (le : first.offset ≤ second.offset) : first.Leads second := by
  induction toFirst with
  | refl => exact toSecond
  | @step before c rest offset first further ih =>
      cases toSecond with
      | refl =>
          have passed := further.offset_le
          simp only at passed le
          omega
      | step later => exact ih later le

end Cursor.Leads

namespace Ways

variable {ways : Ways} {cursor here : Cursor}

/-- A match of a scan is the first way from some position. -/
theorem exists_of_mem_scan (advances : ways.Advances) {found : Match}
    (member : found ∈ ways.scan cursor) :
    ∃ here way, cursor.Leads here ∧ (ways here).head? = some way ∧
      found = .ofWay here.offset [] way := by
  induction length : cursor.rest.length using Nat.strong_induction_on generalizing cursor with
  | _ count ih =>
    cases first : (ways cursor).head? with
    | some way =>
        have inWays := List.mem_of_mem_head? first
        rw [scan_take advances first] at member
        cases List.mem_cons.mp member with
        | inl isFirst => exact ⟨cursor, way, .refl cursor, first, isFirst⟩
        | inr later =>
            obtain ⟨here, other, leads, isOther, isFound⟩ :=
              ih _ (length ▸ advances.taken cursor way inWays) later rfl
            exact ⟨here, other, (advances.forward cursor way inWays).trans leads, isOther, isFound⟩
    | none =>
        obtain ⟨before, rest, offset⟩ := cursor
        cases rest with
        | nil => simp [scan_end advances] at member
        | cons c rest =>
            rw [scan_skip (List.head?_eq_none_iff.mp first) rfl] at member
            obtain ⟨here, other, leads, isOther, isFound⟩ := ih _ (by simp [← length]) member rfl
            exact ⟨here, other, .step leads, isOther, isFound⟩

/-- A scan passes over no position from which there is a way. -/
theorem exists_mem_scan_of_ne_nil (advances : ways.Advances) (leads : cursor.Leads here)
    (someWay : ways here ≠ []) :
    ∃ found ∈ ways.scan cursor, found.start ≤ here.offset ∧ here.offset < found.stop := by
  induction length : cursor.rest.length using Nat.strong_induction_on generalizing cursor with
  | _ count ih =>
    cases first : (ways cursor).head? with
    | some way =>
        have inWays := List.mem_of_mem_head? first
        have forward := advances.forward cursor way inWays
        rw [scan_take advances first]
        cases Nat.lt_or_ge here.offset way.cursor.offset with
        | inl inside => exact ⟨_, List.mem_cons_self, leads.offset_le, inside⟩
        | inr behind =>
            obtain ⟨found, member, covers⟩ := ih _ (length ▸ advances.taken cursor way inWays)
              (forward.leads_of_le leads behind) rfl
            exact ⟨found, List.mem_cons_of_mem _ member, covers⟩
    | none =>
        cases leads with
        | refl => exact absurd (List.head?_eq_none_iff.mp first) someWay
        | step later =>
            rw [scan_skip (List.head?_eq_none_iff.mp first) rfl]
            exact ih _ (by simp [← length]) later rfl

end Ways

/-! ## In the matches of a text -/

namespace Pattern

/-- A pattern that the plain scan finds: it takes characters, and its loops and choices are plain.
-/
structure Scannable (pattern : Pattern) : Prop where
  steady : pattern.steady = true
  nonempty : pattern.nullable = false

variable {pattern : Pattern} {text front taken rest : List Char}

/-- What a match takes, the pattern can take. -/
theorem Scannable.exists_takes (scannable : pattern.Scannable) {found : Match}
    (member : found ∈ (Matcher.ofPattern pattern).allMatches text) :
    ∃ front taken rest, text = front ++ taken ++ rest ∧ found.start = front.length ∧
      found.stop = (front ++ taken).length ∧ pattern.Takes (lastOf none front) taken rest := by
  rw [Matcher.allMatches_ofPattern scannable.steady scannable.nonempty] at member
  obtain ⟨here, way, leads, first, rfl⟩ :=
    Ways.exists_of_mem_scan (advances scannable.nonempty) member
  obtain ⟨front, isRest, isLast, isOffset⟩ := leads.exists_passes
  obtain ⟨taken, passes, takes⟩ :=
    exists_takes_of_mem_ways scannable.steady (List.mem_of_mem_head? first)
  simp only [Cursor.start, Nat.zero_add] at isRest isLast isOffset
  refine ⟨front, taken, way.cursor.rest, ?_, isOffset, ?_, isLast ▸ takes⟩
  · rw [isRest, passes.rest, List.append_assoc]
  · rw [Match.ofWay, Match.stop, passes.offset, isOffset, List.length_append]

/-- Where the pattern can take something, there is a match. -/
theorem Scannable.exists_match (scannable : pattern.Scannable)
    (takes : pattern.Takes (lastOf none front) taken rest) :
    ∃ found ∈ (Matcher.ofPattern pattern).allMatches (front ++ taken ++ rest),
      found.start ≤ front.length ∧ front.length < found.stop := by
  obtain ⟨writes, member⟩ := takes.exists_mem_ways scannable.steady (0 + front.length)
  have leads : (Cursor.start (front ++ taken ++ rest)).Leads
      ⟨lastOf none front, taken ++ rest, 0 + front.length⟩ := by
    rw [List.append_assoc]
    exact .of_append none front (taken ++ rest) 0
  obtain ⟨found, isFound, covers⟩ := Ways.exists_mem_scan_of_ne_nil (advances scannable.nonempty)
    leads (List.ne_nil_of_mem member)
  rw [Matcher.allMatches_ofPattern scannable.steady scannable.nonempty]
  rw [Nat.zero_add] at covers
  exact ⟨found, isFound, covers⟩

end Pattern

end Tint.Regex
