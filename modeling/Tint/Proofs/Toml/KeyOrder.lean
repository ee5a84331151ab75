import Mathlib
import Tint.Toml.Document

/-!
# The order of keys in a document

The entries of each table of a document are in the order of their keys, and no key is there twice.
An entry is set at its place in this order, and nothing else adds to a table.
-/

namespace Tint.Toml

/-! ## Tables in order -/

section Ascending

variable {α : Type} {key : String} {value : α} {entries : List (String × α)}

/-- The keys of entries are strictly ascending. -/
def Ascending (entries : List (String × α)) : Prop :=
  entries.Pairwise fun first second => first.1 < second.1

theorem mem_of_mem_setEntry {entry : String × α} (member : entry ∈ setEntry key value entries) :
    entry = (key, value) ∨ entry ∈ entries := by
  induction entries with
  | nil => exact .inl (List.mem_singleton.mp member)
  | cons first rest ih =>
      rcases first with ⟨other, held⟩
      rw [setEntry] at member
      split at member
      · rcases List.mem_cons.mp member with rfl | later
        · exact .inr List.mem_cons_self
        · exact (ih later).imp_right (List.mem_cons_of_mem _)
      · split at member
        · exact (List.mem_cons.mp member).imp_right (List.mem_cons_of_mem _)
        · exact List.mem_cons.mp member

theorem Ascending.setEntry (ascending : Ascending entries) (key : String) (value : α) :
    Ascending (setEntry key value entries) := by
  induction entries with
  | nil => exact List.pairwise_singleton _ _
  | cons first rest ih =>
      rcases first with ⟨other, held⟩
      obtain ⟨behind, restAscending⟩ := List.pairwise_cons.mp ascending
      rw [Toml.setEntry]
      split
      · rename_i before
        refine List.pairwise_cons.mpr ⟨fun entry member => ?_, ih restAscending⟩
        rcases mem_of_mem_setEntry member with rfl | old
        · exact before
        · exact behind entry old
      · rename_i notBefore
        split
        · rename_i same
          exact List.pairwise_cons.mpr ⟨by simpa only [← same] using behind, restAscending⟩
        · rename_i differ
          have after : key < other := lt_of_le_of_ne (not_lt.mp notBefore) (Ne.symm differ)
          refine List.pairwise_cons.mpr ⟨fun entry member => ?_, ascending⟩
          rcases List.mem_cons.mp member with rfl | old
          · exact after
          · exact after.trans (behind entry old)

/-- Among ascending keys, each is found with its own value. -/
theorem Ascending.lookup_eq_some_iff (ascending : Ascending entries) :
    entries.lookup key = some value ↔ (key, value) ∈ entries := by
  induction entries with
  | nil => simp
  | cons first rest ih =>
      rcases first with ⟨other, held⟩
      obtain ⟨behind, restAscending⟩ := List.pairwise_cons.mp ascending
      rw [List.lookup_cons]
      by_cases same : key = other
      · subst same
        have notLater : (key, value) ∉ rest := fun later =>
          lt_irrefl key (behind (key, value) later)
        simp [notLater, eq_comm]
      · simp [beq_eq_false_iff_ne.mpr same, ih restAscending, same]

/-- Behind an entry its key is not there again. -/
theorem Ascending.lookup_tail {first : String × α} (ascending : Ascending (first :: entries)) :
    entries.lookup first.1 = none := by
  rw [List.lookup_eq_none_iff]
  intro entry member
  simpa using (List.rel_of_pairwise_cons ascending member).ne

/-- Under one key, entries in order have one value. -/
theorem Ascending.value_unique (ascending : Ascending entries) {other : α}
    (member : (key, value) ∈ entries) (otherMember : (key, other) ∈ entries) : value = other :=
  Option.some_inj.mp
    ((ascending.lookup_eq_some_iff.mpr member).symm.trans
      (ascending.lookup_eq_some_iff.mpr otherMember))

end Ascending

/-- All tables in a value are in order. -/
inductive Value.Ordered : Value → Prop where
  | string {text : String} : Ordered (.string text)
  | integer {value : Int} : Ordered (.integer value)
  | float {text : String} : Ordered (.float text)
  | boolean {value : Bool} : Ordered (.boolean value)
  | dateTime {text : String} : Ordered (.dateTime text)
  | array {items : List Value} : (∀ item ∈ items, item.Ordered) → Ordered (.array items)
  | table {entries : Table} :
      Ascending entries → (∀ entry ∈ entries, entry.2.Ordered) → Ordered (.table entries)

namespace Value.Ordered

variable {entries : Table}

theorem ascending (ordered : Ordered (.table entries)) : Ascending entries := by
  cases ordered
  assumption

theorem inOrder (ordered : Ordered (.table entries)) : ∀ entry ∈ entries, entry.2.Ordered := by
  cases ordered
  assumption

end Value.Ordered

/-- All tables in a tree are in order. -/
inductive Tree.Ordered : Tree → Prop where
  | leaf {value : Value} : value.Ordered → Ordered (.leaf value)
  | table {origin : Origin} {entries : Branches} :
      Ascending entries → (∀ entry ∈ entries, entry.2.Ordered) → Ordered (.table origin entries)
  | tables {elements : List Branches} :
      (∀ entries ∈ elements, Ascending entries) →
      (∀ entries ∈ elements, ∀ entry ∈ entries, entry.2.Ordered) → Ordered (.tables elements)

/-- The entries of a table under construction are in order, and so are all tables in them. -/
structure Branches.Ordered (entries : Branches) : Prop where
  ascending : Ascending entries
  trees : ∀ entry ∈ entries, entry.2.Ordered

namespace Branches.Ordered

variable {entries : Branches} {key : String} {tree : Tree}

theorem empty : Branches.Ordered [] where
  ascending := List.Pairwise.nil
  trees := by simp

theorem setEntry (ordered : Branches.Ordered entries) (inOrder : tree.Ordered) :
    Branches.Ordered (Toml.setEntry key tree entries) where
  ascending := ordered.ascending.setEntry key tree
  trees entry member := by
    rcases mem_of_mem_setEntry member with rfl | old
    · exact inOrder
    · exact ordered.trees entry old

theorem of_lookup (ordered : Branches.Ordered entries) (found : entries.lookup key = some tree) :
    tree.Ordered :=
  ordered.trees _ (ordered.ascending.lookup_eq_some_iff.mp found)

end Branches.Ordered

/-! ## Finished values -/

theorem values_eq_map (entries : Branches) :
    Tree.values entries = entries.map fun entry => (entry.1, entry.2.value) := by
  induction entries with
  | nil => rfl
  | cons entry rest ih => simp [Tree.values, ih]

theorem elementValues_eq_map (elements : List Branches) :
    Tree.elementValues elements = elements.map fun entries => .table (Tree.values entries) := by
  induction elements with
  | nil => rfl
  | cons entries rest ih => simp [Tree.elementValues, ih]

/-- Finishing changes no keys. -/
theorem ascending_values {entries : Branches} (ascending : Ascending entries) :
    Ascending (Tree.values entries) := by
  rw [values_eq_map, Ascending, List.pairwise_map]
  exact ascending

theorem values_ordered {entries : Branches} (ascending : Ascending entries)
    (values : ∀ entry ∈ entries, entry.2.value.Ordered) :
    Value.Ordered (.table (Tree.values entries)) := by
  refine .table (ascending_values ascending) fun entry member => ?_
  rw [values_eq_map, List.mem_map] at member
  obtain ⟨branch, isBranch, rfl⟩ := member
  exact values branch isBranch

theorem Tree.Ordered.value {tree : Tree} (ordered : tree.Ordered) : tree.value.Ordered := by
  induction ordered with
  | leaf ordered => exact ordered
  | table ascending _ ih => exact values_ordered ascending ih
  | tables ascending _ ih =>
      refine .array fun item member => ?_
      rw [elementValues_eq_map, List.mem_reverse, List.mem_map] at member
      obtain ⟨entries, isElement, rfl⟩ := member
      exact values_ordered (ascending entries isElement) (ih entries isElement)

/-- The finished table of entries in order. -/
theorem Branches.Ordered.values {entries : Branches} (ordered : entries.Ordered) :
    Value.Ordered (.table (Tree.values entries)) :=
  values_ordered ordered.ascending fun entry member => (ordered.trees entry member).value

/-! ## Changes -/

/-- A change leaves a table in order. -/
def Change.KeepsOrder (change : Change) : Prop :=
  ∀ ⦃origin : Origin⦄ ⦃entries next : Branches⦄, entries.Ordered →
    change origin entries = some next → next.Ordered

theorem addLeaf_ordered {key : String} {value : Value} {entries next : Branches}
    (ordered : entries.Ordered) (isOrdered : value.Ordered)
    (added : addLeaf key value entries = some next) : next.Ordered := by
  rw [addLeaf] at added
  split at added
  · cases added
    exact ordered.setEntry (.leaf isOrdered)
  · cases added

theorem changeAt_keepsOrder {change : Change} (keeps : change.KeepsOrder) (dotted : Bool)
    (path : List String) : Change.KeepsOrder (changeAt dotted change path) := by
  induction path with
  | nil => exact keeps
  | cons key path ih =>
      intro origin entries next ordered changed
      simp only [changeAt] at changed
      split at changed
      · obtain ⟨inner, made, rfl⟩ := Option.map_eq_some_iff.mp changed
        have isOrdered := ih .empty made
        exact ordered.setEntry (.table isOrdered.ascending isOrdered.trees)
      · rename_i found
        cases ordered.of_lookup found with
        | table ascending trees =>
            split at changed
            · cases changed
            · obtain ⟨inner, made, rfl⟩ := Option.map_eq_some_iff.mp changed
              have isOrdered := ih ⟨ascending, trees⟩ made
              exact ordered.setEntry (.table isOrdered.ascending isOrdered.trees)
      · rename_i last before found
        cases ordered.of_lookup found with
        | tables ascending trees =>
            obtain ⟨inner, made, rfl⟩ := Option.map_eq_some_iff.mp changed
            have isOrdered := ih
              ⟨ascending last List.mem_cons_self, trees last List.mem_cons_self⟩ made
            refine ordered.setEntry (.tables ?_ ?_)
            · exact List.forall_mem_cons.mpr ⟨isOrdered.ascending,
                (List.forall_mem_cons.mp ascending).2⟩
            · exact List.forall_mem_cons.mpr ⟨isOrdered.trees, (List.forall_mem_cons.mp trees).2⟩
      · cases changed
      · cases changed

theorem addValue_keepsOrder {value : Value} (isOrdered : value.Ordered) (path : List String)
    (key : String) : Change.KeepsOrder (addValue path key value) := by
  refine changeAt_keepsOrder (fun origin entries next ordered added => ?_) true path
  split at added
  · exact addLeaf_ordered ordered isOrdered added
  · cases added

theorem openTable_ordered {path : List String} {key : String} {root next : Branches}
    (ordered : root.Ordered) (opened : openTable path key root = some next) : next.Ordered := by
  refine changeAt_keepsOrder (fun origin entries next ordered added => ?_) false path ordered opened
  split at added
  · cases added
    exact ordered.setEntry (.table .nil (by simp))
  · rename_i found
    cases ordered.of_lookup found with
    | table ascending trees =>
        cases added
        exact ordered.setEntry (.table ascending trees)
  · cases added

theorem openElement_ordered {path : List String} {key : String} {root next : Branches}
    (ordered : root.Ordered) (opened : openElement path key root = some next) : next.Ordered := by
  refine changeAt_keepsOrder (fun origin entries next ordered added => ?_) false path ordered opened
  split at added
  · cases added
    exact ordered.setEntry (.tables (by simp [Ascending]) (by simp))
  · rename_i found
    cases ordered.of_lookup found with
    | tables ascending trees =>
        cases added
        refine ordered.setEntry (.tables ?_ ?_)
        · exact List.forall_mem_cons.mpr ⟨.nil, ascending⟩
        · exact List.forall_mem_cons.mpr ⟨by simp, trees⟩
  · cases added

/-! ## Reading -/

theorem integerValue?_ordered {number : Int} {cs rest : List Char} {value : Value}
    (read : integerValue? number cs = some (value, rest)) : value.Ordered := by
  rw [integerValue?] at read
  split at read
  · cases read
    exact .integer
  · cases read

theorem readInteger_ordered {cs rest : List Char} {value : Value}
    (read : readInteger cs = some (value, rest)) : value.Ordered := by
  simp only [readInteger] at read
  split at read
  all_goals
    obtain ⟨digits, -, isValue⟩ := Option.bind_eq_some_iff.mp read
    exact integerValue?_ordered isValue

theorem readFloat_ordered {cs rest : List Char} {value : Value}
    (read : readFloat cs = some (value, rest)) : value.Ordered := by
  simp only [readFloat] at read
  split at read
  · cases read
    exact .float
  · cases read
    exact .float
  · obtain ⟨whole, -, read⟩ := Option.bind_eq_some_iff.mp read
    split at read
    all_goals
      obtain ⟨fraction, -, read⟩ := Option.bind_eq_some_iff.mp read
      obtain ⟨exponent, -, read⟩ := Option.bind_eq_some_iff.mp read
      split at read
      · cases read
      · split at read
        · cases read
        · cases read
          exact .float

theorem readNumeric_ordered {cs rest : List Char} {value : Value}
    (read : readNumeric cs = some (value, rest)) : value.Ordered := by
  simp only [readNumeric] at read
  split at read
  · obtain ⟨after, -, isDate⟩ := Option.map_eq_some_iff.mp read
    cases isDate
    exact .dateTime
  · split at read
    · obtain ⟨after, -, isTime⟩ := Option.map_eq_some_iff.mp read
      cases isTime
      exact .dateTime
    · rcases Option.or_eq_some_iff.mp read with isFloat | ⟨-, isInteger⟩
      · exact readFloat_ordered isFloat
      · exact readInteger_ordered isInteger

/-- What is read in so many steps is in order: values, and the items and pairs that go on from what
has been read before them. -/
structure ReadsOrdered (steps : Nat) : Prop where
  value {depth : Nat} {cs rest : List Char} {value : Value}
    (read : readValue steps depth cs = some (value, rest)) : value.Ordered
  items {depth : Nat} {done : List Value} {cs rest : List Char} {value : Value}
    (ordered : ∀ item ∈ done, item.Ordered)
    (read : readItems steps depth done cs = some (value, rest)) : value.Ordered
  pairs {depth : Nat} {entries : Branches} {cs rest : List Char} {value : Value}
    (ordered : Branches.Ordered entries)
    (read : readPairs steps depth entries cs = some (value, rest)) : value.Ordered

namespace ReadsOrdered

variable {steps depth : Nat} {cs rest : List Char} {value : Value}

theorem value_succ (fewer : ReadsOrdered steps)
    (read : readValue (steps + 1) depth cs = some (value, rest)) : value.Ordered := by
  simp only [readValue] at read
  split at read
  · cases read
  · split at read
    · obtain ⟨text, -, isText⟩ := Option.map_eq_some_iff.mp read
      cases isText
      exact .string
    · split at read
      · split at read
        · cases read
        · exact fewer.items (by simp) read
      · split at read
        · split at read
          · cases read
          · split at read
            · cases read
              exact .table .nil (by simp)
            · exact fewer.pairs .empty read
        · split at read
          · cases read
            exact .boolean
          · cases read
            exact .boolean
          · exact readNumeric_ordered read

theorem items_succ (fewer : ReadsOrdered steps) {done : List Value}
    (ordered : ∀ item ∈ done, item.Ordered)
    (read : readItems (steps + 1) depth done cs = some (value, rest)) : value.Ordered := by
  have reversed : ∀ item ∈ done.reverse, item.Ordered := by simpa using ordered
  simp only [readItems] at read
  split at read
  · cases read
  · cases read
    exact .array reversed
  · split at read
    · cases read
    · rename_i item after isItem
      have more := List.forall_mem_cons.mpr ⟨fewer.value isItem, ordered⟩
      split at read
      · exact fewer.items more read
      · cases read
        exact .array fun other member => more other (List.mem_reverse.mp member)
      · cases read

theorem pairs_succ (fewer : ReadsOrdered steps) {entries : Branches}
    (ordered : Branches.Ordered entries)
    (read : readPairs (steps + 1) depth entries cs = some (value, rest)) : value.Ordered := by
  simp only [readPairs] at read
  split at read
  · split at read
    · rename_i value after path key isValue isPath
      split at read
      · cases read
      · rename_i entries added
        have more := addValue_keepsOrder (fewer.value isValue) path key ordered added
        split at read
        · exact fewer.pairs more read
        · cases read
          exact more.values
        · cases read
    · cases read
  · cases read

end ReadsOrdered

/-- Values, items and pairs are read in turns, so this is by induction on the steps for all. -/
theorem readsOrdered (steps : Nat) : ReadsOrdered steps := by
  induction steps with
  | zero =>
      refine ⟨fun read => ?_, fun _ read => ?_, fun _ read => ?_⟩
      · simp [readValue] at read
      · simp [readItems] at read
      · simp [readPairs] at read
  | succ steps ih => exact ⟨ih.value_succ, ih.items_succ, ih.pairs_succ⟩

theorem readHeader_ordered {isElement : Bool} {draft next : Draft} {cs rest : List Char}
    (ordered : draft.root.Ordered) (read : readHeader isElement draft cs = some (next, rest)) :
    next.root.Ordered := by
  obtain ⟨⟨keys, closing⟩, -, read⟩ := Option.bind_eq_some_iff.mp read
  dsimp only at read
  split at read
  case h_3 => cases read
  all_goals
    obtain ⟨closed, -, read⟩ := Option.bind_eq_some_iff.mp read
    obtain ⟨after, -, read⟩ := Option.bind_eq_some_iff.mp read
    obtain ⟨path, -, read⟩ := Option.bind_eq_some_iff.mp read
    obtain ⟨root, opened, done⟩ := Option.bind_eq_some_iff.mp read
    cases done
  · exact openTable_ordered ordered opened
  · exact openElement_ordered ordered opened

theorem readPair_ordered {draft next : Draft} {cs rest : List Char}
    (ordered : draft.root.Ordered) (read : readPair draft cs = some (next, rest)) :
    next.root.Ordered := by
  obtain ⟨keys, -, read⟩ := Option.bind_eq_some_iff.mp read
  obtain ⟨marked, -, read⟩ := Option.bind_eq_some_iff.mp read
  obtain ⟨value, isValue, read⟩ := Option.bind_eq_some_iff.mp read
  obtain ⟨after, -, read⟩ := Option.bind_eq_some_iff.mp read
  obtain ⟨path, -, read⟩ := Option.bind_eq_some_iff.mp read
  obtain ⟨root, changed, done⟩ := Option.bind_eq_some_iff.mp read
  cases done
  have keeps := addValue_keepsOrder ((readsOrdered _).value isValue) path.1 path.2
  exact changeAt_keepsOrder keeps false draft.current ordered changed

theorem readLines_ordered {steps : Nat} {draft final : Draft} {cs : List Char}
    (ordered : draft.root.Ordered) (read : readLines steps draft cs = some final) :
    final.root.Ordered := by
  induction steps generalizing draft cs with
  | zero => cases read
  | succ steps ih =>
      simp only [readLines] at read
      split at read
      · cases read
        exact ordered
      · obtain ⟨after, -, more⟩ := Option.bind_eq_some_iff.mp read
        exact ih ordered more
      · obtain ⟨next, header, more⟩ := Option.bind_eq_some_iff.mp read
        exact ih (readHeader_ordered ordered header) more
      · obtain ⟨next, header, more⟩ := Option.bind_eq_some_iff.mp read
        exact ih (readHeader_ordered ordered header) more
      · split at read
        · exact ih ordered read
        · obtain ⟨next, pair, more⟩ := Option.bind_eq_some_iff.mp read
          exact ih (readPair_ordered ordered pair) more

/-- All tables of a document are in order. -/
theorem readDocument?_ordered {text : String} {document : Table}
    (read : readDocument? text = some document) : Value.Ordered (.table document) := by
  obtain ⟨draft, lines, rfl⟩ := Option.map_eq_some_iff.mp read
  exact (readLines_ordered .empty lines).values

end Tint.Toml
