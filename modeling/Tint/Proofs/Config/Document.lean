import Tint.Proofs.Config.Reading
import Tint.Proofs.Toml.KeyOrder

/-!
# What a configuration has of its document

The languages of a configuration, and its further names, are the entries of two tables of the
document, in the order of their keys.
-/

namespace Tint

open Tint.Toml Tint.Unicode

/-- Steps that all succeed give one result for each item. -/
theorem mapM_eq_ok_iff {ε α β : Type} {step : α → Except ε β} {items : List α}
    {results : List β} :
    items.mapM step = .ok results ↔
      List.Forall₂ (fun item result => step item = .ok result) items results := by
  induction items generalizing results with
  | nil =>
      cases results <;> simp [pure, Except.pure]
  | cons item items ih =>
      rw [List.mapM_cons, bind_eq_ok]
      constructor
      · rintro ⟨first, isFirst, more⟩
        obtain ⟨rest, isRest, done⟩ := bind_eq_ok.mp more
        cases done
        exact .cons isFirst (ih.mp isRest)
      · intro all
        cases all with
        | cons isFirst isRest =>
            exact ⟨_, isFirst, bind_eq_ok.mpr ⟨_, ih.mpr isRest, rfl⟩⟩

/-- If it is known what each result would be, all of them are. -/
theorem eq_map_of_mapM_eq_ok {ε α β : Type} {step : α → Except ε β} {describe : α → β}
    {items : List α} {results : List β}
    (known : ∀ item ∈ items, ∀ result, step item = .ok result → result = describe item)
    (mapped : items.mapM step = .ok results) : results = items.map describe := by
  rw [mapM_eq_ok_iff] at mapped
  induction mapped with
  | nil => rfl
  | cons isFirst _ ih =>
      obtain ⟨knownFirst, knownRest⟩ := List.forall_mem_cons.mp known
      rw [List.map_cons, ← knownFirst _ isFirst, ← ih knownRest]

namespace Config

/-- The entries of the table that a document has under a key, if it has one. -/
def entriesOf (document : Table) (key : String) : Table :=
  ((document.lookup key).bind Value.table?).getD []

/-- A configuration has the tables of a document in the order of their keys. -/
structure DescribedBy (config : Config) (document : Table) : Prop where
  ascending_aliases : Ascending (entriesOf document "aliases")
  aliases : List.Forall₂ (fun entry written => readAlias entry = .ok written)
    (entriesOf document "aliases") config.aliases
  ascending_languages : Ascending (entriesOf document "languages")
  languages : List.Forall₂
    (fun table entry => entry.name = lowercase table.1 ∧
      LanguageEntry.ofValue table.1 table.2 = .ok entry)
    (entriesOf document "languages") config.languages

/-- What a configuration has under a key is what the entry of that key sets. -/
theorem foldlM_setEntry_field {α : Type} (key : String) (field : Config → α)
    (Reads : Value → α → Prop)
    (step : ∀ (config next : Config) (entry : String × Value), config.setEntry entry = .ok next →
      if entry.1 = key then Reads entry.2 (field next) else field next = field config)
    {document : Table} (ascending : Ascending document) {start final : Config}
    (read : document.foldlM setEntry start = .ok final) :
    match document.lookup key with
    | some value => Reads value (field final)
    | none => field final = field start := by
  induction document generalizing start with
  | nil =>
      cases read
      rfl
  | cons entry rest ih =>
      rcases entry with ⟨other, value⟩
      obtain ⟨next, set, more⟩ := bind_eq_ok.mp read
      have first := step start next (other, value) set
      have later := ih ascending.tail more
      by_cases same : key = other
      · have notLater : rest.lookup key = none := same ▸ ascending.lookup_tail
        rw [notLater] at later
        rw [if_pos same.symm] at first
        simpa [List.lookup_cons, same, later] using first
      · rw [if_neg (Ne.symm same)] at first
        rw [List.lookup_cons, beq_eq_false_iff_ne.mpr same]
        simpa only [first] using later

/-- Results that are read of the entries of a table, one of each. -/
def ReadsAll {α : Type} (read : String × Value → Except ConfigError α) (value : Value)
    (results : List α) : Prop :=
  ∃ entries, value.table? = some entries ∧ entries.mapM read = .ok results

/-- A field that is empty to begin with has a result for each entry under its key. -/
theorem forall₂_entriesOf {α : Type} {read : String × Value → Except ConfigError α}
    {document : Table} {key : String} {results : List α}
    (field : match document.lookup key with
      | some value => ReadsAll read value results
      | none => results = []) :
    List.Forall₂ (fun entry result => read entry = .ok result) (entriesOf document key)
      results := by
  rw [entriesOf]
  cases found : document.lookup key with
  | none =>
      rw [found] at field
      rw [field]
      exact .nil
  | some value =>
      rw [found] at field
      obtain ⟨entries, isTable, mapped⟩ := field
      simpa [isTable] using mapM_eq_ok_iff.mp mapped

/-- The entries of a table in a document are in the order of their keys. -/
theorem ascending_entriesOf {document : Table} (ordered : Value.Ordered (.table document))
    (key : String) : Ascending (entriesOf document key) := by
  rw [entriesOf]
  cases found : document.lookup key with
  | none => exact .nil
  | some value =>
      have inOrder := ordered.inOrder _ (ordered.ascending.lookup_eq_some_iff.mp found)
      cases inOrder with
      | table ascending _ => exact ascending
      | _ => exact .nil

/-- A configuration that could be read has the tables of its document. -/
theorem exists_describedBy {text : String} {config : Config} (read : ofText text = .ok config) :
    ∃ document, readDocument? text = some document ∧ config.DescribedBy document := by
  obtain ⟨document, isDocument, steps⟩ := bind_eq_ok.mp read
  rw [orError_eq_ok] at isDocument
  have ordered := readDocument?_ordered isDocument
  have ascending := ordered.ascending
  have aliases := foldlM_setEntry_field "aliases" (·.aliases) (ReadsAll readAlias) (by
    intro config next entry set
    cases setEntry_eq_ok_iff.mp set with
    | classPrefix _ => simp
    | aliases isTable mapped => exact ⟨_, isTable, mapped⟩
    | languages _ _ => simp) ascending steps
  have languages := foldlM_setEntry_field "languages" (·.languages)
    (ReadsAll fun table => LanguageEntry.ofValue table.1 table.2) (by
    intro config next entry set
    cases setEntry_eq_ok_iff.mp set with
    | classPrefix _ => simp
    | aliases _ _ => simp
    | languages isTable mapped => exact ⟨_, isTable, mapped⟩) ascending steps
  refine ⟨document, isDocument, ⟨ascending_entriesOf ordered _, forall₂_entriesOf aliases,
    ascending_entriesOf ordered _, (forall₂_entriesOf languages).imp ?_⟩⟩
  intro table entry isRead
  exact ⟨LanguageEntry.name_ofValue isRead, isRead⟩

end Config

end Tint
