import Tint.Proofs.Catalog.Builtin
import Tint.Proofs.Language

/-!
# Catalogs as records of what was written last

A catalog changes by adding languages, adding further names, and editing the languages in it.  What
it comes to can be read off the history of what was written.  Of the rules supplied for a category
of a language the last counts, and so does the last target of a further name.  The tokenizer is that
of the first definition until one is chosen by an edit, and further names of later definitions line
up behind those of the first.
-/

namespace Tint

open Tint.Unicode

/-- A change to a language that is there. -/
inductive Edit where
  | setStrategy (strategy : Strategy)
  | addRule (rule : Rule)

namespace Edit

def apply : Edit → Language → Language
  | setStrategy strategy, language => { language with strategy }
  | addRule rule, language => language.addRule rule

theorem name_apply (edit : Edit) (language : Language) :
    (edit.apply language).name = language.name := by
  cases edit <;> rfl

/-- The rules that an edit supplies. -/
def rules : Edit → List Rule
  | setStrategy _ => []
  | addRule rule => [rule]

/-- The tokenizers that an edit chooses. -/
def strategies : Edit → List Strategy
  | setStrategy strategy => [strategy]
  | addRule _ => []

end Edit

/-- What is written into a catalog. -/
inductive Write where
  /-- A definition, under the name of its language. -/
  | defined (definition : Definition)
  /-- The target of a further name, both in small letters. -/
  | named (name target : String)
  /-- A change to the language with exactly this name. -/
  | edited (id : String) (edit : Edit)

namespace Write

/-- The definitions that are written under a name. -/
def definitions (id : String) : Write → List Definition
  | defined definition => if definition.id = id then [definition] else []
  | named _ _ => []
  | edited _ _ => []

/-- The rules that are supplied for a language. -/
def rules (id : String) : Write → List Rule
  | defined definition => if definition.id = id then definition.rules else []
  | named _ _ => []
  | edited other edit => if other = id then edit.rules else []

/-- The tokenizers that are chosen for a language that is there. -/
def strategies (id : String) : Write → List Strategy
  | defined _ => []
  | named _ _ => []
  | edited other edit => if other = id then edit.strategies else []

/-- The targets that are written for further names. -/
def targets : Write → List (String × String)
  | defined definition => definition.names.map fun name => (name, definition.id)
  | named name target => [(name, target)]
  | edited _ _ => []

end Write

/-- What was written into a catalog, from the first to the last. -/
abbrev History := List Write

namespace History

/-- The definitions that were written under a name. -/
def definitions (history : History) (id : String) : List Definition :=
  history.flatMap (Write.definitions id)

/-- The rules that were supplied for a language. -/
def rules (history : History) (id : String) : List Rule :=
  history.flatMap (Write.rules id)

/-- The tokenizers that were chosen for a language by edits. -/
def strategies (history : History) (id : String) : List Strategy :=
  history.flatMap (Write.strategies id)

/-- The targets that were written for further names. -/
def targets (history : History) : List (String × String) :=
  history.flatMap Write.targets

/-- The rule that was supplied last for a category of a language. -/
def rule? (history : History) (id : String) (category : Category) : Option Rule :=
  ((history.rules id).filter (·.category == category)).getLast?

/-- The tokenizer that was chosen last for a language, or else that of its first definition. -/
def strategy? (history : History) (id : String) : Option Strategy :=
  (history.strategies id).getLast?.or ((history.definitions id).head?.map (·.strategy))

/-- The further names of the first definition of a language, and those that later ones add. -/
def aliases (history : History) (id : String) : List String :=
  match history.definitions id with
  | [] => []
  | first :: later => Language.namesBehind first.names (later.flatMap Definition.names)

/-- The target that was written last for a further name. -/
def target? (history : History) (name : String) : Option String :=
  history.targets.reverse.lookup name

/-- What a name stands for, without blanks around it and in small letters: the target that was
written for it last, or else itself. -/
def standsFor (history : History) (name : String) : String :=
  (history.target? (lowercase (trim name))).getD (lowercase (trim name))

section Append

variable (history : History) (write : Write) (id : String)

@[simp] theorem definitions_append :
    History.definitions (history ++ [write]) id =
      history.definitions id ++ write.definitions id := by
  simp [definitions]

@[simp] theorem rules_append :
    History.rules (history ++ [write]) id = history.rules id ++ write.rules id := by
  simp [rules]

@[simp] theorem strategies_append :
    History.strategies (history ++ [write]) id = history.strategies id ++ write.strategies id := by
  simp [strategies]

@[simp] theorem targets_append :
    History.targets (history ++ [write]) = history.targets ++ write.targets := by
  simp [targets]

end Append

end History

/-- A way to change a catalog. -/
inductive Change where
  | addLanguage (definition : Definition)
  | addAlias (name target : String)
  | editLanguage (name : String) (edit : Edit)

namespace Change

/-- What a change writes.  An edit writes nothing if there is no language that the name stands
for. -/
def writes (history : History) : Change → List Write
  | addLanguage definition => [.defined definition]
  | addAlias name target => [.named (lowercase name) (lowercase target)]
  | editLanguage name edit =>
      if history.definitions (history.standsFor name) = [] then []
      else [.edited (history.standsFor name) edit]

/-- The languages that a change of a catalog is about. -/
def ids (catalog : Catalog) : Change → List String
  | addLanguage definition => [definition.id]
  | addAlias _ _ => []
  | editLanguage name _ => [catalog.resolve name]

/-- The further names that a change is about. -/
def names : Change → List String
  | addLanguage definition => definition.names
  | addAlias name _ => [lowercase name]
  | editLanguage _ _ => []

end Change

/-- Adds what changes write to what was written before. -/
def History.record (history : History) (changes : List Change) : History :=
  changes.foldl (fun history change => history ++ change.writes history) history

namespace Catalog

def apply (catalog : Catalog) : Change → Catalog
  | .addLanguage definition => catalog.addLanguage definition.language
  | .addAlias name target => catalog.addAlias name target
  | .editLanguage name edit => catalog.update name edit.apply

def applyAll (catalog : Catalog) (changes : List Change) : Catalog :=
  changes.foldl apply catalog

end Catalog

/-! ## What a catalog has of a history -/

/-- A language has what was written last under its name. -/
structure Language.Reflects (language : Language) (history : History) (id : String) : Prop where
  name : language.name = id
  strategy : some language.strategy = history.strategy? id
  aliases : language.aliases = history.aliases id
  inOrder : InOrder language.rules
  rule? : ∀ category, language.rule? category = history.rule? id category

namespace Language.Reflects

variable {language : Language} {history : History} {id : String}

/-- A definition shows in a language that is new. -/
theorem of_definition (definition : Definition)
    (noDefinitions : history.definitions definition.id = [])
    (noRules : history.rules definition.id = [])
    (noStrategies : history.strategies definition.id = []) :
    definition.language.Reflects (history ++ [.defined definition]) definition.id where
  name := by rw [definition.language_eq]
  strategy := by
    rw [definition.language_eq]
    simp [History.strategy?, Write.definitions, Write.strategies, noDefinitions, noStrategies]
  aliases := by
    rw [definition.language_eq]
    simp [History.aliases, Write.definitions, noDefinitions, Language.namesBehind]
  inOrder := definition.inOrder_language
  rule? category := by
    rw [definition.rule?_language]
    simp [History.rule?, Write.rules, noRules, Definition.lastRule?]

/-- A further definition is merged into a language. -/
theorem merge (reflects : language.Reflects history id) {definition : Definition}
    (same : definition.id = id) (known : history.definitions id ≠ []) :
    (language.merge definition.language).Reflects (history ++ [.defined definition]) id where
  name := by rw [Language.merge_name, reflects.name]
  strategy := by
    rw [Language.strategy_merge, reflects.strategy]
    simp [History.strategy?, Write.definitions, Write.strategies, same,
      List.head?_append_of_ne_nil _ known]
  aliases := by
    obtain ⟨first, later, areDefinitions⟩ := List.exists_cons_of_ne_nil known
    have old := reflects.aliases
    simp only [History.aliases, areDefinitions] at old
    rw [Language.aliases_merge old, definition.language_eq]
    simp [History.aliases, Write.definitions, same, areDefinitions]
  inOrder := Language.inOrder_merge reflects.inOrder definition.language
  rule? category := by
    rw [Language.rule?_merge definition.inOrder_language, definition.rule?_language, reflects.rule?]
    simp [History.rule?, Write.rules, same, Definition.lastRule?]

/-- An edit shows in its language. -/
theorem apply (reflects : language.Reflects history id) (edit : Edit) :
    (edit.apply language).Reflects (history ++ [.edited id edit]) id where
  name := by rw [edit.name_apply, reflects.name]
  strategy := by
    cases edit with
    | setStrategy strategy =>
        simp [Edit.apply, History.strategy?, Write.strategies, Edit.strategies]
    | addRule rule =>
        simpa [Edit.apply, Language.addRule, History.strategy?, Write.strategies, Edit.strategies,
          Write.definitions] using reflects.strategy
  aliases := by
    have old : language.aliases = (History.aliases (history ++ [.edited id edit]) id) := by
      simpa [History.aliases, Write.definitions] using reflects.aliases
    cases edit with
    | setStrategy strategy => exact old
    | addRule rule => exact old
  inOrder := by
    cases edit with
    | setStrategy strategy => exact reflects.inOrder
    | addRule rule => exact reflects.inOrder.insertRule rule
  rule? category := by
    cases edit with
    | setStrategy strategy =>
        have old := reflects.rule? category
        simpa [Edit.apply, History.rule?, Write.rules, Edit.rules, Language.rule?] using old
    | addRule rule =>
        have old := reflects.rule? category
        rw [Language.rule?] at old
        rw [Edit.apply, Language.rule?, Language.addRule, find?_insertRule, old]
        by_cases isRule : rule.category = category <;>
          simp [History.rule?, Write.rules, Edit.rules, isRule]

/-- What is written about other languages leaves a language as it is. -/
theorem of_other (reflects : language.Reflects history id) {write : Write}
    (noDefinitions : write.definitions id = []) (noRules : write.rules id = [])
    (noStrategies : write.strategies id = []) : language.Reflects (history ++ [write]) id where
  name := reflects.name
  strategy := by simp [reflects.strategy, History.strategy?, noDefinitions, noStrategies]
  aliases := by simp [reflects.aliases, History.aliases, noDefinitions]
  inOrder := reflects.inOrder
  rule? category := by simp [reflects.rule?, History.rule?, noRules]

end Language.Reflects

/-- A catalog has what was written last under each name, and nothing else. -/
structure Catalog.Reflects (catalog : Catalog) (history : History) : Prop where
  nodup_ids : catalog.ids.Nodup
  mem_ids_iff : ∀ id, id ∈ catalog.ids ↔ history.definitions id ≠ []
  language : ∀ id language, catalog.find? id = some language → language.Reflects history id
  nodup_names : (catalog.aliases.map (·.1)).Nodup
  lookup : ∀ name, catalog.aliases.lookup name = history.target? name
  /-- Nothing is written about a language before its first definition. -/
  unwritten : ∀ id, history.definitions id = [] →
    history.rules id = [] ∧ history.strategies id = []

theorem map_fst_setAlias (name target : String) (aliases : List (String × String)) :
    (setAlias name target aliases).map (·.1) =
      if name ∈ aliases.map (·.1) then aliases.map (·.1) else aliases.map (·.1) ++ [name] := by
  induction aliases with
  | nil => simp [setAlias]
  | cons entry rest ih =>
      rcases entry with ⟨other, value⟩
      rw [setAlias]
      by_cases isFirst : other = name
      · simp [isFirst]
      · rw [if_neg isFirst, List.map_cons, ih]
        by_cases later : name ∈ rest.map (·.1) <;> simp [later, Ne.symm isFirst]

theorem nodup_setAlias {aliases : List (String × String)} (nodup : (aliases.map (·.1)).Nodup)
    (name target : String) : ((setAlias name target aliases).map (·.1)).Nodup := by
  rw [map_fst_setAlias]
  split
  · exact nodup
  · rename_i isNew
    exact List.nodup_append.mpr ⟨nodup, List.nodup_singleton _, by
      rintro other known _ isAdded rfl
      exact isNew (List.mem_singleton.mp isAdded ▸ known)⟩

theorem nodup_setAliases {aliases : List (String × String)} (nodup : (aliases.map (·.1)).Nodup)
    (writes : List (String × String)) : ((setAliases aliases writes).map (·.1)).Nodup := by
  induction writes generalizing aliases with
  | nil => exact nodup
  | cons write writes ih => exact ih (nodup_setAlias nodup write.1 write.2)

/-- If no name stands twice, a name has the target that stands beside it. -/
theorem lookup_eq_some_iff_mem {aliases : List (String × String)}
    (nodup : (aliases.map (·.1)).Nodup) (name target : String) :
    aliases.lookup name = some target ↔ (name, target) ∈ aliases := by
  rw [List.lookup_eq_some_iff]
  constructor
  · rintro ⟨before, after, rfl, -⟩
    exact List.mem_append_right before List.mem_cons_self
  · intro member
    obtain ⟨before, after, rfl⟩ := List.append_of_mem member
    refine ⟨before, after, rfl, fun entry earlier => ?_⟩
    rw [List.map_append, List.map_cons, List.nodup_append] at nodup
    rw [bne_iff_ne]
    exact (nodup.2.2 _ (List.mem_map_of_mem earlier) name List.mem_cons_self).symm

namespace Catalog.Reflects

variable {catalog : Catalog} {history : History}

theorem empty : ({} : Catalog).Reflects [] where
  nodup_ids := List.nodup_nil
  mem_ids_iff id := by simp [ids, History.definitions]
  language id language found := by simp [find?] at found
  nodup_names := List.nodup_nil
  lookup name := by simp [History.target?, History.targets]
  unwritten id _ := ⟨rfl, rfl⟩

theorem resolve (reflects : catalog.Reflects history) (name : String) :
    catalog.resolve name = history.standsFor name := by
  rw [Catalog.resolve, reflects.lookup, History.standsFor]

theorem lookup_append (reflects : catalog.Reflects history) (write : Write) (name : String) :
    (setAliases catalog.aliases write.targets).lookup name =
      History.target? (history ++ [write]) name := by
  rw [lookup_setAliases, reflects.lookup, History.target?, History.target?,
    History.targets_append, List.reverse_append, List.lookup_append]

theorem addLanguage (reflects : catalog.Reflects history) (definition : Definition) :
    (catalog.addLanguage definition.language).Reflects (history ++ [.defined definition]) := by
  have isName : definition.language.name = definition.id := by rw [definition.language_eq]
  refine ⟨nodup_ids_addLanguage reflects.nodup_ids _, fun id => ?ids,
    fun id language found => ?languages, ?names, fun name => ?lookup,
    fun id missing => ?unwritten⟩
  case ids =>
    have isKnown : id ∈ (catalog.register (.language definition.language)).ids ↔
        id ∈ catalog.ids ∨ id ∈ [definition.language.name] := mem_ids_register
    rw [register] at isKnown
    rw [isKnown, isName, reflects.mem_ids_iff]
    by_cases same : definition.id = id
    · simp [Write.definitions, same]
    · simp [Write.definitions, same, Ne.symm same]
  case languages =>
    by_cases same : id = definition.language.name
    · subst same
      cases before : catalog.find? definition.language.name with
      | none =>
          have isNew := find?_eq_none_iff.mp before
          rw [find?_addLanguage_of_new isNew, Option.some.injEq] at found
          rw [isName, reflects.mem_ids_iff, not_not] at isNew
          obtain ⟨noRules, noStrategies⟩ := reflects.unwritten _ isNew
          rw [← found, isName]
          exact .of_definition definition isNew noRules noStrategies
      | some old =>
          rw [find?_addLanguage_of_known before, Option.some.injEq] at found
          have known : history.definitions definition.language.name ≠ [] := by
            rw [← reflects.mem_ids_iff, ← find?_isSome_iff, before]
            rfl
          rw [← found]
          exact (reflects.language _ old before).merge isName.symm known
    · rw [find?_addLanguage_of_ne _ same] at found
      rw [isName] at same
      refine (reflects.language id language found).of_other ?_ ?_ ?_ <;>
        simp [Write.definitions, Write.rules, Write.strategies, Ne.symm same]
  case names =>
    rw [aliases_addLanguage]
    exact nodup_setAliases reflects.nodup_names _
  case lookup =>
    rw [← reflects.lookup_append, aliases_addLanguage, definition.language_eq]
    rfl
  case unwritten =>
    have other : definition.id ≠ id := by
      rintro rfl
      simp [Write.definitions] at missing
    have before : history.definitions id = [] := by simpa [Write.definitions, other] using missing
    simpa [Write.rules, Write.strategies, other] using reflects.unwritten id before

theorem addAlias (reflects : catalog.Reflects history) (name target : String) :
    (catalog.addAlias name target).Reflects
      (history ++ [.named (lowercase name) (lowercase target)]) where
  nodup_ids := reflects.nodup_ids
  mem_ids_iff id := by
    simpa [Write.definitions] using reflects.mem_ids_iff id
  language id language found :=
    (reflects.language id language found).of_other rfl rfl rfl
  nodup_names := nodup_setAlias reflects.nodup_names _ _
  lookup other := reflects.lookup_append (.named (lowercase name) (lowercase target)) other
  unwritten id missing := by
    simpa [Write.rules, Write.strategies] using
      reflects.unwritten id (by simpa [Write.definitions] using missing)

theorem editLanguage (reflects : catalog.Reflects history) {id : String}
    (known : history.definitions id ≠ []) (edit : Edit) :
    (catalog.modify id edit.apply).Reflects (history ++ [.edited id edit]) where
  nodup_ids := by
    rw [ids_modify edit.name_apply]
    exact reflects.nodup_ids
  mem_ids_iff other := by
    rw [ids_modify edit.name_apply]
    simpa [Write.definitions] using reflects.mem_ids_iff other
  language other language found := by
    rw [find?_modify edit.name_apply, Option.map_eq_some_iff] at found
    obtain ⟨old, before, rfl⟩ := found
    have old := reflects.language other old before
    by_cases same : other = id
    · subst same
      rw [if_pos rfl]
      exact old.apply edit
    · rw [if_neg same]
      refine old.of_other rfl ?_ ?_ <;> simp [Write.rules, Write.strategies, Ne.symm same]
  nodup_names := reflects.nodup_names
  lookup name := by
    simpa [History.target?, Write.targets, modify] using reflects.lookup name
  unwritten other missing := by
    have before : history.definitions other = [] := by simpa [Write.definitions] using missing
    have differ : id ≠ other := by
      rintro rfl
      exact known before
    simpa [Write.rules, Write.strategies, differ] using reflects.unwritten other before

/-- Each change writes what it says. -/
theorem apply (reflects : catalog.Reflects history) (change : Change) :
    (catalog.apply change).Reflects (history ++ change.writes history) := by
  cases change with
  | addLanguage definition => exact reflects.addLanguage definition
  | addAlias name target => exact reflects.addAlias name target
  | editLanguage name edit =>
      rw [Catalog.apply, update, reflects.resolve, Change.writes]
      split
      · rename_i missing
        have notKnown : history.standsFor name ∉ catalog.ids := by
          simp [reflects.mem_ids_iff, missing]
        rw [modify_of_find?_eq_none (find?_eq_none_iff.mpr notKnown), List.append_nil]
        exact reflects
      · rename_i known
        exact reflects.editLanguage known edit

theorem applyAll (reflects : catalog.Reflects history) (changes : List Change) :
    (catalog.applyAll changes).Reflects (history.record changes) := by
  induction changes generalizing catalog history with
  | nil => exact reflects
  | cons change changes ih => exact ih (reflects.apply change)

end Catalog.Reflects

/-! ## What can be asked of a catalog -/

/-- Names that differ are strictly ascending once they are sorted. -/
theorem pairwise_lt_mergeSort {names : List String} (nodup : names.Nodup) :
    (names.mergeSort (· ≤ ·)).Pairwise (· < ·) := by
  have sorted : (names.mergeSort (· ≤ ·)).Pairwise
      fun first second => decide (first ≤ second) :=
    List.pairwise_mergeSort (by simpa using fun _ _ _ => le_trans)
      (by simpa using fun _ _ => le_total _ _) names
  have stillNodup : (names.mergeSort (· ≤ ·)).Nodup :=
    (List.mergeSort_perm names _).nodup_iff.mpr nodup
  exact (sorted.and stillNodup).imp fun both =>
    lt_of_le_of_ne (of_decide_eq_true both.1) both.2

namespace Catalog

/-- Languages that a change is not about stay as they are. -/
theorem find?_apply_of_other (catalog : Catalog) {change : Change} {id : String}
    (other : id ∉ change.ids catalog) : (catalog.apply change).find? id = catalog.find? id := by
  cases change with
  | addLanguage definition =>
      refine find?_addLanguage_of_ne catalog ?_
      rw [definition.language_eq]
      simpa [Change.ids] using other
  | addAlias name target => rfl
  | editLanguage name edit =>
      rw [apply, update, find?_modify edit.name_apply]
      simp [show id ≠ catalog.resolve name by simpa [Change.ids] using other]

/-- Further names that a change is not about keep their targets. -/
theorem lookup_apply_of_other (catalog : Catalog) {change : Change} {name : String}
    (other : name ∉ change.names) :
    (catalog.apply change).aliases.lookup name = catalog.aliases.lookup name := by
  cases change with
  | addLanguage definition =>
      have unwritten :
          (definition.names.map fun name => (name, definition.id)).reverse.lookup name = none := by
        rw [List.lookup_eq_none_iff]
        intro write member
        simp only [List.mem_reverse, List.mem_map] at member
        obtain ⟨written, isName, rfl⟩ := member
        simpa using fun same : name = written => other (same ▸ isName)
      rw [apply, aliases_addLanguage, lookup_setAliases, definition.language_eq, unwritten]
      rfl
  | addAlias further target =>
      rw [apply, addAlias, lookup_setAlias, if_neg (by simpa [Change.names] using other)]
  | editLanguage _ edit => rfl

/-- A catalog tells what was written last, and a change shows where it writes only. -/
structure Refines (catalog : Catalog) (history : History) : Prop
    extends catalog.Reflects history where
  resolve : ∀ name, catalog.resolve name = history.standsFor name
  ascending_names : catalog.names.Pairwise (· < ·)
  mem_names : ∀ id, id ∈ catalog.names ↔ history.definitions id ≠ []
  ascending_aliasesOf : ∀ id, (catalog.aliasesOf id).Pairwise (· < ·)
  mem_aliasesOf : ∀ id name, name ∈ catalog.aliasesOf id ↔ history.target? name = some id
  find?_apply : ∀ change id, id ∉ Change.ids catalog change →
    (catalog.apply change).find? id = catalog.find? id
  lookup_apply : ∀ change name, name ∉ Change.names change →
    (catalog.apply change).aliases.lookup name = catalog.aliases.lookup name

namespace Reflects

variable {catalog : Catalog} {history : History}

theorem refines (reflects : catalog.Reflects history) : catalog.Refines history where
  toReflects := reflects
  resolve := reflects.resolve
  ascending_names := pairwise_lt_mergeSort reflects.nodup_ids
  mem_names id := by
    rw [← reflects.mem_ids_iff, names, (List.mergeSort_perm _ _).mem_iff, ids]
  ascending_aliasesOf id :=
    pairwise_lt_mergeSort (reflects.nodup_names.sublist (List.filter_sublist.map _))
  mem_aliasesOf id name := by
    rw [← reflects.lookup, lookup_eq_some_iff_mem reflects.nodup_names, aliasesOf,
      (List.mergeSort_perm _ _).mem_iff]
    simp
  find?_apply change id other := catalog.find?_apply_of_other other
  lookup_apply change name other := catalog.lookup_apply_of_other other

end Reflects

end Catalog

namespace Builtin

/-- The built-in languages, each defined as it is. -/
def changes : List Change :=
  languages.map fun language => .addLanguage language.definition

/-- The built-in languages were defined. -/
theorem language_definition_of_mem :
    ∀ language ∈ languages, language.definition.language = language := by
  have isDefined (name : String) (aliases : List String) (rules : List (Regex.Read Rule)) :
      (language name aliases rules).definition.language = language name aliases rules := by
    have made :
        ({ name, aliases, rules := rules.filterMap Except.toOption } : Definition).language =
          language name aliases rules := by
      rw [language_eq_foldl, Definition.language, Language.foldl_addAlias]
      rfl
    rw [← made]
    exact Definition.language_definition _
  have isDefinedJson : json.definition.language = json :=
    Definition.language_definition { name := "json", strategy := .structured }
  simp only [languages, List.forall_mem_cons, List.not_mem_nil, false_implies, implies_true,
    and_true]
  refine ⟨?_, ?_, isDefinedJson, ?_, ?_, ?_, ?_, ?_, ?_⟩
  all_goals
    simp only [al, powerShell, python, cSharp, xml, sql, markdown, css, isDefined]

end Builtin

namespace Catalog

theorem builtin_eq_applyAll : builtin = ({} : Catalog).applyAll Builtin.changes := by
  rw [builtin, applyAll, Builtin.changes, List.foldl_map]
  refine List.foldl_ext _ _ _ fun catalog language member => ?_
  rw [apply, Builtin.language_definition_of_mem language member]

/-- Whatever is changed in the empty or the built-in catalog, it has what was written last under
each name. -/
theorem refines_applyAll (changes : List Change) :
    (({} : Catalog).applyAll changes).Refines (History.record [] changes) ∧
    (builtin.applyAll changes).Refines (History.record [] (Builtin.changes ++ changes)) := by
  refine ⟨(Reflects.empty.applyAll changes).refines, ?_⟩
  have both : builtin.applyAll changes = ({} : Catalog).applyAll (Builtin.changes ++ changes) := by
    rw [builtin_eq_applyAll, applyAll, applyAll, applyAll, List.foldl_append]
  rw [both]
  exact (Reflects.empty.applyAll (Builtin.changes ++ changes)).refines

end Catalog

end Tint
