import Tint.Proofs.Catalog.History
import Tint.Proofs.Language.Canonical

/-!
# Merging languages, before and after they are registered

Merging languages is associative, and merging the same language once more changes nothing.  Further
names that a language has twice stay as they are, and those that it has already are not added again.

A catalog merges languages that are registered under one name.  Because merging is associative, it
is all the same whether languages are registered one after the other or merged first, also if the
catalog has a language of that name already.
-/

namespace Tint

attribute [ext] Language Catalog

namespace Language

variable {first second third : Language}

/-! ## Further names -/

/-- Further names that come behind others already are added as if they came directly. -/
theorem namesBehind_namesBehind (first second later : List String) :
    namesBehind first (namesBehind second later) = namesBehind first (second ++ later) := by
  induction later using List.reverseRecOn with
  | nil => simp [namesBehind]
  | append_singleton later name ih =>
      rw [← List.append_assoc, namesBehind_append_singleton second,
        namesBehind_append_singleton first]
      split
      · rename_i known
        have isBehind : (namesBehind first (second ++ later)).contains name = true := by
          rw [contains_namesBehind] at known ⊢
          exact .inr (List.mem_append.mpr known)
        rw [if_pos isBehind, ih]
      · rw [namesBehind_append_singleton, ih]

theorem namesBehind_self (names : List String) : namesBehind names names = names := by
  have noneNew : names.filter (!names.contains ·) = [] := by
    apply List.filter_eq_nil_iff.mpr
    intro name member
    simpa using member
  rw [namesBehind, noneNew, List.eraseDups_nil, List.append_nil]

theorem aliases_merge_eq (first second : Language) :
    (first.merge second).aliases = namesBehind first.aliases second.aliases := by
  have alone : first.aliases = namesBehind first.aliases [] := by simp [namesBehind]
  exact aliases_merge alone second

/-! ## Laws of merging -/

theorem merge_assoc (firstOrdered : InOrder first.rules) (secondOrdered : InOrder second.rules)
    (thirdOrdered : InOrder third.rules) :
    (first.merge second).merge third = first.merge (second.merge third) := by
  apply Language.ext
  · simp only [merge_name]
  · rw [aliases_merge (aliases_merge_eq first second), aliases_merge_eq, aliases_merge_eq,
      namesBehind_namesBehind]
  · simp only [strategy_merge]
  · have merged := inOrder_merge secondOrdered third
    apply rules_eq_of_rule? (inOrder_merge (inOrder_merge firstOrdered second) third)
      (inOrder_merge firstOrdered (second.merge third))
    intro category
    rw [rule?_merge thirdOrdered, rule?_merge secondOrdered, rule?_merge merged,
      rule?_merge thirdOrdered, Option.or_assoc]

theorem merge_self (ordered : InOrder first.rules) : first.merge first = first := by
  apply Language.ext
  · exact merge_name first first
  · rw [aliases_merge_eq, namesBehind_self]
  · exact strategy_merge first first
  · apply rules_eq_of_rule? (inOrder_merge ordered first) ordered
    intro category
    rw [rule?_merge ordered, Option.or_self]

theorem merge_merge_self (firstOrdered : InOrder first.rules)
    (secondOrdered : InOrder second.rules) :
    (first.merge second).merge second = first.merge second := by
  rw [merge_assoc firstOrdered secondOrdered secondOrdered, merge_self secondOrdered]

end Language

/-! ## Targets of further names -/

/-- Writing the target that a name has already changes nothing. -/
theorem setAlias_of_lookup {name target : String} {aliases : List (String × String)}
    (known : aliases.lookup name = some target) : setAlias name target aliases = aliases := by
  induction aliases with
  | nil => cases known
  | cons entry rest ih =>
      have ⟨other, value⟩ := entry
      rw [setAlias]
      by_cases isFirst : other = name
      · rw [isFirst, List.lookup_cons_self] at known
        rw [if_pos isFirst, isFirst, Option.some.inj known]
      · have later : rest.lookup name = some target := by
          simpa [List.lookup_cons, beq_eq_false_iff_ne.mpr (Ne.symm isFirst)] using known
        rw [if_neg isFirst, ih later]

/-- The targets that are written when further names of a language are registered. -/
def targetsOf (id : String) (names : List String) : List (String × String) :=
  names.map fun name => (name, id)

theorem targetsOf_append (id : String) (names more : List String) :
    targetsOf id (names ++ more) = targetsOf id names ++ targetsOf id more :=
  List.map_append

theorem lookup_setAliases_targetsOf (aliases : List (String × String)) (id : String)
    {names : List String} {name : String} (member : name ∈ names) :
    (setAliases aliases (targetsOf id names)).lookup name = some id := by
  induction names using List.reverseRecOn with
  | nil => cases member
  | append_singleton names last ih =>
      rw [targetsOf_append, setAliases_append]
      change (setAlias last id (setAliases aliases (targetsOf id names))).lookup name = some id
      rw [lookup_setAlias]
      split
      · rfl
      · rename_i differ
        cases List.mem_append.mp member with
        | inl earlier => exact ih earlier
        | inr isLast => exact absurd (List.mem_singleton.mp isLast) differ

/-- Names that are there already are written again to no effect. -/
theorem setAliases_namesBehind (aliases : List (String × String)) (id : String)
    (names more : List String) :
    setAliases aliases (targetsOf id (Language.namesBehind names more)) =
      setAliases aliases (targetsOf id (names ++ more)) := by
  induction more using List.reverseRecOn with
  | nil => simp [Language.namesBehind]
  | append_singleton more name ih =>
      rw [Language.namesBehind_append_singleton, ← List.append_assoc,
        targetsOf_append id (names ++ more), setAliases_append, ← ih]
      split
      · rename_i known
        have member : name ∈ Language.namesBehind names more := by simpa using known
        exact (setAlias_of_lookup (lookup_setAliases_targetsOf aliases id member)).symm
      · rw [targetsOf_append, setAliases_append]

/-! ## Registering -/

namespace Catalog

variable {catalog : Catalog} {first second : Language}

/-- All rules in a catalog are in order. -/
def RulesInOrder (catalog : Catalog) : Prop :=
  ∀ language ∈ catalog.languages, InOrder language.rules

namespace RulesInOrder

theorem empty : ({} : Catalog).RulesInOrder := by
  intro language member
  cases member

theorem modify (ordered : catalog.RulesInOrder) (name : String) {change : Language → Language}
    (keeps : ∀ language : Language, InOrder language.rules → InOrder (change language).rules) :
    (catalog.modify name change).RulesInOrder := by
  intro language member
  have ⟨earlier, earlierMember, changed⟩ := List.mem_map.mp member
  rw [← changed]
  split
  · exact keeps earlier (ordered earlier earlierMember)
  · exact ordered earlier earlierMember

theorem addLanguage (ordered : catalog.RulesInOrder) (firstOrdered : InOrder first.rules) :
    (catalog.addLanguage first).RulesInOrder := by
  intro language member
  rw [languages_addLanguage] at member
  split at member
  · apply ordered.modify first.name _ language member
    intro earlier earlierOrdered
    exact Language.inOrder_merge earlierOrdered first
  · cases List.mem_append.mp member with
    | inl earlier => exact ordered language earlier
    | inr isNew => rwa [List.mem_singleton.mp isNew]

/-- No change brings rules out of order. -/
theorem apply (ordered : catalog.RulesInOrder) (change : Change) :
    (catalog.apply change).RulesInOrder := by
  cases change with
  | addLanguage definition => exact ordered.addLanguage definition.inOrder_language
  | addAlias name target => exact ordered
  | editLanguage name edit =>
      apply ordered.modify
      intro language languageOrdered
      cases edit with
      | setStrategy strategy => exact languageOrdered
      | addRule rule => exact languageOrdered.insertRule rule

theorem applyAll (ordered : catalog.RulesInOrder) (changes : List Change) :
    (catalog.applyAll changes).RulesInOrder := by
  induction changes generalizing catalog with
  | nil => exact ordered
  | cons change changes ih => exact ih (ordered.apply change)

theorem builtin : builtin.RulesInOrder := by
  rw [builtin_eq_applyAll]
  exact empty.applyAll Builtin.changes

end RulesInOrder

theorem name_mem_ids_addLanguage (catalog : Catalog) (language : Language) :
    language.name ∈ (catalog.addLanguage language).ids := by
  rw [ids_addLanguage]
  split
  · assumption
  · simp

/-- A language is registered a second time under the name of the first. -/
theorem languages_addLanguage_addLanguage (same : first.name = second.name) :
    ((catalog.addLanguage first).addLanguage second).languages =
      (catalog.addLanguage first).languages.map fun language =>
        if language.name = first.name then language.merge second else language := by
  have known : second.name ∈ (catalog.addLanguage first).ids := by
    rw [← same]
    exact catalog.name_mem_ids_addLanguage first
  rw [languages_addLanguage, if_pos known, modify, same]

/-- Registering languages one after the other and registering them merged comes to the same. -/
theorem addLanguage_merge (ordered : catalog.RulesInOrder) (firstOrdered : InOrder first.rules)
    (secondOrdered : InOrder second.rules) (same : first.name = second.name) :
    (catalog.addLanguage first).addLanguage second = catalog.addLanguage (first.merge second) := by
  apply Catalog.ext
  · rw [languages_addLanguage_addLanguage same, languages_addLanguage, languages_addLanguage,
      Language.merge_name]
    split
    · simp only [modify, List.map_map]
      apply List.map_congr_left
      intro language member
      simp only [Function.comp]
      split
      · rename_i isName
        rw [if_pos ((language.merge_name first).trans isName),
          Language.merge_assoc (ordered language member) firstOrdered secondOrdered]
      · rfl
    · rename_i isNew
      have others := modify_of_find?_eq_none (find?_eq_none_iff.mpr isNew) (·.merge second)
      rw [List.map_append, List.map_singleton, if_pos rfl]
      exact congrArg (· ++ [first.merge second]) (congrArg Catalog.languages others)
  · rw [aliases_addLanguage, aliases_addLanguage, aliases_addLanguage, Language.merge_name,
      Language.aliases_merge_eq, ← same, ← setAliases_append]
    have names := setAliases_namesBehind catalog.aliases first.name first.aliases second.aliases
    rw [targetsOf_append] at names
    exact names.symm

end Catalog

/-- Merging is associative, merging a language with itself or once more changes nothing, and
languages that are registered under one name are merged.  That rules are in order is no restriction:
they are however a language is put together, and stay so whatever is changed in a catalog. -/
theorem lawful_merge {first second third : Language} (firstOrdered : InOrder first.rules)
    (secondOrdered : InOrder second.rules) (thirdOrdered : InOrder third.rules) :
    (first.merge second).merge third = first.merge (second.merge third) ∧
    first.merge first = first ∧
    (first.merge second).merge second = first.merge second ∧
    ∀ catalog : Catalog, catalog.RulesInOrder → first.name = second.name →
      (catalog.addLanguage first).addLanguage second =
        catalog.addLanguage (first.merge second) := by
  constructor
  · exact Language.merge_assoc firstOrdered secondOrdered thirdOrdered
  constructor
  · exact Language.merge_self firstOrdered
  constructor
  · exact Language.merge_merge_self firstOrdered secondOrdered
  · intro catalog ordered same
    exact Catalog.addLanguage_merge ordered firstOrdered secondOrdered same

/-- Languages with a further name that stands twice, registered where one of their name is. -/
theorem lawful_merge_repeated :
    let first : Language :=
      { name := "notes", aliases := ["n", "n", "txt"], rules := [.exclamation] }
    let second : Language :=
      { name := "notes", aliases := ["txt", "m", "m"], strategy := .structured,
        rules := [.exclamation, .semicolon] }
    let third : Language := { name := "memo", aliases := ["m", "n"], rules := [.semicolon] }
    let catalog := (({} : Catalog).addLanguage third).addLanguage second
    InOrder first.rules ∧ InOrder second.rules ∧ InOrder third.rules ∧ catalog.RulesInOrder ∧
      first.name = second.name ∧
      (first.merge second).merge third = first.merge (second.merge third) ∧
      first.merge first = first ∧
      (first.merge second).merge second = first.merge second ∧
      (catalog.addLanguage first).addLanguage second =
        catalog.addLanguage (first.merge second) := by
  intro first second third catalog
  have firstOrdered : InOrder first.rules := by simp [InOrder, first]
  have secondOrdered : InOrder second.rules := by
    simp [InOrder, second, Rule.exclamation, Rule.semicolon]
    decide
  have thirdOrdered : InOrder third.rules := by simp [InOrder, third]
  have ordered : catalog.RulesInOrder :=
    (Catalog.RulesInOrder.empty.addLanguage thirdOrdered).addLanguage secondOrdered
  have ⟨assoc, itself, again, registered⟩ := lawful_merge firstOrdered secondOrdered thirdOrdered
  exact ⟨firstOrdered, secondOrdered, thirdOrdered, ordered, rfl, assoc, itself, again,
    registered catalog ordered rfl⟩

end Tint
