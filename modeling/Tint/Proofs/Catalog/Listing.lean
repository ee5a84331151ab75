import Tint.Proofs.Catalog.History
import Tint.Proofs.Config.Extends

/-!
# The further names that a catalog lists

A catalog lists a further name for a language if that is the target written last for it.  Names are
written in small letters, but with the blanks that they have around them.  When a name is asked for,
those blanks are taken away first.  So what a listed name stands for is settled by what was written
for the name without its blanks: a name in small letters that has none always stands for the
language that it is listed for, and one that has some may stand for another language or for none.
-/

namespace Tint

open Tint.Toml Tint.Unicode

/-- The target that was written last for a name. -/
def lastTarget? (writes : List (String × String)) (name : String) : Option String :=
  writes.reverse.lookup name

namespace Catalog

/-- Every further name that is listed for a language stands for it. -/
def ListedStand (catalog : Catalog) : Prop :=
  ∀ id, ∀ name ∈ catalog.aliasesOf id, catalog.resolve name = id

/-- What a catalog lists, and what the names in its lists stand for, given all targets that were
written for further names, from the first to the last. -/
structure ListsAsWritten (catalog : Catalog) (writes : List (String × String)) : Prop where
  mem_aliasesOf : ∀ id name, name ∈ catalog.aliasesOf id ↔ lastTarget? writes name = some id
  /-- The name without blanks around it decides: it has the language as its own target, or it has
  no target and is the name of the language. -/
  resolve_iff : ∀ id, ∀ name ∈ catalog.aliasesOf id, catalog.resolve name = id ↔
    lastTarget? writes (lowercase (trim name)) = some id ∨
      lastTarget? writes (lowercase (trim name)) = none ∧ lowercase (trim name) = id
  resolve_of_settled : ∀ id, ∀ name ∈ catalog.aliasesOf id, lowercase (trim name) = name →
    catalog.resolve name = id
  listedStand_iff : catalog.ListedStand ↔ ∀ name id, lastTarget? writes name = some id →
    (lastTarget? writes (lowercase (trim name))).getD (lowercase (trim name)) = id

variable {catalog : Catalog} {writes : List (String × String)}

/-- If no name stands twice in the table, a language lists the names that have it as their
target. -/
theorem mem_aliasesOf_iff (nodup : (catalog.aliases.map (·.1)).Nodup) (id name : String) :
    name ∈ catalog.aliasesOf id ↔ catalog.aliases.lookup name = some id := by
  rw [lookup_eq_some_iff_mem nodup, aliasesOf, (List.mergeSort_perm _ _).mem_iff]
  simp

theorem listsAsWritten (areWritten : catalog.aliases = setAliases [] writes) :
    catalog.ListsAsWritten writes := by
  have nodup : (catalog.aliases.map (·.1)).Nodup := by
    have empty : (([] : List (String × String)).map (·.1)).Nodup := List.nodup_nil
    rw [areWritten]
    exact nodup_setAliases empty writes
  have lookup (name : String) : catalog.aliases.lookup name = lastTarget? writes name := by
    rw [areWritten, lookup_setAliases, List.lookup_nil, Option.or_none, lastTarget?]
  have listed (id name : String) :
      name ∈ catalog.aliasesOf id ↔ lastTarget? writes name = some id := by
    rw [mem_aliasesOf_iff nodup, lookup]
  have resolved (name : String) : catalog.resolve name =
      (lastTarget? writes (lowercase (trim name))).getD (lowercase (trim name)) := by
    rw [resolve, lookup]
  refine ⟨listed, fun id name _ => ?_, fun id name isListed settled => ?_, ?_⟩
  · rw [resolved]
    cases lastTarget? writes (lowercase (trim name)) <;> simp
  · rw [resolved, settled, (listed id name).mp isListed, Option.getD_some]
  · simp only [ListedStand, listed, resolved]
    exact forall_comm

end Catalog

/-- The targets that a configuration writes for further names in the catalog that it builds. -/
def Config.writes (config : Config) : List (String × String) :=
  config.languages.flatMap LanguageEntry.writes ++ config.aliases

theorem Config.aliases_catalog {text : String} {config : Config} {catalog : Catalog}
    (read : ofText text = .ok config) (built : config.catalog = .ok catalog) :
    catalog.aliases = setAliases Catalog.builtin.aliases config.writes := by
  obtain ⟨document, -, described⟩ := exists_describedBy read
  obtain ⟨added, isAdded, done⟩ := bind_eq_ok.mp built
  cases done
  rw [Catalog.aliases_foldl_addAlias (small_aliases described),
    Catalog.aliases_addEntries (isSmall_ofText read) isAdded, writes, setAliases_append]

namespace Catalog

/-- Whatever is added to the empty or the built-in catalog, and whatever an accepted configuration
adds to it, the catalog lists the further names as they were written last, and those stand for the
language that lists them if the same was written for them without blanks around them. -/
theorem listsAsWritten_registerAll (steps : List Registration) :
    (({} : Catalog).registerAll steps).ListsAsWritten (steps.flatMap Registration.writes) ∧
    (builtin.registerAll steps).ListsAsWritten
      ((Builtin.registrations ++ steps).flatMap Registration.writes) ∧
    ∀ text config catalog, Config.ofText text = .ok config → config.catalog = .ok catalog →
      catalog.ListsAsWritten
        (Builtin.registrations.flatMap Registration.writes ++ config.writes) := by
  refine ⟨listsAsWritten (aliases_registerAll _ steps), ?_, ?_⟩
  · rw [builtin_eq_registerAll, ← registerAll_append]
    exact listsAsWritten (aliases_registerAll _ _)
  · intro text config catalog read built
    refine listsAsWritten ?_
    rw [Config.aliases_catalog read built, setAliases_append, builtin_eq_registerAll,
      aliases_registerAll]

/-! ### A further name with blanks around it -/

/-- A configuration that gives Python one more name, which has blanks around it. -/
def blankAliasSource : String :=
  "[aliases]\n\" py3 \" = \"python\"\n"

def blankAliasConfig : Config where
  aliases := [(" py3 ", "python")]

theorem ofText_blankAliasSource : Config.ofText blankAliasSource = .ok blankAliasConfig := by
  rw [← toOption_eq_some]
  decide +kernel

/-- The catalog that it builds. -/
def blankAliasCatalog : Catalog :=
  builtin.addAlias " py3 " "python"

theorem catalog_blankAliasConfig : blankAliasConfig.catalog = .ok blankAliasCatalog := rfl

/-- What is written for Python is listed for it. -/
theorem listsAsWritten_blankAlias :
    Config.ofText blankAliasSource = .ok blankAliasConfig ∧
      blankAliasConfig.catalog = .ok blankAliasCatalog ∧
      blankAliasCatalog.ListsAsWritten
        (Builtin.registrations.flatMap Registration.writes ++ blankAliasConfig.writes) :=
  ⟨ofText_blankAliasSource, catalog_blankAliasConfig,
    (listsAsWritten_registerAll []).2.2 _ _ _ ofText_blankAliasSource catalog_blankAliasConfig⟩

/-- The name is listed for Python, and stands for a language that is not there. -/
theorem not_listedStand_blankAlias :
    Config.ofText blankAliasSource = .ok blankAliasConfig ∧
      blankAliasConfig.catalog = .ok blankAliasCatalog ∧
      " py3 " ∈ blankAliasCatalog.aliasesOf "python" ∧
      blankAliasCatalog.resolve " py3 " = "py3" ∧ ¬blankAliasCatalog.ListedStand := by
  have nodup : (blankAliasCatalog.aliases.map (·.1)).Nodup := by
    simp only [blankAliasCatalog, addAlias, aliases_builtin]
    decide +kernel
  have listed : " py3 " ∈ blankAliasCatalog.aliasesOf "python" := by
    rw [mem_aliasesOf_iff nodup]
    simp only [blankAliasCatalog, addAlias, aliases_builtin]
    decide +kernel
  have resolved : blankAliasCatalog.resolve " py3 " = "py3" := by
    simp only [blankAliasCatalog, resolve, addAlias, aliases_builtin]
    decide +kernel
  refine ⟨ofText_blankAliasSource, catalog_blankAliasConfig, listed, resolved, fun stand => ?_⟩
  have isPython := stand "python" " py3 " listed
  rw [resolved] at isPython
  simp at isPython

end Catalog

end Tint
