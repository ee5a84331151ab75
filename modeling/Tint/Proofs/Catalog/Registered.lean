import Mathlib
import Tint.Catalog

/-!
# Catalogs as they come about

A catalog comes about by adding languages and further names one after the other.  What it comes to
can be read off the sequence: it has a language of each name that was added, and a further name
stands for the target that was written for it last.
-/

namespace Tint

open Tint.Unicode

/-! ## Tables of further names -/

theorem lookup_setAlias (name target : String) (aliases : List (String × String)) (other : String) :
    (setAlias name target aliases).lookup other =
      if other = name then some target else aliases.lookup other := by
  induction aliases with
  | nil =>
      by_cases same : other = name
      · simp [setAlias, same]
      · simp [setAlias, same, List.lookup_cons, beq_eq_false_iff_ne.mpr same]
  | cons entry rest ih =>
      rcases entry with ⟨first, value⟩
      rw [setAlias]
      by_cases isFirst : first = name
      · subst isFirst
        by_cases same : other = first
        · simp [same]
        · simp [same, List.lookup_cons, beq_eq_false_iff_ne.mpr same]
      · rw [if_neg isFirst, List.lookup_cons, List.lookup_cons, ih]
        by_cases same : other = first
        · simp [same, isFirst]
        · simp [beq_eq_false_iff_ne.mpr same]

/-- Writes targets one after the other. -/
def setAliases (aliases writes : List (String × String)) : List (String × String) :=
  writes.foldl (fun aliases write => setAlias write.1 write.2 aliases) aliases

theorem setAliases_append (aliases writes more : List (String × String)) :
    setAliases aliases (writes ++ more) = setAliases (setAliases aliases writes) more :=
  List.foldl_append

/-- The target that was written last counts. -/
theorem lookup_setAliases (aliases writes : List (String × String)) (name : String) :
    (setAliases aliases writes).lookup name =
      (writes.reverse.lookup name).or (aliases.lookup name) := by
  induction writes generalizing aliases with
  | nil => simp [setAliases]
  | cons write writes ih =>
      rcases write with ⟨other, target⟩
      rw [setAliases, List.foldl_cons, ← setAliases, ih, lookup_setAlias, List.reverse_cons,
        List.lookup_append, Option.or_assoc]
      by_cases same : name = other
      · simp [same]
      · simp [same, List.lookup_cons, beq_eq_false_iff_ne.mpr same]

/-! ## Languages -/

namespace Language

theorem foldl_addAlias (language : Language) (names : List String) :
    names.foldl addAlias language =
      { language with aliases := language.aliases ++ names.map lowercase } := by
  induction names generalizing language with
  | nil => simp
  | cons name names ih =>
      rw [List.foldl_cons, ih]
      simp [addAlias]

/-- Adding rules changes the rules and nothing else. -/
theorem foldl_addRule (language : Language) (added : List Rule) :
    added.foldl addRule language =
      { language with
        rules := added.foldl (fun rules rule => insertRule rule rules) language.rules } := by
  induction added generalizing language with
  | nil => rfl
  | cons rule added ih => exact ih (language.addRule rule)

theorem merge_name (language other : Language) : (language.merge other).name = language.name := by
  rw [merge, foldl_addRule]

end Language

namespace Catalog

variable {catalog : Catalog} {language : Language} {name : String}

/-- The names of the languages, in the order in which they were added. -/
def ids (catalog : Catalog) : List String :=
  catalog.languages.map (·.name)

theorem name_of_find? (found : catalog.find? name = some language) : language.name = name := by
  simpa using List.find?_some found

theorem mem_of_find? (found : catalog.find? name = some language) : language ∈ catalog.languages :=
  List.mem_of_find?_eq_some found

theorem find?_isSome_iff : (catalog.find? name).isSome ↔ name ∈ catalog.ids := by
  simp [find?, ids, List.find?_isSome]

theorem find?_eq_none_iff : catalog.find? name = none ↔ name ∉ catalog.ids := by
  rw [← find?_isSome_iff, Option.not_isSome_iff_eq_none]

theorem ids_modify {change : Language → Language}
    (keeps : ∀ language : Language, (change language).name = language.name) :
    (catalog.modify name change).ids = catalog.ids := by
  simp only [ids, modify, List.map_map]
  refine List.map_congr_left fun language _ => ?_
  rw [Function.comp]
  split
  · exact keeps language
  · rfl

/-- A change shows in the language of that name and in no other. -/
theorem find?_modify {change : Language → Language}
    (keeps : ∀ language : Language, (change language).name = language.name) (other : String) :
    (catalog.modify name change).find? other =
      (catalog.find? other).map fun language =>
        if other = name then change language else language := by
  have sameName (language : Language) :
      (if language.name = name then change language else language).name = language.name := by
    split
    · exact keeps language
    · rfl
  simp only [find?, modify, List.find?_map, Function.comp_def, sameName]
  refine Option.map_congr fun language isFound => ?_
  have isSame : language.name = other := name_of_find? isFound
  rw [isSame]

/-- Changing a language that is not there changes nothing. -/
theorem modify_of_find?_eq_none (missing : catalog.find? name = none)
    (change : Language → Language) : catalog.modify name change = catalog := by
  have unchanged : catalog.languages.map (fun language =>
      if language.name = name then change language else language) = catalog.languages := by
    conv_rhs => rw [← List.map_id catalog.languages]
    refine List.map_congr_left fun language member => if_neg ?_
    rintro rfl
    exact find?_eq_none_iff.mp missing (List.mem_map.mpr ⟨language, member, rfl⟩)
  rw [modify, unchanged]

@[simp] theorem aliases_addLanguage (catalog : Catalog) (language : Language) :
    (catalog.addLanguage language).aliases =
      setAliases catalog.aliases (language.aliases.map fun name => (name, language.name)) := by
  rw [addLanguage]
  split <;> simp [modify, setAliases, List.foldl_map]

/-- A language under a name that is there is merged into the one there, any other is added
behind. -/
theorem languages_addLanguage (catalog : Catalog) (language : Language) :
    (catalog.addLanguage language).languages =
      if language.name ∈ catalog.ids then
        (catalog.modify language.name (·.merge language)).languages
      else catalog.languages ++ [language] := by
  have sameFind : ({ catalog with
      aliases := language.aliases.foldl (fun aliases name => setAlias name language.name aliases)
        catalog.aliases } : Catalog).find? language.name = catalog.find? language.name := rfl
  rw [addLanguage]
  simp only [sameFind]
  by_cases known : language.name ∈ catalog.ids
  · rcases Option.isSome_iff_exists.mp (find?_isSome_iff.mpr known) with ⟨other, found⟩
    simp [found, known, modify]
  · simp [find?_eq_none_iff.mpr known, known]

theorem ids_addLanguage (catalog : Catalog) (language : Language) :
    (catalog.addLanguage language).ids =
      if language.name ∈ catalog.ids then catalog.ids else catalog.ids ++ [language.name] := by
  rw [ids, languages_addLanguage]
  split
  · exact ids_modify fun other => other.merge_name language
  · simp [ids]

theorem nodup_ids_addLanguage (nodup : catalog.ids.Nodup) (language : Language) :
    (catalog.addLanguage language).ids.Nodup := by
  rw [ids_addLanguage]
  split
  · exact nodup
  · rename_i isNew
    exact List.nodup_append.mpr ⟨nodup, List.nodup_singleton _, by
      rintro id known _ isAdded rfl
      exact isNew (List.mem_singleton.mp isAdded ▸ known)⟩

theorem find?_addLanguage_of_ne (catalog : Catalog) {added : Language} (other : name ≠ added.name) :
    (catalog.addLanguage added).find? name = catalog.find? name := by
  have modified : (catalog.modify added.name (·.merge added)).find? name =
      (catalog.find? name).map fun language =>
        if name = added.name then language.merge added else language :=
    find?_modify (fun language => language.merge_name added) name
  simp only [find?, languages_addLanguage] at modified ⊢
  split
  · rw [modified]
    simp [other]
  · rw [List.find?_append]
    simp [Ne.symm other]

theorem find?_addLanguage_of_new (isNew : language.name ∉ catalog.ids) :
    (catalog.addLanguage language).find? language.name = some language := by
  have missing := find?_eq_none_iff.mpr isNew
  rw [find?] at missing ⊢
  rw [languages_addLanguage, if_neg isNew, List.find?_append, missing]
  simp

theorem find?_addLanguage_of_known {added : Language}
    (found : catalog.find? added.name = some language) :
    (catalog.addLanguage added).find? added.name = some (language.merge added) := by
  have known : added.name ∈ catalog.ids := by
    rw [← find?_isSome_iff, found]
    rfl
  have modified : (catalog.modify added.name (·.merge added)).find? added.name =
      (catalog.find? added.name).map fun language =>
        if added.name = added.name then language.merge added else language :=
    find?_modify (fun language => language.merge_name added) added.name
  simp only [find?, languages_addLanguage, if_pos known] at modified found ⊢
  rw [modified, found]
  simp

/-- A language is found under its name, if no other has that name. -/
theorem find?_of_mem (nodup : catalog.ids.Nodup) (member : language ∈ catalog.languages) :
    catalog.find? language.name = some language := by
  have known : language.name ∈ catalog.ids := List.mem_map.mpr ⟨language, member, rfl⟩
  rcases Option.isSome_iff_exists.mp (find?_isSome_iff.mpr known) with ⟨other, found⟩
  have isSame := List.inj_on_of_nodup_map nodup (mem_of_find? found) member
    (name_of_find? found)
  rw [found, isSame]

@[simp] theorem ids_addAlias (catalog : Catalog) (name target : String) :
    (catalog.addAlias name target).ids = catalog.ids := rfl

end Catalog

/-! ## Registrations -/

/-- One step in the making of a catalog. -/
inductive Registration where
  | language (language : Language)
  | furtherName (name target : String)

namespace Registration

/-- The name under which a step adds a language. -/
def ids : Registration → List String
  | language added => [added.name]
  | furtherName _ _ => []

/-- The targets that a step writes for further names. -/
def writes : Registration → List (String × String)
  | language added => added.aliases.map fun name => (name, added.name)
  | furtherName name target => [(lowercase name, lowercase target)]

end Registration

namespace Catalog

/-- Takes one step. -/
def register (catalog : Catalog) : Registration → Catalog
  | .language added => catalog.addLanguage added
  | .furtherName name target => catalog.addAlias name target

/-- Takes steps one after the other. -/
def registerAll (catalog : Catalog) (steps : List Registration) : Catalog :=
  steps.foldl register catalog

theorem registerAll_append (catalog : Catalog) (first second : List Registration) :
    catalog.registerAll (first ++ second) = (catalog.registerAll first).registerAll second :=
  List.foldl_append

theorem aliases_register (catalog : Catalog) (step : Registration) :
    (catalog.register step).aliases = setAliases catalog.aliases step.writes := by
  cases step with
  | language added => exact catalog.aliases_addLanguage added
  | furtherName name target => rfl

theorem mem_ids_register {catalog : Catalog} {step : Registration} {name : String} :
    name ∈ (catalog.register step).ids ↔ name ∈ catalog.ids ∨ name ∈ step.ids := by
  cases step with
  | language added =>
      rw [register, ids_addLanguage, Registration.ids, List.mem_singleton]
      split
      · rename_i known
        constructor
        · exact .inl
        · rintro (isKnown | rfl)
          · exact isKnown
          · exact known
      · simp
  | furtherName _ _ => simp [register, Registration.ids]

theorem aliases_registerAll (catalog : Catalog) (steps : List Registration) :
    (catalog.registerAll steps).aliases =
      setAliases catalog.aliases (steps.flatMap Registration.writes) := by
  induction steps generalizing catalog with
  | nil => rfl
  | cons step steps ih =>
      rw [registerAll, List.foldl_cons, ← registerAll, ih, aliases_register, List.flatMap_cons,
        setAliases_append]

theorem mem_ids_registerAll {catalog : Catalog} {steps : List Registration} {name : String} :
    name ∈ (catalog.registerAll steps).ids ↔
      name ∈ catalog.ids ∨ name ∈ steps.flatMap Registration.ids := by
  induction steps generalizing catalog with
  | nil => simp [registerAll]
  | cons step steps ih =>
      rw [registerAll, List.foldl_cons, ← registerAll, ih, mem_ids_register, List.flatMap_cons,
        List.mem_append, or_assoc]

/-- Languages of names that are new, and differ, stay as they are. -/
theorem languages_registerAll_of_new {catalog : Catalog} {added : List Language}
    (apart : (catalog.ids ++ added.map (·.name)).Nodup) :
    (catalog.registerAll (added.map .language)).languages = catalog.languages ++ added := by
  induction added generalizing catalog with
  | nil => simp [registerAll]
  | cons language added ih =>
      have isNew : language.name ∉ catalog.ids := by
        intro known
        rw [List.nodup_append] at apart
        exact apart.2.2 _ known _ List.mem_cons_self rfl
      have step : (catalog.register (.language language)).languages =
          catalog.languages ++ [language] := by
        rw [register, languages_addLanguage, if_neg isNew]
      have stillApart :
          ((catalog.register (.language language)).ids ++ added.map (·.name)).Nodup := by
        rw [ids, step]
        simpa [ids] using apart
      have rest := ih stillApart
      rw [List.map_cons, registerAll, List.foldl_cons, ← registerAll, rest, step, List.append_assoc,
        List.singleton_append]

end Catalog

end Tint
