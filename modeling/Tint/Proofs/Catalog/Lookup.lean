import Tint.Proofs.Catalog.Builtin

/-!
# Asking a catalog for a language

A language can be asked for under any spelling of its name, with blanks around it and in capitals.
Looking it up tries the exact name first and what the name stands for then; changing it goes by what
the name stands for alone.  The two agree as long as each language is found under what its own name
stands for.  They part where a further name is written over the name of a language, and where a
language has a name with blanks around it: then the exact spelling still finds the language, and no
other spelling and no change does.
-/

namespace Tint

open Tint.Unicode

namespace Catalog

variable {catalog : Catalog} {language : Language} {name : String}

/-- Two names denote the same language, or none, whether it is looked up, asked about or changed. -/
structure SameLanguage (catalog : Catalog) (first second : String) : Prop where
  get? : catalog.get? first = catalog.get? second
  supports : catalog.supports first = catalog.supports second
  update : ∀ change, catalog.update first change =
    match catalog.get? second with
    | some language => catalog.modify language.name change
    | none => catalog

/-- Names that differ only in blanks around them and in case denote the same language. -/
def LookupsAgree (catalog : Catalog) : Prop :=
  ∀ first second : String, lowercase (trim first) = lowercase (trim second) →
    catalog.SameLanguage first second

theorem resolve_congr {first second : String}
    (same : lowercase (trim first) = lowercase (trim second)) :
    catalog.resolve first = catalog.resolve second := by
  simp only [resolve, same]

theorem supports_iff :
    catalog.supports name = true ↔ name ∈ catalog.ids ∨ catalog.resolve name ∈ catalog.ids := by
  rw [supports, get?, ← find?_isSome_iff, ← find?_isSome_iff]
  cases catalog.find? name <;> simp

/-- Lookups agree exactly if every language is what its own name stands for. -/
theorem lookupsAgree_iff_resolve :
    catalog.LookupsAgree ↔ ∀ id ∈ catalog.ids, catalog.resolve id = id := by
  constructor
  · intro agree id known
    rcases Option.isSome_iff_exists.mp (find?_isSome_iff.mpr known) with ⟨language, found⟩
    have looked : catalog.get? id = some language := by simp [get?, found]
    -- a change that shows must reach the same language by both ways
    have changed := (agree id id rfl).update (·.addAlias "")
    simp only [looked, name_of_find? found, update] at changed
    by_contra differs
    have shows := congrArg (fun catalog => catalog.find? id) changed
    have keeps (language : Language) : (language.addAlias "").name = language.name := rfl
    rw [find?_modify keeps, find?_modify keeps, found] at shows
    simp only [Ne.symm differs, if_false, if_true, Option.map_some, Option.some.injEq] at shows
    simpa [Language.addAlias] using congrArg (·.aliases.length) shows
  · intro itself first second same
    have looked (name : String) : catalog.get? name = catalog.find? (catalog.resolve name) := by
      rw [get?]
      cases found : catalog.find? name with
      | none => rfl
      | some language =>
          have known : name ∈ catalog.ids := by
            rw [← find?_isSome_iff, found]
            rfl
          rw [itself name known, found]
          rfl
    have resolved := catalog.resolve_congr same
    have sameLookup : catalog.get? first = catalog.get? second := by
      rw [looked, looked, resolved]
    refine ⟨sameLookup, by rw [supports, supports, sameLookup], ?_⟩
    intro change
    rw [looked, ← resolved, update]
    cases found : catalog.find? (catalog.resolve first) with
    | none => exact modify_of_find?_eq_none found change
    | some language => simp only [name_of_find? found]

end Catalog

/-! ## Catalogs that come about by registrations -/

/-- What a name stands for after some steps: the target that was written for it last, or else the
name itself, without blanks around it and in small letters. -/
def Registration.standsFor (steps : List Registration) (name : String) : String :=
  let name := lowercase (trim name)
  ((steps.flatMap writes).reverse.lookup name).getD name

namespace Catalog

theorem resolve_registerAll (steps : List Registration) (name : String) :
    (({} : Catalog).registerAll steps).resolve name = Registration.standsFor steps name := by
  rw [resolve, aliases_registerAll, lookup_setAliases]
  simp [Registration.standsFor]

theorem lookupsAgree_iff_standsFor (steps : List Registration) :
    (({} : Catalog).registerAll steps).LookupsAgree ↔
      ∀ id ∈ steps.flatMap Registration.ids, Registration.standsFor steps id = id := by
  rw [lookupsAgree_iff_resolve]
  refine forall_congr' fun id => ?_
  rw [mem_ids_registerAll, resolve_registerAll]
  simp [ids]

/-- Whatever is added to the empty or the built-in catalog, its lookups agree exactly if each name
under which a language was added stands for itself in the end. -/
theorem lookupsAgree_registerAll_iff (steps : List Registration) :
    ((({} : Catalog).registerAll steps).LookupsAgree ↔
      ∀ id ∈ steps.flatMap Registration.ids, Registration.standsFor steps id = id) ∧
    ((builtin.registerAll steps).LookupsAgree ↔
      ∀ id ∈ (Builtin.registrations ++ steps).flatMap Registration.ids,
        Registration.standsFor (Builtin.registrations ++ steps) id = id) := by
  refine ⟨lookupsAgree_iff_standsFor steps, ?_⟩
  rw [builtin_eq_registerAll, ← registerAll_append]
  exact lookupsAgree_iff_standsFor (Builtin.registrations ++ steps)

/-- A further name written over the name of a language hides it from all spellings but one. -/
theorem not_lookupsAgree_of_hidden :
    let catalog := builtin.addAlias "python" "nope"
    catalog.supports "python" = true ∧ catalog.supports "Python" = false ∧
      ¬catalog.LookupsAgree := by
  intro catalog
  have ids : catalog.ids = builtin.ids := builtin.ids_addAlias "python" "nope"
  have resolved : catalog.resolve "Python" = "nope" := by
    simp only [catalog, resolve, addAlias, aliases_builtin]
    decide +kernel
  have exact : catalog.supports "python" = true := by
    rw [supports_iff, ids, ids_builtin]
    decide
  have other : catalog.supports "Python" = false := by
    rw [← Bool.not_eq_true, supports_iff, resolved, ids, ids_builtin]
    decide
  refine ⟨exact, other, fun agree => ?_⟩
  have same := (agree "python" "Python" (by decide +kernel)).supports
  rw [exact, other] at same
  cases same

theorem lookupsAgree_builtin : builtin.LookupsAgree := by
  rw [lookupsAgree_iff_resolve, ids_builtin]
  simp only [resolve, aliases_builtin]
  decide +kernel

end Catalog

end Tint
