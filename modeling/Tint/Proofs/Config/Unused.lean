import Tint.Proofs.Catalog.Builtin
import Tint.Proofs.Config.Reading

/-!
# Rules that no tokenizer looks at

The tokenizer for keys and values has no use for rules, and a configuration that gives it some is
refused.  The check is made on the language that an entry describes, under its own name.  The
tokenizer, though, is chosen for the language that this name stands for.  So an entry under a
further name can choose the tokenizer of another language, which has rules, and nothing is refused.

Which entry decides about a language can be read off the configuration: the last one that describes
it, or that chooses a tokenizer and has a name that stands for it.
-/

namespace Tint

open Tint.Unicode

/-! ## One entry -/

/-- A language has rules although its tokenizer looks at none. -/
structure Language.HasUnusedRules (language : Language) : Prop where
  strategy : language.strategy = .structured
  rules : language.rules ≠ []

/-- Choosing the tokenizer for keys and values leaves any rules without use. -/
theorem Language.HasUnusedRules.of_rules {language : Language} (someRules : language.rules ≠ []) :
    { language with strategy := .structured }.HasUnusedRules :=
  ⟨rfl, someRules⟩

namespace LanguageEntry

/-- The further names that an entry gives to its language. -/
def writes (entry : LanguageEntry) : List (String × String) :=
  entry.aliases.map fun name => (lowercase name, entry.name)

/-- The language of an entry that describes no rules. -/
def bare (entry : LanguageEntry) : Language where
  name := entry.name
  aliases := entry.aliases.map lowercase
  strategy := entry.strategy.getD .generic

/-- The language of an entry, but for its rules. -/
theorem language_ok {entry : LanguageEntry} {language : Language} (small : entry.IsSmall)
    (made : entry.language = .ok language) :
    language.name = entry.name ∧
      language.aliases.map (fun name => (name, language.name)) = entry.writes := by
  have kept := foldlM_ok_induction
    (fun language : Language => language.name = entry.name ∧
      language.aliases = entry.aliases.map lowercase) ?_ ?_ made
  · rw [kept.1, kept.2, writes, List.map_map]
    exact ⟨rfl, rfl⟩
  · intro state item next isMade added
    obtain ⟨rule, -, rfl⟩ := map_eq_ok.mp added
    exact isMade
  · rw [Language.foldl_addAlias]
    exact ⟨small, rfl⟩

end LanguageEntry

namespace Catalog

variable {catalog next : Catalog} {entry : LanguageEntry} {name : String} {language : Language}

/-- Chooses the tokenizer of the language that a name stands for, if one is chosen. -/
def choose (catalog : Catalog) (name : String) : Option Strategy → Catalog
  | some strategy => catalog.update name fun language => { language with strategy }
  | none => catalog

/-- Refuses a catalog in which the language of a name has rules for nothing. -/
def check (catalog : Catalog) (name : String) : Except ConfigError Catalog :=
  match catalog.get? name with
  | none => .ok catalog
  | some language =>
      match language.strategy, language.rules with
      | .structured, rule :: _ =>
          .error (.badEntry language.name rule.category.name .ruleUnused)
      | _, _ => .ok catalog

theorem check_eq_ok_iff :
    catalog.check name = .ok next ↔
      next = catalog ∧
        ∀ language, catalog.get? name = some language → ¬language.HasUnusedRules := by
  rw [check]
  cases found : catalog.get? name with
  | none => simp [eq_comm]
  | some language =>
      simp only [Option.some.injEq, forall_eq']
      split
      · rename_i rule rest isStructured isRules
        have unused : language.HasUnusedRules := ⟨isStructured, by simp [isRules]⟩
        simp [unused]
      · rename_i fine
        have notUnused : ¬language.HasUnusedRules := by
          intro unused
          obtain ⟨rule, rest, isRules⟩ := List.exists_cons_of_ne_nil unused.rules
          exact fine rule rest unused.strategy isRules
        simp [notUnused, eq_comm]

/-- What an entry does: its language is added, a tokenizer may be chosen, and the outcome is
checked. -/
theorem addEntry_eq_bind (catalog : Catalog) (entry : LanguageEntry) :
    catalog.addEntry entry = entry.language >>= fun language =>
      ((catalog.addLanguage language).choose entry.name entry.strategy).check entry.name := by
  rw [addEntry]
  cases entry.strategy <;> rfl

theorem addEntry_eq_ok_iff :
    catalog.addEntry entry = .ok next ↔
      ∃ language, entry.language = .ok language ∧
        next = (catalog.addLanguage language).choose entry.name entry.strategy ∧
        ∀ other, next.get? entry.name = some other → ¬other.HasUnusedRules := by
  rw [addEntry_eq_bind, bind_eq_ok]
  refine exists_congr fun language => and_congr_right fun _ => ?_
  rw [check_eq_ok_iff]
  refine and_congr_right fun isNext => ?_
  rw [isNext]

theorem aliases_choose (catalog : Catalog) (name : String) (chosen : Option Strategy) :
    (catalog.choose name chosen).aliases = catalog.aliases := by
  cases chosen <;> rfl

/-- The tokenizer is chosen for the language that the name stands for, and no other. -/
theorem find?_choose (catalog : Catalog) (chosen : Option Strategy) (other : String) :
    (catalog.choose name chosen).find? other =
      (catalog.find? other).map fun language =>
        match chosen with
        | some strategy =>
            if other = catalog.resolve name then { language with strategy } else language
        | none => language := by
  cases chosen with
  | none => simp [choose]
  | some strategy =>
      have keeps (language : Language) : { language with strategy }.name = language.name := rfl
      exact find?_modify keeps other

/-- An entry without rules, under a name that is new, is always accepted. -/
theorem addEntry_of_new (small : entry.IsSmall) (noRules : entry.rules = [])
    (isNew : entry.name ∉ catalog.ids) :
    catalog.addEntry entry =
      .ok ((catalog.addLanguage entry.bare).choose entry.name entry.strategy) := by
  have made : entry.language = .ok entry.bare := by
    rw [LanguageEntry.language, noRules, Language.foldl_addAlias, Language.named,
      show Unicode.lowercase entry.name = entry.name from small]
    rfl
  refine addEntry_eq_ok_iff.mpr ⟨entry.bare, made, rfl, fun other found unused => ?_⟩
  have isAdded : (catalog.addLanguage entry.bare).find? entry.name = some entry.bare := by
    have newName : entry.bare.name ∉ catalog.ids := isNew
    exact find?_addLanguage_of_new newName
  rw [get?, find?_choose, isAdded] at found
  cases found
  refine unused.rules ?_
  cases entry.strategy with
  | none => rfl
  | some strategy =>
      dsimp only
      split <;> rfl

end Catalog

/-- Whether an entry decides about the language of a name, with the further names that there are
once its language has been added. -/
def LanguageEntry.decides (entry : LanguageEntry) (aliases : List (String × String))
    (name : String) : Bool :=
  entry.name == name ||
    (entry.strategy.isSome && ({ aliases } : Catalog).resolve entry.name == name)

/-- What the entry that decides about a language makes of it.  An entry of that name has been
checked; any other has chosen the tokenizer. -/
structure LanguageEntry.Settles (entry : LanguageEntry) (language : Language) : Prop where
  ofSame : entry.name = language.name → ¬language.HasUnusedRules
  ofOther : entry.name ≠ language.name → entry.strategy = some language.strategy

namespace Catalog

variable {catalog next : Catalog} {entry : LanguageEntry} {name : String} {language : Language}

theorem aliases_addEntry (small : entry.IsSmall) (added : catalog.addEntry entry = .ok next) :
    next.aliases = setAliases catalog.aliases entry.writes := by
  obtain ⟨language, made, rfl, -⟩ := addEntry_eq_ok_iff.mp added
  rw [aliases_choose, aliases_addLanguage, (LanguageEntry.language_ok small made).2]

/-- A language after an entry: the entry settles it, or it is as it was. -/
theorem find?_addEntry (small : entry.IsSmall) (added : catalog.addEntry entry = .ok next)
    (found : next.find? name = some language) :
    if entry.decides next.aliases name then entry.Settles language
    else catalog.find? name = some language := by
  have isName := name_of_find? found
  obtain ⟨described, made, isNext, checked⟩ := addEntry_eq_ok_iff.mp added
  have describedName := (LanguageEntry.language_ok small made).1
  by_cases same : entry.name = name
  · have own : next.get? entry.name = some language := by simp [get?, same, found]
    rw [if_pos (by simp [LanguageEntry.decides, same])]
    exact ⟨fun _ => checked language own, fun differs => absurd (same.trans isName.symm) differs⟩
  · have before := found
    have other : name ≠ described.name := by rwa [describedName, ne_comm]
    rw [isNext, find?_choose, find?_addLanguage_of_ne catalog other] at before
    obtain ⟨old, wasThere, rfl⟩ := Option.map_eq_some_iff.mp before
    have aliases : next.aliases = (catalog.addLanguage described).aliases := by
      rw [isNext, aliases_choose]
    have resolved : ({ aliases := next.aliases } : Catalog).resolve entry.name =
        (catalog.addLanguage described).resolve entry.name := by
      rw [aliases]
      rfl
    cases chosen : entry.strategy with
    | none => simp [LanguageEntry.decides, same, chosen, wasThere]
    | some strategy =>
        rw [chosen] at isName
        by_cases stands : name = (catalog.addLanguage described).resolve entry.name
        · rw [if_pos (by simp [LanguageEntry.decides, chosen, resolved, ← stands])]
          refine ⟨fun isSame => absurd (isSame.trans isName) same, fun _ => ?_⟩
          simp [chosen, stands]
        · rw [if_neg (by simp [LanguageEntry.decides, same, chosen, resolved, Ne.symm stands])]
          simp [stands, wasThere]

end Catalog

/-! ## All entries -/

/-- The last entry that decides about the language of a name. -/
def LanguageEntry.lastDeciding? (name : String) :
    (aliases : List (String × String)) → List LanguageEntry → Option LanguageEntry
  | _, [] => none
  | aliases, entry :: later =>
      let aliases := setAliases aliases entry.writes
      lastDeciding? name aliases later <|>
        if entry.decides aliases name then some entry else none

namespace Catalog

/-- A language after all entries: the last one that decides about it settles it, and if none does it
is as it was. -/
theorem find?_addEntries {start final : Catalog} {entries : List LanguageEntry} {name : String}
    {language : Language} (small : ∀ entry ∈ entries, entry.IsSmall)
    (added : entries.foldlM addEntry start = .ok final) (found : final.find? name = some language) :
    match LanguageEntry.lastDeciding? name start.aliases entries with
    | some entry => entry.Settles language
    | none => start.find? name = some language := by
  induction entries generalizing start with
  | nil =>
      cases added
      exact found
  | cons entry later ih =>
      rw [List.foldlM_cons, bind_eq_ok] at added
      obtain ⟨next, first, rest⟩ := added
      have isSmall := small entry List.mem_cons_self
      have settled := ih (fun other member => small other (List.mem_cons_of_mem _ member)) rest
      rw [aliases_addEntry isSmall first] at settled
      rw [LanguageEntry.lastDeciding?]
      cases isLater :
          LanguageEntry.lastDeciding? name (setAliases start.aliases entry.writes) later with
      | some other =>
          rw [isLater] at settled
          exact settled
      | none =>
          rw [isLater] at settled
          have here := find?_addEntry isSmall first settled
          rw [aliases_addEntry isSmall first] at here
          cases decides : entry.decides (setAliases start.aliases entry.writes) name with
          | true => simpa [decides] using here
          | false => simpa [decides] using here

theorem ids_choose (catalog : Catalog) (name : String) (chosen : Option Strategy) :
    (catalog.choose name chosen).ids = catalog.ids := by
  cases chosen with
  | none => rfl
  | some strategy => exact ids_modify fun _ => rfl

theorem nodup_ids_addEntries {start final : Catalog} {entries : List LanguageEntry}
    (nodup : start.ids.Nodup) (added : entries.foldlM addEntry start = .ok final) :
    final.ids.Nodup := by
  refine foldlM_ok_induction (fun catalog : Catalog => catalog.ids.Nodup) ?_ nodup added
  intro catalog entry next nodup step
  obtain ⟨language, -, rfl, -⟩ := addEntry_eq_ok_iff.mp step
  rw [ids_choose]
  exact nodup_ids_addLanguage nodup language

/-- No built-in language has rules for nothing. -/
theorem not_hasUnusedRules_builtin {language : Language} (member : language ∈ builtin.languages) :
    ¬language.HasUnusedRules := by
  rw [languages_builtin] at member
  rintro ⟨isStructured, someRules⟩
  rcases Builtin.strategy_of_mem_languages language member with rfl | isGeneric
  · exact someRules rfl
  · rw [isGeneric] at isStructured
    cases isStructured

end Catalog

namespace Config

/-- The further names of a configuration change no language. -/
theorem languages_foldl_addAlias (catalog : Catalog) (aliases : List (String × String)) :
    (aliases.foldl (fun catalog entry => catalog.addAlias entry.1 entry.2) catalog).languages =
      catalog.languages := by
  induction aliases generalizing catalog with
  | nil => rfl
  | cons entry aliases ih => exact ih _

/-- A language of a configured catalog has rules for nothing exactly if it has rules and the last
entry that decides about it chooses the tokenizer for keys and values under another name. -/
theorem hasUnusedRules_iff {text : String} {config : Config} {catalog : Catalog}
    {language : Language} (read : ofText text = .ok config) (built : config.catalog = .ok catalog)
    (member : language ∈ catalog.languages) :
    language.HasUnusedRules ↔ language.rules ≠ [] ∧
      ∃ entry, LanguageEntry.lastDeciding? language.name Catalog.builtin.aliases config.languages =
          some entry ∧
        entry.strategy = some .structured ∧ entry.name ≠ language.name := by
  obtain ⟨added, isAdded, done⟩ := bind_eq_ok.mp built
  have sameLanguages : catalog.languages = added.languages := by
    cases done
    exact languages_foldl_addAlias added config.aliases
  have found : added.find? language.name = some language :=
    Catalog.find?_of_mem (Catalog.nodup_ids_addEntries Catalog.nodup_ids_builtin isAdded)
      (sameLanguages ▸ member)
  have settled := Catalog.find?_addEntries (isSmall_ofText read) isAdded found
  cases isLast :
      LanguageEntry.lastDeciding? language.name Catalog.builtin.aliases config.languages with
  | none =>
      rw [isLast] at settled
      have wasThere : Catalog.builtin.find? language.name = some language := settled
      have asBefore := Catalog.not_hasUnusedRules_builtin (Catalog.mem_of_find? wasThere)
      simp [asBefore]
  | some entry =>
      rw [isLast] at settled
      by_cases same : entry.name = language.name
      · simp [settled.ofSame same, same]
      · have chosen := settled.ofOther same
        constructor
        · intro unused
          exact ⟨unused.rules, entry, rfl, by rw [chosen, unused.strategy], same⟩
        · rintro ⟨someRules, other, isOther, isStructured, -⟩
          obtain rfl := Option.some.inj isOther
          exact ⟨Option.some.inj (chosen.symm.trans isStructured), someRules⟩

/-! ### A tokenizer chosen under a further name -/

/-- An entry under a further name of Python. -/
def pyEntry : LanguageEntry where
  name := "py"
  strategy := some .structured

/-- The configuration with this entry alone. -/
def pyConfig : Config where
  languages := [pyEntry]

/-- The language that the entry describes. -/
def pyLanguage : Language where
  name := "py"
  strategy := .structured

/-- The catalog of the configuration. -/
def pyCatalog : Catalog :=
  (Catalog.builtin.addLanguage pyLanguage).choose pyEntry.name pyEntry.strategy

/-- Python in that catalog. -/
def pyPython : Language :=
  { Builtin.python with strategy := .structured }

theorem ofText_pyConfig : ofText "[languages.py]\nstructured = true\n" = .ok pyConfig := by
  rw [← toOption_eq_some]
  decide +kernel

theorem resolve_pyEntry :
    (Catalog.builtin.addLanguage pyLanguage).resolve pyEntry.name = "python" := by
  rw [Catalog.resolve, Catalog.aliases_addLanguage, Catalog.aliases_builtin]
  decide +kernel

theorem find?_pyCatalog_python : pyCatalog.find? "python" = some pyPython := by
  have isPython : Catalog.builtin.find? "python" = some Builtin.python := by
    rw [← Builtin.name_python]
    exact Catalog.find?_builtin (by simp [Builtin.languages])
  rw [pyCatalog, Catalog.find?_choose, resolve_pyEntry,
    Catalog.find?_addLanguage_of_ne Catalog.builtin (by decide), isPython]
  simp [pyEntry, pyPython]

/-- The check looks at the language of the entry, which has no rules. -/
theorem addEntry_pyEntry : Catalog.builtin.addEntry pyEntry = .ok pyCatalog := by
  have small : lowercase "py" = "py" := by decide +kernel
  have isNew : "py" ∉ Catalog.builtin.ids := by
    rw [Catalog.ids_builtin]
    decide
  exact Catalog.addEntry_of_new small rfl isNew

theorem catalog_pyConfig : pyConfig.catalog = .ok pyCatalog := by
  rw [Config.catalog, pyConfig, List.foldlM_cons, addEntry_pyEntry]
  rfl

theorem hasUnusedRules_pyPython : pyPython.HasUnusedRules := by
  rw [pyPython]
  exact .of_rules Builtin.python_rules_ne_nil

theorem mem_pyCatalog : pyPython ∈ pyCatalog.languages :=
  Catalog.mem_of_find? find?_pyCatalog_python

/-- The configuration is accepted, and leaves Python with its rules under the tokenizer for keys and
values. -/
theorem exists_hasUnusedRules :
    ∃ config catalog language, ofText "[languages.py]\nstructured = true\n" = .ok config ∧
      config.catalog = .ok catalog ∧ language ∈ catalog.languages ∧ language.HasUnusedRules :=
  ⟨pyConfig, pyCatalog, pyPython, ofText_pyConfig, catalog_pyConfig, mem_pyCatalog,
    hasUnusedRules_pyPython⟩

/-- In that catalog the entry for the further name is the one that decides about Python. -/
theorem hasUnusedRules_iff_pyPython :
    ofText "[languages.py]\nstructured = true\n" = .ok pyConfig ∧ pyConfig.catalog = .ok pyCatalog ∧
      pyPython ∈ pyCatalog.languages ∧
      (pyPython.HasUnusedRules ↔ pyPython.rules ≠ [] ∧
        ∃ entry,
          LanguageEntry.lastDeciding? pyPython.name Catalog.builtin.aliases pyConfig.languages =
            some entry ∧
          entry.strategy = some .structured ∧ entry.name ≠ pyPython.name) :=
  ⟨ofText_pyConfig, catalog_pyConfig, mem_pyCatalog,
    hasUnusedRules_iff ofText_pyConfig catalog_pyConfig mem_pyCatalog⟩

end Config

end Tint
