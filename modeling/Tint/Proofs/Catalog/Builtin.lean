import Tint.Builtin.Catalog
import Tint.Proofs.Catalog.Registered

/-!
# The built-in languages

The names and further names of the built-in catalog, and that its languages have rules only where
rules count.  The rules are large values that nothing here looks into.
-/

namespace Tint

open Tint.Regex Tint.Unicode

/-! ## Languages made of rules -/

theorem insertRule_ne_nil (rule : Rule) (rules : List Rule) : insertRule rule rules ≠ [] := by
  cases rules with
  | nil => simp [insertRule]
  | cons other rest =>
      rw [insertRule]
      split
      · simp
      · split <;> simp

theorem foldl_insertRule_ne_nil {rules added : List Rule} (some : rules ≠ [] ∨ added ≠ []) :
    added.foldl (fun rules rule => insertRule rule rules) rules ≠ [] := by
  induction added generalizing rules with
  | nil => simpa using some
  | cons rule added ih => exact ih (.inl (insertRule_ne_nil rule rules))

/-- A rule can be made of a source that can be read. -/
theorem Rule.ofSource_isSome {source : RuleSource} (category : Category)
    (readable : source.matcher.toOption.isSome) :
    (Rule.ofSource category source).toOption.isSome := by
  rw [ofSource]
  split
  · rfl
  · rename_i cause isError
    simp [isError, Except.toOption] at readable

namespace Builtin

variable {name : String} {aliases : List String} {rules : List (Read Rule)}

/-- A language is made by adding the rules that could be read to its names. -/
theorem language_eq_foldl (name : String) (aliases : List String) (rules : List (Read Rule)) :
    language name aliases rules =
      (rules.filterMap Except.toOption).foldl Language.addRule
        { name := lowercase name, aliases := aliases.map lowercase } := by
  rw [language, Language.foldl_addAlias, Language.named, List.nil_append]
  generalize ({ name := lowercase name, aliases := aliases.map lowercase } : Language) = start
  induction rules generalizing start with
  | nil => rfl
  | cons rule rules ih =>
      cases rule with
      | ok rule => exact ih _
      | error cause => exact ih _

theorem language_name (name : String) (aliases : List String) (rules : List (Read Rule)) :
    (language name aliases rules).name = lowercase name := by
  rw [language_eq_foldl, Language.foldl_addRule]

/-- Names and further names of the built-in languages are written in small letters. -/
theorem lowercase_of_written : ∀ name ∈
    ["al", "powershell", "json", "python", "csharp", "xml", "sql", "md", "css", "ps1", "psm1", "py",
      "cs", "xsd", "xaml", "markdown", "scss", "sass"], lowercase name = name := by
  decide +kernel

theorem name_json : json.name = "json" :=
  lowercase_of_written "json" (by simp)

theorem name_python : python.name = "python" := by
  rw [python, language_name]
  exact lowercase_of_written "python" (by simp)

theorem name_al : al.name = "al" := by
  rw [al, language_name]
  exact lowercase_of_written "al" (by simp)

theorem name_sql : sql.name = "sql" := by
  rw [sql, language_name]
  exact lowercase_of_written "sql" (by simp)

theorem name_cSharp : cSharp.name = "csharp" := by
  rw [cSharp, language_name]
  exact lowercase_of_written "csharp" (by simp)

theorem name_markdown : markdown.name = "md" := by
  rw [markdown, language_name]
  exact lowercase_of_written "md" (by simp)

theorem name_css : css.name = "css" := by
  rw [css, language_name]
  exact lowercase_of_written "css" (by simp)

theorem language_aliases (name : String) (aliases : List String) (rules : List (Read Rule)) :
    (language name aliases rules).aliases = aliases.map lowercase := by
  rw [language_eq_foldl, Language.foldl_addRule]

theorem language_strategy (name : String) (aliases : List String) (rules : List (Read Rule)) :
    (language name aliases rules).strategy = .generic := by
  rw [language_eq_foldl, Language.foldl_addRule]

/-- A language has rules if any of its patterns could be read. -/
theorem language_rules_ne_nil {read : Read Rule} (member : read ∈ rules)
    (readable : read.toOption.isSome) : (language name aliases rules).rules ≠ [] := by
  obtain ⟨rule, isRule⟩ := Option.isSome_iff_exists.mp readable
  rw [language_eq_foldl, Language.foldl_addRule]
  exact foldl_insertRule_ne_nil
    (.inr (List.ne_nil_of_mem (List.mem_filterMap.mpr ⟨read, member, isRule⟩)))

/-- The rule for comments is one that could be read. -/
theorem python_rules_ne_nil : python.rules ≠ [] := by
  have readable : (lineRule .comments "#.*$").toOption.isSome :=
    Rule.ofSource_isSome .comments (by decide +kernel)
  rw [python]
  exact language_rules_ne_nil (by simp) readable

/-- Only JSON has a tokenizer of its own. -/
theorem strategy_of_mem_languages :
    ∀ language ∈ languages, language = json ∨ language.strategy = .generic := by
  simp only [languages, List.forall_mem_cons, List.not_mem_nil, false_implies, implies_true,
    and_true]
  refine ⟨.inr ?_, .inr ?_, .inl trivial, .inr ?_, .inr ?_, .inr ?_, .inr ?_, .inr ?_, .inr ?_⟩
  all_goals
    simp only [al, powerShell, python, cSharp, xml, sql, markdown, css, language_strategy]

/-- The steps in which the built-in catalog comes about. -/
def registrations : List Registration :=
  languages.map .language

theorem ids_languages :
    languages.map (·.name) =
      ["al", "powershell", "json", "python", "csharp", "xml", "sql", "md", "css"] := by
  simp only [languages, List.map_cons, List.map_nil, al, powerShell, json, python, cSharp, xml, sql,
    markdown, css, language_name, Language.named]
  simp [lowercase_of_written]

theorem writes_registrations :
    registrations.flatMap Registration.writes =
      [("ps1", "powershell"), ("psm1", "powershell"), ("py", "python"), ("cs", "csharp"),
        ("xsd", "xml"), ("xaml", "xml"), ("markdown", "md"), ("scss", "css"), ("sass", "css")] := by
  simp only [registrations, languages, List.map_cons, List.map_nil, List.flatMap_cons,
    List.flatMap_nil, Registration.writes, al, powerShell, json, python, cSharp, xml, sql, markdown,
    css, language_name, language_aliases, Language.named]
  simp [lowercase_of_written]

end Builtin

namespace Catalog

theorem builtin_eq_registerAll : builtin = ({} : Catalog).registerAll Builtin.registrations := by
  rw [builtin, registerAll, Builtin.registrations, List.foldl_map]
  rfl

/-- The built-in languages are in the built-in catalog as they are. -/
theorem languages_builtin : builtin.languages = Builtin.languages := by
  have apart : (({} : Catalog).ids ++ Builtin.languages.map (·.name)).Nodup := by
    rw [Builtin.ids_languages]
    decide
  rw [builtin_eq_registerAll, Builtin.registrations, languages_registerAll_of_new apart]
  rfl

theorem ids_builtin :
    builtin.ids = ["al", "powershell", "json", "python", "csharp", "xml", "sql", "md", "css"] := by
  rw [ids, languages_builtin, Builtin.ids_languages]

theorem nodup_ids_builtin : builtin.ids.Nodup := by
  rw [ids_builtin]
  decide

/-- A built-in language is found under its name. -/
theorem find?_builtin {language : Language} (member : language ∈ Builtin.languages) :
    builtin.find? language.name = some language :=
  find?_of_mem nodup_ids_builtin (languages_builtin ▸ member)

theorem aliases_builtin :
    builtin.aliases =
      [("ps1", "powershell"), ("psm1", "powershell"), ("py", "python"), ("cs", "csharp"),
        ("xsd", "xml"), ("xaml", "xml"), ("markdown", "md"), ("scss", "css"), ("sass", "css")] := by
  rw [builtin_eq_registerAll, aliases_registerAll, Builtin.writes_registrations]
  decide

end Catalog

end Tint
