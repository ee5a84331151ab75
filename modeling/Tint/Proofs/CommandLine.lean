import Tint.CommandLine.Run
import Tint.Proofs.Catalog.Lookup
import Tint.Proofs.Config.Unused

/-!
# Languages on the command line

A run puts what the name of a language stands for in its place, and highlights in the language of
that.  The library looks the name up as it is.  The two select the same language if the name is that
of a language and stands for itself, or is no such name and stands for one.  They part where a
further name is also the name of a language, and where what a further name stands for is a further
name again.  A language that is found by the extension of a file is always the one that the library
finds under the extension.
-/

namespace Tint

open Tint.Unicode

namespace Catalog

variable {catalog : Catalog} {name : String}

/-- Looking up what a name stands for comes to the same as looking up the name. -/
def ResolvesAlike (catalog : Catalog) (name : String) : Prop :=
  if name ∈ catalog.ids then
    catalog.resolve name = name ∨
      (catalog.resolve name ∉ catalog.ids ∧ catalog.resolve (catalog.resolve name) = name)
  else
    catalog.resolve name ∉ catalog.ids → catalog.resolve (catalog.resolve name) ∉ catalog.ids

theorem get?_of_mem (known : name ∈ catalog.ids) : catalog.get? name = catalog.find? name := by
  obtain ⟨language, found⟩ := Option.isSome_iff_exists.mp (find?_isSome_iff.mpr known)
  rw [get?, found]
  rfl

theorem get?_of_not_mem (missing : name ∉ catalog.ids) :
    catalog.get? name = catalog.find? (catalog.resolve name) := by
  rw [get?, find?_eq_none_iff.mpr missing]
  rfl

@[simp] theorem find?_addAlias (catalog : Catalog) (name target id : String) :
    (catalog.addAlias name target).find? id = catalog.find? id := rfl

/-- Names under which the same language is found are the same. -/
theorem find?_eq_find?_iff {other : String} (known : name ∈ catalog.ids) :
    catalog.find? other = catalog.find? name ↔ other = name := by
  constructor
  · intro same
    obtain ⟨language, found⟩ := Option.isSome_iff_exists.mp (find?_isSome_iff.mpr known)
    rw [found] at same
    rw [← name_of_find? same, name_of_find? found]
  · rintro rfl
    rfl

/-- A language is found under its own name, if it is found under any. -/
theorem get?_name {language : Language} (found : catalog.get? name = some language) :
    catalog.get? language.name = some language := by
  have own : catalog.find? language.name = some language := by
    by_cases known : name ∈ catalog.ids
    · rw [get?_of_mem known] at found
      rwa [name_of_find? found]
    · rw [get?_of_not_mem known] at found
      rwa [name_of_find? found]
  rw [get?, own]
  rfl

theorem get?_resolve_eq_iff (catalog : Catalog) (name : String) :
    catalog.get? (catalog.resolve name) = catalog.get? name ↔ catalog.ResolvesAlike name := by
  rw [ResolvesAlike]
  by_cases known : name ∈ catalog.ids
  · rw [if_pos known, get?_of_mem known]
    by_cases resolved : catalog.resolve name ∈ catalog.ids
    · rw [get?_of_mem resolved, find?_eq_find?_iff known]
      simp [resolved]
    · rw [get?_of_not_mem resolved, find?_eq_find?_iff known]
      have differs : catalog.resolve name ≠ name := by
        intro same
        rw [same] at resolved
        exact resolved known
      simp [resolved, differs]
  · rw [if_neg known, get?_of_not_mem known]
    by_cases resolved : catalog.resolve name ∈ catalog.ids
    · simp [get?_of_mem resolved, resolved]
    · rw [get?_of_not_mem resolved, find?_eq_none_iff.mpr resolved, find?_eq_none_iff]
      simp [resolved]

end Catalog

/-- The tokenizer goes by the language that is found, not by its name. -/
theorem Highlighter.highlight_congr {highlighter : Highlighter} {first second : String}
    (same : highlighter.catalog.get? first = highlighter.catalog.get? second) (text : String) :
    highlighter.highlight text first = highlighter.highlight text second := by
  simp only [highlight, tokenize, same]

namespace CommandLine

/-- What a run comes to before it chooses a language: its arguments ask for markup, its
configuration builds, and its input is a text. -/
structure Prepared (host : Host Id) (arguments : List String) (options : Options)
    (highlighter : Highlighter) (text : String) : Prop where
  arguments : Command.ofArguments arguments = .ok (.highlight options)
  ansi : options.ansi = false
  wrap : options.wrap = false
  list : options.list = false
  config : ∃ config, readConfig host options.configPath = .ok config ∧
    config.highlighter = .ok highlighter
  input : readText host options.path = .ok text

namespace Prepared

variable {host : Host Id} {arguments : List String} {options : Options}
  {highlighter : Highlighter} {text : String}

/-- The run writes the text as it is highlighted in the language chosen. -/
theorem run_eq (prepared : Prepared host arguments options highlighter text) {language : String}
    (chosen : options.language? highlighter.catalog = .ok language) :
    (run host arguments).run =
      { output := highlighter.highlight text language
        unsupported := if highlighter.catalog.supports language then none else some language } := by
  obtain ⟨config, isConfig, built⟩ := prepared.config
  have rendered : options.render highlighter text language =
      highlighter.highlight text language := by
    simp [Options.render, prepared.ansi, prepared.wrap]
  -- reading is pure here, so its results can be put in place
  have configRead : readConfig host options.configPath = pure (.ok config) := isConfig
  have inputRead : readText host options.path = pure (.ok text) := prepared.input
  have isHighlighter : (Except.ok config).bind (fun config : Config =>
      config.highlighter.mapError RunError.config) = .ok highlighter := by
    simp [Except.bind, built, Except.mapError]
  rw [run, prepared.arguments]
  simp only [runOptions, highlightInput, configRead, inputRead, pure_bind, isHighlighter,
    prepared.list, chosen, rendered]
  rfl

/-- With a name of a language, a run prints the text as it is highlighted in what the name stands
for.  That is the language that the library finds under the name exactly if the name resolves alike.
With a language found by the extension of a file, it prints the text as it is highlighted under the
extension. -/
theorem prints (prepared : Prepared host arguments options highlighter text) :
    (∀ name, options.language = some name →
      (run host arguments).run.error = none ∧
      (run host arguments).run.output =
        highlighter.highlight text (highlighter.catalog.resolve name) ∧
      (highlighter.catalog.get? (highlighter.catalog.resolve name) =
          highlighter.catalog.get? name ↔ highlighter.catalog.ResolvesAlike name) ∧
      (highlighter.catalog.ResolvesAlike name →
        (run host arguments).run.output = highlighter.highlight text name)) ∧
    ∀ path name language, options.language = none → options.path = some path →
      fileExtension? path = some name → highlighter.catalog.detect? path = some language →
      (run host arguments).run.error = none ∧
        (run host arguments).run.output = highlighter.highlight text name := by
  constructor
  · intro name asked
    have chosen : options.language? highlighter.catalog =
        .ok (highlighter.catalog.resolve name) := by
      rw [Options.language?, asked]
    rw [prepared.run_eq chosen]
    refine ⟨rfl, rfl, highlighter.catalog.get?_resolve_eq_iff name, fun alike => ?_⟩
    exact Highlighter.highlight_congr
      ((highlighter.catalog.get?_resolve_eq_iff name).mpr alike) text
  · intro path name language notAsked isPath isExtension detected
    have chosen : options.language? highlighter.catalog = .ok language := by
      rw [Options.language?, notAsked, isPath]
      exact orError_eq_ok.mpr detected
    rw [prepared.run_eq chosen]
    rw [Catalog.detect?, isExtension, Option.bind_some, Option.map_eq_some_iff] at detected
    obtain ⟨found, isFound, rfl⟩ := detected
    refine ⟨rfl, Highlighter.highlight_congr ?_ text⟩
    rw [isFound, Catalog.get?_name isFound]

end Prepared

/-! ## A further name that is also the name of a language -/

/-- A language without rules, and its name as a further name of JSON. -/
def notesSource : String :=
  "[aliases]\nnotes = \"json\"\n\n[languages.notes]\n"

def notesConfig : Config where
  aliases := [("notes", "json")]
  languages := [{ name := "notes" }]

def notesHighlighter : Highlighter where
  catalog := (Catalog.builtin.addLanguage { name := "notes" }).addAlias "notes" "json"

/-- The configuration in a file, and a number as input. -/
def notesHost : Host Id where
  home := none
  readFile path := if path = "c.toml" then .ok notesSource.toUTF8 else .error .notFound
  readInput := .ok "1".toUTF8

def notesOptions : Options where
  language := some "notes"
  configPath := some "c.toml"

/-- A text can be read from its bytes. -/
theorem decodeText_toUTF8 (text : String) : decodeText text.toUTF8 = .ok text := by
  have decoded : String.fromUTF8? text.toUTF8 = some text := by
    simp only [String.fromUTF8?, Option.dite_none_right_eq_some, Option.some.injEq]
    exact ⟨text.isValidUTF8, rfl⟩
  rw [decodeText, decoded]

theorem ofText_notesSource : Config.ofText notesSource = .ok notesConfig := by
  rw [← toOption_eq_some]
  decide +kernel

theorem highlighter_notesConfig : notesConfig.highlighter = .ok notesHighlighter := by
  have small : lowercase "notes" = "notes" := by decide +kernel
  have isNew : "notes" ∉ Catalog.builtin.ids := by
    rw [Catalog.ids_builtin]
    decide
  have added : Catalog.builtin.addEntry { name := "notes" } =
      .ok (Catalog.builtin.addLanguage { name := "notes" }) :=
    Catalog.addEntry_of_new small rfl isNew
  have built : notesConfig.catalog = .ok notesHighlighter.catalog := by
    rw [Config.catalog, notesConfig, List.foldlM_cons, added]
    rfl
  rw [Config.highlighter, built]
  rfl

theorem prepared_notes :
    Prepared notesHost ["--lang", "notes", "--config", "c.toml"] notesOptions notesHighlighter
      "1" where
  arguments := by decide +kernel
  ansi := rfl
  wrap := rfl
  list := rfl
  config := by
    have isRead : readConfig notesHost notesOptions.configPath =
        ((decodeText notesSource.toUTF8).mapError RunError.file).bind fun text =>
          (Config.ofText text).mapError RunError.config := rfl
    refine ⟨notesConfig, ?_, highlighter_notesConfig⟩
    rw [isRead, decodeText_toUTF8]
    simp [Except.mapError, Except.bind, ofText_notesSource]
  input := by
    have isRead : readText notesHost notesOptions.path =
        (decodeText "1".toUTF8).mapError RunError.file := rfl
    rw [isRead, decodeText_toUTF8]
    rfl

/-- The name stands for JSON, and the library finds the language without rules under it. -/
theorem lookups_notes :
    notesHighlighter.catalog.resolve "notes" = "json" ∧
      notesHighlighter.catalog.get? "json" = some Builtin.json ∧
      notesHighlighter.catalog.get? "notes" = some { name := "notes" } := by
  have resolved : notesHighlighter.catalog.resolve "notes" = "json" := by
    rw [notesHighlighter, Catalog.resolve, Catalog.addAlias, Catalog.aliases_addLanguage,
      Catalog.aliases_builtin]
    decide +kernel
  have isJson : Catalog.builtin.find? "json" = some Builtin.json := by
    rw [← Builtin.name_json]
    exact Catalog.find?_builtin (by simp [Builtin.languages])
  have foundJson : notesHighlighter.catalog.find? "json" = some Builtin.json := by
    rw [notesHighlighter, Catalog.find?_addAlias,
      Catalog.find?_addLanguage_of_ne Catalog.builtin (by decide), isJson]
  have isNew : "notes" ∉ Catalog.builtin.ids := by
    rw [Catalog.ids_builtin]
    decide
  have foundNotes : notesHighlighter.catalog.find? "notes" = some { name := "notes" } := by
    have added : (Catalog.builtin.addLanguage { name := "notes" }).find? "notes" =
        some { name := "notes" } := Catalog.find?_addLanguage_of_new isNew
    rw [notesHighlighter, Catalog.find?_addAlias, added]
  refine ⟨resolved, ?_, ?_⟩
  · rw [Catalog.get?, foundJson]
    rfl
  · rw [Catalog.get?, foundNotes]
    rfl

/-- The run prints the number as JSON has it, and the library leaves it plain. -/
theorem not_prints_notes :
    ∃ host arguments options highlighter text,
      Prepared host arguments options highlighter text ∧ options.language = some "notes" ∧
      (run host arguments).run.output = "<span class=\"syntax-number\">1</span>" ∧
      highlighter.highlight text "notes" = "1" ∧
      (run host arguments).run.output ≠ highlighter.highlight text "notes" := by
  obtain ⟨resolved, isJson, isNotes⟩ := lookups_notes
  have asJson : (run notesHost ["--lang", "notes", "--config", "c.toml"]).run.output =
      "<span class=\"syntax-number\">1</span>" := by
    have chosen : notesOptions.language? notesHighlighter.catalog = .ok "json" := by
      simp only [Options.language?, notesOptions, resolved]
    have printed : notesHighlighter.highlight "1" "json" =
        Html.render (Structured.tokenize "1") "syntax-" := by
      rw [Highlighter.highlight, Highlighter.tokenize, isJson]
      rfl
    rw [prepared_notes.run_eq chosen]
    dsimp only
    rw [printed]
    decide +kernel
  have plain : notesHighlighter.highlight "1" "notes" = "1" := by
    have printed : notesHighlighter.highlight "1" "notes" =
        Html.render (({ name := "notes" } : Language).tokenize "1") "syntax-" := by
      rw [Highlighter.highlight, Highlighter.tokenize, isNotes]
      rfl
    rw [printed]
    decide +kernel
  refine ⟨_, _, _, _, _, prepared_notes, rfl, asJson, plain, ?_⟩
  rw [asJson, plain]
  decide

/-- What the run prints there is the text as JSON has it. -/
theorem prints_notes :
    Prepared notesHost ["--lang", "notes", "--config", "c.toml"] notesOptions notesHighlighter
        "1" ∧
      (run notesHost ["--lang", "notes", "--config", "c.toml"]).run.output =
        notesHighlighter.highlight "1" "json" := by
  have printed := ((Prepared.prints prepared_notes).1 "notes" rfl).2.1
  rw [lookups_notes.1] at printed
  exact ⟨prepared_notes, printed⟩

end CommandLine

end Tint
