import Tint.Proofs.Config.Document
import Tint.Proofs.Config.Unused
import Tint.Proofs.Language

/-!
# Configured languages

A configuration extends the built-in languages rule by rule.  For each category of a language the
rule is that of the last table that describes one, or else the built-in one.  A further name stands
for what the configuration says last of it, in its further names or else in the tables of languages,
or for what it stands for without a configuration.
-/

namespace Tint

open Tint.Toml Tint.Unicode

/-- The last items of lists that correspond do too. -/
theorem getLast?_of_forall₂ {α β : Type} {related : α → β → Prop} {items : List α}
    {results : List β} (all : List.Forall₂ related items results) :
    match items.getLast? with
    | some item => ∃ result, results.getLast? = some result ∧ related item result
    | none => results.getLast? = none := by
  have reversed := List.forall₂_reverse_iff.mpr all
  rw [List.getLast?_eq_head?_reverse, List.getLast?_eq_head?_reverse]
  generalize items.reverse = items, results.reverse = results at reversed ⊢
  cases reversed with
  | nil => rfl
  | cons isLast _ => exact ⟨_, rfl, isLast⟩

/-! ## The rules of an entry -/

/-- A rule is as an entry describes it. -/
structure RuleEntry.Describes (entry : RuleEntry) (rule : Rule) : Prop where
  category : rule.category = entry.category
  source : rule.source = entry.source
  tokenClass : rule.tokenClass = entry.chosenClass.getD entry.category.defaultClass
  group : rule.group = entry.group

/-- The group that a rule classifies is one of its pattern, or the whole match. -/
def Rule.HasGroup (rule : Rule) : Prop :=
  rule.group ≤ rule.matcher.groupCount

/-- A rule of a source is for the whole match, with the default class of its category. -/
theorem Rule.ofSource_ok {category : Category} {source : RuleSource} {rule : Rule}
    (made : Rule.ofSource category source = .ok rule) :
    rule.category = category ∧ rule.source = source ∧ rule.tokenClass = category.defaultClass ∧
      rule.group = 0 := by
  rw [ofSource] at made
  split at made
  · cases made
    exact ⟨rfl, rfl, rfl, rfl⟩
  · cases made

theorem RuleEntry.rule_ok {name : String} {entry : RuleEntry} {rule : Rule}
    (made : entry.rule name = .ok rule) : entry.Describes rule ∧ rule.HasGroup := by
  rw [RuleEntry.rule] at made
  split at made
  · cases made
  · rename_i plain ofSource
    obtain ⟨category, source, tokenClass, -⟩ := Rule.ofSource_ok ofSource
    split at made
    · cases made
    · rename_i hasGroup
      cases made
      exact ⟨⟨category, source, by rw [← tokenClass]; rfl, rfl⟩, Nat.le_of_not_lt hasGroup⟩

/-- What an entry defines, with the rules that were made of those it describes. -/
def LanguageEntry.definition (entry : LanguageEntry) (rules : List Rule) : Definition where
  name := entry.name
  aliases := entry.aliases
  strategy := entry.strategy.getD .generic
  rules := rules

theorem foldlM_addRule_eq_ok_iff {make : RuleEntry → Except ConfigError Rule}
    {entries : List RuleEntry} {start language : Language} :
    entries.foldlM (fun language entry => language.addRule <$> make entry) start = .ok language ↔
      ∃ rules, List.Forall₂ (fun entry rule => make entry = .ok rule) entries rules ∧
        language = rules.foldl Language.addRule start := by
  induction entries generalizing start with
  | nil => simp [pure, Except.pure, eq_comm]
  | cons entry entries ih =>
      rw [List.foldlM_cons, bind_eq_ok]
      constructor
      · rintro ⟨next, added, more⟩
        obtain ⟨rule, made, rfl⟩ := map_eq_ok.mp added
        obtain ⟨rules, all, isLanguage⟩ := ih.mp more
        exact ⟨rule :: rules, .cons made all, isLanguage⟩
      · rintro ⟨_, all, isLanguage⟩
        cases all with
        | cons made all =>
            exact ⟨_, map_eq_ok.mpr ⟨_, made, rfl⟩, ih.mpr ⟨_, all, isLanguage⟩⟩

/-- The language of an entry is defined with one rule for each that the entry describes. -/
theorem LanguageEntry.language_eq_ok_iff {entry : LanguageEntry} {language : Language} :
    entry.language = .ok language ↔
      ∃ rules, List.Forall₂ (fun written rule => written.rule entry.name = .ok rule)
          entry.rules rules ∧ language = (entry.definition rules).language :=
  foldlM_addRule_eq_ok_iff

/-! ## The rules of a catalog -/

namespace Catalog

variable {catalog next : Catalog} {entry : LanguageEntry} {id : String} {category : Category}

/-- The rule that a language has for a category, if there is such a language and it has one. -/
def rule? (catalog : Catalog) (id : String) (category : Category) : Option Rule :=
  (catalog.find? id).bind (·.rule? category)

theorem rule?_addLanguage (catalog : Catalog) (definition : Definition) (id : String)
    (category : Category) :
    (catalog.addLanguage definition.language).rule? id category =
      if definition.id = id then (definition.lastRule? category).or (catalog.rule? id category)
      else catalog.rule? id category := by
  have isName : definition.language.name = definition.id := by rw [definition.language_eq]
  simp only [rule?]
  by_cases same : definition.id = id
  · rw [if_pos same, ← same, ← isName]
    cases before : catalog.find? definition.language.name with
    | none =>
        rw [find?_addLanguage_of_new (find?_eq_none_iff.mp before)]
        simp [definition.rule?_language]
    | some old =>
        rw [find?_addLanguage_of_known before]
        simp [Language.rule?_merge definition.inOrder_language, definition.rule?_language]
  · rw [if_neg same, find?_addLanguage_of_ne catalog (by rw [isName]; exact Ne.symm same)]

theorem rule?_choose (catalog : Catalog) (name : String) (chosen : Option Strategy) (id : String)
    (category : Category) :
    (catalog.choose name chosen).rule? id category = catalog.rule? id category := by
  simp only [rule?, find?_choose]
  cases catalog.find? id with
  | none => rfl
  | some language =>
      cases chosen with
      | none => rfl
      | some strategy =>
          simp only [Option.map_some, Option.bind_some]
          split <;> rfl

end Catalog

/-- The rules that an entry describes for a category of a language. -/
def LanguageEntry.rulesFor (entry : LanguageEntry) (id : String) (category : Category) :
    List RuleEntry :=
  if entry.name = id then entry.rules.filter (·.category == category) else []

/-- A rule can be what an entry makes. -/
def RuleEntry.Makes (entry : RuleEntry) (rule : Rule) : Prop :=
  entry.Describes rule ∧ rule.HasGroup

namespace Catalog

variable {catalog next : Catalog} {entry : LanguageEntry}

/-- A rule after an entry: the last one that the entry makes of the category, or the one before. -/
theorem rule?_addEntry (small : entry.IsSmall) (added : catalog.addEntry entry = .ok next)
    (id : String) (category : Category) :
    ∃ rules, List.Forall₂ RuleEntry.Makes (entry.rulesFor id category) rules ∧
      next.rule? id category = rules.getLast?.or (catalog.rule? id category) := by
  obtain ⟨language, made, rfl, -⟩ := addEntry_eq_ok_iff.mp added
  obtain ⟨rules, all, rfl⟩ := LanguageEntry.language_eq_ok_iff.mp made
  have makes : List.Forall₂ RuleEntry.Makes entry.rules rules :=
    all.imp fun _ _ => RuleEntry.rule_ok
  rw [rule?_choose, rule?_addLanguage, show (entry.definition rules).id = entry.name from small,
    LanguageEntry.rulesFor]
  by_cases same : entry.name = id
  · rw [if_pos same, if_pos same]
    refine ⟨rules.filter (·.category == category), List.rel_filter ?_ makes, rfl⟩
    rintro written rule ⟨describes, -⟩
    simp only [describes.category]
  · rw [if_neg same, if_neg same]
    exact ⟨[], .nil, rfl⟩

theorem rule?_addEntries {entries : List LanguageEntry} {start final : Catalog}
    (small : ∀ entry ∈ entries, entry.IsSmall)
    (added : entries.foldlM addEntry start = .ok final) (id : String) (category : Category) :
    ∃ rules, List.Forall₂ RuleEntry.Makes (entries.flatMap (·.rulesFor id category)) rules ∧
      final.rule? id category = rules.getLast?.or (start.rule? id category) := by
  induction entries generalizing start with
  | nil =>
      cases added
      exact ⟨[], .nil, rfl⟩
  | cons entry entries ih =>
      obtain ⟨next, first, rest⟩ := bind_eq_ok.mp added
      obtain ⟨isSmall, areSmall⟩ := List.forall_mem_cons.mp small
      obtain ⟨rules, makes, isNext⟩ := rule?_addEntry isSmall first id category
      obtain ⟨later, makeLater, isFinal⟩ := ih areSmall rest
      refine ⟨rules ++ later, List.rel_append makes makeLater, ?_⟩
      rw [isFinal, isNext, List.getLast?_append, Option.or_assoc]

end Catalog

/-! ## Groups -/

theorem mem_or_mem_of_mem_foldl_insertRule {rule : Rule} {rules added : List Rule}
    (member : rule ∈ added.foldl (fun rules rule => insertRule rule rules) rules) :
    rule ∈ rules ∨ rule ∈ added := by
  induction added generalizing rules with
  | nil => exact .inl member
  | cons other added ih =>
      rcases ih member with inserted | later
      · rcases mem_of_mem_insertRule inserted with rfl | old
        · exact .inr List.mem_cons_self
        · exact .inl old
      · exact .inr (List.mem_cons_of_mem other later)

/-- All rules of a language classify groups that there are. -/
def Language.HasGroups (language : Language) : Prop :=
  ∀ rule ∈ language.rules, rule.HasGroup

theorem Definition.hasGroups_language {definition : Definition}
    (hasGroup : ∀ rule ∈ definition.rules, rule.HasGroup) : definition.language.HasGroups := by
  rw [Language.HasGroups, definition.language_eq]
  intro rule member
  rcases mem_or_mem_of_mem_foldl_insertRule member with none | given
  · cases none
  · exact hasGroup rule given

theorem Language.HasGroups.merge {language other : Language} (old : language.HasGroups)
    (new : other.HasGroups) : (language.merge other).HasGroups := by
  rw [HasGroups, Language.merge, foldl_addRule]
  intro rule member
  rcases mem_or_mem_of_mem_foldl_insertRule member with isOld | isNew
  · exact old rule isOld
  · exact new rule isNew

namespace Catalog

variable {catalog next : Catalog} {holds : Language → Prop}

theorem forall_languages_modify (all : ∀ language ∈ catalog.languages, holds language)
    {change : Language → Language} (kept : ∀ language, holds language → holds (change language))
    (name : String) : ∀ language ∈ (catalog.modify name change).languages, holds language := by
  intro language member
  obtain ⟨old, wasThere, rfl⟩ := List.mem_map.mp member
  split
  · exact kept old (all old wasThere)
  · exact all old wasThere

theorem forall_languages_addLanguage (all : ∀ language ∈ catalog.languages, holds language)
    {added : Language} (new : holds added)
    (merged : ∀ language, holds language → holds (language.merge added)) :
    ∀ language ∈ (catalog.addLanguage added).languages, holds language := by
  rw [languages_addLanguage]
  split
  · exact forall_languages_modify all merged added.name
  · intro language member
    rcases List.mem_append.mp member with old | isAdded
    · exact all language old
    · rwa [List.mem_singleton.mp isAdded]

/-- An entry adds rules that classify groups that there are. -/
theorem hasGroups_addEntry {entry : LanguageEntry}
    (hasGroups : ∀ language ∈ catalog.languages, language.HasGroups)
    (added : catalog.addEntry entry = .ok next) :
    ∀ language ∈ next.languages, language.HasGroups := by
  obtain ⟨described, made, rfl, -⟩ := addEntry_eq_ok_iff.mp added
  obtain ⟨rules, all, rfl⟩ := LanguageEntry.language_eq_ok_iff.mp made
  have isNew : (entry.definition rules).language.HasGroups := by
    refine Definition.hasGroups_language fun rule member => ?_
    obtain ⟨written, -, isMade⟩ := mem_of_mapM_eq_ok (mapM_eq_ok_iff.mpr all) member
    exact (RuleEntry.rule_ok isMade).2
  have withLanguage := forall_languages_addLanguage hasGroups isNew fun _ old => old.merge isNew
  cases entry.strategy with
  | none => exact withLanguage
  | some strategy =>
      have kept (language : Language) (old : language.HasGroups) :
          { language with strategy }.HasGroups := old
      exact forall_languages_modify withLanguage kept _

end Catalog

namespace Builtin

variable {category : Category} {pattern : String} {read : Regex.Read Rule}

/-- If a rule could be read, it classifies a group that there is. -/
def HasGroup (read : Regex.Read Rule) : Prop :=
  ∀ rule, read = .ok rule → rule.HasGroup

theorem hasGroup_ofSource (category : Category) (source : RuleSource) :
    HasGroup (Rule.ofSource category source) := by
  intro rule made
  rw [Rule.HasGroup, (Rule.ofSource_ok made).2.2.2]
  exact Nat.zero_le _

theorem hasGroup_contextRule
    (hasGroup : (RuleSource.matcher { text := pattern }).toOption.all (1 ≤ ·.groupCount) = true) :
    HasGroup (contextRule category pattern) := by
  intro rule made
  obtain ⟨plain, ofSource, rfl⟩ := map_eq_ok.mp made
  have isMatcher := plain.matcher_eq
  rw [(Rule.ofSource_ok ofSource).2.1] at isMatcher
  simpa [isMatcher, Except.toOption, Rule.HasGroup, Rule.withGroup] using hasGroup

theorem hasGroups_language {name : String} {aliases : List String} {rules : List (Regex.Read Rule)}
    (hasGroup : ∀ read ∈ rules, HasGroup read) : (language name aliases rules).HasGroups := by
  rw [language_eq_foldl, Language.HasGroups, Language.foldl_addRule]
  intro rule member
  rcases mem_or_mem_of_mem_foldl_insertRule member with none | given
  · cases none
  · obtain ⟨read, isRead, isRule⟩ := List.mem_filterMap.mp given
    exact hasGroup read isRead rule (toOption_eq_some.mp isRule)

theorem hasGroup_calledName : HasGroup (contextRule category calledName) :=
  hasGroup_contextRule (by decide +kernel)

theorem hasGroup_xmlAttributes : HasGroup (contextRule category "\\s([\\w:.-]+)\\s*=") :=
  hasGroup_contextRule (by decide +kernel)

theorem hasGroup_cssSelectors : HasGroup (contextRule category Css.selectors) :=
  hasGroup_contextRule (by decide +kernel)

theorem hasGroup_cssProperties : HasGroup (contextRule category "([\\w-]+)\\s*:") :=
  hasGroup_contextRule (by decide +kernel)

theorem hasGroup_cssValues : HasGroup (contextRule category ":\\s*([^;]+);") :=
  hasGroup_contextRule (by decide +kernel)

theorem hasGroups_languages : ∀ language ∈ languages, language.HasGroups := by
  have plain (category : Category) (pattern : String) : HasGroup (rule category pattern) :=
    hasGroup_ofSource _ _
  have anyCase (category : Category) (pattern : String) : HasGroup (anyCaseRule category pattern) :=
    hasGroup_ofSource _ _
  have line (category : Category) (pattern : String) : HasGroup (lineRule category pattern) :=
    hasGroup_ofSource _ _
  have isJson : json.HasGroups := by simp [Language.HasGroups, json, Language.named]
  simp only [languages, List.forall_mem_cons, List.not_mem_nil, false_implies, implies_true,
    and_true]
  refine ⟨?_, ?_, isJson, ?_, ?_, ?_, ?_, ?_, ?_⟩
  all_goals
    simp only [al, powerShell, python, cSharp, xml, sql, markdown, css]
    refine hasGroups_language ?_
    simp only [List.forall_mem_cons, List.not_mem_nil, false_implies, implies_true, and_true,
      plain, anyCase, line, hasGroup_calledName, hasGroup_xmlAttributes, hasGroup_cssSelectors,
      hasGroup_cssProperties, hasGroup_cssValues]

end Builtin

/-! ## Names -/

/-- Whether a name is one of the further names that an entry gives to its language. -/
def LanguageEntry.declares (entry : LanguageEntry) (name : String) : Bool :=
  (entry.aliases.map lowercase).contains name

theorem LanguageEntry.lookup_writes (entry : LanguageEntry) (name : String) :
    entry.writes.reverse.lookup name = if entry.declares name then some entry.name else none := by
  have anyOrder (names : List String) :
      (names.map fun written => (lowercase written, entry.name)).lookup name =
        if (names.map lowercase).contains name then some entry.name else none := by
    induction names with
    | nil => rfl
    | cons first names ih =>
        rw [List.map_cons, List.map_cons, List.lookup_cons, List.contains_cons, ih]
        cases name == lowercase first <;> rfl
  rw [writes, ← List.map_reverse, anyOrder, declares]
  simp

/-- The target that entries write last for a name is the last of them that declares it. -/
theorem LanguageEntry.lookup_flatMap_writes (entries : List LanguageEntry) (name : String) :
    (entries.flatMap writes).reverse.lookup name =
      (entries.filter (·.declares name)).getLast?.map (·.name) := by
  induction entries with
  | nil => rfl
  | cons entry entries ih =>
      rw [List.flatMap_cons, List.reverse_append, List.lookup_append, ih, lookup_writes,
        List.filter_cons]
      cases entry.declares name with
      | false => simp
      | true =>
          cases last : (entries.filter (·.declares name)).getLast? <;>
            simp [last, List.getLast?_cons]

namespace Catalog

theorem aliases_addEntries {entries : List LanguageEntry} {start final : Catalog}
    (small : ∀ entry ∈ entries, entry.IsSmall)
    (added : entries.foldlM addEntry start = .ok final) :
    final.aliases = setAliases start.aliases (entries.flatMap LanguageEntry.writes) := by
  induction entries generalizing start with
  | nil =>
      cases added
      rfl
  | cons entry entries ih =>
      obtain ⟨next, first, rest⟩ := bind_eq_ok.mp added
      obtain ⟨isSmall, areSmall⟩ := List.forall_mem_cons.mp small
      rw [ih areSmall rest, aliases_addEntry isSmall first, List.flatMap_cons, setAliases,
        setAliases, setAliases, List.foldl_append]

theorem mem_ids_addEntries {entries : List LanguageEntry} {start final : Catalog}
    (small : ∀ entry ∈ entries, entry.IsSmall)
    (added : entries.foldlM addEntry start = .ok final) (id : String) :
    id ∈ final.ids ↔ id ∈ start.ids ∨ ∃ entry ∈ entries, entry.name = id := by
  induction entries generalizing start with
  | nil =>
      cases added
      simp
  | cons entry entries ih =>
      obtain ⟨next, first, rest⟩ := bind_eq_ok.mp added
      obtain ⟨isSmall, areSmall⟩ := List.forall_mem_cons.mp small
      obtain ⟨language, made, rfl, -⟩ := addEntry_eq_ok_iff.mp first
      have isKnown : id ∈ (start.register (.language language)).ids ↔
          id ∈ start.ids ∨ id ∈ [language.name] := mem_ids_register
      rw [register, (LanguageEntry.language_ok isSmall made).1, List.mem_singleton] at isKnown
      rw [ih areSmall rest, ids_choose, isKnown, List.exists_mem_cons_iff, or_assoc,
        eq_comm (a := id)]

/-- Adding further names that are in small letters writes them as they are. -/
theorem aliases_foldl_addAlias {aliases : List (String × String)}
    (small : ∀ entry ∈ aliases, lowercase entry.1 = entry.1 ∧ lowercase entry.2 = entry.2)
    (catalog : Catalog) :
    (aliases.foldl (fun catalog entry => catalog.addAlias entry.1 entry.2) catalog).aliases =
      setAliases catalog.aliases aliases := by
  induction aliases generalizing catalog with
  | nil => rfl
  | cons entry aliases ih =>
      obtain ⟨⟨smallName, smallTarget⟩, areSmall⟩ := List.forall_mem_cons.mp small
      rw [List.foldl_cons, ih areSmall, addAlias, smallName, smallTarget]
      rfl

end Catalog

namespace Config

/-- The further names of a configuration are in small letters, and so are their targets. -/
theorem small_aliases {config : Config} {document : Table}
    (described : config.DescribedBy document) :
    ∀ entry ∈ config.aliases, lowercase entry.1 = entry.1 ∧ lowercase entry.2 = entry.2 := by
  intro entry member
  obtain ⟨written, -, isRead⟩ :=
    mem_of_mapM_eq_ok (mapM_eq_ok_iff.mpr described.aliases) member
  obtain ⟨target, -, done⟩ := bind_eq_ok.mp isRead
  cases done
  exact ⟨lowercase_lowercase _, lowercase_lowercase _⟩

/-- The rule that a configuration describes last for a category of a language. -/
def lastRule? (config : Config) (id : String) (category : Category) : Option RuleEntry :=
  (config.languages.flatMap (·.rulesFor id category)).getLast?

/-- The target that a configuration gives to a further name: that of its last entry for it, or else
the last language that declares it. -/
def target? (config : Config) (name : String) : Option String :=
  (config.aliases.reverse.lookup name).or
    ((config.languages.filter (·.declares name)).getLast?.map (·.name))

/-- A catalog has the languages of a configuration in addition to the built-in ones. -/
structure Extends (config : Config) (catalog : Catalog) : Prop where
  rule? : ∀ id category,
    match config.lastRule? id category with
    | some entry => ∃ rule, catalog.rule? id category = some rule ∧ entry.Describes rule
    | none => catalog.rule? id category = Catalog.builtin.rule? id category
  mem_ids : ∀ id, id ∈ catalog.ids ↔
    id ∈ Catalog.builtin.ids ∨ ∃ entry ∈ config.languages, entry.name = id
  hasGroups : ∀ language ∈ catalog.languages, ∀ rule ∈ language.rules, rule.HasGroup
  resolve : ∀ name, lowercase (trim name) = name →
    catalog.resolve name = (config.target? name).getD (Catalog.builtin.resolve name)

/-- The catalog of a configuration extends the built-in one by the tables of the document, taken in
the order of their keys. -/
theorem extends_catalog {text : String} {config : Config} {catalog : Catalog}
    (read : ofText text = .ok config) (built : config.catalog = .ok catalog) :
    config.Extends catalog ∧
      ∃ document, readDocument? text = some document ∧ config.DescribedBy document := by
  obtain ⟨document, isDocument, described⟩ := exists_describedBy read
  refine ⟨?_, document, isDocument, described⟩
  obtain ⟨added, isAdded, done⟩ := bind_eq_ok.mp built
  have sameLanguages : catalog.languages = added.languages := by
    cases done
    exact languages_foldl_addAlias added config.aliases
  have aliases : catalog.aliases = setAliases added.aliases config.aliases := by
    cases done
    exact Catalog.aliases_foldl_addAlias (small_aliases described) added
  have small := isSmall_ofText read
  refine ⟨fun id category => ?rule, fun id => ?ids, ?groups, fun name isSmall => ?resolve⟩
  case rule =>
    obtain ⟨rules, makes, isRule⟩ := Catalog.rule?_addEntries small isAdded id category
    have isFound : catalog.rule? id category = added.rule? id category := by
      simp only [Catalog.rule?, Catalog.find?, sameLanguages]
    have last := getLast?_of_forall₂ makes
    rw [isFound, isRule, lastRule?]
    split
    · rename_i entry isLast
      rw [isLast] at last
      obtain ⟨rule, isLastRule, describes, -⟩ := last
      exact ⟨rule, by rw [isLastRule, Option.some_or], describes⟩
    · rename_i isNone
      rw [isNone] at last
      rw [last, Option.none_or]
  case ids =>
    rw [Catalog.ids, sameLanguages]
    exact Catalog.mem_ids_addEntries small isAdded id
  case groups =>
    rw [sameLanguages]
    refine foldlM_ok_induction (fun catalog : Catalog =>
      ∀ language ∈ catalog.languages, language.HasGroups)
      (fun _ _ _ hasGroups => Catalog.hasGroups_addEntry hasGroups) ?_ isAdded
    rw [Catalog.languages_builtin]
    exact Builtin.hasGroups_languages
  case resolve =>
    rw [Catalog.resolve, Catalog.resolve, isSmall, aliases, lookup_setAliases,
      Catalog.aliases_addEntries small isAdded, lookup_setAliases,
      LanguageEntry.lookup_flatMap_writes, ← Option.or_assoc, ← target?, Option.getD_or]

/-! ### Tables whose names differ in case only -/

/-- An entry that describes one rule for keywords. -/
def keywordsEntry (pattern : String) : LanguageEntry where
  name := "py"
  rules := [{ category := .keywords, source := { text := pattern } }]

theorem ofText_keywordsEntries :
    ofText "[languages.Py]\nkeywords = \"a\"\n\n[languages.py]\nkeywords = \"b\"\n" =
      .ok { languages := [keywordsEntry "a", keywordsEntry "b"] } := by
  rw [← toOption_eq_some]
  decide +kernel

/-- The entry is added to a language under its name that goes by rules, and makes one that does. -/
theorem exists_addEntry_keywordsEntry {catalog : Catalog} (pattern : String)
    (made : (keywordsEntry pattern).language.toOption.isSome)
    (generic : ∀ language, catalog.find? "py" = some language → language.strategy = .generic) :
    ∃ next, catalog.addEntry (keywordsEntry pattern) = .ok next ∧
      ∀ language, next.find? "py" = some language → language.strategy = .generic := by
  obtain ⟨language, isSome⟩ := Option.isSome_iff_exists.mp made
  have isMade := toOption_eq_some.mp isSome
  obtain ⟨rules, -, isLanguage⟩ := LanguageEntry.language_eq_ok_iff.mp isMade
  rw [Definition.language_eq] at isLanguage
  have isName : language.name = "py" := by
    rw [isLanguage]
    exact (by decide +kernel : lowercase "py" = "py")
  have isGeneric : language.strategy = .generic := by rw [isLanguage]; rfl
  have after : ∀ other, (catalog.addLanguage language).find? "py" = some other →
      other.strategy = .generic := by
    intro other found
    rw [← isName] at found generic
    cases before : catalog.find? language.name with
    | none =>
        rw [Catalog.find?_addLanguage_of_new (Catalog.find?_eq_none_iff.mp before)] at found
        cases found
        exact isGeneric
    | some old =>
        rw [Catalog.find?_addLanguage_of_known before] at found
        cases found
        rw [Language.strategy_merge]
        exact generic old before
  refine ⟨catalog.addLanguage language, Catalog.addEntry_eq_ok_iff.mpr
    ⟨language, isMade, rfl, fun other found unused => ?_⟩, after⟩
  have known : (keywordsEntry pattern).name ∈ (catalog.addLanguage language).ids := by
    have isKnown : "py" ∈ (catalog.register (.language language)).ids :=
      Catalog.mem_ids_register.mpr (.inr (List.mem_singleton.mpr isName.symm))
    exact isKnown
  obtain ⟨direct, isDirect⟩ := Option.isSome_iff_exists.mp (Catalog.find?_isSome_iff.mpr known)
  rw [Catalog.get?, isDirect] at found
  cases found
  have isStructured := unused.strategy
  rw [after other isDirect] at isStructured
  cases isStructured

/-- The table that comes last gives the rule, although its name is not the one that the language was
added under first. -/
theorem extends_catalog_keywordsEntries :
    ∃ config catalog rule,
      ofText "[languages.Py]\nkeywords = \"a\"\n\n[languages.py]\nkeywords = \"b\"\n" = .ok config ∧
        config.catalog = .ok catalog ∧ config.Extends catalog ∧
        catalog.rule? "py" .keywords = some rule ∧ rule.source = { text := "b" } := by
  have isNew : ∀ language, Catalog.builtin.find? "py" = some language →
      language.strategy = .generic := by
    intro language found
    have missing : Catalog.builtin.find? "py" = none := by
      rw [Catalog.find?_eq_none_iff, Catalog.ids_builtin]
      decide
    rw [missing] at found
    cases found
  obtain ⟨first, isFirst, generic⟩ :=
    exists_addEntry_keywordsEntry "a" (by decide +kernel) isNew
  obtain ⟨second, isSecond, -⟩ :=
    exists_addEntry_keywordsEntry "b" (by decide +kernel) generic
  have built : ({ languages := [keywordsEntry "a", keywordsEntry "b"] } : Config).catalog =
      .ok second := by
    have both : [keywordsEntry "a", keywordsEntry "b"].foldlM Catalog.addEntry .builtin =
        .ok second := by
      rw [List.foldlM_cons, bind_eq_ok]
      refine ⟨first, isFirst, ?_⟩
      rw [List.foldlM_cons, bind_eq_ok]
      exact ⟨second, isSecond, List.foldlM_nil⟩
    rw [Config.catalog, both]
    rfl
  have extended := (extends_catalog ofText_keywordsEntries built).1
  obtain ⟨rule, isRule, describes⟩ := extended.rule? "py" .keywords
  exact ⟨_, second, rule, ofText_keywordsEntries, built, extended, isRule, describes.source⟩

end Config

end Tint
