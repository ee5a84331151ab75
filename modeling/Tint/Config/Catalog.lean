import Tint.Builtin.Catalog
import Tint.Config.Basic

/-!
# Configured catalogs

The languages of a configuration are added to the built-in ones.  A language that is there already
gets the rules in addition to its own.  The tokenizer for keys and values never looks at rules, so a
language that would have both is refused.
-/

namespace Tint

/-- Makes the rule.  `language` is the name that errors give. -/
def RuleEntry.rule (language : String) (entry : RuleEntry) : Except ConfigError Rule :=
  match Rule.ofSource entry.category entry.source with
  | .error cause => .error (.badPattern language entry.category.name cause)
  | .ok rule =>
      if rule.matcher.groupCount < entry.group then
        .error (.badEntry language entry.category.name (.noSuchGroup entry.group))
      else .ok ((rule.withGroup entry.group).withClass (entry.chosenClass.getD rule.tokenClass))

/-- Makes the language with its rules. -/
def LanguageEntry.language (entry : LanguageEntry) : Except ConfigError Language :=
  let start := entry.aliases.foldl Language.addAlias (.named entry.name)
  let start := { start with strategy := entry.strategy.getD .generic }
  entry.rules.foldlM (fun language rule => language.addRule <$> rule.rule entry.name) start

namespace Catalog

/-- Adds the language of an entry, and chooses the tokenizer of the language that its name stands
for. -/
def addEntry (catalog : Catalog) (entry : LanguageEntry) : Except ConfigError Catalog := do
  let language ← entry.language
  let catalog := catalog.addLanguage language
  let catalog := match entry.strategy with
    | some strategy => catalog.update entry.name fun language => { language with strategy }
    | none => catalog
  match catalog.get? entry.name with
  | none => return catalog
  | some language =>
      match language.strategy, language.rules with
      | .structured, rule :: _ => throw (.badEntry language.name rule.category.name .ruleUnused)
      | _, _ => return catalog

end Catalog

namespace Config

/-- The built-in catalog with the languages and then the further names of a configuration. -/
def catalog (config : Config) : Except ConfigError Catalog := do
  let catalog ← config.languages.foldlM Catalog.addEntry .builtin
  return config.aliases.foldl (fun catalog (name, target) => catalog.addAlias name target) catalog

/-- The highlighter of a configuration. -/
def highlighter (config : Config) : Except ConfigError Highlighter := do
  return { catalog := ← config.catalog, classPrefix := config.classPrefix }

end Config

end Tint
