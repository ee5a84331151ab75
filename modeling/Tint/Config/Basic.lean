import Tint.Config.Error
import Tint.Highlighter
import Tint.Toml.Document

/-!
# Configurations

A configuration chooses the prefix of class names, adds further names of languages, and describes
languages, new ones or more rules for those that are there.  It is read from a TOML document, whose
entries are taken in the order of their keys; the first fault counts.
-/

namespace Tint

open Tint.Toml Tint.Unicode

/-- The description of a rule. -/
structure RuleEntry where
  category : Category
  source : RuleSource
  /-- The class, if it is not the default one of the category. -/
  chosenClass : Option TokenClass := none
  group : Nat := 0
  deriving DecidableEq, Repr

/-- The description of a language.  The name is in small letters. -/
structure LanguageEntry where
  name : String
  /-- The tokenizer, if one is chosen. -/
  strategy : Option Strategy := none
  aliases : List String := []
  rules : List RuleEntry := []
  deriving DecidableEq, Repr

/-- A configuration.  Further names and their targets are in small letters. -/
structure Config where
  classPrefix : String := defaultClassPrefix
  aliases : List (String × String) := []
  languages : List LanguageEntry := []
  deriving DecidableEq, Repr

/-- The value, or the error if there is none. -/
def orError {ε α : Type} (error : ε) : Option α → Except ε α
  | some value => .ok value
  | none => .error error

/-- Characters that the prefix of class names may have: those that mean nothing else in an
attribute. -/
def isPrefixChar (c : Char) : Bool :=
  isAsciiLetter c || isAsciiDigit c || c == '-' || c == '_'

namespace RuleEntry

/-- Sets what one entry in the table of a rule says. -/
def setOption (language : String) (rule : RuleEntry) :
    String × Value → Except ConfigError RuleEntry
  | (key, value) =>
      let fault := ConfigError.badEntry language rule.category.name
      match key with
      | "pattern" => do
          let text ← orError (fault .patternNotString) value.string?
          return { rule with source := { rule.source with text } }
      | "class" => do
          let name ← orError (fault .classNotString) value.string?
          let tokenClass ← orError (.unknownClass name) (TokenClass.ofName? name)
          return { rule with chosenClass := some tokenClass }
      | "case-insensitive" => do
          let ignoreCase ← orError (fault (.optionNotBoolean key)) value.boolean?
          return { rule with source := { rule.source with ignoreCase } }
      | "multiline" => do
          let multiLine ← orError (fault (.optionNotBoolean key)) value.boolean?
          return { rule with source := { rule.source with multiLine } }
      | "group" => do
          let group ← orError (fault .groupNotCount) (value.integer?.bind Int.toNat?)
          return { rule with group }
      | _ => .error (fault (.unknownOption key))

/-- Reads a rule: a pattern alone, or a table with a pattern that is not empty. -/
def ofValue (language : String) (category : Category) : Value → Except ConfigError RuleEntry
  | .string text => .ok { category, source := { text } }
  | .table options => do
      let rule ← options.foldlM (setOption language) { category, source := { text := "" } }
      if rule.source.text.isEmpty then
        throw (.badEntry language category.name .patternMissing)
      else return rule
  | _ => .error (.badEntry language category.name .notRule)

end RuleEntry

namespace LanguageEntry

/-- Sets what one entry in the table of a language says.  Errors give the name of the language as it
is written. -/
def setEntry (written : String) (language : LanguageEntry) :
    String × Value → Except ConfigError LanguageEntry
  | (key, value) =>
      let fault := ConfigError.badEntry written key
      match key with
      | "structured" => do
          let structured ← orError (fault .notBoolean) value.boolean?
          return { language with strategy := some (if structured then .structured else .generic) }
      | "aliases" => do
          let items ← orError (fault .notArray) value.array?
          let aliases ← items.mapM fun item => orError (fault .notStrings) item.string?
          return { language with aliases }
      | _ => do
          let category ← orError (.unknownCategory key) (Category.ofName? key)
          let rule ← RuleEntry.ofValue written category value
          return { language with rules := language.rules ++ [rule] }

/-- Reads the description of a language. -/
def ofValue (written : String) (value : Value) : Except ConfigError LanguageEntry := do
  let entries ← orError (.notTable written) value.table?
  entries.foldlM (setEntry written) { name := lowercase written }

end LanguageEntry

namespace Config

/-- Reads the prefix of class names. -/
def readPrefix (value : Value) : Except ConfigError String := do
  let classPrefix ← orError (.notString "class-prefix") value.string?
  if classPrefix.toList.all isPrefixChar then return classPrefix
  else throw (.badPrefix classPrefix)

/-- Reads a further name and its target. -/
def readAlias : String × Value → Except ConfigError (String × String)
  | (name, target) => do
      let target ← orError (.notString ("aliases." ++ name)) target.string?
      return (lowercase name, lowercase target)

/-- Sets what one entry of a document says. -/
def setEntry (config : Config) : String × Value → Except ConfigError Config
  | (key, value) =>
      match key with
      | "class-prefix" => do
          let classPrefix ← readPrefix value
          return { config with classPrefix }
      | "aliases" => do
          let entries ← orError (.notTable key) value.table?
          let aliases ← entries.mapM readAlias
          return { config with aliases }
      | "languages" => do
          let entries ← orError (.notTable key) value.table?
          let languages ← entries.mapM fun (name, value) => LanguageEntry.ofValue name value
          return { config with languages }
      | _ => .error (.unknownKey key)

/-- Reads a configuration from the entries of a document. -/
def ofTable (table : Table) : Except ConfigError Config :=
  table.foldlM setEntry {}

/-- Reads a configuration. -/
def ofText (text : String) : Except ConfigError Config := do
  let table ← orError .notToml (readDocument? text)
  ofTable table

end Config

end Tint
