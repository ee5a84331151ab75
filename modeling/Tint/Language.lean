import Tint.Rule
import Tint.Unicode.Case

/-!
# Languages

A language is a set of rules under one name: at most one rule for each category, kept in the order
in which they are tried, and the tokenizer that handles its texts.
-/

namespace Tint

open Tint.Unicode

/-- Which tokenizer handles a language. -/
inductive Strategy where
  /-- The rules of the language, one category after the other. -/
  | generic
  /-- The tokenizer for keys and values, which needs no rules. -/
  | structured
  deriving DecidableEq, Repr

/-- A language: its name and further names in small letters, its tokenizer and its rules. -/
structure Language where
  name : String
  aliases : List String := []
  strategy : Strategy := .generic
  rules : List Rule := []

/-- Adds a rule in its place in the order of categories, instead of any rule of the same category.
-/
def insertRule (rule : Rule) : List Rule → List Rule
  | [] => [rule]
  | other :: rest =>
      if other.category.rank < rule.category.rank then other :: insertRule rule rest
      else if other.category = rule.category then rule :: rest
      else rule :: other :: rest

namespace Language

/-- A language without rules. -/
def named (name : String) : Language :=
  { name := lowercase name }

/-- Adds a further name. -/
def addAlias (language : Language) (name : String) : Language :=
  { language with aliases := language.aliases ++ [lowercase name] }

/-- Adds a rule, instead of any rule of the same category. -/
def addRule (language : Language) (rule : Rule) : Language :=
  { language with rules := insertRule rule language.rules }

/-- The rule of a category. -/
def rule? (language : Language) (category : Category) : Option Rule :=
  language.rules.find? (·.category == category)

/-- Adds the further names that are missing, and the rules, of another language.  The name and the
tokenizer stay. -/
def merge (language other : Language) : Language :=
  let aliases := other.aliases.foldl
    (fun aliases name => if aliases.contains name then aliases else aliases ++ [name])
    language.aliases
  other.rules.foldl addRule { language with aliases }

end Language

end Tint
