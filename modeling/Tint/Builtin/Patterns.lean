import Tint.Language

/-!
# Patterns of several languages

What the built-in languages have in common: lists of words, quoted strings and numbers, and how a
language is made of its rules.  Patterns have no look-around, so what has to follow a match is
matched too and kept out of the rule's group.
-/

namespace Tint.Builtin

open Tint.Regex

/-- One of the words, in a group, with no word character next to it. -/
def words (list : List String) : String :=
  "\\b(" ++ "|".intercalate list ++ ")\\b"

/-- A string between single or double quotes.  A backslash takes the character after it, and a
string does not go past a line feed. -/
def quotedString : String :=
  "\"(?:[^\"\\\\\\n]|\\\\.)*\"|'(?:[^'\\\\\\n]|\\\\.)*'"

/-- A number with or without a fraction. -/
def number : String :=
  "\\b\\d+\\.?\\d*\\b"

/-- A name directly before an opening parenthesis; the name is group 1. -/
def calledName : String :=
  "\\b([a-zA-Z_]\\w*)\\s*\\("

/-- A rule of a pattern in which case matters. -/
def rule (category : Category) (pattern : String) : Read Rule :=
  Rule.ofSource category { text := pattern }

/-- A rule of a pattern in which case does not matter. -/
def anyCaseRule (category : Category) (pattern : String) : Read Rule :=
  Rule.ofSource category { text := pattern, ignoreCase := true }

/-- A rule of a pattern whose anchors match at lines. -/
def lineRule (category : Category) (pattern : String) : Read Rule :=
  Rule.ofSource category { text := pattern, multiLine := true }

/-- A rule of a pattern that classifies its first group. -/
def contextRule (category : Category) (pattern : String) : Read Rule :=
  (·.withGroup 1) <$> rule category pattern

/-- The language with a name, further names and the rules that could be read. -/
def language (name : String) (aliases : List String) (rules : List (Read Rule)) : Language :=
  rules.foldl
    (fun language rule => match rule with
      | .ok rule => language.addRule rule
      | .error _ => language)
    (aliases.foldl Language.addAlias (.named name))

end Tint.Builtin
