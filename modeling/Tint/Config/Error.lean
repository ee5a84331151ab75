import Tint.Quoted
import Tint.Regex.Flags

/-!
# Errors of configurations

Why the text of a configuration is refused, or the languages that it describes cannot be had.
-/

namespace Tint

open Tint.Regex

/-- What is wrong with an entry in the table of a language. -/
inductive EntryFault where
  | notBoolean
  | notArray
  | notStrings
  | notRule
  | patternNotString
  | patternMissing
  | classNotString
  /-- An option that is on or off has another value. -/
  | optionNotBoolean (key : String)
  | groupNotCount
  | unknownOption (key : String)
  /-- The pattern has fewer groups. -/
  | noSuchGroup (group : Nat)
  /-- The tokenizer of the language does not use rules. -/
  | ruleUnused
  deriving DecidableEq, Repr

/-- The wording of a fault. -/
def EntryFault.message : EntryFault → String
  | notBoolean => "expected a boolean"
  | notArray => "expected an array"
  | notStrings => "expected strings"
  | notRule => "expected a pattern string or table"
  | patternNotString => "pattern must be a string"
  | patternMissing => "missing pattern"
  | classNotString => "class must be a string"
  | optionNotBoolean key => key ++ " must be a boolean"
  | groupNotCount => "group must be a non-negative integer"
  | unknownOption key => "unknown key: " ++ key
  | noSuchGroup group => "pattern has no capture group " ++ Nat.repr group
  | ruleUnused => "structured languages take no pattern rules"

/-- Why a configuration is refused. -/
inductive ConfigError where
  /-- The text is not a TOML document. -/
  | notToml
  | unknownKey (key : String)
  | notTable (what : String)
  | notString (what : String)
  /-- The prefix of class names has other characters than letters, digits, hyphens and underscores.
  -/
  | badPrefix (classPrefix : String)
  | unknownCategory (name : String)
  | unknownClass (name : String)
  | badEntry (language entry : String) (fault : EntryFault)
  | badPattern (language rule : String) (cause : PatternError)
  deriving DecidableEq, Repr

/-- The wording of an error. -/
def ConfigError.message : ConfigError → String
  | notToml => "config error: not a TOML document"
  | unknownKey key => "unknown config key: " ++ key
  | notTable what => what ++ ": expected a table"
  | notString what => what ++ ": expected a string"
  | badPrefix classPrefix => "class-prefix: invalid characters in " ++ Quoted.encode classPrefix
  | unknownCategory name => "unknown rule category: " ++ name
  | unknownClass name => "unknown token class: " ++ name
  | badEntry language entry fault =>
      "invalid rule " ++ language ++ "." ++ entry ++ ": " ++ fault.message
  | badPattern language rule cause =>
      "invalid pattern for " ++ language ++ "." ++ rule ++ ": " ++ cause.message

end Tint
