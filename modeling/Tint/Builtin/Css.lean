import Tint.Builtin.Patterns

/-!
# CSS

Words and rules of CSS.
-/

namespace Tint.Builtin

namespace Css

/-- Names of functions. -/
def functions : List String :=
  ["rgb", "rgba", "hsl", "hsla", "url", "calc", "var", "min", "max", "clamp", "linear-gradient",
   "radial-gradient"]

/-- Units of lengths, angles and times. -/
def unitNames : List String :=
  ["px", "em", "rem", "%", "vh", "vw", "vmin", "vmax", "ch", "ex", "mm", "cm", "in", "pt", "pc",
   "deg", "rad", "turn", "s", "ms"]

/-- A number and a unit. -/
def dimensions : String :=
  "\\b\\d+(?:" ++ "|".intercalate unitNames ++ ")\\b"

/-- A list of selectors before an opening brace; the list is group 1. -/
def selectors : String :=
  "([.#]?[\\w-]+(?:\\s*,\\s*[.#]?[\\w-]+)*)\\s*\\\x7b"

end Css

open Css in
/-- The language CSS.  Selectors and properties are told by what follows them. -/
def css : Language :=
  language "css" ["scss", "sass"]
    [ rule .comments "/\\*[\\s\\S]*?\\*/",
      rule .strings quotedString,
      contextRule .selectors selectors,
      contextRule .properties "([\\w-]+)\\s*:",
      contextRule .values ":\\s*([^;]+);",
      rule .keywords (words ["important", "inherit", "initial", "unset", "auto", "none"]),
      rule .functions (words functions),
      rule .units dimensions,
      rule .colors "#[0-9a-fA-F]\x7b3,8\x7d\\b",
      rule .numbers number ]

end Tint.Builtin
