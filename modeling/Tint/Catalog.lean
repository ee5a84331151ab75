import Tint.Language

/-!
# Catalogs

A catalog holds languages by name, and the further names under which they can be asked for.  A
language added under a name that is already there is merged into the one there.
-/

namespace Tint

open Tint.Unicode

/-- Languages, each under its own name, and targets of further names. -/
structure Catalog where
  languages : List Language := []
  aliases : List (String × String) := []

/-- Sets the target of a further name, in place of an earlier one. -/
def setAlias (name target : String) : List (String × String) → List (String × String)
  | [] => [(name, target)]
  | (other, value) :: rest =>
      if other = name then (name, target) :: rest else (other, value) :: setAlias name target rest

/-- The extension of a file name: what follows the last period of the last part of a path.  A name
without a period, or with its only period at the start, has none; nor has a path to a directory
above. -/
def fileExtension? (path : String) : Option String :=
  match ((path.splitOn "/").filter fun part => part != "" && part != ".").getLast? with
  | none | some ".." => none
  | some name =>
      let reversed := name.toList.reverse
      match reversed.dropWhile (· != '.') with
      | [] | [_] => none
      | _ => some (String.ofList (reversed.takeWhile (· != '.')).reverse)

namespace Catalog

/-- The language with exactly this name. -/
def find? (catalog : Catalog) (name : String) : Option Language :=
  catalog.languages.find? (·.name == name)

/-- Changes the language with exactly this name, keeping its name. -/
def modify (catalog : Catalog) (name : String) (change : Language → Language) : Catalog :=
  { catalog with
    languages := catalog.languages.map fun language =>
      if language.name = name then change language else language }

/-- Adds a language with its further names. -/
def addLanguage (catalog : Catalog) (language : Language) : Catalog :=
  let aliases := language.aliases.foldl
    (fun aliases name => setAlias name language.name aliases) catalog.aliases
  let catalog := { catalog with aliases }
  match catalog.find? language.name with
  | some _ => catalog.modify language.name (·.merge language)
  | none => { catalog with languages := catalog.languages ++ [language] }

/-- Adds a further name for a language. -/
def addAlias (catalog : Catalog) (name target : String) : Catalog :=
  { catalog with aliases := setAlias (lowercase name) (lowercase target) catalog.aliases }

/-- The name that a name stands for, without blanks around it and in small letters.  A name that is
no further name stands for itself, whether or not there is such a language. -/
def resolve (catalog : Catalog) (name : String) : String :=
  let name := lowercase (trim name)
  (catalog.aliases.lookup name).getD name

/-- The language with a name, or with the name that it stands for. -/
def get? (catalog : Catalog) (name : String) : Option Language :=
  catalog.find? name <|> catalog.find? (catalog.resolve name)

/-- Changes the language that a name stands for. -/
def update (catalog : Catalog) (name : String) (change : Language → Language) : Catalog :=
  catalog.modify (catalog.resolve name) change

/-- Whether there is a language with this name. -/
def supports (catalog : Catalog) (name : String) : Bool :=
  (catalog.get? name).isSome

/-- The name of the language that a file's extension stands for. -/
def detect? (catalog : Catalog) (path : String) : Option String :=
  ((fileExtension? path).bind catalog.get?).map (·.name)

/-- The names of all languages, sorted. -/
def names (catalog : Catalog) : List String :=
  (catalog.languages.map (·.name)).mergeSort (· ≤ ·)

/-- The further names of a language, sorted. -/
def aliasesOf (catalog : Catalog) (name : String) : List String :=
  ((catalog.aliases.filter (·.2 == name)).map (·.1)).mergeSort (· ≤ ·)

end Catalog

end Tint
