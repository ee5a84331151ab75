import Tint.Toml.Text
import Tint.Toml.Value

/-!
# Tables under construction

While a document is read, a table remembers how it came about, because that decides what may still
be added to it: a table with a header of its own may not be defined again, one that a header only
passed through may get a header later, and one made by a dotted key may be extended by dotted keys
only.
-/

namespace Tint.Toml

/-- How a table came about. -/
inductive Origin where
  /-- It has a header, or braces. -/
  | defined
  /-- A header named a table inside it. -/
  | implied
  /-- A dotted key went through it. -/
  | dotted
  deriving DecidableEq, Repr

/-- A value, a table that may still grow, or an array of tables, last one first. -/
inductive Tree where
  | leaf (value : Value)
  | table (origin : Origin) (entries : List (String × Tree))
  | tables (elements : List (List (String × Tree)))
  deriving Repr

/-- Entries of a table under construction, in the order of their keys. -/
abbrev Branches := List (String × Tree)

mutual

/-- The finished value. -/
def Tree.value : Tree → Value
  | .leaf value => value
  | .table _ entries => .table (Tree.values entries)
  | .tables elements => .array (Tree.elementValues elements).reverse

/-- The finished entries of a table. -/
def Tree.values : List (String × Tree) → List (String × Value)
  | [] => []
  | (key, tree) :: rest => (key, tree.value) :: Tree.values rest

/-- The finished elements of an array of tables. -/
def Tree.elementValues : List (List (String × Tree)) → List Value
  | [] => []
  | entries :: rest => .table (Tree.values entries) :: Tree.elementValues rest

end

/-- What is done at the end of a path, given how the table there came about; `none` is a refusal. -/
abbrev Change := Origin → Branches → Option Branches

/-- Makes a change in the table at the end of a path.  Tables that are missing on the way are made:
for a dotted key as dotted, for a header as implied.  A dotted key does not go through a table that
is defined, and nothing goes through another value.  An array of tables stands for its last element.
-/
def changeAt (dotted : Bool) (change : Change) : (path : List String) → Change
  | [], origin, entries => change origin entries
  | key :: path, _, entries =>
      let fresh : Origin := if dotted then .dotted else .implied
      match entries.lookup key with
      | none =>
          (changeAt dotted change path fresh []).map fun inner =>
            setEntry key (.table fresh inner) entries
      | some (.table origin inner) =>
          if dotted && origin == .defined then none
          else (changeAt dotted change path origin inner).map fun inner =>
            setEntry key (.table origin inner) entries
      | some (.tables (last :: before)) =>
          (changeAt dotted change path .defined last).map fun last =>
            setEntry key (.tables (last :: before)) entries
      | some (.tables []) => none
      | some (.leaf _) => none

/-- Adds an entry under a key that must be free. -/
def addLeaf (key : String) (value : Value) (entries : Branches) : Option Branches :=
  match entries.lookup key with
  | none => some (setEntry key (.leaf value) entries)
  | some _ => none

/-- Adds the value of a dotted key to a table.  The table that gets it must have been made by dotted
keys, unless the key is a single one. -/
def addValue (path : List String) (key : String) (value : Value) : Change :=
  changeAt true
    (fun origin entries =>
      if path.isEmpty || origin == .dotted then addLeaf key value entries else none)
    path

/-- Defines the table of a header. -/
def openTable (path : List String) (key : String) (root : Branches) : Option Branches :=
  changeAt false
    (fun _ entries =>
      match entries.lookup key with
      | none => some (setEntry key (.table .defined []) entries)
      | some (.table .implied inner) => some (setEntry key (.table .defined inner) entries)
      | some _ => none)
    path .defined root

/-- Adds an element to the array of tables of a header. -/
def openElement (path : List String) (key : String) (root : Branches) : Option Branches :=
  changeAt false
    (fun _ entries =>
      match entries.lookup key with
      | none => some (setEntry key (.tables [[]]) entries)
      | some (.tables elements) => some (setEntry key (.tables ([] :: elements)) entries)
      | some _ => none)
    path .defined root

/-- The keys before the last one, and the last one. -/
def splitPath : List String → Option (List String × String)
  | [] => none
  | [key] => some ([], key)
  | key :: rest => (splitPath rest).map fun (path, last) => (key :: path, last)

end Tint.Toml
