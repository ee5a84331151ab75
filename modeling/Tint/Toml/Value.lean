/-!
# TOML values

What a TOML document says: a table whose entries are in the order of their keys.  Floats and dates
are kept as they are written, because nothing here computes with them.
-/

namespace Tint.Toml

/-- A value of a document. -/
inductive Value where
  | string (text : String)
  | integer (value : Int)
  | float (text : String)
  | boolean (value : Bool)
  | dateTime (text : String)
  | array (items : List Value)
  | table (entries : List (String × Value))
  deriving Repr

/-- Entries in the order of their keys. -/
abbrev Table := List (String × Value)

namespace Value

/-- The text of a string. -/
def string? : Value → Option String
  | string text => some text
  | _ => none

/-- The value of an integer. -/
def integer? : Value → Option Int
  | integer value => some value
  | _ => none

/-- The value of a boolean. -/
def boolean? : Value → Option Bool
  | boolean value => some value
  | _ => none

/-- The items of an array. -/
def array? : Value → Option (List Value)
  | array items => some items
  | _ => none

/-- The entries of a table. -/
def table? : Value → Option Table
  | table entries => some entries
  | _ => none

section Kind

variable {value : Value}

theorem string?_eq_some_iff {text : String} : value.string? = some text ↔ value = string text := by
  cases value <;> simp [string?]

theorem integer?_eq_some_iff {held : Int} : value.integer? = some held ↔ value = integer held := by
  cases value <;> simp [integer?]

theorem boolean?_eq_some_iff {on : Bool} : value.boolean? = some on ↔ value = boolean on := by
  cases value <;> simp [boolean?]

theorem array?_eq_some_iff {items : List Value} :
    value.array? = some items ↔ value = array items := by
  cases value <;> simp [array?]

theorem table?_eq_some_iff {entries : Table} :
    value.table? = some entries ↔ value = table entries := by
  cases value <;> simp [table?]

end Kind

/-! ## Comparing -/

mutual

/-- Whether two values are the same. -/
def same : Value → Value → Bool
  | string text, string other => text == other
  | integer value, integer other => value == other
  | float text, float other => text == other
  | boolean value, boolean other => value == other
  | dateTime text, dateTime other => text == other
  | array items, array others => sameItems items others
  | table entries, table others => sameEntries entries others
  | _, _ => false

def sameItems : List Value → List Value → Bool
  | [], [] => true
  | item :: items, other :: others => same item other && sameItems items others
  | _, _ => false

def sameEntries : List (String × Value) → List (String × Value) → Bool
  | [], [] => true
  | (key, value) :: entries, (otherKey, other) :: others =>
      key == otherKey && same value other && sameEntries entries others
  | _, _ => false

end

mutual

theorem same_iff {value other : Value} : same value other = true ↔ value = other := by
  cases value <;> cases other <;> simp [same, sameItems_iff, sameEntries_iff]

theorem sameItems_iff {items others : List Value} :
    sameItems items others = true ↔ items = others := by
  cases items <;> cases others <;> simp [sameItems, same_iff, sameItems_iff]

theorem sameEntries_iff {entries others : List (String × Value)} :
    sameEntries entries others = true ↔ entries = others := by
  cases entries with
  | nil => cases others <;> simp [sameEntries]
  | cons entry entries =>
      obtain ⟨key, value⟩ := entry
      cases others with
      | nil => simp [sameEntries]
      | cons other others =>
          obtain ⟨otherKey, other⟩ := other
          simp [sameEntries, same_iff, sameEntries_iff, and_assoc]

end

instance : DecidableEq Value := fun value other =>
  decidable_of_iff (same value other = true) same_iff

end Value

/-- Sets an entry at the place of its key in the order of keys, instead of an earlier one. -/
def setEntry {α : Type} (key : String) (value : α) : List (String × α) → List (String × α)
  | [] => [(key, value)]
  | (other, held) :: rest =>
      if other < key then (other, held) :: setEntry key value rest
      else if other = key then (key, value) :: rest
      else (key, value) :: (other, held) :: rest

end Tint.Toml
