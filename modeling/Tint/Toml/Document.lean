import Tint.Toml.Number
import Tint.Toml.Tree

/-!
# Reading TOML documents

A document is a list of lines: key-value pairs and headers of tables and arrays of tables.  Values
can hold arrays, which go over several lines, and tables in braces, which do not.
-/

namespace Tint.Toml

mutual

/-- Reads a value.  `depth` bounds the nesting and `steps` the length. -/
def readValue : (steps depth : Nat) → Reader Value
  | 0, _, _ => none
  | steps + 1, depth, cs =>
      match cs with
      | [] => none
      | c :: rest =>
          if c == '"' || c == '\'' then
            (readString cs).map fun (text, rest) => (.string text, rest)
          else if c == '[' then
            match depth with
            | 0 => none
            | depth + 1 => readItems steps depth [] rest
          else if c == '\x7B' then
            match depth with
            | 0 => none
            | depth + 1 =>
                match dropBlanks rest with
                | '\x7D' :: rest => some (.table [], rest)
                | rest => readPairs steps depth [] rest
          else
            match cs with
            | 't' :: 'r' :: 'u' :: 'e' :: rest => some (.boolean true, rest)
            | 'f' :: 'a' :: 'l' :: 's' :: 'e' :: rest => some (.boolean false, rest)
            | cs => readNumeric cs

/-- Reads the items of an array up to its closing bracket.  `done` holds those so far, last first.
-/
def readItems : (steps depth : Nat) → (done : List Value) → Reader Value
  | 0, _, _, _ => none
  | steps + 1, depth, done, cs =>
      match dropLines? (cs.length + 1) cs with
      | none => none
      | some (']' :: rest) => some (.array done.reverse, rest)
      | some cs =>
          match readValue steps depth cs with
          | none => none
          | some (item, rest) =>
              match dropLines? (rest.length + 1) rest with
              | some (',' :: rest) => readItems steps depth (item :: done) rest
              | some (']' :: rest) => some (.array (item :: done).reverse, rest)
              | _ => none

/-- Reads the pairs of a table in braces up to the closing one, one pair at least. -/
def readPairs : (steps depth : Nat) → (entries : Branches) → Reader Value
  | 0, _, _, _ => none
  | steps + 1, depth, entries, cs =>
      match readPath cs with
      | some (keys, '=' :: rest) =>
          match readValue steps depth (dropBlanks rest), splitPath keys with
          | some (value, rest), some (path, key) =>
              match addValue path key value .defined entries with
              | none => none
              | some entries =>
                  match dropBlanks rest with
                  | ',' :: rest => readPairs steps depth entries rest
                  | '\x7D' :: rest => some (.table (Tree.values entries), rest)
                  | _ => none
          | _, _ => none
      | _ => none

end

/-- A document as read so far: its entries, and the path of the table that the last header opened.
-/
structure Draft where
  root : Branches := []
  current : List String := []

/-- Reads a header after its opening brackets. -/
def readHeader (isElement : Bool) (draft : Draft) (cs : List Char) :
    Option (Draft × List Char) := do
  let (keys, rest) ← readPath cs
  let rest ← match isElement, rest with
    | false, ']' :: rest => some rest
    | true, ']' :: ']' :: rest => some rest
    | _, _ => none
  let rest ← afterLine? rest
  let (path, key) ← splitPath keys
  let root ← if isElement then openElement path key draft.root else openTable path key draft.root
  return (⟨root, keys⟩, rest)

/-- Reads a line with a key-value pair. -/
def readPair (draft : Draft) (cs : List Char) : Option (Draft × List Char) := do
  let (keys, rest) ← readPath cs
  let rest ← readChar '=' rest
  let rest := dropBlanks rest
  let (value, rest) ← readValue (rest.length + 1) (depthLimit - 1) rest
  let rest ← afterLine? rest
  let (path, key) ← splitPath keys
  let root ← changeAt false (fun origin entries => addValue path key value origin entries)
    draft.current .defined draft.root
  return ({ draft with root }, rest)

/-- Reads the lines of a document. -/
def readLines : (steps : Nat) → Draft → List Char → Option Draft
  | 0, _, _ => none
  | steps + 1, draft, cs =>
      match dropBlanks cs with
      | [] => some draft
      | '#' :: rest => (afterLine? ('#' :: rest)).bind (readLines steps draft)
      | '[' :: '[' :: rest =>
          (readHeader true draft rest).bind fun (draft, rest) => readLines steps draft rest
      | '[' :: rest =>
          (readHeader false draft rest).bind fun (draft, rest) => readLines steps draft rest
      | cs =>
          match afterLineEnd? cs with
          | some rest => readLines steps draft rest
          | none => (readPair draft cs).bind fun (draft, rest) => readLines steps draft rest

/-- Reads a document, which a byte order mark may precede; `none` if it is not valid. -/
def readDocument? (text : String) : Option Table :=
  let cs := match text.toList with
    | '\uFEFF' :: rest => rest
    | cs => cs
  (readLines (cs.length + 1) {} cs).map fun draft => Tree.values draft.root

end Tint.Toml
