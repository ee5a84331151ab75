import Tint.Unicode.Table

/-!
# Strings and keys of TOML

Readers for the four kinds of strings, for keys and for what stands between values.  A reader takes
the characters from some point on; it gives what it read with the characters after it, or `none` if
they do not have its form.
-/

namespace Tint.Toml

open Tint.Unicode

/-- A reader of some part of a document. -/
abbrev Reader (α : Type) := List Char → Option (α × List Char)

/-- Drops spaces and tabs. -/
def dropBlanks (cs : List Char) : List Char :=
  cs.dropWhile fun c => c == ' ' || c == '\t'

/-- Characters that can stand in comments, and in strings subject to their own rules: all but
control characters other than the tab. -/
def isContent (c : Char) : Bool :=
  c == '\t' || (0x20 ≤ c.toNat && c.toNat != 0x7F)

/-- The characters after a line end. -/
def afterLineEnd? : List Char → Option (List Char)
  | '\n' :: rest => some rest
  | '\r' :: '\n' :: rest => some rest
  | _ => none

/-- Drops a comment, if there is one, up to the end of its line. -/
def dropComment (cs : List Char) : List Char :=
  match cs with
  | '#' :: rest => rest.dropWhile isContent
  | cs => cs

/-- The characters after the rest of a line that may hold blanks and a comment only.  The end of the
document ends a line too. -/
def afterLine? (cs : List Char) : Option (List Char) :=
  match dropComment (dropBlanks cs) with
  | [] => some []
  | cs => afterLineEnd? cs

/-- Drops blanks, comments and line ends between the items of an array; `none` at a comment that no
line end follows.  Every step takes a line. -/
def dropLines? : (steps : Nat) → List Char → Option (List Char)
  | 0, cs => some cs
  | steps + 1, cs =>
      match dropBlanks cs with
      | '#' :: rest => (afterLineEnd? (rest.dropWhile isContent)).bind (dropLines? steps)
      | cs =>
          match afterLineEnd? cs with
          | some rest => dropLines? steps rest
          | none => some cs

/-- Reads exactly `count` hexadecimal digits; `code` is the number so far. -/
def readHex : (count : Nat) → (code : Nat) → Reader Nat
  | 0, code, cs => some (code, cs)
  | _ + 1, _, [] => none
  | count + 1, code, c :: rest =>
      match hexDigit? c with
      | none => none
      | some digit => readHex count (code * 16 + digit) rest

/-- Reads the escape after a backslash. -/
def readEscape : Reader Char
  | 'b' :: rest => some ('\x08', rest)
  | 't' :: rest => some ('\t', rest)
  | 'n' :: rest => some ('\n', rest)
  | 'f' :: rest => some ('\x0C', rest)
  | 'r' :: rest => some ('\r', rest)
  | '"' :: rest => some ('"', rest)
  | '\\' :: rest => some ('\\', rest)
  | 'u' :: rest => code 4 rest
  | 'U' :: rest => code 8 rest
  | _ => none
where
  /-- Reads a code point of `count` digits. -/
  code (count : Nat) (cs : List Char) : Option (Char × List Char) :=
    match readHex count 0 cs with
    | none => none
    | some (code, rest) =>
        if code < 0xD800 ∨ (0xDFFF < code ∧ code < 0x110000) then some (Char.ofNat code, rest)
        else none

/-- Reads a string on one line after its opening quote.  `done` holds the text so far, last
character first. -/
def readBasic : (steps : Nat) → (done : List Char) → Reader String
  | 0, _, _ => none
  | _ + 1, _, [] => none
  | steps + 1, done, c :: rest =>
      if c == '"' then some (String.ofList done.reverse, rest)
      else if c == '\\' then
        match readEscape rest with
        | none => none
        | some (c, rest) => readBasic steps (c :: done) rest
      else if isContent c then readBasic steps (c :: done) rest
      else none

/-- Reads a string without escapes on one line after its opening apostrophe. -/
def readLiteral (cs : List Char) : Option (String × List Char) :=
  let inside := cs.takeWhile fun c => c != '\'' && isContent c
  match cs.drop inside.length with
  | '\'' :: rest => some (String.ofList inside, rest)
  | _ => none

/-- What a row of quotes inside a string of several lines comes to: quotes that belong to the text,
and whether the string ends behind them.  Up to two quotes before the closing three belong to the
text. -/
def closingQuotes (count : Nat) : Nat × Bool :=
  if count < 3 then (count, false) else (min count 5 - 3, true)

/-- Drops blanks and line ends after a backslash at the end of a line. -/
def dropFolded : (steps : Nat) → List Char → List Char
  | 0, cs => cs
  | steps + 1, cs =>
      let cs := dropBlanks cs
      match afterLineEnd? cs with
      | some rest => dropFolded steps rest
      | none => cs

/-- Reads a string of several lines after its opening quotes and the line end behind them.  A line
end counts as a line feed however it is written. -/
def readMultiBasic : (steps : Nat) → (done : List Char) → Reader String
  | 0, _, _ => none
  | _ + 1, _, [] => none
  | steps + 1, done, c :: rest =>
      if c == '"' then
        let count := (rest.takeWhile (· == '"')).length + 1
        let (kept, closed) := closingQuotes count
        let done := List.replicate kept '"' ++ done
        if closed then some (String.ofList done.reverse, rest.drop (kept + 2))
        else readMultiBasic steps done (rest.drop (kept - 1))
      else if c == '\\' then
        match readEscape rest with
        | some (c, rest) => readMultiBasic steps (c :: done) rest
        | none =>
            match afterLineEnd? (dropBlanks rest) with
            | some rest => readMultiBasic steps done (dropFolded steps rest)
            | none => none
      else
        match afterLineEnd? (c :: rest) with
        | some rest => readMultiBasic steps ('\n' :: done) rest
        | none => if isContent c then readMultiBasic steps (c :: done) rest else none

/-- Reads a string of several lines without escapes, likewise. -/
def readMultiLiteral : (steps : Nat) → (done : List Char) → Reader String
  | 0, _, _ => none
  | _ + 1, _, [] => none
  | steps + 1, done, c :: rest =>
      if c == '\'' then
        let count := (rest.takeWhile (· == '\'')).length + 1
        let (kept, closed) := closingQuotes count
        let done := List.replicate kept '\'' ++ done
        if closed then some (String.ofList done.reverse, rest.drop (kept + 2))
        else readMultiLiteral steps done (rest.drop (kept - 1))
      else
        match afterLineEnd? (c :: rest) with
        | some rest => readMultiLiteral steps ('\n' :: done) rest
        | none => if isContent c then readMultiLiteral steps (c :: done) rest else none

/-- Reads a string of any kind. -/
def readString : Reader String
  | '"' :: '"' :: '"' :: rest =>
      let rest := (afterLineEnd? rest).getD rest
      readMultiBasic (rest.length + 1) [] rest
  | '"' :: rest => readBasic (rest.length + 1) [] rest
  | '\'' :: '\'' :: '\'' :: rest =>
      let rest := (afterLineEnd? rest).getD rest
      readMultiLiteral (rest.length + 1) [] rest
  | '\'' :: rest => readLiteral rest
  | _ => none

/-- Characters of keys without quotes. -/
def isBareKeyChar (c : Char) : Bool :=
  ('a' ≤ c && c ≤ 'z') || ('A' ≤ c && c ≤ 'Z') || ('0' ≤ c && c ≤ '9') || c == '-' || c == '_'

/-- Reads one key: a string on one line, or a bare key. -/
def readSimpleKey : Reader String
  | '"' :: rest => readBasic (rest.length + 1) [] rest
  | '\'' :: rest => readLiteral rest
  | cs =>
      let key := cs.takeWhile isBareKeyChar
      if key.isEmpty then none else some (String.ofList key, cs.drop key.length)

/-- The most keys in a row, and the most levels of nesting, that a document may have. -/
def depthLimit : Nat := 80

/-- Reads keys with periods between them, and blanks around each. -/
def readKeys : (steps : Nat) → Reader (List String)
  | 0, _ => none
  | steps + 1, cs =>
      match readSimpleKey (dropBlanks cs) with
      | none => none
      | some (key, rest) =>
          match dropBlanks rest with
          | '.' :: rest => (readKeys steps rest).map fun (keys, rest) => (key :: keys, rest)
          | rest => some ([key], rest)

/-- Reads a dotted key: one key at least and fewer than the limit. -/
def readPath (cs : List Char) : Option (List String × List Char) :=
  readKeys (depthLimit - 1) cs

end Tint.Toml
