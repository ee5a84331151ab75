/-!
# Tables over code points

The character data of this library is written down as text: a list of hexadecimal code points, each
with what starts there.  This module reads such text and looks code points up in it.

A `Runs α` cuts the code points into consecutive runs, each with one value.  A `Ranges` is the
special case of a set, and a `Shifts` sends code points to others a fixed distance away.
-/

namespace Tint.Unicode

/-- The value of one hexadecimal digit. -/
def hexDigit? (c : Char) : Option Nat :=
  if '0' ≤ c ∧ c ≤ '9' then some (c.toNat - '0'.toNat)
  else if 'a' ≤ c ∧ c ≤ 'f' then some (c.toNat - 'a'.toNat + 10)
  else if 'A' ≤ c ∧ c ≤ 'F' then some (c.toNat - 'A'.toNat + 10)
  else none

/-- The number that hexadecimal digits stand for.  Characters that are no digit count as zero. -/
def hexNumber (digits : List Char) : Nat :=
  digits.foldl (fun number c => number * 16 + (hexDigit? c).getD 0) 0

/-- The words in the lines of a table, which blanks separate. -/
def tableWords (lines : List String) : List (List Char) :=
  lines.flatMap fun line => (line.toList.splitOn ' ').filter (!·.isEmpty)

/-- The last position in a sorted array whose entry is at most `x`, searched by halving between
`low` and `high`.  The first argument bounds the number of halvings. -/
def lastAtMost (sorted : Array Nat) (x : Nat) : Nat → Nat → Nat → Nat
  | 0, low, _ => low
  | steps + 1, low, high =>
      if high ≤ low + 1 then low
      else
        let middle := (low + high) / 2
        if sorted.getD middle 0 ≤ x then lastAtMost sorted x steps middle high
        else lastAtMost sorted x steps low middle

/-- Consecutive runs of code points, each with the value that holds from its start on. -/
structure Runs (α : Type) where
  starts : Array Nat
  values : Array α

namespace Runs

/-- Reads words such as `41:Lu`, a start and the value from there on. -/
def ofLines {α : Type} (value : List Char → α) (lines : List String) : Runs α :=
  (tableWords lines).foldl
    (fun runs word =>
      { starts := runs.starts.push (hexNumber (word.takeWhile (· != ':')))
        values := runs.values.push (value ((word.dropWhile (· != ':')).drop 1)) })
    ⟨#[], #[]⟩

/-- The value of the run that holds the code point. -/
def get? {α : Type} (runs : Runs α) (code : Nat) : Option α :=
  runs.values[lastAtMost runs.starts code runs.starts.size 0 runs.starts.size]?

end Runs

/-- A set of code points: `bounds` lists where it is entered and left, in turns. -/
structure Ranges where
  bounds : Array Nat

namespace Ranges

/-- Reads words such as `41-5A` or `AA`, in increasing order. -/
def ofLines (lines : List String) : Ranges :=
  ⟨(tableWords lines).foldl
    (fun bounds word =>
      let first := hexNumber (word.takeWhile (· != '-'))
      let last := match word.dropWhile (· != '-') with
        | [] => first
        | _ :: digits => hexNumber digits
      (bounds.push first).push (last + 1))
    #[]⟩

/-- A code point is in the set if it lies behind an odd number of bounds. -/
def contains (ranges : Ranges) (code : Nat) : Bool :=
  decide (ranges.bounds.getD 0 (code + 1) ≤ code) &&
    lastAtMost ranges.bounds code ranges.bounds.size 0 ranges.bounds.size % 2 == 0

end Ranges

/-- A block of code points that move by one distance: `first`, `first + step`, … up to `last` go to
`target`, `target + step`, …. -/
structure Shift where
  first : Nat
  last : Nat
  step : Nat
  target : Nat

/-- Where the block sends a code point, if it holds it. -/
def Shift.target? (shift : Shift) (code : Nat) : Option Nat :=
  if shift.first ≤ code ∧ code ≤ shift.last ∧ (code - shift.first) % shift.step = 0 then
    some (shift.target + (code - shift.first))
  else none

/-- Reads words such as `41-5A=61`, `100-12E/2=101` (every second code point) or `DF=1E9E`. -/
def Shift.listOfLines (lines : List String) : List Shift :=
  (tableWords lines).map fun word =>
    let source := word.takeWhile (· != '=')
    let target := hexNumber ((word.dropWhile (· != '=')).drop 1)
    let first := hexNumber (source.takeWhile fun c => c != '-' && c != '/')
    let last := match (source.takeWhile (· != '/')).dropWhile (· != '-') with
      | [] => first
      | _ :: digits => hexNumber digits
    ⟨first, last, if source.contains '/' then 2 else 1, target⟩

end Tint.Unicode
