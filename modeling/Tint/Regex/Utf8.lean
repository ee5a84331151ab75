import Tint.Regex.CharSet

/-!
# Characters as bytes

In UTF-8 a character is written with one to four bytes, more of them the greater its code point is.
A range of code points is the union of few *byte sequences*, each of which has a range of bytes at
every place and stands for all ways to choose one byte of each.
-/

namespace Tint.Regex

/-- Consecutive code points. -/
structure CodeRange where
  first : Nat
  last : Nat
  deriving DecidableEq, Repr

/-- Consecutive bytes. -/
structure ByteRange where
  first : Nat
  last : Nat
  deriving DecidableEq, Repr

namespace CodeRange

/-- Adds a code point to ranges that all lie above it, lowest first. -/
def cons (code : Nat) : List CodeRange → List CodeRange
  | range :: rest =>
      if range.first = code + 1 then ⟨code, range.last⟩ :: rest
      else ⟨code, code⟩ :: range :: rest
  | [] => [⟨code, code⟩]

/-- The union of ranges, lowest first and apart from each other. -/
def union (ranges : List CodeRange) : List CodeRange :=
  let sorted := ranges.mergeSort fun a b => a.first ≤ b.first
  let join (joined : List CodeRange) (range : CodeRange) : List CodeRange :=
    match joined with
    | last :: before =>
        if range.first ≤ last.last + 1 then ⟨last.first, max last.last range.last⟩ :: before
        else range :: joined
    | [] => [range]
  (sorted.foldl join []).reverse

/-- The part of a range that lies in another. -/
def inter? (range other : CodeRange) : Option CodeRange :=
  let first := max range.first other.first
  let last := min range.last other.last
  if first ≤ last then some ⟨first, last⟩ else none

/-- The code points that are written with the same number of bytes.  Surrogates are no characters
and split those of three bytes. -/
def ofOneLength : List CodeRange :=
  [⟨0, 0x7F⟩, ⟨0x80, 0x7FF⟩, ⟨0x800, 0xD7FF⟩, ⟨0xE000, 0xFFFF⟩, ⟨0x10000, 0x10FFFF⟩]

/-- The code points that are characters. -/
def characters : List CodeRange :=
  [⟨0, 0xD7FF⟩, ⟨0xE000, 0x10FFFF⟩]

/-- Cuts a range of code points of one length of two bytes or more into parts in which every byte
can be chosen without regard to the others.  Each of the blocks that the last one, two and three
bytes number is then either taken as a whole or is the only one.  `steps` bounds the number of cuts.
-/
def aligned : (steps : Nat) → CodeRange → List CodeRange
  | 0, range => [range]
  | steps + 1, ⟨first, last⟩ =>
      let crosses (block : Nat) : Bool :=
        first / block != last / block && (first % block != 0 || last % block != block - 1)
      match [0x40, 0x1000, 0x40000].find? crosses with
      | none => [⟨first, last⟩]
      | some block =>
          let cut :=
            if first % block != 0 then (first / block + 1) * block else last / block * block
          aligned steps ⟨first, cut - 1⟩ ++ aligned steps ⟨cut, last⟩

end CodeRange

/-- The bytes of a code point. -/
def utf8Bytes (code : Nat) : List Nat :=
  if code < 0x80 then [code]
  else if code < 0x800 then [0xC0 + code / 0x40, 0x80 + code % 0x40]
  else if code < 0x10000 then
    [0xE0 + code / 0x1000, 0x80 + code / 0x40 % 0x40, 0x80 + code % 0x40]
  else
    [0xF0 + code / 0x40000, 0x80 + code / 0x1000 % 0x40, 0x80 + code / 0x40 % 0x40,
      0x80 + code % 0x40]

/-- The byte sequences of a range of code points, lowest first. -/
def CodeRange.sequences (range : CodeRange) : List (List ByteRange) :=
  (ofOneLength.filterMap range.inter?).flatMap fun range =>
    (if range.last < 0x80 then [range] else aligned 16 range).map fun part =>
      List.zipWith ByteRange.mk (utf8Bytes part.first) (utf8Bytes part.last)

namespace CharSet

/-- The ranges of the characters of a set below a bound, in front of ranges that lie above it. -/
def rangesBelow (set : CharSet) : (bound : Nat) → List CodeRange → List CodeRange
  | 0, above => above
  | code + 1, above =>
      let isCharacter := code < 0xD800 || 0xDFFF < code
      rangesBelow set code
        (if isCharacter && set.contains (Char.ofNat code) then CodeRange.cons code above else above)

/-- The code points of a set, as ranges. -/
def ranges (set : CharSet) : List CodeRange :=
  match set with
  | .range first last =>
      CodeRange.characters.filterMap (⟨first.toNat, last.toNat⟩ : CodeRange).inter?
  | set => set.rangesBelow 0x110000 []

end CharSet

end Tint.Regex
