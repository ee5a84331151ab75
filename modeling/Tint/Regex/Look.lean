import Tint.Unicode.Class

/-!
# Positions in a text

Assertions hold or fail between two characters of a text and match no character themselves.  Each is
decided by its two neighbours, where the ends of the text have none.
-/

namespace Tint.Regex

open Tint.Unicode

/-- What ends a line: a line feed only, or also a carriage return. -/
inductive LineEnd where
  | feed
  | feedOrReturn
  deriving DecidableEq, Repr

/-- Which characters make up words. -/
inductive WordKind where
  | unicode
  | ascii
  deriving DecidableEq, Repr

/-- Whether a neighbour is part of a word; a missing one is not. -/
def WordKind.holds (kind : WordKind) : Option Char → Bool
  | none => false
  | some c => match kind with
    | .unicode => isWord c
    | .ascii => isAsciiLetter c || isAsciiDigit c || c == '_'

/-- An assertion about a position. -/
inductive Look where
  | textStart
  | textEnd
  | lineStart (ending : LineEnd)
  | lineEnd (ending : LineEnd)
  | boundary (kind : WordKind)
  | noBoundary (kind : WordKind)
  | wordStart (kind : WordKind)
  | wordEnd (kind : WordKind)
  /-- No word character before. -/
  | wordStartHalf (kind : WordKind)
  /-- No word character after. -/
  | wordEndHalf (kind : WordKind)
  deriving DecidableEq, Repr

/-- Whether the assertion holds between two neighbours.  A carriage return and the line feed after
it end one line together, so no line starts or ends between them. -/
def Look.holds (look : Look) (before after : Option Char) : Bool :=
  match look with
  | .textStart => before.isNone
  | .textEnd => after.isNone
  | .lineStart .feed => before.isNone || before == some '\n'
  | .lineStart .feedOrReturn =>
      before.isNone || before == some '\n' || (before == some '\r' && after != some '\n')
  | .lineEnd .feed => after.isNone || after == some '\n'
  | .lineEnd .feedOrReturn =>
      after.isNone || after == some '\r' || (after == some '\n' && before != some '\r')
  | .boundary kind => kind.holds before != kind.holds after
  | .noBoundary kind => kind.holds before == kind.holds after
  | .wordStart kind => !kind.holds before && kind.holds after
  | .wordEnd kind => kind.holds before && !kind.holds after
  | .wordStartHalf kind => !kind.holds before
  | .wordEndHalf kind => !kind.holds after

end Tint.Regex
