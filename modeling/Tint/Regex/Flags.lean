import Tint.Regex.Pattern

/-!
# Flags and errors of patterns

Flags say how the parts of a pattern are to be understood.  They are set for a whole pattern and can
be changed inside it, for the rest of a group.
-/

namespace Tint.Regex

/-- How the parts of a pattern are to be understood. -/
structure Flags where
  /-- Letters match in either case. -/
  ignoreCase : Bool := false
  /-- `^` and `$` match at the lines of the text, not only at its ends. -/
  multiLine : Bool := false
  /-- `.` matches line ends too. -/
  dotAll : Bool := false
  /-- Repetitions are lazy, and greedy with a question mark. -/
  swapGreed : Bool := false
  /-- Classes and case are those of all scripts, not of ASCII. -/
  unicode : Bool := true
  /-- A carriage return ends a line, as a line feed does. -/
  carriageReturn : Bool := false
  /-- Blanks and comments in the pattern mean nothing. -/
  freeSpacing : Bool := false
  deriving DecidableEq, Repr

namespace Flags

/-- The ends of lines under these flags. -/
def ending (flags : Flags) : LineEnd :=
  if flags.carriageReturn then .feedOrReturn else .feed

/-- The characters of words under these flags. -/
def words (flags : Flags) : WordKind :=
  if flags.unicode then .unicode else .ascii

/-- The flag that a letter names, switched on or off. -/
def switch? (flags : Flags) (letter : Char) (on : Bool) : Option Flags :=
  match letter with
  | 'i' => some { flags with ignoreCase := on }
  | 'm' => some { flags with multiLine := on }
  | 's' => some { flags with dotAll := on }
  | 'U' => some { flags with swapGreed := on }
  | 'u' => some { flags with unicode := on }
  | 'R' => some { flags with carriageReturn := on }
  | 'x' => some { flags with freeSpacing := on }
  | _ => none

end Flags

/-- Why a pattern is refused. -/
inductive PatternError where
  | groupUnclosed
  | groupUnopened
  | groupNameInvalid
  | groupNameTwice
  | flagInvalid
  | lookAround
  | repetitionWithoutOperand
  | repetitionInvalid
  | escapeInvalid
  | propertyUnknown
  | classUnclosed
  | classInvalid
  /-- Outside Unicode mode, a part that could match half a character. -/
  | notText
  | tooDeep
  | tooLarge
  deriving DecidableEq, Repr

/-- The wording of an error. -/
def PatternError.message : PatternError → String
  | groupUnclosed => "a group is not closed"
  | groupUnopened => "a group is closed that is not open"
  | groupNameInvalid => "the name of a group is not valid"
  | groupNameTwice => "two groups have the same name"
  | flagInvalid => "the flags are not valid"
  | lookAround => "look-around is not supported"
  | repetitionWithoutOperand => "there is nothing to repeat"
  | repetitionInvalid => "the counts of a repetition are not valid"
  | escapeInvalid => "an escape is not valid"
  | propertyUnknown => "a property of characters is not known"
  | classUnclosed => "a class of characters is not closed"
  | classInvalid => "a class of characters is not valid"
  | notText => "the pattern can match what is not text"
  | tooDeep => "the pattern is nested too deep"
  | tooLarge => "the pattern is too large"

/-- The result of reading a part of a pattern. -/
abbrev Read (α : Type) := Except PatternError α

end Tint.Regex
