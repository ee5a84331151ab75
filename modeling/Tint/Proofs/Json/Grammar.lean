import Tint.Proofs.Tokens
import Tint.Unicode.Class

/-!
# The grammar of JSON texts

The grammar of RFC 8259, symbol by symbol, over the pieces that a text is cut into.  A piece is a
token: a lexical token of the text with its class, or a run of blanks, which is plain and may be
empty.  What the pieces have together is the text, so a derivation says both that a text is valid
and what its lexical tokens are.
-/

namespace Tint.Json

open Tint.Unicode

/-! ## Characters -/

/-- The blanks that may stand between lexical tokens. -/
def blanks : List Char :=
  [' ', '\t', '\n', '\r']

/-- The marks that structure a text. -/
def marks : List Char :=
  ['\x7B', '\x7D', '[', ']', ',', ':']

/-- A run of blanks, perhaps empty. -/
def IsBlank (run : List Char) : Prop :=
  ∀ c ∈ run, c ∈ blanks

/-- One digit or more. -/
structure IsDigits (digits : List Char) : Prop where
  nonempty : digits ≠ []
  all : ∀ c ∈ digits, isAsciiDigit c

/-! ## Numbers -/

/-- The whole part of a number, which has no leading zeros. -/
inductive IsInteger : List Char → Prop where
  | zero : IsInteger ['0']
  | positive {first : Char} {digits : List Char} (digit : isAsciiDigit first)
      (notZero : first ≠ '0') (rest : ∀ c ∈ digits, isAsciiDigit c) : IsInteger (first :: digits)

inductive IsFraction : List Char → Prop where
  | none : IsFraction []
  | some {digits : List Char} (isDigits : IsDigits digits) : IsFraction ('.' :: digits)

inductive IsExponent : List Char → Prop where
  | none : IsExponent []
  | some {letter : Char} {sign digits : List Char} (isLetter : letter ∈ ['e', 'E'])
      (isSign : sign ∈ [[], ['+'], ['-']]) (isDigits : IsDigits digits) :
      IsExponent (letter :: (sign ++ digits))

inductive IsNumber : List Char → Prop where
  | mk {sign integer fraction exponent : List Char} (isSign : sign ∈ [[], ['-']])
      (isInteger : IsInteger integer) (isFraction : IsFraction fraction)
      (isExponent : IsExponent exponent) :
      IsNumber (sign ++ (integer ++ (fraction ++ exponent)))

/-! ## Strings -/

/-- What stands for one character of a string. -/
inductive IsUnit : List Char → Prop where
  /-- Any character but a control character, the quote and the backslash. -/
  | unescaped {c : Char} (notControl : 0x20 ≤ c.toNat) (notQuote : c ≠ '"')
      (notBackslash : c ≠ '\\') : IsUnit [c]
  | escaped {c : Char} (known : c ∈ ['"', '\\', '/', 'b', 'f', 'n', 'r', 't']) : IsUnit ['\\', c]
  | unicode {first second third fourth : Char}
      (hex : ∀ c ∈ [first, second, third, fourth], (hexDigit? c).isSome) :
      IsUnit ['\\', 'u', first, second, third, fourth]

/-- What stands for the characters of a string. -/
inductive IsUnits : List Char → Prop where
  | nil : IsUnits []
  | cons {unit units : List Char} (first : IsUnit unit) (rest : IsUnits units) :
      IsUnits (unit ++ units)

/-- A string with its quotes. -/
inductive IsString : List Char → Prop where
  | quoted {units : List Char} (isUnits : IsUnits units) : IsString ('"' :: (units ++ ['"']))

/-! ## Pieces -/

/-- The piece of a run of blanks. -/
def blankPiece (run : List Char) : Token :=
  .plain (String.ofList run)

/-- The piece of a mark. -/
def markPiece (mark : Char) : Token :=
  .classified .punctuation (String.ofList [mark])

/-- A mark with blanks on both sides. -/
inductive IsStructural (mark : Char) : List Token → Prop where
  | spaced {before after : List Char} (blankBefore : IsBlank before) (blankAfter : IsBlank after) :
      IsStructural mark [blankPiece before, markPiece mark, blankPiece after]

/-- The symbols of the grammar that stand for each other's parts. -/
inductive Symbol where
  | value
  /-- The values of an array, separated. -/
  | elements
  | member
  /-- The members of an object, separated. -/
  | members

/-- Pieces that a symbol derives. -/
inductive Derives : Symbol → List Token → Prop where
  | constant {name : String} (known : name ∈ ["true", "false", "null"]) :
      Derives .value [.classified .keyword name]
  | number {text : String} (isNumber : IsNumber text.toList) :
      Derives .value [.classified .number text]
  | string {text : String} (isString : IsString text.toList) :
      Derives .value [.classified .string text]
  | emptyArray {opening closing : List Token} (isOpening : IsStructural '[' opening)
      (isClosing : IsStructural ']' closing) : Derives .value (opening ++ closing)
  | array {opening inner closing : List Token} (isOpening : IsStructural '[' opening)
      (isInner : Derives .elements inner) (isClosing : IsStructural ']' closing) :
      Derives .value (opening ++ (inner ++ closing))
  | emptyObject {opening closing : List Token} (isOpening : IsStructural '\x7B' opening)
      (isClosing : IsStructural '\x7D' closing) : Derives .value (opening ++ closing)
  | object {opening inner closing : List Token} (isOpening : IsStructural '\x7B' opening)
      (isInner : Derives .members inner) (isClosing : IsStructural '\x7D' closing) :
      Derives .value (opening ++ (inner ++ closing))
  | lastElement {value : List Token} (isValue : Derives .value value) : Derives .elements value
  | moreElements {value separator elements : List Token} (isValue : Derives .value value)
      (isSeparator : IsStructural ',' separator) (isElements : Derives .elements elements) :
      Derives .elements (value ++ (separator ++ elements))
  | member {name : String} {separator value : List Token} (isString : IsString name.toList)
      (isSeparator : IsStructural ':' separator) (isValue : Derives .value value) :
      Derives .member (.classified .property name :: (separator ++ value))
  | lastMember {member : List Token} (isMember : Derives .member member) : Derives .members member
  | moreMembers {member separator members : List Token} (isMember : Derives .member member)
      (isSeparator : IsStructural ',' separator) (isMembers : Derives .members members) :
      Derives .members (member ++ (separator ++ members))

/-- The pieces of a whole text: a value with blanks on both sides. -/
inductive IsDocument : List Token → Prop where
  | spaced {before after : List Char} {value : List Token} (blankBefore : IsBlank before)
      (isValue : Derives .value value) (blankAfter : IsBlank after) :
      IsDocument (blankPiece before :: (value ++ [blankPiece after]))

/-! ## Lexing -/

/-- The lexical tokens among pieces. -/
def lexemes (pieces : List Token) : List Token :=
  pieces.filter (·.tokenClass.isSome)

/-- Tokens that cut a text into the lexical tokens in it, each as it is classed, and plain runs of
blanks, as long as they can be, between them. -/
structure Lexes (text : String) (lexical tokens : List Token) : Prop where
  classified : tokens.filter (·.tokenClass.isSome) = lexical
  blank : ∀ token ∈ tokens, token.tokenClass = none → token.text ≠ "" ∧ IsBlank token.text.toList
  maximal : tokens.IsChain fun first second =>
    first.tokenClass.isSome ∨ second.tokenClass.isSome
  whole : String.join (tokens.map (·.text)) = text

end Tint.Json
