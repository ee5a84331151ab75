import Tint.Unicode.Property
import Tint.Unicode.Script

/-!
# Breaks in text

A text breaks into units that a reader takes for one character, into words and into sentences.
Where it breaks is decided by a class of each character, one class for each of the three kinds of
unit.  Each class here is a list of rules, of which the first that fits decides.
-/

namespace Tint.Unicode

/-- The class of a character for breaks between the units that a reader takes for one character. -/
inductive GraphemeBreak where
  | carriageReturn | lineFeed | control | extend | joiner | prepend | regionalIndicator
  | spacingMark | leadingConsonant | vowel | trailingConsonant | openSyllable | closedSyllable
  | other
  deriving DecidableEq, Repr

namespace GraphemeBreak

/-- The names of each class in small letters without separators.  The class `other` has none. -/
def names : List (String × GraphemeBreak) :=
  [ ("cr", .carriageReturn), ("lf", .lineFeed), ("cn", .control), ("control", .control),
    ("ex", .extend), ("extend", .extend), ("zwj", .joiner), ("pp", .prepend),
    ("prepend", .prepend), ("ri", .regionalIndicator), ("regionalindicator", .regionalIndicator),
    ("sm", .spacingMark), ("spacingmark", .spacingMark), ("l", .leadingConsonant), ("v", .vowel),
    ("t", .trailingConsonant), ("lv", .openSyllable), ("lvt", .closedSyllable) ]

/-- Marks of number and letters that stand before the consonant of their syllable. -/
def prependRanges : Ranges :=
  .ofLines
    [ "600-605 6DD 70F 890-891 8E2 D4E 110BD 110CD 111C2-111C3 113D1 1193F 11941 11A3A 11A84-11A89",
      "11D46 11F02" ]

/-- Spacing marks that a reader takes for characters of their own. -/
def separateMarks : Ranges :=
  .ofLines
    [ "102B-102C 1038 1062-1064 1067-106D 1083 1087-108C 108F 109A-109C 1A61 1A63-1A64 AA7B AA7D",
      "11720-11721" ]

/-- Vowels that join the syllable before them. -/
def vowelRanges : Ranges :=
  .ofLines
    ["1160-11A7 D7B0-D7C6 16D63 16D67-16D6A"]

/-- The class of a letter of the Hangul script, or a syllable of it; the syllables come in blocks of
28, the open one first. -/
def ofHangul (code : Nat) : GraphemeBreak :=
  if (0x1100 ≤ code && code ≤ 0x115F) || (0xA960 ≤ code && code ≤ 0xA97C) then .leadingConsonant
  else if vowelRanges.contains code then .vowel
  else if (0x11A8 ≤ code && code ≤ 0x11FF) || (0xD7CB ≤ code && code ≤ 0xD7FB) then
    .trailingConsonant
  else if 0xAC00 ≤ code && code ≤ 0xD7A3 then
    if (code - 0xAC00) % 28 == 0 then .openSyllable else .closedSyllable
  else .other

/-- The class of a character. -/
def of (c : Char) : GraphemeBreak :=
  let code := c.toNat
  let category := GeneralCategory.of c
  if c == '\r' then .carriageReturn
  else if c == '\n' then .lineFeed
  else if code == 0x200D then .joiner
  else if isGraphemeExtend c || Property.emojiModifier.holds c then .extend
  else if prependRanges.contains code then .prepend
  else if category == .control || category == .format || category == .lineSeparator ||
      category == .paragraphSeparator ||
      (category == .unassigned && Property.defaultIgnorable.holds c) then .control
  else if Property.regionalIndicator.holds c then .regionalIndicator
  else if (category == .spacingMark && !separateMarks.contains code) || code == 0xE33 ||
      code == 0xEB3 then .spacingMark
  else ofHangul code

end GraphemeBreak

/-- Decimal digits, the marks that are written over a number, and the two Arabic separators within
one.  Of the marks that are written over what follows, one is not for numbers. -/
def isNumeric (c : Char) : Bool :=
  let code := c.toNat
  GeneralCategory.of c == .decimalNumber || code == 0x66B || code == 0x66C ||
    (Property.prependedConcatenationMark.holds c && code != 0x70F)

/-- The class of a character for breaks between words. -/
inductive WordBreak where
  | carriageReturn | lineFeed | newline | extend | joiner | format | regionalIndicator | katakana
  | hebrewLetter | letter | singleQuote | doubleQuote | midNumLet | midLetter | midNumber | numeric
  | connector | space | other
  deriving DecidableEq, Repr

namespace WordBreak

/-- The names of each class in small letters without separators.  The class `other` has none. -/
def names : List (String × WordBreak) :=
  [ ("cr", .carriageReturn), ("lf", .lineFeed), ("nl", .newline), ("newline", .newline),
    ("extend", .extend), ("zwj", .joiner), ("fo", .format), ("format", .format),
    ("ri", .regionalIndicator), ("regionalindicator", .regionalIndicator), ("ka", .katakana),
    ("katakana", .katakana), ("hl", .hebrewLetter), ("hebrewletter", .hebrewLetter),
    ("le", .letter), ("aletter", .letter), ("sq", .singleQuote), ("singlequote", .singleQuote),
    ("dq", .doubleQuote), ("doublequote", .doubleQuote), ("mb", .midNumLet),
    ("midnumlet", .midNumLet), ("ml", .midLetter), ("midletter", .midLetter), ("mn", .midNumber),
    ("midnum", .midNumber), ("nu", .numeric), ("numeric", .numeric), ("ex", .connector),
    ("extendnumlet", .connector), ("wsegspace", .space) ]

/-- Signs that stand in words as letters do. -/
def letterSigns : Ranges :=
  .ofLines
    [ "2C2-2C5 2D2-2D7 2DE-2DF 2E5-2EB 2ED 2EF-2FF 55A-55C 55E 58A 5F3 70F A708-A716 A720-A721",
      "A789-A78A AB5B" ]

/-- Signs of the Katakana script that other scripts use. -/
def katakanaSigns : Ranges :=
  .ofLines
    ["3031-3035 309B-309C 30A0 30FC FF70"]

/-- Signs that do not end a word between two letters. -/
def midLetterRanges : Ranges :=
  .ofLines
    ["3A B7 387 55F 5F4 2027 FE13 FE55 FF1A"]

/-- Signs that end neither a word between two letters nor a number between two digits. -/
def midNumLetRanges : Ranges :=
  .ofLines
    ["2E 2018-2019 2024 FE52 FF07 FF0E"]

/-- Signs that do not end a number between two digits. -/
def midNumberRanges : Ranges :=
  .ofLines
    ["2C 3B 37E 589 60C-60D 66C 7F8 2044 FE10 FE14 FE50 FE54 FF0C FF1B"]

/-- Scripts that put no blank between words, so that their words cannot be told by letters. -/
def unspacedScripts : List String :=
  ["Ahom", "Hira", "Khmr", "Lana", "Laoo", "Mymr", "Tale", "Talu", "Tavt", "Thai"]

/-- The class of a character. -/
def of (c : Char) : WordBreak :=
  let code := c.toNat
  let category := GeneralCategory.of c
  let script := Script.of c
  if c == '"' then .doubleQuote
  else if c == '\'' then .singleQuote
  else if c == '\r' then .carriageReturn
  else if c == '\n' then .lineFeed
  else if code == 0xB || code == 0xC || code == 0x85 || code == 0x2028 || code == 0x2029 then
    .newline
  else if code == 0x200D then .joiner
  else if isGraphemeExtend c || category == .spacingMark || Property.emojiModifier.holds c then
    .extend
  else if Property.regionalIndicator.holds c then .regionalIndicator
  else if midNumberRanges.contains code then .midNumber
  else if isNumeric c then .numeric
  else if letterSigns.contains code then .letter
  else if category == .format && code != 0x200B then .format
  else if script == "Kana" || katakanaSigns.contains code then .katakana
  else if script == "Hebr" && category == .otherLetter then .hebrewLetter
  else if isAlphabetic c && !Property.ideographic.holds c && !unspacedScripts.contains script then
    .letter
  else if midLetterRanges.contains code then .midLetter
  else if midNumLetRanges.contains code then .midNumLet
  else if category == .connectorPunctuation || code == 0x202F then .connector
  else if category == .spaceSeparator && code != 0xA0 && code != 0x2007 then .space
  else .other

end WordBreak

/-- The class of a character for breaks between sentences. -/
inductive SentenceBreak where
  | carriageReturn | lineFeed | separator | extend | format | space | lower | upper | letter
  | numeric | fullStop | continuer | terminator | close | other
  deriving DecidableEq, Repr

namespace SentenceBreak

/-- The names of each class in small letters without separators.  The class `other` has none. -/
def names : List (String × SentenceBreak) :=
  [ ("cr", .carriageReturn), ("lf", .lineFeed), ("se", .separator), ("sep", .separator),
    ("ex", .extend), ("extend", .extend), ("fo", .format), ("format", .format), ("sp", .space),
    ("lo", .lower), ("lower", .lower), ("up", .upper), ("upper", .upper), ("le", .letter),
    ("oletter", .letter), ("nu", .numeric), ("numeric", .numeric), ("at", .fullStop),
    ("aterm", .fullStop), ("sc", .continuer), ("scontinue", .continuer), ("st", .terminator),
    ("sterm", .terminator), ("cl", .close), ("close", .close) ]

/-- Full stops, which can also end an abbreviation. -/
def fullStopRanges : Ranges :=
  .ofLines
    ["2E 2024 FE52 FF0E"]

/-- Signs after which a sentence goes on. -/
def continuerRanges : Ranges :=
  .ofLines
    [ "2C-2D 3A-3B 37E 55D 60C-60D 7F8 1802 1808 2013-2014 3001 FE10-FE11 FE13-FE14 FE31-FE32",
      "FE50-FE51 FE54-FE55 FE58 FE63 FF0C-FF0D FF1A-FF1B FF64" ]

/-- Quotation marks that are neither opening nor closing punctuation. -/
def plainQuotes : Ranges :=
  .ofLines
    ["22 27 275B-2760 2E00-2E01 2E06-2E08 2E0B 1F676-1F678"]

/-- The plain letters of the Georgian script, which are small by category but also start sentences.
-/
def isPlainGeorgian (code : Nat) : Bool :=
  (0x10D0 ≤ code && code ≤ 0x10FA) || (0x10FD ≤ code && code ≤ 0x10FF)

/-- The capitals of the Georgian script, which mark no start of a sentence. -/
def isCapitalGeorgian (code : Nat) : Bool :=
  (0x1C90 ≤ code && code ≤ 0x1CBA) || (0x1CBD ≤ code && code ≤ 0x1CBF)

/-- The class of a character. -/
def of (c : Char) : SentenceBreak :=
  let code := c.toNat
  let category := GeneralCategory.of c
  if c == '\r' then .carriageReturn
  else if c == '\n' then .lineFeed
  else if code == 0x85 || code == 0x2028 || code == 0x2029 then .separator
  else if isGraphemeExtend c || category == .spacingMark || code == 0x200D then .extend
  else if isNumeric c then .numeric
  else if category == .format then .format
  else if isSpace c then .space
  else if Property.lowercase.holds c && !isPlainGeorgian code then .lower
  else if (category == .titlecaseLetter || Property.uppercase.holds c) &&
      !isCapitalGeorgian code then
    .upper
  else if isAlphabetic c || code == 0x5F3 then .letter
  else if fullStopRanges.contains code then .fullStop
  else if Property.sentenceTerminal.holds c then .terminator
  else if continuerRanges.contains code then .continuer
  else if category == .openPunctuation || category == .closePunctuation ||
      category == .initialPunctuation || category == .finalPunctuation ||
      plainQuotes.contains code then .close
  else .other

end SentenceBreak

end Tint.Unicode
