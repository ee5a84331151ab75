import Tint.Regex.Flags

/-!
# Escapes in patterns

What a backslash and the characters after it stand for: a literal character, a named class or an
assertion.  Each reader takes the characters from the one it names on and returns what it read with
the rest of the pattern.
-/

namespace Tint.Regex

open Tint.Unicode

/-- Drops blanks and comments from the front; a comment runs from `#` to the end of its line. -/
def dropSpace (inComment : Bool) : List Char → List Char
  | [] => []
  | c :: rest =>
      if inComment then dropSpace (c != '\n') rest
      else if isSpace c then dropSpace false rest
      else if c == '#' then dropSpace true rest
      else c :: rest

/-- Drops what means nothing at the front of a pattern under the flags. -/
def Flags.skip (flags : Flags) (cs : List Char) : List Char :=
  if flags.freeSpacing then dropSpace false cs else cs

/-- The named classes of characters. -/
inductive ClassName where
  | digit | space | word
  deriving DecidableEq, Repr

/-- What an escape stands for. -/
inductive Escape where
  /-- A character; `asByte` if it was written as two hexadecimal digits. -/
  | literal (c : Char) (asByte : Bool)
  | named (name : ClassName) (negated : Bool)
  /-- Characters with a property. -/
  | property (set : CharSet) (negated : Bool)
  | look (look : Look)
  deriving Repr

/-- The character of a code point, if there is one. -/
def charOfCode? (code : Nat) : Option Char :=
  if code < 0xD800 ∨ (0xDFFF < code ∧ code < 0x110000) then some (Char.ofNat code) else none

/-- Reads exactly `count` hexadecimal digits; `code` is the number so far. -/
def readHexDigits (flags : Flags) :
    (count : Nat) → (code : Nat) → List Char → Read (Nat × List Char)
  | 0, code, cs => pure (code, cs)
  | count + 1, code, cs =>
      match cs with
      | [] => throw .escapeInvalid
      | c :: rest =>
          match hexDigit? c with
          | none => throw .escapeInvalid
          | some digit => readHexDigits flags count (code * 16 + digit) (flags.skip rest)

/-- Splits at the first closing brace, skipping blanks in free spacing; `none` if there is none. -/
def splitAtBrace (flags : Flags) : (steps : Nat) → List Char → Option (List Char × List Char)
  | 0, _ => none
  | steps + 1, cs =>
      match flags.skip cs with
      | [] => none
      | '}' :: rest => some ([], rest)
      | c :: rest => (splitAtBrace flags steps rest).map fun (inside, after) => (c :: inside, after)

/-- Reads the code point after `\x`, `\u` or `\U`, written with `count` digits or in braces. -/
def readCode (flags : Flags) (count : Nat) (cs : List Char) : Read (Escape × List Char) :=
  match flags.skip cs with
  | '{' :: rest =>
      match splitAtBrace flags (rest.length + 1) rest with
      | none => throw .escapeInvalid
      | some (digits, after) =>
          if digits.isEmpty || digits.any (fun c => (hexDigit? c).isNone) then throw .escapeInvalid
          else match charOfCode? (hexNumber digits) with
            | none => throw .escapeInvalid
            | some c => pure (.literal c false, flags.skip after)
  | cs => do
      let (code, after) ← readHexDigits flags count 0 cs
      match charOfCode? code with
      | none => throw .escapeInvalid
      | some c => pure (.literal c (count == 2), after)

/-- A name without what loose matching ignores: case, blanks, hyphens, underscores, characters that
are not ASCII and a leading `is`.  The name `isc` is that of an abbreviation and stays. -/
def looseName (name : List Char) : String :=
  let lower (c : Char) : Char := if 'A' ≤ c && c ≤ 'Z' then Char.ofNat (c.toNat + 32) else c
  let startsWithIs := (name.take 2).map lower == ['i', 's']
  let kept := (if startsWithIs then name.drop 2 else name).filter fun c =>
    c != ' ' && c != '_' && c != '-' && c.toNat < 0x80
  let loose := kept.map lower
  if startsWithIs && loose == ['c'] then "isc" else String.ofList loose

open GeneralCategory in
/-- The groups of general categories and the single categories, by their loose names.  Surrogates
are no characters, so their category cannot be asked for. -/
def categoryNames : List (String × List GeneralCategory) :=
  let letters := [uppercaseLetter, lowercaseLetter, titlecaseLetter, modifierLetter, otherLetter]
  let cased := [uppercaseLetter, lowercaseLetter, titlecaseLetter]
  let marks := [nonspacingMark, spacingMark, enclosingMark]
  let numbers := [decimalNumber, letterNumber, otherNumber]
  let punctuation := [connectorPunctuation, dashPunctuation, openPunctuation, closePunctuation,
    initialPunctuation, finalPunctuation, otherPunctuation]
  let symbols := [mathSymbol, currencySymbol, modifierSymbol, otherSymbol]
  let separators := [spaceSeparator, lineSeparator, paragraphSeparator]
  let others := [control, format, privateUse, unassigned]
  [ ("l", letters), ("letter", letters), ("lc", cased), ("casedletter", cased),
    ("lu", [uppercaseLetter]), ("uppercaseletter", [uppercaseLetter]),
    ("ll", [lowercaseLetter]), ("lowercaseletter", [lowercaseLetter]),
    ("lt", [titlecaseLetter]), ("titlecaseletter", [titlecaseLetter]),
    ("lm", [modifierLetter]), ("modifierletter", [modifierLetter]),
    ("lo", [otherLetter]), ("otherletter", [otherLetter]),
    ("m", marks), ("mark", marks), ("combiningmark", marks),
    ("mn", [nonspacingMark]), ("nonspacingmark", [nonspacingMark]),
    ("mc", [spacingMark]), ("spacingmark", [spacingMark]),
    ("me", [enclosingMark]), ("enclosingmark", [enclosingMark]),
    ("n", numbers), ("number", numbers),
    ("nd", [decimalNumber]), ("decimalnumber", [decimalNumber]), ("digit", [decimalNumber]),
    ("nl", [letterNumber]), ("letternumber", [letterNumber]),
    ("no", [otherNumber]), ("othernumber", [otherNumber]),
    ("p", punctuation), ("punctuation", punctuation), ("punct", punctuation),
    ("pc", [connectorPunctuation]), ("connectorpunctuation", [connectorPunctuation]),
    ("pd", [dashPunctuation]), ("dashpunctuation", [dashPunctuation]),
    ("ps", [openPunctuation]), ("openpunctuation", [openPunctuation]),
    ("pe", [closePunctuation]), ("closepunctuation", [closePunctuation]),
    ("pi", [initialPunctuation]), ("initialpunctuation", [initialPunctuation]),
    ("pf", [finalPunctuation]), ("finalpunctuation", [finalPunctuation]),
    ("po", [otherPunctuation]), ("otherpunctuation", [otherPunctuation]),
    ("s", symbols), ("symbol", symbols),
    ("sm", [mathSymbol]), ("mathsymbol", [mathSymbol]),
    ("sc", [currencySymbol]), ("currencysymbol", [currencySymbol]),
    ("sk", [modifierSymbol]), ("modifiersymbol", [modifierSymbol]),
    ("so", [otherSymbol]), ("othersymbol", [otherSymbol]),
    ("z", separators), ("separator", separators),
    ("zs", [spaceSeparator]), ("spaceseparator", [spaceSeparator]),
    ("zl", [lineSeparator]), ("lineseparator", [lineSeparator]),
    ("zp", [paragraphSeparator]), ("paragraphseparator", [paragraphSeparator]),
    ("c", others), ("other", others),
    ("cc", [control]), ("control", [control]), ("cntrl", [control]),
    ("cf", [format]), ("format", [format]),
    ("co", [privateUse]), ("privateuse", [privateUse]),
    ("cn", [unassigned]), ("unassigned", [unassigned]) ]

/-- The characters of the general category with a loose name. -/
def categorySet? (name : String) : Option CharSet :=
  if name == "any" then some .any
  else if name == "assigned" then some (.compl (.category [.unassigned]))
  else if name == "ascii" then some (.range (Char.ofNat 0) (Char.ofNat 0x7F))
  else (categoryNames.lookup name).map .category

/-- The characters that a loose property name stands for: those with a property, else of a general
category, else of a script.  Three names are abbreviations of a category first. -/
def propertySet? (name : String) : Option CharSet :=
  let property :=
    if name == "cf" || name == "sc" || name == "lc" then none
    else (Property.names.lookup name).map CharSet.property
  property <|> categorySet? name <|> (Script.code? name).map .script

/-- A property with more than two values. -/
inductive ValuedProperty where
  | category | script | scriptUse | age | graphemeBreak | wordBreak | sentenceBreak
  deriving DecidableEq, Repr

/-- The loose names of the properties with more than two values. -/
def ValuedProperty.names : List (String × ValuedProperty) :=
  [ ("gc", .category), ("generalcategory", .category), ("category", .category), ("sc", .script),
    ("script", .script), ("scx", .scriptUse), ("scriptextensions", .scriptUse), ("age", .age),
    ("gcb", .graphemeBreak), ("graphemeclusterbreak", .graphemeBreak), ("wb", .wordBreak),
    ("wordbreak", .wordBreak), ("sb", .sentenceBreak), ("sentencebreak", .sentenceBreak) ]

/-- The characters for which a property has the value with a loose name. -/
def ValuedProperty.set? (property : ValuedProperty) (value : String) : Option CharSet :=
  match property with
  | .category => categorySet? value
  | .script => (Script.code? value).map .script
  | .scriptUse => (Script.code? value).map .scriptUse
  | .age => (Age.named? value).map .age
  | .graphemeBreak => (GraphemeBreak.names.lookup value).map .graphemeBreak
  | .wordBreak => (WordBreak.names.lookup value).map .wordBreak
  | .sentenceBreak => (SentenceBreak.names.lookup value).map .sentenceBreak

/-- The characters with a value of a property that has more than two. -/
def propertyValueSet? (name value : String) : Option CharSet := do
  (← ValuedProperty.names.lookup name).set? value

/-- The characters that the text in the braces of `\p` stands for, and whether the text itself
negates. -/
def propertyQuery? (text : List Char) : Option (CharSet × Bool) :=
  let split (mark : Char) : String × String :=
    (looseName (text.takeWhile (· != mark)), looseName ((text.dropWhile (· != mark)).drop 1))
  let unequal := text.splitOn '!'
  match unequal with
  | name :: ('=' :: _) :: _ =>
      (propertyValueSet? (looseName name) (looseName (text.drop (name.length + 2)))).map (·, true)
  | _ =>
    if text.contains ':' then
      (propertyValueSet? (split ':').1 (split ':').2).map (·, false)
    else if text.contains '=' then
      (propertyValueSet? (split '=').1 (split '=').2).map (·, false)
    else (propertySet? (looseName text)).map (·, false)

/-- Reads the property after `\p` or `\P`. -/
def readProperty (flags : Flags) (negated : Bool) (cs : List Char) : Read (Escape × List Char) :=
  let answer (query : Option (CharSet × Bool)) (after : List Char) :=
    match query with
    | none => throw .propertyUnknown
    | some (set, inner) => pure (.property set (negated != inner), after)
  match flags.skip cs with
  | [] => throw .escapeInvalid
  | '\\' :: _ => throw .escapeInvalid
  | '{' :: rest =>
      match splitAtBrace flags (rest.length + 1) rest with
      | none => throw .escapeInvalid
      | some (inside, after) => answer (propertyQuery? inside) after
  | c :: rest => answer ((propertySet? (looseName [c])).map (·, false)) (flags.skip rest)

/-- Characters that can stand in the name of a word boundary. -/
def isBoundaryNameChar (c : Char) : Bool :=
  isAsciiLetter c || c == '-'

/-- Takes the characters of a word boundary's name, skipping blanks in free spacing. -/
def takeBoundaryName (flags : Flags) : (steps : Nat) → List Char → List Char × List Char
  | 0, cs => ([], cs)
  | steps + 1, cs =>
      match cs with
      | c :: rest =>
          if isBoundaryNameChar c then
            let (name, after) := takeBoundaryName flags steps (flags.skip rest)
            (c :: name, after)
          else ([], cs)
      | [] => ([], [])

/-- Reads what follows `\b`: nothing, or the name of a special word boundary in braces.  Braces that
do not start with a letter belong to a counted repetition. -/
def readBoundary (flags : Flags) (cs : List Char) : Read (Escape × List Char) :=
  let plain : Read (Escape × List Char) := pure (.look (.boundary flags.words), cs)
  match cs with
  | '{' :: rest =>
      match flags.skip rest with
      | [] => throw .escapeInvalid
      | c :: inside =>
          if !isBoundaryNameChar c then plain
          else
            let (name, after) := takeBoundaryName flags (inside.length + 1) (c :: inside)
            match after with
            | '}' :: after =>
                if name == "start".toList then pure (.look (.wordStart flags.words), after)
                else if name == "end".toList then pure (.look (.wordEnd flags.words), after)
                else if name == "start-half".toList then
                  pure (.look (.wordStartHalf flags.words), after)
                else if name == "end-half".toList then
                  pure (.look (.wordEndHalf flags.words), after)
                else throw .escapeInvalid
            | _ => throw .escapeInvalid
  | _ => plain

/-- Reads the escape after a backslash. -/
def readEscape (flags : Flags) (cs : List Char) : Read (Escape × List Char) :=
  match cs with
  | [] => throw .escapeInvalid
  | c :: rest =>
      let literal (c : Char) : Read (Escape × List Char) := pure (.literal c false, rest)
      match c with
      | 'x' => readCode flags 2 rest
      | 'u' => readCode flags 4 rest
      | 'U' => readCode flags 8 rest
      | 'p' => readProperty flags false rest
      | 'P' => readProperty flags true rest
      | 'd' => pure (.named .digit false, rest)
      | 'D' => pure (.named .digit true, rest)
      | 's' => pure (.named .space false, rest)
      | 'S' => pure (.named .space true, rest)
      | 'w' => pure (.named .word false, rest)
      | 'W' => pure (.named .word true, rest)
      | 'a' => literal '\x07'
      | 'f' => literal '\x0C'
      | 't' => literal '\t'
      | 'n' => literal '\n'
      | 'r' => literal '\r'
      | 'v' => literal '\x0B'
      | 'A' => pure (.look .textStart, rest)
      | 'z' => pure (.look .textEnd, rest)
      | 'b' => readBoundary flags rest
      | 'B' => pure (.look (.noBoundary flags.words), rest)
      | '<' => pure (.look (.wordStart flags.words), rest)
      | '>' => pure (.look (.wordEnd flags.words), rest)
      | c =>
          if c.toNat < 0x80 && !(isAsciiLetter c || isAsciiDigit c) then literal c
          else throw .escapeInvalid

end Tint.Regex
