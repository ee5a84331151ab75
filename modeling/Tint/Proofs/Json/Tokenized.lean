import Tint.Proofs.Json.Lexemes
import Tint.Proofs.Regex.Layout
import Tint.Proofs.Stash.Pass

/-!
# Valid texts are lexed exactly

On a valid text the first pass finds the strings, and just them, and the second one finds all other
lexical tokens between their placeholders.  So the tokens of the text are its lexical tokens with
the blanks between them.
-/

namespace Tint.Json

open Tint.Regex Tint.Structured Tint.Unicode

/-- The classes of the first pass. -/
def stringClasses : List TokenClass :=
  [.string, .property]

/-- The classes of the second pass. -/
def scalarClasses : List TokenClass :=
  [.number, .keyword, .punctuation]

theorem classes_apart : ∀ tokenClass ∈ scalarClasses, tokenClass ∉ stringClasses := by
  decide

/-! ## Strings -/

theorem quoted_begins (c : Char) : quoted.begins c = (c == '"') := by
  simp [quoted, Pattern.sequence, Pattern.begins, Pattern.char, Pattern.nullable]

theorem not_quote_of_isDigits {digits : List Char} (isDigits : ∀ c ∈ digits, isAsciiDigit c) :
    '"' ∉ digits := by
  intro member
  exact absurd (isDigits '"' member) (by decide)

/-- There are no quotes in a number. -/
theorem IsNumber.not_quote {text : List Char} (isNumber : IsNumber text) : '"' ∉ text := by
  cases isNumber with
  | mk isSign isInteger isFraction isExponent =>
      simp only [List.mem_append, not_or]
      refine ⟨?_, not_quote_of_isDigits isInteger.isDigits.all, ?_, ?_⟩
      · simp only [List.mem_cons, List.not_mem_nil, or_false] at isSign
        rcases isSign with rfl | rfl <;> simp
      · cases isFraction with
        | none => simp
        | some isDigits => simpa using not_quote_of_isDigits isDigits.all
      · cases isExponent with
        | none => simp
        | some isLetter isSign isDigits =>
            have digits := not_quote_of_isDigits isDigits.all
            simp only [List.mem_cons, List.not_mem_nil, or_false] at isLetter isSign
            rcases isLetter with rfl | rfl <;> rcases isSign with rfl | rfl | rfl <;> simpa

/-- The spans of literals that a scan finds. -/
def literalsOf (found : List Match) : List (Span × TokenClass) :=
  found.map fun found =>
    (⟨found.start, found.stop⟩, if isKey found.after.rest then .property else .string)

section

variable {before : Option Char} {token : Token} {tokens : List Token}

/-- The first pass goes over a piece that is no string. -/
theorem literalsOf_pass (noString : token.isIn stringClasses = false)
    (noQuote : '"' ∉ token.text.toList) {last : Option Char}
    (isLast : lastOf before token.text.toList = last)
    (rest : ∀ offset, literalsOf (quoted.ways.scan ⟨last, Token.chars tokens, offset⟩) =
      spansOf [] stringClasses offset tokens) (offset : Nat) :
    literalsOf (quoted.ways.scan ⟨before, Token.chars (token :: tokens), offset⟩) =
      spansOf [] stringClasses offset (token :: tokens) := by
  have cannot : ∀ c ∈ token.text.toList, quoted.begins c = false := by
    intro c member
    rw [quoted_begins, beq_eq_false_iff_ne]
    rintro rfl
    exact noQuote member
  rw [Token.chars_cons, Pattern.scan_pass rfl cannot, isLast, rest, spansOf_skip noString,
    Token.width_nil]

/-- The first pass takes a string. -/
theorem literalsOf_take (isString : IsString token.text.toList)
    (isClass : token.tokenClass =
      some (if isKey (Token.chars tokens) then .property else .string))
    (rest : ∀ offset, literalsOf (quoted.ways.scan
      ⟨lastOf before token.text.toList, Token.chars tokens, offset⟩) =
        spansOf [] stringClasses offset tokens) (offset : Nat) :
    literalsOf (quoted.ways.scan ⟨before, Token.chars (token :: tokens), offset⟩) =
      spansOf [] stringClasses offset (token :: tokens) := by
  have isNext : token.isIn stringClasses = true := by
    rw [Token.isIn, isClass]
    split <;> rfl
  rw [Token.chars_cons, Pattern.scan_prefers rfl (quoted_prefers isString),
    spansOf_take isClass isNext, Token.width_nil, ← rest]
  rfl

end

/-- The first pass finds the strings, and those that are names are keys. -/
theorem literalsOf_scan {before : Option Char} {tokens : List Token}
    (lexical : IsLexical before tokens) (offset : Nat) :
    literalsOf (quoted.ways.scan ⟨before, Token.chars tokens, offset⟩) =
      spansOf [] stringClasses offset tokens := by
  induction lexical generalizing offset with
  | nil =>
      rw [Token.chars_nil, Ways.scan_end (Pattern.advances rfl) rfl]
      rfl
  | blank isBlank isRest ih =>
      refine literalsOf_pass rfl ?_ (by rw [text_blankPiece]) ih offset
      intro member
      rw [text_blankPiece] at member
      have inBlanks := isBlank '"' member
      simp [blanks] at inBlanks
  | mark known isRest ih =>
      refine literalsOf_pass rfl ?_ (by rw [text_markPiece, lastOf_singleton]) ih offset
      intro member
      rw [text_markPiece, List.mem_singleton] at member
      simp [← member, marks] at known
  | constant known apartBefore apartAfter isRest ih =>
      refine literalsOf_pass rfl ?_ rfl ih offset
      simp only [List.mem_cons, List.not_mem_nil, or_false] at known
      rcases known with rfl | rfl | rfl <;> simp [Token.classified]
  | number isNumber apartBefore apartAfter isRest ih =>
      exact literalsOf_pass rfl isNumber.not_quote rfl ih offset
  | string isString noKey isRest ih =>
      refine literalsOf_take ?_ ?_ ?_ offset
      · exact isString
      · simp [Token.classified, noKey]
      · exact ih
  | name isString key isRest ih =>
      refine literalsOf_take ?_ ?_ ?_ offset
      · exact isString
      · simp [Token.classified, key]
      · exact ih

/-! ## Numbers, constants and marks -/

/-- The spans of numbers, constants and marks that a scan finds. -/
def scalarsOf (found : List Match) : List (Span × TokenClass) :=
  found.filterMap fun found =>
    match found.group? 1, found.group? 2, found.group? 3 with
    | some span, _, _ => some (span, .number)
    | none, some span, _ => some (span, .keyword)
    | none, none, some span => some (span, .punctuation)
    | none, none, none => none

/-- The group that the second pass goes through for a class. -/
def groupOf : TokenClass → Nat
  | .number => 1
  | .keyword => 2
  | _ => 3

section

variable {other : Option Char} {token : Token} {tokens : List Token} {rest : List Char}

/-- The second pass takes a token; the group that it goes through tells the class. -/
theorem scalarsOf_take {tokenClass : TokenClass} (isScalar : tokenClass ∈ scalarClasses)
    (isClass : token.tokenClass = some tokenClass)
    (takes : ScalarTakes (groupOf tokenClass) other token.text.toList rest)
    (later : ∀ offset, scalarsOf
      (scalar.ways.scan ⟨lastOf other token.text.toList, rest, offset⟩) =
        spansOf stringClasses scalarClasses offset tokens) (offset : Nat) :
    scalarsOf (scalar.ways.scan ⟨other, token.text.toList ++ rest, offset⟩) =
      spansOf stringClasses scalarClasses offset (token :: tokens) := by
  have isNext : token.isIn scalarClasses = true := by
    simpa [Token.isIn, isClass] using isScalar
  have notDone : token.isIn stringClasses = false :=
    Token.isIn_eq_false (fun tokenClass inString inScalar =>
      classes_apart tokenClass inScalar inString) isNext
  have width : token.width stringClasses = token.text.toList.length := by
    simp [Token.width, notDone]
  rw [spansOf_take isClass isNext, width, ← later,
    Ways.scan_take (Pattern.advances rfl) (takes offset), scalarsOf, List.filterMap_cons]
  simp only [scalarClasses, List.mem_cons, List.not_mem_nil, or_false] at isScalar
  rcases isScalar with rfl | rfl | rfl <;> rfl

/-- The second pass goes over what it cannot begin with. -/
theorem scalarsOf_pass {written : List Char} (notNext : token.isIn scalarClasses = false)
    (width : token.width stringClasses = written.length)
    (cannot : ∀ c ∈ written, scalar.begins c = false)
    (later : ∀ offset, scalarsOf (scalar.ways.scan ⟨lastOf other written, rest, offset⟩) =
      spansOf stringClasses scalarClasses offset tokens) (offset : Nat) :
    scalarsOf (scalar.ways.scan ⟨other, written ++ rest, offset⟩) =
      spansOf stringClasses scalarClasses offset (token :: tokens) := by
  rw [Pattern.scan_pass rfl cannot, later, spansOf_skip notNext, width]

end

theorem IsString.head? {text : List Char} (isString : IsString text) : text.head? = some '"' := by
  cases isString with
  | quoted isUnits => rfl

theorem IsString.ne_nil {text : List Char} (isString : IsString text) : text ≠ [] := by
  cases isString with
  | quoted isUnits => simp

theorem IsNumber.ne_nil {text : List Char} (isNumber : IsNumber text) : text ≠ [] := by
  cases isNumber with
  | mk _ isInteger => simp [isInteger.isDigits.nonempty]

theorem not_isApart_quote : ¬IsApart (some '"') := by
  intro apart
  have known := apart '"' rfl
  simp [blanks, marks] at known

/-- What the first pass is for are strings. -/
theorem IsLexical.isString {before : Option Char} {token : Token} {tokens : List Token}
    (lexical : IsLexical before (token :: tokens)) (isIn : token.isIn stringClasses = true) :
    IsString token.text.toList := by
  cases lexical with
  | blank | mark | constant | number => exact absurd isIn Bool.false_ne_true
  | string isString => exact isString
  | name isString => exact isString

/-- What is apart from a word in the source text is so in the working text. -/
theorem isApart_head?_of_stands {before : Option Char} {stash : Stash} {tokens : List Token}
    {text : List Char} (stands : Stands stash stringClasses tokens text)
    (lexical : IsLexical before tokens) (apart : IsApart (Token.chars tokens).head?) :
    IsApart text.head? := by
  induction stands generalizing before with
  | nil => exact apart
  | @itself token tokens text notDone ordinary rest ih =>
      rw [Token.chars_cons] at apart
      cases isText : token.text.toList with
      | nil =>
          rw [isText] at apart
          exact ih lexical.tail apart
      | cons c others =>
          rw [isText] at apart
          exact apart
  | @placeholder token tokens c slot text isDone held rest ih =>
      have isString := lexical.isString isDone
      rw [Token.chars_cons, List.head?_append, isString.head?, Option.some_or] at apart
      exact absurd apart not_isApart_quote

theorem holds_lastOf {before other : Option Char} {run : List Char}
    (outside : IsApart before → WordKind.unicode.holds other = false)
    (apart : IsApart (lastOf before run)) :
    WordKind.unicode.holds (lastOf other run) = false := by
  cases isLast : run.getLast? with
  | none =>
      rw [lastOf, isLast, Option.none_or] at apart ⊢
      exact outside apart
  | some c =>
      rw [lastOf, isLast, Option.some_or] at apart ⊢
      exact holds_of_isApart apart

theorem holds_of_isReserved {c : Char} (reserved : isReserved c = true) :
    WordKind.unicode.holds (some c) = false :=
  isWord_of_isReserved reserved

/-- The second pass finds all lexical tokens that are left.  `other` is the character in front of
the working text; it need not be the one in front of the source text, but it is no part of a word if
that one is not. -/
theorem scalarsOf_scan {before other : Option Char} {stash : Stash} {tokens : List Token}
    {text : List Char} (stands : Stands stash stringClasses tokens text)
    (lexical : IsLexical before tokens)
    (outside : IsApart before → WordKind.unicode.holds other = false) (offset : Nat) :
    scalarsOf (scalar.ways.scan ⟨other, text, offset⟩) =
      spansOf stringClasses scalarClasses offset tokens := by
  induction stands generalizing before other offset with
  | nil =>
      rw [Ways.scan_end (Pattern.advances rfl) rfl]
      rfl
  | @itself token tokens text notDone ordinary rest ih =>
      have later := ih lexical.tail fun apart => holds_lastOf outside apart
      cases lexical with
      | blank isBlank isRest =>
          refine scalarsOf_pass rfl ?_ ?_ later offset
          · simp [Token.width, notDone]
          · intro c member
            rw [text_blankPiece] at member
            exact scalar_begins_blank (isBlank c member)
      | mark known isRest =>
          refine scalarsOf_take ?_ rfl ?_ later offset
          · decide
          · rw [text_markPiece]
            exact scalar_takes_mark known
      | constant known apartBefore apartAfter isRest =>
          have apart := isApart_head?_of_stands rest isRest apartAfter
          refine scalarsOf_take ?_ rfl ?_ later offset
          · decide
          · exact scalar_takes_constant known (outside apartBefore) apart
      | number isNumber apartBefore apartAfter isRest =>
          have apart := isApart_head?_of_stands rest isRest apartAfter
          refine scalarsOf_take ?_ rfl ?_ later offset
          · decide
          · exact scalar_takes_number isNumber (outside apartBefore) apart
      | string | name => exact absurd notDone.symm Bool.false_ne_true
  | @placeholder token tokens c slot text isDone held rest ih =>
      have reserved : isReserved c = true :=
        isReserved_of_slotOf? (Stash.held?_eq_some_iff.mp held).1
      have outsideHere : IsApart (lastOf before token.text.toList) →
          WordKind.unicode.holds (some c) = false := fun _ => holds_of_isReserved reserved
      have width : token.width stringClasses = [c].length := by simp [Token.width, isDone]
      have notNext := Token.isIn_eq_false classes_apart isDone
      refine scalarsOf_pass notNext width ?_ (ih lexical.tail outsideHere) offset
      intro other member
      rw [List.mem_singleton.mp member]
      exact scalar_begins_reserved reserved

/-! ## Both passes -/

/-- A classified piece is for one of the passes, and has text. -/
theorem IsLexical.head {before : Option Char} {token : Token} {tokens : List Token}
    (lexical : IsLexical before (token :: tokens)) (isClassified : token.tokenClass.isSome) :
    token.isIn (stringClasses ++ scalarClasses) = true ∧ token.text.toList ≠ [] := by
  cases lexical with
  | blank => exact absurd isClassified Bool.false_ne_true
  | mark => exact ⟨rfl, by simp⟩
  | constant known =>
      refine ⟨rfl, ?_⟩
      simp only [List.mem_cons, List.not_mem_nil, or_false] at known
      rcases known with rfl | rfl | rfl <;> simp [Token.classified]
  | number isNumber => exact ⟨rfl, isNumber.ne_nil⟩
  | string isString | name isString => exact ⟨rfl, isString.ne_nil⟩

theorem IsLexical.classified {before : Option Char} {tokens : List Token}
    (lexical : IsLexical before tokens) :
    ∀ token ∈ tokens, token.tokenClass.isSome →
      token.isIn (stringClasses ++ scalarClasses) = true ∧ token.text.toList ≠ [] := by
  induction tokens generalizing before with
  | nil => simp
  | cons first tokens ih =>
      intro token member isClassified
      rcases List.mem_cons.mp member with rfl | later
      · exact lexical.head isClassified
      · exact ih lexical.tail token later isClassified

/-- A plain piece is a run of blanks. -/
theorem IsLexical.blank_of_plain {before : Option Char} {tokens : List Token}
    (lexical : IsLexical before tokens) :
    ∀ token ∈ tokens, token.tokenClass = none → IsBlank token.text.toList := by
  induction lexical with
  | nil => simp
  | blank isBlank isRest ih =>
      intro token member isPlain
      rcases List.mem_cons.mp member with rfl | later
      · rwa [text_blankPiece]
      · exact ih token later isPlain
  | mark _ _ ih | constant _ _ _ _ ih | number _ _ _ _ ih | string _ _ _ ih | name _ _ _ ih =>
      intro token member isPlain
      rcases List.mem_cons.mp member with rfl | later
      · exact absurd isPlain (Option.some_ne_none _)
      · exact ih token later isPlain

theorem isSome_of_isIn {classes : List TokenClass} {token : Token}
    (isIn : token.isIn classes = true) : token.tokenClass.isSome := by
  cases isClass : token.tokenClass with
  | none => simp [Token.isIn, isClass] at isIn
  | some tokenClass => rfl

/-- Both passes together put away no more than the lexical tokens. -/
theorem countP_add_countP_le (pieces : List Token) :
    pieces.countP (·.isIn stringClasses) + pieces.countP (·.isIn scalarClasses) ≤
      (lexemes pieces).length := by
  induction pieces with
  | nil => simp
  | cons piece pieces ih =>
      cases isClass : piece.tokenClass with
      | none => simpa [lexemes, Token.isIn, isClass] using ih
      | some tokenClass =>
          have once : ¬(piece.isIn stringClasses = true ∧ piece.isIn scalarClasses = true) := by
            rintro ⟨isString, isScalar⟩
            simp [Token.isIn_eq_false classes_apart isString] at isScalar
          simp only [lexemes, List.countP_cons, List.filter_cons, isClass, Option.isSome_some,
            ↓reduceIte, List.length_cons] at ih ⊢
          split <;> split <;> first | omega | simp_all

/-- A valid text is cut into its lexical tokens and the blanks between them. -/
theorem tokenize_document {pieces : List Token} (document : IsDocument pieces) {text : String}
    (whole : text.toList = Token.chars pieces) (ordinary : ∀ c ∈ text.toList, isReserved c = false)
    (room : (lexemes pieces).length ≤ slotLimit) :
    Structured.tokenize text = Token.join pieces := by
  have lexical := document.lexical
  have enough := (countP_add_countP_le pieces).trans room
  have someText {classes : List TokenClass} :
      ∀ token ∈ pieces, token.isIn classes = true → token.text ≠ "" := by
    intro token member isIn empty
    have nonempty := (lexical.classified token member (isSome_of_isIn isIn)).2
    simp [empty] at nonempty
  rw [whole] at ordinary
  have start := Stands.start ordinary
  -- The first pass works on the text itself, since none of its characters are put away.
  have literals : literalSpans (Token.chars pieces) = spansOf [] stringClasses 0 pieces := by
    rw [literalSpans, quotedMatcher, Matcher.allMatches_ofPattern rfl rfl]
    exact literalsOf_scan lexical 0
  rcases start.replaceSpans stringClasses (by simp) someText
    (by simpa using (Nat.le_add_right _ _).trans enough) with
    ⟨firstStash, firstText, firstPass, firstStands, firstSize⟩
  rw [List.nil_append] at firstStands
  -- The second one works on a text with placeholders for the strings, which are no parts of words.
  have scalars : scalarSpans firstText = spansOf stringClasses scalarClasses 0 pieces := by
    rw [scalarSpans, scalarMatcher, Matcher.allMatches_ofPattern rfl rfl]
    exact scalarsOf_scan firstStands lexical (fun _ => rfl) 0
  have firstSize : firstStash.tokens.size = pieces.countP (·.isIn stringClasses) := by
    simpa using firstSize
  rcases firstStands.replaceSpans scalarClasses classes_apart someText
    (by rw [firstSize]; exact enough) with ⟨secondStash, secondText, secondPass, secondStands, -⟩
  -- What was put away in both passes can be taken out again.
  have consistent : Consistent (secondStash, secondText) := by
    have first := Stash.replaceSpans_putsAway {} (Token.chars pieces)
      (spansOf [] stringClasses 0 pieces)
    have second := Stash.replaceSpans_putsAway firstStash firstText
      (spansOf stringClasses scalarClasses 0 pieces)
    rw [firstPass] at first
    rw [secondPass] at second
    exact (Consistent.of_ordinary ordinary).putsAway (first.trans second)
  rw [Structured.tokenize, whole, Stash.protect_of_ordinary ordinary]
  simp only [literals, firstPass, scalars, secondPass]
  rw [consistent.resolve_eq_join]
  exact secondStands.joinFrom_map_expand
    (fun token member isClassified => (lexical.classified token member isClassified).1) []

/-- Every valid text is lexed exactly, if none of its characters are reserved and there are
placeholders for its lexical tokens. -/
theorem lexes_tokenize {pieces : List Token} (document : IsDocument pieces) {text : String}
    (whole : text.toList = Token.chars pieces) (ordinary : ∀ c ∈ text.toList, isReserved c = false)
    (room : (lexemes pieces).length ≤ 131068) :
    Lexes text (lexemes pieces) (Structured.tokenize text) := by
  rw [tokenize_document document whole ordinary room]
  constructor
  · exact Token.filter_joinFrom [] pieces
  · exact Token.joinFrom_plain (by simp) document.lexical.blank_of_plain
  · exact Token.isChain_joinFrom [] pieces
  · rw [Token.join_text, Token.join, Token.chars_joinFrom, List.nil_append, ← whole,
      String.ofList_toList]

/-- An object with one member: a number that has all its parts, with blanks on both sides. -/
theorem lexes_tokenize_member :
    Lexes "\x7B\"a:\" : -1.5e+3\x7D"
      [markPiece '\x7B', .classified .property "\"a:\"", markPiece ':',
        .classified .number "-1.5e+3", markPiece '\x7D']
      (Structured.tokenize "\x7B\"a:\" : -1.5e+3\x7D") := by
  have isString : IsString "\"a:\"".toList := by
    have letter : IsUnit ['a'] := .unescaped (by decide) (by decide) (by decide)
    have colon : IsUnit [':'] := .unescaped (by decide) (by decide) (by decide)
    exact .quoted (.cons letter (.cons colon .nil))
  have isNumber : IsNumber "-1.5e+3".toList := by
    have one : IsInteger ['1'] := .positive (by decide) (by decide) (by simp)
    have half : IsFraction ['.', '5'] := .some ⟨by simp, by simp [isAsciiDigit]⟩
    have power : IsExponent ('e' :: (['+'] ++ ['3'])) :=
      .some (by simp) (by simp) ⟨by simp, by simp [isAsciiDigit]⟩
    have number : IsNumber (['-'] ++ (['1'] ++ (['.', '5'] ++ ('e' :: (['+'] ++ ['3']))))) :=
      .mk (by simp) one half power
    exact number
  have opening : IsStructural '\x7B' [blankPiece [], markPiece '\x7B', blankPiece []] :=
    .spaced (by simp [IsBlank]) (by simp [IsBlank])
  have separator : IsStructural ':' [blankPiece [' '], markPiece ':', blankPiece [' ']] :=
    .spaced (by simp [IsBlank, blanks]) (by simp [IsBlank, blanks])
  have closing : IsStructural '\x7D' [blankPiece [], markPiece '\x7D', blankPiece []] :=
    .spaced (by simp [IsBlank]) (by simp [IsBlank])
  have document : IsDocument (blankPiece [] :: (_ ++ [blankPiece []])) :=
    .spaced (by simp [IsBlank])
      (.object opening (.lastMember (.member isString separator (.number isNumber))) closing)
      (by simp [IsBlank])
  exact lexes_tokenize document (by rfl) (by simp [isReserved]) (by decide)

end Tint.Json
