import Tint.Proofs.Unicode.Lowercase
import Tint.Unicode.Class

/-!
# White space is no part of words

The categories of characters are written down as runs, and a look-up halves its way to the run that
holds a code point.  Whatever the order of the entries, the search ends at an entry that is at most
what it looks for, with the next one above it.  So a run whose bounds miss a code point is never the
answer, and it is enough to go through the table once.
-/

namespace Tint.Unicode

/-! ## Looking up -/

/-- The search ends where the entries pass what it looks for, or where it began. -/
theorem lastAtMost_spec (sorted : Array Nat) (x : Nat) {steps low high : Nat} (below : low < high)
    (enough : high ≤ low + steps + 1) :
    let last := lastAtMost sorted x steps low high
    (last = low ∨ sorted.getD last 0 ≤ x) ∧
      (last + 1 = high ∨ x < sorted.getD (last + 1) 0) := by
  induction steps generalizing low high with
  | zero =>
      have only : low + 1 = high := by omega
      simp [lastAtMost, only]
  | succ steps ih =>
      rw [lastAtMost]
      split
      · exact ⟨.inl rfl, .inl (by omega)⟩
      · generalize isMiddle : (low + high) / 2 = middle
        dsimp only
        split
        · rename_i atMost
          obtain ⟨isAtMost, passed⟩ := ih (by omega : middle < high) (by omega)
          refine ⟨.inr ?_, passed⟩
          rcases isAtMost with same | atMostLast
          · rwa [same]
          · exact atMostLast
        · rename_i above
          obtain ⟨isAtMost, passed⟩ := ih (by omega : low < middle) (by omega)
          refine ⟨isAtMost, .inr ?_⟩
          rcases passed with same | passed
          · rw [same]
            omega
          · exact passed

/-- The code point at which a run such as `41:Lu` starts. -/
def runStart (word : List Char) : Nat :=
  hexNumber (word.takeWhile (· != ':'))

/-- The name of what holds in a run. -/
def runName (word : List Char) : List Char :=
  (word.dropWhile (· != ':')).drop 1

namespace Runs

variable {α : Type} {value : List Char → α}

/-- The table that words stand for, one run for each. -/
def ofWords (value : List Char → α) (words : List (List Char)) : Runs α :=
  ⟨(words.map runStart).toArray, (words.map fun word => value (runName word)).toArray⟩

theorem ofLines_eq_ofWords (value : List Char → α) (lines : List String) :
    ofLines value lines = ofWords value (tableWords lines) := by
  have read (words : List (List Char)) (runs : Runs α) :
      words.foldl (fun runs word =>
          { starts := runs.starts.push (hexNumber (word.takeWhile (· != ':')))
            values := runs.values.push (value ((word.dropWhile (· != ':')).drop 1)) }) runs =
        ⟨runs.starts ++ (words.map runStart).toArray,
          runs.values ++ (words.map fun word => value (runName word)).toArray⟩ := by
    induction words generalizing runs with
    | nil => simp
    | cons word words ih =>
        rw [List.foldl_cons, ih]
        simp [runStart, runName]
  rw [ofLines, read]
  simp [ofWords]

/-- What a look-up gives is the value of some run that starts at the code point or before it, and
behind which the next one starts. -/
theorem exists_of_get?_ofWords {words : List (List Char)} {code : Nat} {found : α}
    (isFound : (ofWords value words).get? code = some found) :
    ∃ index word, words[index]? = some word ∧ value (runName word) = found ∧
      (index = 0 ∨ runStart word ≤ code) ∧
        ∀ next, words[index + 1]? = some next → code < runStart next := by
  simp only [get?, ofWords, List.size_toArray, List.length_map] at isFound
  generalize isLast :
    lastAtMost (words.map runStart).toArray code words.length 0 words.length = last at isFound
  simp only [List.getElem?_toArray, List.getElem?_map, Option.map_eq_some_iff] at isFound
  obtain ⟨word, isWord, isValue⟩ := isFound
  have inWords : last < words.length := (List.getElem?_eq_some_iff.mp isWord).1
  have spec := lastAtMost_spec (words.map runStart).toArray code
    (by omega : 0 < words.length) (by omega : words.length ≤ 0 + words.length + 1)
  rw [isLast] at spec
  refine ⟨last, word, isWord, isValue, ?_, fun next isNext => ?_⟩
  · simpa [isWord] using spec.1
  · have inside : last + 1 < words.length := (List.getElem?_eq_some_iff.mp isNext).1
    have passed := spec.2.resolve_left (by omega)
    simpa [isNext] using passed

end Runs

/-! ## Going through the table -/

/-- Whether no run with one of these names has a code point between some bounds. -/
def namedMiss (names : List (List Char)) (bounds : List (Nat × Nat)) : List (List Char) → Bool
  | [] => true
  | word :: rest =>
      (!names.contains (runName word) || bounds.all fun bound => Nat.blt bound.2 (runStart word) ||
        rest.head?.any fun next => Nat.ble (runStart next) bound.1) && namedMiss names bounds rest

theorem of_namedMiss {names : List (List Char)} {bounds : List (Nat × Nat)}
    {words : List (List Char)} (miss : namedMiss names bounds words = true) {index : Nat}
    {word : List Char} (isWord : words[index]? = some word) (isName : runName word ∈ names) :
    ∀ bound ∈ bounds, bound.2 < runStart word ∨
      ∃ next, words[index + 1]? = some next ∧ runStart next ≤ bound.1 := by
  induction words generalizing index with
  | nil => simp at isWord
  | cons first rest ih =>
      rw [namedMiss, Bool.and_eq_true] at miss
      cases index with
      | zero =>
          rw [List.getElem?_cons_zero, Option.some_inj] at isWord
          subst isWord
          intro bound member
          have apart := miss.1
          simp only [List.contains_iff_mem.mpr isName, Bool.not_true, Bool.false_or,
            List.all_eq_true, Bool.or_eq_true, Nat.blt_eq, Option.any_eq_true, Nat.ble_eq] at apart
          simpa [List.head?_eq_getElem?] using apart bound member
      | succ index => simpa using ih miss.2 (by simpa using isWord)

/-- The words of a line in front of those of the lines behind it. -/
theorem tableWords_cons_eq {line : List Char} {lines : List String} {words : List (List Char)}
    (isRest : tableWords lines = words) :
    tableWords (String.ofList line :: lines) =
      (line.splitOn ' ').filter (!·.isEmpty) ++ words := by
  rw [tableWords_cons, isRest]

theorem Runs.exists_ofWords {α : Type} {value : List Char → α} {lines : List String}
    {words : List (List Char)} {check : List (List Char) → Bool}
    (isWords : tableWords lines = words) (holds : check words = true) :
    ∃ words, ofLines value lines = ofWords value words ∧ check words = true :=
  ⟨words, by rw [ofLines_eq_ofWords, isWords], holds⟩

/-- The white space beyond ASCII. -/
def blankBounds : List (Nat × Nat) :=
  [(0x85, 0x85), (0xA0, 0xA0), (0x1680, 0x1680), (0x2000, 0x200A), (0x2028, 0x2029),
    (0x202F, 0x202F), (0x205F, 0x205F), (0x3000, 0x3000)]

/-- The abbreviations of the categories whose characters are parts of words. -/
def wordNames : List (List Char) :=
  [['L', 'u'], ['L', 'l'], ['L', 't'], ['L', 'm'], ['L', 'o'], ['M', 'n'], ['M', 'c'], ['M', 'e'],
    ['N', 'd'], ['N', 'l'], ['P', 'c']]

set_option maxRecDepth 2000 in
/-- No run of characters of words holds white space.  The words of the table are shown line by line,
since having them computed would take much longer. -/
theorem exists_ofWords_categories :
    ∃ words, GeneralCategory.runs = .ofWords .ofAbbreviation words ∧
      (words.head?.any (runStart · == 0) && namedMiss wordNames blankBounds words) = true := by
  rw [GeneralCategory.runs]
  dsimp only
  apply Runs.exists_ofWords
  case isWords =>
    repeat apply tableWords_cons_eq
    exact tableWords_nil
  case holds => decide +kernel

/-! ## Characters -/

/-- Whether the characters of a category are parts of words. -/
def GeneralCategory.isOfWords (category : GeneralCategory) : Bool :=
  category.isLetter || category.isMark || category == .decimalNumber ||
    category == .letterNumber || category == .connectorPunctuation

theorem mem_wordNames_of_ofAbbreviation {name : List Char}
    (isOfWords : (GeneralCategory.ofAbbreviation name).isOfWords = true) : name ∈ wordNames := by
  rw [GeneralCategory.ofAbbreviation] at isOfWords
  cases found : GeneralCategory.abbreviations.lookup (String.ofList name) with
  | none => simp [found, GeneralCategory.isOfWords, GeneralCategory.isLetter,
      GeneralCategory.isMark] at isOfWords
  | some category =>
      rw [found, Option.getD_some] at isOfWords
      obtain ⟨before, after, split, -⟩ := List.lookup_eq_some_iff.mp found
      have member : (String.ofList name, category) ∈ GeneralCategory.abbreviations := by
        simp [split]
      have each : ∀ entry ∈ GeneralCategory.abbreviations, entry.2.isOfWords = true →
          entry.1.toList ∈ wordNames := by decide
      simpa using each _ member isOfWords

theorem bound_of_isSpace {c : Char} (space : isSpace c = true) (notAscii : ¬c.toNat < 0x80) :
    ∃ bound ∈ blankBounds, bound.1 ≤ c.toNat ∧ c.toNat ≤ bound.2 := by
  simp only [isSpace, notAscii, if_false, Bool.or_eq_true, beq_iff_eq, Bool.and_eq_true,
    decide_eq_true_eq] at space
  simp only [blankBounds, List.exists_mem_cons_iff, List.not_mem_nil, false_and, exists_false,
    or_false]
  omega

theorem isOfWords_of_isSpace {c : Char} (space : isSpace c = true) (notAscii : ¬c.toNat < 0x80) :
    (GeneralCategory.of c).isOfWords = false := by
  obtain ⟨bound, isBound, low, high⟩ := bound_of_isSpace space notAscii
  obtain ⟨words, isRuns, checked⟩ := exists_ofWords_categories
  rw [Bool.and_eq_true] at checked
  obtain ⟨fromZero, miss⟩ := checked
  by_contra isOfWords
  rw [Bool.not_eq_false, GeneralCategory.of, isRuns] at isOfWords
  cases isFound : (Runs.ofWords GeneralCategory.ofAbbreviation words).get? c.toNat with
  | none => simp [isFound, GeneralCategory.isOfWords, GeneralCategory.isLetter,
      GeneralCategory.isMark] at isOfWords
  | some found =>
      rw [isFound, Option.getD_some] at isOfWords
      obtain ⟨index, word, isWord, isName, starts, ends⟩ := Runs.exists_of_get?_ofWords isFound
      rw [← isName] at isOfWords
      rcases of_namedMiss miss isWord (mem_wordNames_of_ofAbbreviation isOfWords) bound isBound with
        above | ⟨next, isNext, below⟩
      · rcases starts with rfl | starts
        · rw [List.head?_eq_getElem?, isWord] at fromZero
          simp at fromZero
          omega
        · omega
      · have passed := ends next isNext
        omega

/-- No white space is part of a word. -/
theorem isWord_of_isSpace {c : Char} (space : isSpace c = true) : isWord c = false := by
  by_cases ascii : c.toNat < 0x80
  · have each : ∀ code : Fin 0x80,
        (code.val == 0x20 || (9 ≤ code.val && code.val ≤ 13)) = true →
          isWord (Char.ofNat code.val) = false := by decide
    simp only [isSpace, ascii, if_true] at space
    simpa using each ⟨c.toNat, ascii⟩ space
  · have notOfWords := isOfWords_of_isSpace space ascii
    have notException : isWordException c.toNat = false := by
      simp only [isSpace, ascii, if_false, Bool.or_eq_true, beq_iff_eq, Bool.and_eq_true,
        decide_eq_true_eq] at space
      simp only [isWordException, Bool.or_eq_false_iff, beq_eq_false_iff_ne, Bool.and_eq_false_iff,
        decide_eq_false_iff_not]
      omega
    rw [GeneralCategory.isOfWords] at notOfWords
    simp [isWord, ascii, notOfWords, notException]

theorem isWord_of_isDigit {c : Char} (digit : isDigit c = true) : isWord c = true := by
  rw [isDigit] at digit
  rw [isWord]
  dsimp only at digit ⊢
  split at digit
  · rename_i ascii
    simp [ascii, digit]
  · rename_i notAscii
    split at digit
    · cases digit
    · rename_i below
      have within : ¬0xE01F0 ≤ c.toNat := by omega
      simp [notAscii, within, beq_iff_eq.mp digit]

/-- No white space is a decimal digit. -/
theorem isDigit_of_isSpace {c : Char} (space : isSpace c = true) : isDigit c = false := by
  by_contra digit
  rw [Bool.not_eq_false] at digit
  have isWord := isWord_of_isDigit digit
  rw [isWord_of_isSpace space] at isWord
  cases isWord

theorem toNat_lt_of_isAsciiDigit {c : Char} (digit : isAsciiDigit c) : c.toNat < 0x80 := by
  simp only [isAsciiDigit, Bool.and_eq_true, decide_eq_true_eq] at digit
  have upper : c.toNat ≤ '9'.toNat := digit.2
  have nine : '9'.toNat = 0x39 := rfl
  omega

theorem isDigit_of_isAsciiDigit {c : Char} (digit : isAsciiDigit c) :
    isDigit c = true := by
  simp [isDigit, toNat_lt_of_isAsciiDigit digit, digit]

theorem isWord_of_isAsciiDigit {c : Char} (digit : isAsciiDigit c) : isWord c = true := by
  simp [isWord, toNat_lt_of_isAsciiDigit digit, digit]

end Tint.Unicode
