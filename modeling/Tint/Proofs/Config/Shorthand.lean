import Tint.Proofs.Config.Format

/-!
# A pattern alone, or a table with a pattern

A rule can be written as its pattern alone, or as a table that has the pattern and nothing else.
Both ways describe the same rule, and a document with the one is read as the same document with the
other.  Only an empty pattern is told apart: the table is refused for it, if nothing in front of the
rule is refused, and the pattern alone is not.
-/

namespace Tint

open Tint.Toml Tint.Unicode

/-! ## Where a rule stands -/

/-- All that stands around a rule in a document. -/
structure RulePlace where
  /-- The entries of the document in front of the languages. -/
  top : Table := []
  /-- The languages in front of the one that the rule belongs to. -/
  earlier : Table := []
  /-- The name of the language, as it is written. -/
  name : String
  /-- The entries of the language in front of the rule. -/
  before : Table := []
  category : Category
  behind : Table := []
  later : Table := []
  bottom : Table := []

namespace RulePlace

variable (place : RulePlace) (rule : Value)

/-- The entries of the language. -/
def language : Table :=
  place.before ++ (place.category.name, rule) :: place.behind

/-- The languages of the document. -/
def languages : Table :=
  place.earlier ++ (place.name, .table (place.language rule)) :: place.later

/-- The document with a rule at the place. -/
def document : Table :=
  place.top ++ ("languages", .table (place.languages rule)) :: place.bottom

/-- Nothing in front of the rule is refused. -/
structure Reached : Prop where
  top : ∀ entry ∈ place.top, Config.IsEntry entry
  earlier : ∀ entry ∈ place.earlier, LanguageEntry.IsLanguage entry
  before : ∀ entry ∈ place.before, LanguageEntry.IsEntry entry

/-- Reads what stands in front of the rule: the entries of the document, the languages, and the
entries of the language. -/
def front : Except ConfigError (Config × List LanguageEntry × LanguageEntry) := do
  let config ← place.top.foldlM Config.setEntry {}
  let languages ← place.earlier.mapM fun entry => LanguageEntry.ofValue entry.1 entry.2
  let language ← place.before.foldlM (LanguageEntry.setEntry place.name)
    { name := lowercase place.name }
  return (config, languages, language)

/-- Reads what stands behind the rule. -/
def back (rule : RuleEntry) :
    Config × List LanguageEntry × LanguageEntry → Except ConfigError Config
  | (config, languages, language) => do
      let language ← place.behind.foldlM (LanguageEntry.setEntry place.name)
        { language with rules := language.rules ++ [rule] }
      let later ← place.later.mapM fun entry => LanguageEntry.ofValue entry.1 entry.2
      place.bottom.foldlM Config.setEntry
        { config with languages := languages ++ language :: later }

theorem ofValue_language :
    LanguageEntry.ofValue place.name (.table (place.language rule)) =
      place.before.foldlM (LanguageEntry.setEntry place.name) { name := lowercase place.name } >>=
        fun language => RuleEntry.ofValue place.name place.category rule >>= fun rule =>
          place.behind.foldlM (LanguageEntry.setEntry place.name)
            { language with rules := language.rules ++ [rule] } := by
  change (place.language rule).foldlM _ _ = _
  simp only [language, List.foldlM_append, List.foldlM_cons, LanguageEntry.setEntry_name,
    bind_assoc]
  rfl

theorem setEntry_languages (config : Config) :
    config.setEntry ("languages", .table (place.languages rule)) =
      (place.earlier.mapM fun entry => LanguageEntry.ofValue entry.1 entry.2) >>= fun earlier =>
        LanguageEntry.ofValue place.name (.table (place.language rule)) >>= fun language =>
          (place.later.mapM fun entry => LanguageEntry.ofValue entry.1 entry.2) >>= fun later =>
            .ok { config with languages := earlier ++ language :: later } := by
  have inRow : config.setEntry ("languages", .table (place.languages rule)) =
      ((place.languages rule).mapM fun entry => LanguageEntry.ofValue entry.1 entry.2) >>=
        fun languages => .ok { config with languages } := rfl
  rw [inRow]
  simp only [languages, List.mapM_append, List.mapM_cons, bind_assoc, pure_bind]

/-- A document is read up to the rule, then the rule, and then the rest. -/
theorem ofTable_document :
    Config.ofTable (place.document rule) =
      place.front >>= fun read =>
        RuleEntry.ofValue place.name place.category rule >>= fun rule => place.back rule read := by
  simp only [Config.ofTable, document, List.foldlM_append, List.foldlM_cons, setEntry_languages,
    ofValue_language, front, back, bind_assoc, pure_bind]
  rfl

section Ordered

variable {place : RulePlace} {rule : Value}

theorem ordered_languages (ordered : Value.Ordered (.table (place.document rule))) :
    Value.Ordered (.table (place.languages rule)) :=
  ordered.inOrder _ (List.mem_append_cons_self)

theorem ordered_language (ordered : Value.Ordered (.table (place.document rule))) :
    Value.Ordered (.table (place.language rule)) :=
  (ordered_languages ordered).inOrder _ (List.mem_append_cons_self)

/-- What stands in front of the rule is read if nothing in it is refused. -/
theorem exists_front_iff (ordered : Value.Ordered (.table (place.document rule))) :
    (∃ read, place.front = .ok read) ↔ place.Reached := by
  have top := Config.checks_entries
    (fun entry member => ordered.inOrder entry (List.mem_append_left _ member)) {}
  have earlier := Checks.mapM fun entry (member : entry ∈ place.earlier) =>
    LanguageEntry.checks_ofValue
      ((ordered_languages ordered).inOrder entry (List.mem_append_left _ member))
  have before := LanguageEntry.checks_entries place.name
    (fun entry member =>
      (ordered_language ordered).inOrder entry (List.mem_append_left _ member))
    { name := lowercase place.name }
  constructor
  · rintro ⟨read, isRead⟩
    obtain ⟨config, isTop, more⟩ := bind_eq_ok.mp isRead
    obtain ⟨languages, isEarlier, rest⟩ := bind_eq_ok.mp more
    obtain ⟨language, isBefore, -⟩ := bind_eq_ok.mp rest
    exact ⟨top.exists_ok_iff.mp ⟨config, isTop⟩, earlier.exists_ok_iff.mp ⟨languages, isEarlier⟩,
      before.exists_ok_iff.mp ⟨language, isBefore⟩⟩
  · intro reached
    obtain ⟨config, isTop⟩ := top.accepts reached.top
    obtain ⟨languages, isEarlier⟩ := earlier.accepts reached.earlier
    obtain ⟨language, isBefore⟩ := before.accepts reached.before
    exact ⟨(config, languages, language), bind_eq_ok.mpr ⟨config, isTop,
      bind_eq_ok.mpr ⟨languages, isEarlier, bind_eq_ok.mpr ⟨language, isBefore, rfl⟩⟩⟩⟩

end Ordered

end RulePlace

/-! ## What the two ways come to -/

/-- Two ways to a highlighter fail with the same error, or give highlighters that produce the same
tokens of every text. -/
inductive SameOutcome : Except ConfigError Highlighter → Except ConfigError Highlighter → Prop where
  | refused (reason : ConfigError) : SameOutcome (.error reason) (.error reason)
  | highlights {first second : Highlighter}
      (sameTokens : ∀ text language, first.tokenize text language = second.tokenize text language) :
      SameOutcome (.ok first) (.ok second)

theorem SameOutcome.refl (outcome : Except ConfigError Highlighter) :
    SameOutcome outcome outcome := by
  cases outcome with
  | error reason => exact .refused reason
  | ok highlighter => exact .highlights fun _ _ => rfl

namespace RuleEntry

variable (language : String) (category : Category)

/-- The table of a pattern that is not empty is read as the pattern alone. -/
theorem ofValue_patternTable {pattern : String} (nonempty : pattern ≠ "") :
    ofValue language category (.table [("pattern", .string pattern)]) =
      ofValue language category (.string pattern) :=
  if_neg (by simpa using nonempty)

theorem ofValue_emptyPatternTable :
    ofValue language category (.table [("pattern", .string "")]) =
      .error (.badEntry language category.name .patternMissing) :=
  rfl

end RuleEntry

/-! ### No other entry has the fault of the empty pattern -/

/-- That a pattern is missing is said of an entry under its key, and not of a pattern alone. -/
theorem LanguageEntry.EntryFault.of_patternMissing {written language rule : String}
    {entry : String × Value}
    (fault : EntryFault written entry (.badEntry language rule .patternMissing)) :
    written = language ∧ entry.1 = rule ∧ entry.2.string? = none := by
  cases fault with
  | rule category fault =>
      cases fault with
      | option first =>
          obtain ⟨_, -, fault⟩ := first.exists_mem
          cases fault
      | patternMissing => exact ⟨rfl, rfl, rfl⟩

/-- A document in which the rule is a pattern alone is not refused for a missing pattern there: the
keys on the way to it are not there again. -/
theorem RulePlace.ofTable_document_ne {place : RulePlace} {pattern : String}
    (ordered : Value.Ordered (.table (place.document (.string pattern)))) :
    Config.ofTable (place.document (.string pattern)) ≠
      .error (.badEntry place.name place.category.name .patternMissing) := by
  intro refused
  obtain ⟨entry, inDocument, fault⟩ :=
    ((Config.checks_ofTable ordered).eq_error_iff.mp refused).exists_mem
  cases fault with
  | classPrefix fault => cases fault
  | aliases fault =>
      cases fault with
      | entry first =>
          obtain ⟨_, -, fault⟩ := first.exists_mem
          cases fault
  | languages fault =>
      cases ordered.ascending.value_unique inDocument List.mem_append_cons_self
      cases fault with
      | entry first =>
          obtain ⟨⟨name, value⟩, inLanguages, fault⟩ := first.exists_mem
          cases fault with
          | entry first =>
              obtain ⟨⟨key, value⟩, inLanguage, fault⟩ := first.exists_mem
              obtain ⟨rfl, rfl, notString⟩ := LanguageEntry.EntryFault.of_patternMissing fault
              cases (RulePlace.ordered_languages ordered).ascending.value_unique inLanguages
                List.mem_append_cons_self
              cases (RulePlace.ordered_language ordered).ascending.value_unique inLanguage
                List.mem_append_cons_self
              cases notString

/-! ### The fault of the empty pattern is not found later -/

variable {written key : String}

theorem RuleEntry.rule_ne_patternMissing (entry : RuleEntry) (language : String) :
    entry.rule language ≠ .error (.badEntry written key .patternMissing) := by
  unfold rule
  split
  · simp
  · split <;> simp

theorem LanguageEntry.language_ne_patternMissing (entry : LanguageEntry) :
    entry.language ≠ .error (.badEntry written key .patternMissing) := by
  intro refused
  obtain ⟨state, rule, -, isRefused⟩ := exists_of_foldlM_eq_error refused
  cases isRule : rule.rule entry.name with
  | ok made =>
      rw [isRule] at isRefused
      cases isRefused
  | error reason =>
      rw [isRule] at isRefused
      cases isRefused
      exact rule.rule_ne_patternMissing entry.name isRule

theorem Catalog.addEntry_ne_patternMissing (catalog : Catalog) (entry : LanguageEntry) :
    catalog.addEntry entry ≠ .error (.badEntry written key .patternMissing) := by
  intro refused
  rcases bind_eq_error.mp refused with isLanguage | ⟨language, -, added⟩
  · exact entry.language_ne_patternMissing isLanguage
  · dsimp only at added
    split at added
    · cases added
    · split at added
      · cases added
      · cases added

namespace Config

/-- A configuration that could be read is not refused for a missing pattern when it is built. -/
theorem highlighter_ne_patternMissing (config : Config) :
    config.highlighter ≠ .error (.badEntry written key .patternMissing) := by
  intro refused
  rcases bind_eq_error.mp refused with isCatalog | ⟨catalog, -, done⟩
  · rcases bind_eq_error.mp isCatalog with isAdded | ⟨added, -, done⟩
    · obtain ⟨catalog, entry, -, isRefused⟩ := exists_of_foldlM_eq_error isAdded
      exact catalog.addEntry_ne_patternMissing entry isRefused
    · cases done
  · cases done

/-- The highlighter of a text that is a configuration. -/
def outcome (text : String) : Except ConfigError Highlighter :=
  ofText text >>= highlighter

theorem ofText_eq_ofTable {text : String} {document : Table}
    (isDocument : readDocument? text = some document) : ofText text = ofTable document := by
  rw [ofText, isDocument]
  rfl

end Config

section Ways

variable {place : RulePlace} {pattern alone table : String}

/-- With the rule as a pattern alone and as a table, two texts that are the same otherwise. -/
structure RulePlace.Written (place : RulePlace) (pattern alone table : String) : Prop where
  alone : readDocument? alone = some (place.document (.string pattern))
  table : readDocument? table = some (place.document (.table [("pattern", .string pattern)]))

namespace RulePlace.Written

/-- With a pattern that is not empty, both texts are read as the same configuration. -/
theorem ofText_eq (written : place.Written pattern alone table) (nonempty : pattern ≠ "") :
    Config.ofText alone = Config.ofText table := by
  rw [Config.ofText_eq_ofTable written.alone, Config.ofText_eq_ofTable written.table,
    ofTable_document, ofTable_document, RuleEntry.ofValue_patternTable _ _ nonempty]

/-- If something in front of the rule is refused, that is what both texts are refused for. -/
theorem ofText_eq_of_not_reached (written : place.Written pattern alone table)
    (notReached : ¬place.Reached) : Config.ofText alone = Config.ofText table := by
  rw [Config.ofText_eq_ofTable written.alone, Config.ofText_eq_ofTable written.table,
    ofTable_document, ofTable_document]
  cases isFront : place.front with
  | error reason => rfl
  | ok read =>
      exact absurd ((exists_front_iff (readDocument?_ordered written.alone)).mp ⟨read, isFront⟩)
        notReached

/-- The table with an empty pattern is refused if it is reached. -/
theorem ofText_table_eq_error (written : place.Written "" alone table) (reached : place.Reached) :
    Config.ofText table = .error (.badEntry place.name place.category.name .patternMissing) := by
  obtain ⟨read, isFront⟩ := (exists_front_iff (readDocument?_ordered written.table)).mpr reached
  rw [Config.ofText_eq_ofTable written.table, ofTable_document, isFront,
    RuleEntry.ofValue_emptyPatternTable]
  rfl

/-- The pattern alone is never refused in this way. -/
theorem outcome_alone_ne (written : place.Written pattern alone table) :
    Config.outcome alone ≠ .error (.badEntry place.name place.category.name .patternMissing) := by
  intro refused
  rcases bind_eq_error.mp refused with isRead | ⟨config, -, isBuilt⟩
  · rw [Config.ofText_eq_ofTable written.alone] at isRead
    exact ofTable_document_ne (readDocument?_ordered written.alone) isRead
  · exact config.highlighter_ne_patternMissing isBuilt

theorem not_sameOutcome (written : place.Written "" alone table) (reached : place.Reached) :
    ¬SameOutcome (Config.outcome alone) (Config.outcome table) := by
  have isTable : Config.outcome table = .error _ :=
    bind_eq_error.mpr (.inl (written.ofText_table_eq_error reached))
  have isAlone := written.outcome_alone_ne
  rw [isTable]
  intro same
  cases isOutcome : Config.outcome alone with
  | ok highlighter =>
      rw [isOutcome] at same
      cases same
  | error reason =>
      rw [isOutcome] at same isAlone
      cases same
      exact isAlone rfl

end RulePlace.Written

end Ways

namespace Config

/-- A rule as a pattern alone and as a table with that pattern come to the same, unless the pattern
is empty and nothing in front of the rule is refused.  A pattern that is not empty gives the same
configuration, and the table with an empty one is refused as one without a pattern. -/
theorem sameOutcome_iff {place : RulePlace} {pattern alone table : String}
    (written : place.Written pattern alone table) :
    (SameOutcome (outcome alone) (outcome table) ↔ pattern ≠ "" ∨ ¬place.Reached) ∧
    (pattern ≠ "" → ofText alone = ofText table) ∧
    (pattern = "" → place.Reached →
      outcome table = .error (.badEntry place.name place.category.name .patternMissing)) := by
  refine ⟨⟨fun same => ?_, ?_⟩, written.ofText_eq, ?_⟩
  · by_contra neither
    obtain ⟨isEmpty, reached⟩ := not_or.mp neither
    cases not_not.mp isEmpty
    exact written.not_sameOutcome (not_not.mp reached) same
  · rintro (nonempty | notReached)
    · rw [outcome, outcome, written.ofText_eq nonempty]
      exact .refl _
    · rw [outcome, outcome, written.ofText_eq_of_not_reached notReached]
      exact .refl _
  · rintro rfl reached
    exact bind_eq_error.mpr (.inl (written.ofText_table_eq_error reached))

/-- The place of a rule for strings that is all that a document has. -/
def stringsPlace : RulePlace where
  name := "x"
  category := .strings

theorem written_strings :
    stringsPlace.Written "a" "[languages.x]\nstrings = \"a\"\n"
      "[languages.x]\nstrings = \x7b pattern = \"a\" \x7d\n" where
  alone := by decide +kernel
  table := by decide +kernel

/-- A pattern that is not empty is the same in both ways. -/
theorem sameOutcome_strings :
    stringsPlace.Written "a" "[languages.x]\nstrings = \"a\"\n"
        "[languages.x]\nstrings = \x7b pattern = \"a\" \x7d\n" ∧
      SameOutcome (outcome "[languages.x]\nstrings = \"a\"\n")
        (outcome "[languages.x]\nstrings = \x7b pattern = \"a\" \x7d\n") :=
  ⟨written_strings, (sameOutcome_iff written_strings).1.mpr (.inl (by decide))⟩

/-- An empty pattern is not: alone it is a rule, and the table is refused. -/
theorem not_sameOutcome_emptyStrings :
    stringsPlace.Written "" "[languages.x]\nstrings = \"\"\n"
        "[languages.x]\nstrings = \x7b pattern = \"\" \x7d\n" ∧
      ¬SameOutcome (outcome "[languages.x]\nstrings = \"\"\n")
        (outcome "[languages.x]\nstrings = \x7b pattern = \"\" \x7d\n") := by
  have written : stringsPlace.Written "" "[languages.x]\nstrings = \"\"\n"
      "[languages.x]\nstrings = \x7b pattern = \"\" \x7d\n" :=
    ⟨by decide +kernel, by decide +kernel⟩
  have reached : stringsPlace.Reached :=
    ⟨List.forall_mem_nil _, List.forall_mem_nil _, List.forall_mem_nil _⟩
  exact ⟨written, written.not_sameOutcome reached⟩

end Config

end Tint
