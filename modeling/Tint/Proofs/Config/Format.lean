import Tint.Proofs.Config.Rules

/-!
# The format of configurations

A document can set the prefix of class names, further names and languages, and the table of a
language can choose its tokenizer, give it names and describe rules.  A configuration is read of a
document if this is all that is there, and is then what the document describes.

If something else is there, the first fault counts: entries are taken in the order of their keys,
and all that is in one comes before the next one.  Errors give the name of a language as it is
written and the name of the category.
-/

namespace Tint

open Tint.Toml Tint.Unicode

/-! ## Languages -/

theorem Category.name_ne_structured (category : Category) : category.name ≠ "structured" := by
  cases category <;> decide

theorem Category.name_ne_aliases (category : Category) : category.name ≠ "aliases" := by
  cases category <;> decide

namespace LanguageEntry

/-- An entry that the table of a language can have. -/
inductive IsEntry : String × Value → Prop where
  | structured (on : Bool) : IsEntry ("structured", .boolean on)
  | aliases (names : List String) : IsEntry ("aliases", .array (names.map .string))
  | rule (category : Category) {value : Value} (isRule : RuleEntry.IsRule value) :
      IsEntry (category.name, value)

/-- Why an entry in the table of a language is refused. -/
inductive EntryFault (written : String) : String × Value → ConfigError → Prop where
  | structured {value : Value} (notBoolean : value.boolean? = none) :
      EntryFault written ("structured", value) (.badEntry written "structured" .notBoolean)
  | notArray {value : Value} (notArray : value.array? = none) :
      EntryFault written ("aliases", value) (.badEntry written "aliases" .notArray)
  | notStrings {items : List Value} (notString : ∃ item ∈ items, item.string? = none) :
      EntryFault written ("aliases", .array items) (.badEntry written "aliases" .notStrings)
  | rule (category : Category) {value : Value} {reason : ConfigError}
      (fault : RuleEntry.Fault written category value reason) :
      EntryFault written (category.name, value) reason
  | unknownCategory {key : String} {value : Value} (notStructured : key ≠ "structured")
      (notAliases : key ≠ "aliases") (unknown : ∀ category : Category, key ≠ category.name) :
      EntryFault written (key, value) (.unknownCategory key)

theorem mapM_strings (reason : ConfigError) (names : List String) :
    (names.map Value.string).mapM (fun item => orError reason item.string?) = .ok names := by
  rw [mapM_eq_ok_iff, List.forall₂_map_left_iff, List.forall₂_same]
  exact fun _ _ => rfl

theorem mapM_strings_eq_error {reason : ConfigError} {items : List Value}
    (notString : ∃ item ∈ items, item.string? = none) :
    items.mapM (fun item => orError reason item.string?) = .error reason := by
  induction items with
  | nil => simp at notString
  | cons item items ih =>
      rw [List.mapM_cons, bind_eq_error]
      cases isString : item.string? with
      | none => exact .inl rfl
      | some text =>
          have later : ∃ other ∈ items, other.string? = none := by simpa [isString] using notString
          exact .inr ⟨text, rfl, bind_eq_error.mpr (.inl (ih later))⟩

theorem exists_map_string_eq {items : List Value}
    (strings : ¬ ∃ item ∈ items, item.string? = none) :
    ∃ names : List String, names.map .string = items := by
  have inRange : items ∈ Set.range (List.map Value.string) := by
    rw [Set.range_list_map]
    intro item member
    obtain ⟨text, isString⟩ := Option.ne_none_iff_exists'.mp fun notString =>
      strings ⟨item, member, notString⟩
    exact ⟨text, (Value.string?_eq_some_iff.mp isString).symm⟩
  exact inRange

theorem setEntry_name (written : String) (language : LanguageEntry) (category : Category)
    (value : Value) :
    setEntry written language (category.name, value) =
      RuleEntry.ofValue written category value >>= fun rule =>
        .ok { language with rules := language.rules ++ [rule] } := by
  -- No category is called like one of the other two keys.
  cases category <;> rfl

theorem checks_setEntry (written : String) (language : LanguageEntry) {entry : String × Value}
    (ordered : entry.2.Ordered) :
    Checks (setEntry written language entry) (IsEntry entry) (EntryFault written entry) where
  accepts := by
    rintro (on | names | ⟨category, isRule⟩)
    · exact ⟨_, rfl⟩
    · exact ⟨_, bind_eq_ok.mpr ⟨_, rfl, bind_eq_ok.mpr ⟨names, mapM_strings _ names, rfl⟩⟩⟩
    · obtain ⟨rule, read⟩ := (RuleEntry.checks_ofValue written category ordered).accepts isRule
      rw [setEntry_name]
      exact ⟨_, bind_eq_ok.mpr ⟨rule, read, rfl⟩⟩
  refuses := by
    rintro reason (notBoolean | notArray | notString | ⟨category, fault⟩ |
      @⟨key, value, notStructured, notAliases, unknown⟩)
    · exact orError_none_bind notBoolean _ _
    · exact orError_none_bind notArray _ _
    · exact bind_eq_error.mpr
        (.inr ⟨_, rfl, bind_eq_error.mpr (.inl (mapM_strings_eq_error notString))⟩)
    · rw [setEntry_name]
      exact bind_eq_error.mpr
        (.inl ((RuleEntry.checks_ofValue written category ordered).refuses fault))
    · have unnamed : Category.ofName? key = none :=
        Option.eq_none_iff_forall_ne_some.mpr fun other named =>
          unknown other (Category.ofName?_eq_some_iff.mp named)
      simp only [setEntry, unnamed]
      rfl
  covers := by
    obtain ⟨key, value⟩ := entry
    by_cases isStructured : key = "structured"
    · subst isStructured
      cases held : value.boolean? with
      | none => exact .inr ⟨_, .structured held⟩
      | some on =>
          cases Value.boolean?_eq_some_iff.mp held
          exact .inl (.structured on)
    by_cases isAliases : key = "aliases"
    · subst isAliases
      cases held : value.array? with
      | none => exact .inr ⟨_, .notArray held⟩
      | some items =>
          cases Value.array?_eq_some_iff.mp held
          by_cases notString : ∃ item ∈ items, item.string? = none
          · exact .inr ⟨_, .notStrings notString⟩
          · obtain ⟨names, rfl⟩ := exists_map_string_eq notString
            exact .inl (.aliases names)
    by_cases isCategory : ∃ category : Category, key = category.name
    · obtain ⟨category, rfl⟩ := isCategory
      rcases (RuleEntry.checks_ofValue written category ordered).covers with
        isRule | ⟨reason, fault⟩
      · exact .inl (.rule category isRule)
      · exact .inr ⟨reason, .rule category fault⟩
    · exact .inr ⟨_, .unknownCategory isStructured isAliases (not_exists.mp isCategory)⟩

/-- The rule that an entry in the table of a language describes, if its key is a category. -/
def describedRule? (entry : String × Value) : Option RuleEntry :=
  (Category.ofName? entry.1).map fun category => RuleEntry.described category entry.2

theorem describedRule?_name (category : Category) (value : Value) :
    describedRule? (category.name, value) = some (.described category value) :=
  Option.map_eq_some_iff.mpr ⟨category, Category.ofName?_eq_some_iff.mpr rfl, rfl⟩

/-- A language with what the entries of a table say of it. -/
def withEntries (language : LanguageEntry) (entries : Table) : LanguageEntry where
  name := language.name
  strategy := ((entries.lookup "structured").bind Value.boolean?).elim language.strategy fun on =>
    some (if on then .structured else .generic)
  aliases := ((entries.lookup "aliases").bind Value.array?).elim language.aliases fun items =>
    items.map fun item => item.string?.getD ""
  rules := language.rules ++ entries.filterMap describedRule?

/-- The language that an entry in the table of languages describes. -/
def described (entry : String × Value) : LanguageEntry :=
  withEntries { name := lowercase entry.1 } (entry.2.table?.getD [])

theorem withEntries_nil (language : LanguageEntry) : language.withEntries [] = language := by
  simp [withEntries]

/-- Setting an entry and then saying the rest is saying all of them. -/
theorem withEntries_cons {written : String} {language next : LanguageEntry}
    {entry : String × Value} {rest : Table} (ordered : entry.2.Ordered)
    (notLater : rest.lookup entry.1 = none) (set : setEntry written language entry = .ok next) :
    next.withEntries rest = language.withEntries (entry :: rest) := by
  cases (checks_setEntry written language ordered).exists_ok_iff.mp ⟨next, set⟩ with
  | structured on =>
      cases set
      have noRule : describedRule? ("structured", .boolean on) = none := rfl
      simp [withEntries, List.lookup_cons, notLater, Value.boolean?, noRule]
  | aliases names =>
      obtain ⟨_, isArray, rest⟩ := bind_eq_ok.mp set
      cases isArray
      obtain ⟨_, areNames, done⟩ := bind_eq_ok.mp rest
      cases (mapM_strings _ names).symm.trans areNames
      cases done
      have noRule : describedRule? ("aliases", .array (names.map .string)) = none := rfl
      simp [withEntries, List.lookup_cons, notLater, Value.array?, noRule, Function.comp_def,
        Value.string?]
  | rule category isRule =>
      rw [setEntry_name] at set
      obtain ⟨rule, isRead, done⟩ := bind_eq_ok.mp set
      cases done
      cases RuleEntry.eq_described ordered isRead
      have notStructured := beq_eq_false_iff_ne.mpr category.name_ne_structured.symm
      have notAliases := beq_eq_false_iff_ne.mpr category.name_ne_aliases.symm
      simp [withEntries, List.lookup_cons, notStructured, notAliases, describedRule?_name]

/-- An entry that the table of languages can have. -/
def IsLanguage (entry : String × Value) : Prop :=
  IsTableOf IsEntry entry.2

/-- Why an entry in the table of languages is refused. -/
def Fault (entry : String × Value) (reason : ConfigError) : Prop :=
  TableFault (.notTable entry.1) IsEntry (EntryFault entry.1) entry.2 reason

theorem checks_entries (written : String) {entries : Table}
    (ordered : ∀ entry ∈ entries, entry.2.Ordered) (start : LanguageEntry) :
    Checks (entries.foldlM (setEntry written) start) (∀ entry ∈ entries, IsEntry entry)
      (FirstFault IsEntry (EntryFault written) entries) := by
  refine Checks.foldlM_each ?_ start
  intro language entry member
  exact checks_setEntry written language (ordered entry member)

theorem checks_ofValue {entry : String × Value} (ordered : entry.2.Ordered) :
    Checks (ofValue entry.1 entry.2) (IsLanguage entry) (Fault entry) :=
  checks_table fun entries isTable => by
    rw [isTable] at ordered
    exact checks_entries entry.1 ordered.inOrder _

theorem eq_described {entry : String × Value} (ordered : entry.2.Ordered) {language : LanguageEntry}
    (read : ofValue entry.1 entry.2 = .ok language) : language = described entry := by
  obtain ⟨entries, isTable, steps⟩ := bind_eq_ok.mp read
  rw [orError_eq_ok] at isTable
  rw [Value.table?_eq_some_iff.mp isTable] at ordered
  rw [described, isTable]
  exact foldlM_eq_said withEntries_nil (fun _ _ _ _ => withEntries_cons) ordered steps

end LanguageEntry

/-! ## Documents -/

namespace Config

/-- The keys of a document. -/
def keys : List String :=
  ["class-prefix", "aliases", "languages"]

/-- An entry that the table of further names can have. -/
inductive IsAlias : String × Value → Prop where
  | name (name target : String) : IsAlias (name, .string target)

/-- Why an entry in the table of further names is refused. -/
inductive AliasFault : String × Value → ConfigError → Prop where
  | notString {name : String} {value : Value} (notString : value.string? = none) :
      AliasFault (name, value) (.notString ("aliases." ++ name))

/-- A value that the prefix of class names can have. -/
inductive IsPrefix : Value → Prop where
  | string (text : String) (safe : ∀ c ∈ text.toList, isPrefixChar c = true) :
      IsPrefix (.string text)

/-- Why a value is refused as the prefix of class names. -/
inductive PrefixFault : Value → ConfigError → Prop where
  | notString {value : Value} (notString : value.string? = none) :
      PrefixFault value (.notString "class-prefix")
  | badPrefix {text : String} (otherChar : ∃ c ∈ text.toList, isPrefixChar c = false) :
      PrefixFault (.string text) (.badPrefix text)

/-- An entry that a document can have. -/
inductive IsEntry : String × Value → Prop where
  | classPrefix {value : Value} (isPrefix : IsPrefix value) : IsEntry ("class-prefix", value)
  | aliases {value : Value} (isTable : IsTableOf IsAlias value) : IsEntry ("aliases", value)
  | languages {value : Value} (isTable : IsTableOf LanguageEntry.IsLanguage value) :
      IsEntry ("languages", value)

/-- Why an entry of a document is refused. -/
inductive Fault : String × Value → ConfigError → Prop where
  | classPrefix {value : Value} {reason : ConfigError} (fault : PrefixFault value reason) :
      Fault ("class-prefix", value) reason
  | aliases {value : Value} {reason : ConfigError}
      (fault : TableFault (.notTable "aliases") IsAlias AliasFault value reason) :
      Fault ("aliases", value) reason
  | languages {value : Value} {reason : ConfigError}
      (fault : TableFault (.notTable "languages") LanguageEntry.IsLanguage LanguageEntry.Fault value
        reason) :
      Fault ("languages", value) reason
  | unknownKey {key : String} {value : Value} (unknown : key ∉ keys) :
      Fault (key, value) (.unknownKey key)

/-- A configuration with what the entries of a table say of it. -/
def withEntries (config : Config) (table : Table) : Config where
  classPrefix := ((table.lookup "class-prefix").bind Value.string?).getD config.classPrefix
  aliases := ((table.lookup "aliases").bind Value.table?).elim config.aliases fun entries =>
    entries.map fun entry => (lowercase entry.1, lowercase (entry.2.string?.getD ""))
  languages := ((table.lookup "languages").bind Value.table?).elim config.languages fun entries =>
    entries.map LanguageEntry.described

/-- The configuration that a table describes.  What the table does not say is left as it is without
one. -/
def described (table : Table) : Config :=
  withEntries {} table

theorem checks_readPrefix (value : Value) :
    Checks (readPrefix value) (IsPrefix value) (PrefixFault value) where
  accepts := by
    rintro ⟨text, safe⟩
    exact ⟨text, readPrefix_eq_ok_iff.mpr ⟨rfl, List.all_eq_true.mpr safe⟩⟩
  refuses := by
    rintro reason (notString | otherChar)
    · exact orError_none_bind notString _ _
    · exact bind_eq_error.mpr (.inr ⟨_, rfl, if_neg (by simpa using otherChar)⟩)
  covers := by
    cases held : value.string? with
    | none => exact .inr ⟨_, .notString held⟩
    | some text =>
        cases Value.string?_eq_some_iff.mp held
        by_cases otherChar : ∃ c ∈ text.toList, isPrefixChar c = false
        · exact .inr ⟨_, .badPrefix otherChar⟩
        · exact .inl (.string text (by simpa using otherChar))

theorem checks_readAlias (entry : String × Value) :
    Checks (readAlias entry) (IsAlias entry) (AliasFault entry) where
  accepts := by
    rintro ⟨name, target⟩
    exact ⟨_, rfl⟩
  refuses := by
    rintro reason ⟨notString⟩
    exact orError_none_bind notString _ _
  covers := by
    obtain ⟨name, value⟩ := entry
    cases held : value.string? with
    | none => exact .inr ⟨_, .notString held⟩
    | some target =>
        cases Value.string?_eq_some_iff.mp held
        exact .inl (.name name target)

section Entry

variable (config : Config) {value : Value}

theorem checks_setEntry_classPrefix (value : Value) :
    Checks (config.setEntry ("class-prefix", value)) (IsPrefix value) (PrefixFault value) :=
  (checks_readPrefix value).andThen fun _ => ⟨_, rfl⟩

theorem checks_setEntry_aliases (value : Value) :
    Checks (config.setEntry ("aliases", value)) (IsTableOf IsAlias value)
      (TableFault (.notTable "aliases") IsAlias AliasFault value) :=
  checks_table fun _ _ =>
    (Checks.mapM fun entry _ => checks_readAlias entry).andThen fun _ => ⟨_, rfl⟩

theorem checks_setEntry_languages (ordered : value.Ordered) :
    Checks (config.setEntry ("languages", value)) (IsTableOf LanguageEntry.IsLanguage value)
      (TableFault (.notTable "languages") LanguageEntry.IsLanguage LanguageEntry.Fault value) :=
  checks_table fun _ isTable => by
    rw [isTable] at ordered
    have checks := Checks.mapM fun entry member =>
      LanguageEntry.checks_ofValue (ordered.inOrder entry member)
    exact checks.andThen fun _ => ⟨_, rfl⟩

theorem checks_setEntry {entry : String × Value} (ordered : entry.2.Ordered) :
    Checks (config.setEntry entry) (IsEntry entry) (Fault entry) where
  accepts := by
    rintro (isPrefix | isTable | isTable)
    · exact (config.checks_setEntry_classPrefix _).accepts isPrefix
    · exact (config.checks_setEntry_aliases _).accepts isTable
    · exact (config.checks_setEntry_languages ordered).accepts isTable
  refuses := by
    rintro reason (fault | fault | fault | unknown)
    · exact (config.checks_setEntry_classPrefix _).refuses fault
    · exact (config.checks_setEntry_aliases _).refuses fault
    · exact (config.checks_setEntry_languages ordered).refuses fault
    · simp only [keys, List.mem_cons, List.not_mem_nil, or_false, not_or] at unknown
      obtain ⟨notPrefix, notAliases, notLanguages⟩ := unknown
      simp only [setEntry]
  covers := by
    obtain ⟨key, value⟩ := entry
    by_cases known : key ∈ keys
    · simp only [keys, List.mem_cons, List.not_mem_nil, or_false] at known
      rcases known with rfl | rfl | rfl
      · exact (config.checks_setEntry_classPrefix value).covers.imp .classPrefix
          (Exists.imp fun _ => .classPrefix)
      · exact (config.checks_setEntry_aliases value).covers.imp .aliases
          (Exists.imp fun _ => .aliases)
      · exact (config.checks_setEntry_languages ordered).covers.imp .languages
          (Exists.imp fun _ => .languages)
    · exact .inr ⟨_, .unknownKey known⟩

end Entry

theorem eq_of_readAlias {entry : String × Value} {written : String × String}
    (read : readAlias entry = .ok written) :
    written = (lowercase entry.1, lowercase (entry.2.string?.getD "")) := by
  obtain ⟨target, isString, done⟩ := bind_eq_ok.mp read
  rw [orError_eq_ok] at isString
  cases done
  rw [isString]
  rfl

theorem withEntries_nil (config : Config) : config.withEntries [] = config := by
  simp [withEntries]

/-- Setting an entry and then saying the rest is saying all of them. -/
theorem withEntries_cons {config next : Config} {entry : String × Value} {rest : Table}
    (ordered : entry.2.Ordered) (notLater : rest.lookup entry.1 = none)
    (set : config.setEntry entry = .ok next) :
    next.withEntries rest = config.withEntries (entry :: rest) := by
  cases setEntry_eq_ok_iff.mp set with
  | classPrefix isRead =>
      obtain ⟨isString, -⟩ := readPrefix_eq_ok_iff.mp isRead
      simp [withEntries, List.lookup_cons, notLater, isString]
  | aliases isTable mapped =>
      cases eq_map_of_mapM_eq_ok (fun _ _ _ => eq_of_readAlias) mapped
      simp [withEntries, List.lookup_cons, notLater, isTable]
  | languages isTable mapped =>
      cases Value.table?_eq_some_iff.mp isTable
      have isDescribed := eq_map_of_mapM_eq_ok
        (fun entry member _ => LanguageEntry.eq_described (ordered.inOrder entry member)) mapped
      simp [withEntries, List.lookup_cons, notLater, isTable, isDescribed]

theorem checks_entries {entries : Table} (ordered : ∀ entry ∈ entries, entry.2.Ordered)
    (start : Config) :
    Checks (entries.foldlM setEntry start) (∀ entry ∈ entries, IsEntry entry)
      (FirstFault IsEntry Fault entries) := by
  refine Checks.foldlM_each ?_ start
  intro config entry member
  exact config.checks_setEntry (ordered entry member)

theorem checks_ofTable {table : Table} (ordered : Value.Ordered (.table table)) :
    Checks (ofTable table) (∀ entry ∈ table, IsEntry entry) (FirstFault IsEntry Fault table) :=
  checks_entries ordered.inOrder {}

/-- A configuration is read of a table just if all its entries are in the format, and is then what
the table describes.  Otherwise the error is that of the first entry at fault, and of the first one
in it where it is a table. -/
theorem ofTable_eq_iff {table : Table} (ordered : Value.Ordered (.table table)) :
    (∀ config, ofTable table = .ok config ↔
      (∀ entry ∈ table, IsEntry entry) ∧ config = described table) ∧
    (∀ reason, ofTable table = .error reason ↔ FirstFault IsEntry Fault table reason) ∧
    ∀ text, readDocument? text = some table → ofText text = ofTable table := by
  have checks := checks_ofTable ordered
  have isDescribed {config : Config} (read : ofTable table = .ok config) :
      config = described table :=
    foldlM_eq_said withEntries_nil (fun _ _ _ _ => withEntries_cons) ordered read
  refine ⟨fun config => ⟨fun read => ?_, ?_⟩, fun _ => checks.eq_error_iff, ?_⟩
  · exact ⟨checks.exists_ok_iff.mp ⟨config, read⟩, isDescribed read⟩
  · rintro ⟨each, rfl⟩
    obtain ⟨config, read⟩ := checks.accepts each
    exact read.trans (congrArg _ (isDescribed read))
  · intro text isDocument
    rw [ofText, isDocument]
    rfl

/-- A document with five faults: a rule without a pattern and with an unknown option, a rule and a
language that are numbers, and an unknown key. -/
def severalFaults : Table :=
  [("languages", .table [
      ("Py", .table [
        ("comments", .table [("multiline", .boolean true), ("other", .integer 1)]),
        ("strings", .integer 3)]),
      ("Sql", .integer 4)]),
    ("unknown", .boolean true)]

/-- The unknown option is reported: it stands in front of the other faults, and that the pattern is
missing would show only behind it. -/
theorem ofTable_eq_iff_severalFaults :
    Value.Ordered (.table severalFaults) ∧
      ofTable severalFaults = .error (.badEntry "Py" "comments" (.unknownOption "other")) := by
  have pair {first second : String × Value} (before : first.1 < second.1)
      (isFirst : first.2.Ordered) (isSecond : second.2.Ordered) :
      Value.Ordered (.table [first, second]) :=
    .table (List.pairwise_pair.mpr before)
      (List.forall_mem_cons.mpr ⟨isFirst, List.forall_mem_singleton.mpr isSecond⟩)
  have options : Value.Ordered (.table [("multiline", .boolean true), ("other", .integer 1)]) :=
    pair (by decide +kernel) .boolean .integer
  have ordered : Value.Ordered (.table severalFaults) :=
    pair (by decide +kernel)
      (pair (by decide +kernel) (pair (by decide +kernel) options .integer) .integer) .boolean
  have first : FirstFault IsEntry Fault severalFaults
      (.badEntry "Py" "comments" (.unknownOption "other")) :=
    .here _ (.languages (.entry (.here _ (.entry (.here _ (.rule .comments (.option
      (.later (.multiLine true) (.here _ (.unknownKey (by decide)))))))))))
  exact ⟨ordered, ((ofTable_eq_iff ordered).2.1 _).mpr first⟩

end Config

end Tint
