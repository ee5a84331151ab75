import Tint.Proofs.Config.Faults

/-!
# How a rule is written

A rule is a pattern alone or a table of options, one of which is a pattern that is not empty.  Each
option has its key and its kind of value.
-/

namespace Tint

open Tint.Toml

namespace RuleEntry

/-- The keys in the table of a rule. -/
def optionKeys : List String :=
  ["pattern", "class", "case-insensitive", "multiline", "group"]

/-- An entry that the table of a rule can have. -/
inductive IsOption : String × Value → Prop where
  | pattern (text : String) : IsOption ("pattern", .string text)
  | tokenClass (chosen : TokenClass) : IsOption ("class", .string chosen.name)
  | ignoreCase (on : Bool) : IsOption ("case-insensitive", .boolean on)
  | multiLine (on : Bool) : IsOption ("multiline", .boolean on)
  | group (number : Nat) : IsOption ("group", .integer number)

/-- Why an entry in the table of a rule is refused. -/
inductive OptionFault (language : String) (category : Category) :
    String × Value → ConfigError → Prop where
  | pattern {value : Value} (notString : value.string? = none) :
      OptionFault language category ("pattern", value)
        (.badEntry language category.name .patternNotString)
  | classNotString {value : Value} (notString : value.string? = none) :
      OptionFault language category ("class", value)
        (.badEntry language category.name .classNotString)
  | unknownClass {name : String} (unknown : ∀ tokenClass : TokenClass, name ≠ tokenClass.name) :
      OptionFault language category ("class", .string name) (.unknownClass name)
  | ignoreCase {value : Value} (notBoolean : value.boolean? = none) :
      OptionFault language category ("case-insensitive", value)
        (.badEntry language category.name (.optionNotBoolean "case-insensitive"))
  | multiLine {value : Value} (notBoolean : value.boolean? = none) :
      OptionFault language category ("multiline", value)
        (.badEntry language category.name (.optionNotBoolean "multiline"))
  | group {value : Value} (notCount : ∀ number : Nat, value ≠ .integer number) :
      OptionFault language category ("group", value)
        (.badEntry language category.name .groupNotCount)
  | unknownKey {key : String} {value : Value} (unknown : key ∉ optionKeys) :
      OptionFault language category (key, value)
        (.badEntry language category.name (.unknownOption key))

theorem count?_eq_none_iff {value : Value} :
    value.integer?.bind Int.toNat? = none ↔ ∀ number : Nat, value ≠ .integer number := by
  constructor
  · rintro notCount number rfl
    cases notCount
  · intro notCount
    rw [Option.bind_eq_none_iff]
    rintro (number | below) held
    · exact absurd (Value.integer?_eq_some_iff.mp held) (notCount number)
    · rfl

theorem checks_setOption (language : String) (rule : RuleEntry) (entry : String × Value) :
    Checks (setOption language rule entry) (IsOption entry)
      (OptionFault language rule.category entry) where
  accepts := by
    rintro (text | chosen | on | on | number)
    · exact ⟨_, rfl⟩
    · have named := TokenClass.ofName?_eq_some_iff.mpr (Eq.refl chosen.name)
      exact ⟨_, bind_eq_ok.mpr ⟨_, rfl, bind_eq_ok.mpr ⟨_, orError_eq_ok.mpr named, rfl⟩⟩⟩
    · exact ⟨_, rfl⟩
    · exact ⟨_, rfl⟩
    · exact ⟨_, rfl⟩
  refuses := by
    rintro reason (notString | notString | unknown | notBoolean | notBoolean | notCount | unknown)
    · exact orError_none_bind notString _ _
    · exact orError_none_bind notString _ _
    · have unnamed : TokenClass.ofName? _ = none :=
        Option.eq_none_iff_forall_ne_some.mpr fun other named =>
          unknown other (TokenClass.ofName?_eq_some_iff.mp named)
      exact bind_eq_error.mpr (.inr ⟨_, rfl,
        orError_none_bind unnamed _ _⟩)
    · exact orError_none_bind notBoolean _ _
    · exact orError_none_bind notBoolean _ _
    · exact orError_none_bind (count?_eq_none_iff.mpr notCount) _ _
    · simp only [optionKeys, List.mem_cons, List.not_mem_nil, or_false, not_or] at unknown
      obtain ⟨notPattern, notClass, notIgnoreCase, notMultiLine, notGroup⟩ := unknown
      simp only [setOption]
  covers := by
    obtain ⟨key, value⟩ := entry
    by_cases known : key ∈ optionKeys
    · simp only [optionKeys, List.mem_cons, List.not_mem_nil, or_false] at known
      rcases known with rfl | rfl | rfl | rfl | rfl
      · cases held : value.string? with
        | none => exact .inr ⟨_, .pattern held⟩
        | some text =>
            cases Value.string?_eq_some_iff.mp held
            exact .inl (.pattern text)
      · cases held : value.string? with
        | none => exact .inr ⟨_, .classNotString held⟩
        | some name =>
            cases Value.string?_eq_some_iff.mp held
            by_cases named : ∃ tokenClass : TokenClass, name = tokenClass.name
            · obtain ⟨chosen, rfl⟩ := named
              exact .inl (.tokenClass chosen)
            · exact .inr ⟨_, .unknownClass (not_exists.mp named)⟩
      · cases held : value.boolean? with
        | none => exact .inr ⟨_, .ignoreCase held⟩
        | some on =>
            cases Value.boolean?_eq_some_iff.mp held
            exact .inl (.ignoreCase on)
      · cases held : value.boolean? with
        | none => exact .inr ⟨_, .multiLine held⟩
        | some on =>
            cases Value.boolean?_eq_some_iff.mp held
            exact .inl (.multiLine on)
      · by_cases isCount : ∃ number : Nat, value = .integer number
        · obtain ⟨number, rfl⟩ := isCount
          exact .inl (.group number)
        · exact .inr ⟨_, .group (not_exists.mp isCount)⟩
    · exact .inr ⟨_, .unknownKey known⟩

/-- A rule with what the entries of a table say of it. -/
def withOptions (rule : RuleEntry) (options : Table) : RuleEntry where
  category := rule.category
  source := {
    text := ((options.lookup "pattern").bind Value.string?).getD rule.source.text
    ignoreCase :=
      ((options.lookup "case-insensitive").bind Value.boolean?).getD rule.source.ignoreCase
    multiLine := ((options.lookup "multiline").bind Value.boolean?).getD rule.source.multiLine }
  chosenClass := ((options.lookup "class").bind fun value =>
    value.string?.bind TokenClass.ofName?).or rule.chosenClass
  group := ((options.lookup "group").bind fun value =>
    value.integer?.bind Int.toNat?).getD rule.group

/-- The rule that a value describes: a pattern alone, or with options. -/
def described (category : Category) : Value → RuleEntry
  | .table options => withOptions { category, source := { text := "" } } options
  | value => { category, source := { text := value.string?.getD "" } }

/-- Setting an option and then saying the rest is saying all of them. -/
theorem withOptions_cons {language : String} {rule next : RuleEntry} {entry : String × Value}
    {rest : Table} (notLater : rest.lookup entry.1 = none)
    (set : setOption language rule entry = .ok next) :
    next.withOptions rest = rule.withOptions (entry :: rest) := by
  cases (checks_setOption language rule entry).exists_ok_iff.mp ⟨next, set⟩ with
  | pattern text =>
      cases set
      simp [withOptions, List.lookup_cons, notLater, Value.string?]
  | tokenClass chosen =>
      have named := TokenClass.ofName?_eq_some_iff.mpr (Eq.refl chosen.name)
      obtain ⟨_, isString, more⟩ := bind_eq_ok.mp set
      cases isString
      obtain ⟨_, isClass, done⟩ := bind_eq_ok.mp more
      cases named.symm.trans (orError_eq_ok.mp isClass)
      cases done
      simp [withOptions, List.lookup_cons, notLater, Value.string?, named]
  | ignoreCase on =>
      cases set
      simp [withOptions, List.lookup_cons, notLater, Value.boolean?]
  | multiLine on =>
      cases set
      simp [withOptions, List.lookup_cons, notLater, Value.boolean?]
  | group number =>
      cases set
      simp [withOptions, List.lookup_cons, notLater, Value.integer?]
      rfl

theorem withOptions_nil (rule : RuleEntry) : rule.withOptions [] = rule := by
  simp [withOptions]

theorem category_setOption {language : String} {rule next : RuleEntry} {entry : String × Value}
    (set : setOption language rule entry = .ok next) : next.category = rule.category := by
  have same : next.withOptions [] = rule.withOptions [entry] := withOptions_cons rfl set
  rw [withOptions_nil] at same
  rw [same]
  rfl

/-- A value that describes a rule: a pattern alone, even an empty one, or a table with a pattern
that is not empty. -/
inductive IsRule : Value → Prop where
  | pattern (text : String) : IsRule (.string text)
  | table {options : Table} {text : String} (each : ∀ entry ∈ options, IsOption entry)
      (hasPattern : ("pattern", .string text) ∈ options) (nonempty : text ≠ "") :
      IsRule (.table options)

/-- Why a value is refused as a rule.  That the pattern is missing is said only when nothing else in
the table is at fault. -/
inductive Fault (language : String) (category : Category) : Value → ConfigError → Prop where
  | notRule {value : Value} (notString : value.string? = none) (notTable : value.table? = none) :
      Fault language category value (.badEntry language category.name .notRule)
  | option {options : Table} {reason : ConfigError}
      (first : FirstFault IsOption (OptionFault language category) options reason) :
      Fault language category (.table options) reason
  | patternMissing {options : Table} (each : ∀ entry ∈ options, IsOption entry)
      (missing : ∀ text, ("pattern", .string text) ∈ options → text = "") :
      Fault language category (.table options)
        (.badEntry language category.name .patternMissing)

/-- The options of a rule are set as far as the first one at fault. -/
theorem checks_options (language : String) (category : Category) (options : Table) :
    Checks (options.foldlM (setOption language) { category, source := { text := "" } })
      (∀ entry ∈ options, IsOption entry)
      (FirstFault IsOption (OptionFault language category) options) := by
  refine Checks.foldlM (fun rule => rule.category = category) ?_ ?_ rfl
  · rintro state item next rfl set
    exact category_setOption set
  · rintro state item - rfl
    exact checks_setOption language state item

/-- A table of options is read as the rule that it describes, if that has a pattern. -/
theorem ofValue_table {language : String} {category : Category} {options : Table}
    (ordered : Value.Ordered (.table options)) (each : ∀ entry ∈ options, IsOption entry) :
    ofValue language category (.table options) =
      if (described category (.table options)).source.text.isEmpty then
        .error (.badEntry language category.name .patternMissing)
      else .ok (described category (.table options)) := by
  obtain ⟨rule, read⟩ := (checks_options language category options).accepts each
  cases foldlM_eq_said withOptions_nil (fun _ _ _ _ _ => withOptions_cons) ordered read
  simp only [ofValue, read]
  rfl

theorem text_described_eq_empty_iff {category : Category} {options : Table}
    (ascending : Ascending options) :
    (described category (.table options)).source.text = "" ↔
      ∀ text, ("pattern", .string text) ∈ options → text = "" := by
  simp only [described, withOptions, ← ascending.lookup_eq_some_iff]
  cases options.lookup "pattern" with
  | none => simp
  | some value => cases value <;> simp [Value.string?]

theorem checks_ofValue (language : String) (category : Category) {value : Value}
    (ordered : value.Ordered) :
    Checks (ofValue language category value) (IsRule value) (Fault language category value) where
  accepts := by
    rintro (text | ⟨each, hasPattern, nonempty⟩)
    · exact ⟨_, rfl⟩
    · have notEmpty : (described category _).source.text ≠ "" := fun isEmpty =>
        nonempty ((text_described_eq_empty_iff ordered.ascending).mp isEmpty _ hasPattern)
      rw [ofValue_table ordered each, if_neg (by simpa using notEmpty)]
      exact ⟨_, rfl⟩
  refuses := by
    rintro reason (⟨notString, notTable⟩ | first | ⟨each, missing⟩)
    · cases value <;> first | rfl | contradiction
    · exact bind_eq_error.mpr (.inl ((checks_options language category _).refuses first))
    · have isEmpty : (described category _).source.text = "" :=
        (text_described_eq_empty_iff ordered.ascending).mpr missing
      rw [ofValue_table ordered each, if_pos (by simpa using isEmpty)]
  covers := by
    cases isTable : value.table? with
    | some options =>
        cases Value.table?_eq_some_iff.mp isTable
        rcases (checks_options language category options).covers with each | ⟨reason, first⟩
        · by_cases missing : ∀ text, ("pattern", .string text) ∈ options → text = ""
          · exact .inr ⟨_, .patternMissing each missing⟩
          · simp only [not_forall] at missing
            obtain ⟨text, hasPattern, nonempty⟩ := missing
            exact .inl (.table each hasPattern nonempty)
        · exact .inr ⟨reason, .option first⟩
    | none =>
        cases isString : value.string? with
        | some text =>
            cases Value.string?_eq_some_iff.mp isString
            exact .inl (.pattern text)
        | none => exact .inr ⟨_, .notRule isString isTable⟩

theorem eq_described {language : String} {category : Category} {value : Value}
    (ordered : value.Ordered) {rule : RuleEntry}
    (read : ofValue language category value = .ok rule) : rule = described category value := by
  cases (checks_ofValue language category ordered).exists_ok_iff.mp ⟨rule, read⟩ with
  | pattern text =>
      cases read
      rfl
  | table each _ _ =>
      rw [ofValue_table ordered each] at read
      split at read
      · cases read
      · cases read
        rfl

end RuleEntry

end Tint
