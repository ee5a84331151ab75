import Mathlib
import Tint.Config.Catalog
import Tint.Proofs.Unicode.Lowercase

/-!
# What a configuration that could be read is like

Reading goes through the entries of a document and stops at the first fault, so of a result it is
known that every step on the way to it succeeded.  Here this gives the prefix of class names, which
has only characters that mean nothing else in an attribute, and the names of languages, which are in
small letters.
-/

namespace Tint

section Except

variable {ε α β : Type}

/-- A result of two steps in a row comes from results of both. -/
theorem bind_eq_ok {first : Except ε α} {next : α → Except ε β} {result : β} :
    first >>= next = .ok result ↔ ∃ value, first = .ok value ∧ next value = .ok result := by
  cases first with
  | ok value => simp [bind, Except.bind]
  | error fault => simp [bind, Except.bind]

/-- A reason that two steps in a row give is that of the first step at fault. -/
theorem bind_eq_error {first : Except ε α} {next : α → Except ε β} {reason : ε} :
    first >>= next = .error reason ↔
      first = .error reason ∨ ∃ value, first = .ok value ∧ next value = .error reason := by
  cases first with
  | ok value => simp [bind, Except.bind]
  | error fault => simp [bind, Except.bind]

theorem map_eq_ok {make : α → β} {first : Except ε α} {result : β} :
    make <$> first = .ok result ↔ ∃ value, first = .ok value ∧ make value = result := by
  cases first with
  | ok value => simp [Functor.map, Except.map]
  | error fault => simp [Functor.map, Except.map]

theorem toOption_eq_some {first : Except ε α} {value : α} :
    first.toOption = some value ↔ first = .ok value := by
  cases first <;> simp [Except.toOption]

/-- What holds at the start and is kept by every step that succeeds holds of the result. -/
theorem foldlM_ok_induction {step : β → α → Except ε β} (holds : β → Prop)
    (kept : ∀ state item next, holds state → step state item = .ok next → holds next)
    {items : List α} {start final : β} (init : holds start)
    (done : items.foldlM step start = .ok final) : holds final := by
  induction items generalizing start with
  | nil =>
      cases done
      exact init
  | cons item items ih =>
      rw [List.foldlM_cons, bind_eq_ok] at done
      rcases done with ⟨next, stepped, rest⟩
      exact ih (kept start item next init stepped) rest

/-- If steps in a row are refused, one of them is. -/
theorem exists_of_foldlM_eq_error {step : β → α → Except ε β} {items : List α} {start : β}
    {reason : ε} (refused : items.foldlM step start = .error reason) :
    ∃ state, ∃ item ∈ items, step state item = .error reason := by
  induction items generalizing start with
  | nil => cases refused
  | cons item items ih =>
      rw [List.foldlM_cons, bind_eq_error] at refused
      rcases refused with first | ⟨next, -, later⟩
      · exact ⟨start, item, List.mem_cons_self, first⟩
      · obtain ⟨state, other, member, isRefused⟩ := ih later
        exact ⟨state, other, List.mem_cons_of_mem _ member, isRefused⟩

theorem mem_of_mapM_eq_ok {step : α → Except ε β} {items : List α} {results : List β}
    (mapped : items.mapM step = .ok results) {result : β} (member : result ∈ results) :
    ∃ item ∈ items, step item = .ok result := by
  induction items generalizing results with
  | nil =>
      cases mapped
      cases member
  | cons item items ih =>
      rw [List.mapM_cons] at mapped
      obtain ⟨first, isFirst, more⟩ := bind_eq_ok.mp mapped
      obtain ⟨rest, isRest, done⟩ := bind_eq_ok.mp more
      cases done
      rcases List.mem_cons.mp member with rfl | later
      · exact ⟨item, List.mem_cons_self, isFirst⟩
      · obtain ⟨other, isOther, stepped⟩ := ih isRest later
        exact ⟨other, List.mem_cons_of_mem item isOther, stepped⟩

@[simp] theorem orError_eq_ok {fault : ε} {found : Option α} {value : α} :
    orError fault found = .ok value ↔ found = some value := by
  cases found <;> simp [orError]

/-- What is not there is an error, whatever would be done with it. -/
theorem orError_none_bind {found : Option α} (notFound : found = none) (fault : ε)
    (next : α → Except ε β) : orError fault found >>= next = .error fault := by
  rw [notFound]
  rfl

end Except

namespace Config

/-- What an entry of a document sets, by its key. -/
inductive Sets (config : Config) : String × Toml.Value → Config → Prop where
  | classPrefix {value : Toml.Value} {classPrefix : String} :
      readPrefix value = .ok classPrefix →
      Sets config ("class-prefix", value) { config with classPrefix }
  | aliases {value : Toml.Value} {entries : Toml.Table} {aliases : List (String × String)} :
      value.table? = some entries → entries.mapM readAlias = .ok aliases →
      Sets config ("aliases", value) { config with aliases }
  | languages {value : Toml.Value} {entries : Toml.Table} {languages : List LanguageEntry} :
      value.table? = some entries →
      entries.mapM (fun entry => LanguageEntry.ofValue entry.1 entry.2) = .ok languages →
      Sets config ("languages", value) { config with languages }

theorem setEntry_eq_ok_iff {config next : Config} {entry : String × Toml.Value} :
    config.setEntry entry = .ok next ↔ config.Sets entry next := by
  constructor
  · intro set
    rcases entry with ⟨key, value⟩
    simp only [setEntry] at set
    split at set
    · obtain ⟨classPrefix, read, done⟩ := bind_eq_ok.mp set
      cases done
      exact .classPrefix read
    · obtain ⟨entries, isTable, rest⟩ := bind_eq_ok.mp set
      obtain ⟨aliases, mapped, done⟩ := bind_eq_ok.mp rest
      cases done
      exact .aliases (orError_eq_ok.mp isTable) mapped
    · obtain ⟨entries, isTable, rest⟩ := bind_eq_ok.mp set
      obtain ⟨languages, mapped, done⟩ := bind_eq_ok.mp rest
      cases done
      exact .languages (orError_eq_ok.mp isTable) mapped
    · cases set
  · rintro (read | ⟨isTable, mapped⟩ | ⟨isTable, mapped⟩)
    · exact bind_eq_ok.mpr ⟨_, read, rfl⟩
    · exact bind_eq_ok.mpr ⟨_, orError_eq_ok.mpr isTable, bind_eq_ok.mpr ⟨_, mapped, rfl⟩⟩
    · exact bind_eq_ok.mpr ⟨_, orError_eq_ok.mpr isTable, bind_eq_ok.mpr ⟨_, mapped, rfl⟩⟩

/-- The prefix of class names has only characters that mean nothing else in an attribute. -/
def PrefixIsSafe (config : Config) : Prop :=
  config.classPrefix.toList.all isPrefixChar = true

theorem readPrefix_eq_ok_iff {value : Toml.Value} {classPrefix : String} :
    readPrefix value = .ok classPrefix ↔
      value.string? = some classPrefix ∧ classPrefix.toList.all isPrefixChar = true := by
  simp only [readPrefix, bind_eq_ok, orError_eq_ok]
  constructor
  · rintro ⟨written, isString, checked⟩
    by_cases safe : written.toList.all isPrefixChar = true
    · rw [if_pos safe] at checked
      cases checked
      exact ⟨isString, safe⟩
    · rw [if_neg safe] at checked
      cases checked
  · rintro ⟨isString, safe⟩
    exact ⟨classPrefix, isString, if_pos safe⟩

theorem setEntry_prefixIsSafe {config next : Config} {entry : String × Toml.Value}
    (safe : config.PrefixIsSafe) (set : config.setEntry entry = .ok next) : next.PrefixIsSafe := by
  cases setEntry_eq_ok_iff.mp set with
  | classPrefix read => exact (readPrefix_eq_ok_iff.mp read).2
  | aliases _ _ => exact safe
  | languages _ _ => exact safe

/-- A configuration that could be read has a safe prefix, also if the document sets none. -/
theorem ofText_prefixIsSafe {source : String} {config : Config}
    (read : ofText source = .ok config) : config.PrefixIsSafe := by
  rcases bind_eq_ok.mp read with ⟨table, _, entries⟩
  have default : PrefixIsSafe {} := by
    rw [PrefixIsSafe]
    decide
  exact foldlM_ok_induction PrefixIsSafe (fun _ _ _ safe set => setEntry_prefixIsSafe safe set)
    default entries

theorem classPrefix_highlighter {config : Config} {highlighter : Highlighter}
    (built : config.highlighter = .ok highlighter) :
    highlighter.classPrefix = config.classPrefix := by
  rcases bind_eq_ok.mp built with ⟨catalog, _, done⟩
  cases done
  rfl

/-- A configuration that only sets the prefix has the built-in catalog. -/
theorem highlighter_of_prefix (classPrefix : String) :
    highlighter { classPrefix } = .ok { catalog := .builtin, classPrefix } := by
  unfold highlighter catalog
  -- The built-in catalog is a large value, which must not be computed here.
  generalize Catalog.builtin = builtin
  simp only [List.foldlM_nil, List.foldl_nil, pure_bind]
  rfl

end Config

/-! ## Names of languages -/

/-- A name is in small letters. -/
def LanguageEntry.IsSmall (entry : LanguageEntry) : Prop :=
  Unicode.lowercase entry.name = entry.name

namespace LanguageEntry

theorem name_setEntry {written : String} {entry next : LanguageEntry} {item : String × Toml.Value}
    (set : setEntry written entry item = .ok next) : next.name = entry.name := by
  rcases item with ⟨key, value⟩
  simp only [setEntry] at set
  split at set
  · obtain ⟨structured, -, done⟩ := bind_eq_ok.mp set
    cases done
    rfl
  · obtain ⟨items, -, rest⟩ := bind_eq_ok.mp set
    obtain ⟨aliases, -, done⟩ := bind_eq_ok.mp rest
    cases done
    rfl
  · obtain ⟨category, -, rest⟩ := bind_eq_ok.mp set
    obtain ⟨rule, -, done⟩ := bind_eq_ok.mp rest
    cases done
    rfl

theorem name_ofValue {written : String} {value : Toml.Value} {entry : LanguageEntry}
    (read : ofValue written value = .ok entry) : entry.name = Unicode.lowercase written := by
  obtain ⟨entries, -, steps⟩ := bind_eq_ok.mp read
  exact foldlM_ok_induction
    (fun entry : LanguageEntry => entry.name = Unicode.lowercase written)
    (fun state item next isName set => (name_setEntry set).trans isName) rfl steps

theorem isSmall_ofValue {written : String} {value : Toml.Value} {entry : LanguageEntry}
    (read : ofValue written value = .ok entry) : entry.IsSmall := by
  rw [IsSmall, name_ofValue read, Unicode.lowercase_lowercase]

end LanguageEntry

/-- The names of the languages that a configuration describes are in small letters. -/
theorem Config.isSmall_ofText {text : String} {config : Config}
    (read : Config.ofText text = .ok config) :
    ∀ entry ∈ config.languages, entry.IsSmall := by
  obtain ⟨table, -, steps⟩ := bind_eq_ok.mp read
  refine foldlM_ok_induction (fun config : Config => ∀ entry ∈ config.languages, entry.IsSmall)
    ?_ (by simp) steps
  intro config item next small set
  cases Config.setEntry_eq_ok_iff.mp set with
  | classPrefix _ => exact small
  | aliases _ _ => exact small
  | languages _ mapped =>
      intro entry member
      obtain ⟨item, -, isRead⟩ := mem_of_mapM_eq_ok mapped member
      exact LanguageEntry.isSmall_ofValue isRead

end Tint
