import Mathlib
import Tint.CommandLine.Options

/-!
# The grammar of arguments

Arguments are a row of items, read from left to right.  An option for a language or a
configuration takes the argument behind it, whatever that is; any other argument is an item of its
own.  Of items of the same kind the last one counts, and a flag counts if it is there at all.

The input is named by files and by the hyphen, which stands for the standard input.  When a file is
named, only the input that was named right before is looked at: that must not be a file too.  So a
hyphen between two files makes room for the second, and the first is forgotten.
-/

namespace Tint.CommandLine

/-- What is asked for by an argument, or by an option with its value. -/
inductive Item where
  | language (name : String)
  | config (path : String)
  | ansi
  | wrap
  | list
  | standardInput
  | file (path : String)
  deriving DecidableEq, Repr

namespace Item

/-- The language that is asked for. -/
def language? : Item → Option String
  | language name => some name
  | _ => none

/-- The configuration that is asked for. -/
def config? : Item → Option String
  | config path => some path
  | _ => none

/-- The input that is asked for: the path of a file, or none for the standard input. -/
def input? : Item → Option (Option String)
  | standardInput => some none
  | file path => some (some path)
  | _ => none

/-- The file that is asked for as the input. -/
def file? : Item → Option String
  | file path => some path
  | _ => none

end Item

/-- The items that arguments stand for, taken from left to right. -/
inductive ReadAs : List String → List Item → Prop where
  | nil : ReadAs [] []
  | language {option value : String} {rest : List String} {items : List Item}
      (isOption : option = "-l" ∨ option = "--lang") (later : ReadAs rest items) :
      ReadAs (option :: value :: rest) (.language value :: items)
  | config {option value : String} {rest : List String} {items : List Item}
      (isOption : option = "-c" ∨ option = "--config") (later : ReadAs rest items) :
      ReadAs (option :: value :: rest) (.config value :: items)
  | ansi {argument : String} {rest : List String} {items : List Item}
      (isFlag : argument = "--ansi") (later : ReadAs rest items) :
      ReadAs (argument :: rest) (.ansi :: items)
  | wrap {argument : String} {rest : List String} {items : List Item}
      (isFlag : argument = "--wrap") (later : ReadAs rest items) :
      ReadAs (argument :: rest) (.wrap :: items)
  | list {argument : String} {rest : List String} {items : List Item}
      (isFlag : argument = "--list") (later : ReadAs rest items) :
      ReadAs (argument :: rest) (.list :: items)
  | standardInput {argument : String} {rest : List String} {items : List Item}
      (isFlag : argument = "-") (later : ReadAs rest items) :
      ReadAs (argument :: rest) (.standardInput :: items)
  | file {path : String} {rest : List String} {items : List Item}
      (noHyphen : path.toList.head? ≠ some '-') (later : ReadAs rest items) :
      ReadAs (path :: rest) (.file path :: items)

/-- At most one file is named as the input. -/
def AtMostOneFile (items : List Item) : Prop :=
  (items.filterMap Item.file?).length ≤ 1

/-- Of two inputs that are named one after the other, one is the standard input. -/
def FilesApart (items : List Item) : Prop :=
  (items.filterMap Item.input?).IsChain fun first second => first = none ∨ second = none

/-- The options are what the items ask for. -/
structure Options.AskedBy (options : Options) (items : List Item) : Prop where
  language : options.language = (items.filterMap Item.language?).getLast?
  configPath : options.configPath = (items.filterMap Item.config?).getLast?
  ansi : options.ansi = true ↔ .ansi ∈ items
  wrap : options.wrap = true ↔ .wrap ∈ items
  list : options.list = true ↔ .list ∈ items
  /-- The input that is named last counts. -/
  path : options.path = (items.filterMap Item.input?).getLast?.join

namespace Options

/-- The options with what an item asks for. -/
def take (options : Options) : Item → Options
  | .language name => { options with language := some name }
  | .config path => { options with configPath := some path }
  | .ansi => { options with ansi := true }
  | .wrap => { options with wrap := true }
  | .list => { options with list := true }
  | .standardInput => { options with path := none }
  | .file path => { options with path := some path }

/-! ## Items one after the other -/

/-- Of the items that set a field, the last one counts. -/
theorem foldl_take_field {α : Type} (field : Options → α) (value? : Item → Option α)
    (step : ∀ options item, field (options.take item) = (value? item).getD (field options))
    (options : Options) (items : List Item) :
    field (items.foldl take options) = (items.filterMap value?).getLast?.getD (field options) := by
  induction items generalizing options with
  | nil => rfl
  | cons item items ih =>
      rw [List.foldl_cons, ih, step, List.filterMap_cons]
      cases value? item with
      | none => rfl
      | some value => rw [List.getLast?_cons, Option.getD_some, Option.getD_some]

/-- A field without a value at the start has that of the last item that has one for it. -/
theorem foldl_take_field? {α : Type} (field : Options → Option α) (value? : Item → Option α)
    (step : ∀ options item, field (options.take item) = (value? item).or (field options))
    (start : field {} = none) (items : List Item) :
    field (items.foldl take {}) = (items.filterMap value?).getLast? := by
  have set (options : Options) (item : Item) :
      field (options.take item) = ((value? item).map some).getD (field options) := by
    rw [step]
    cases value? item <;> rfl
  rw [foldl_take_field field (fun item => (value? item).map some) set, ← List.map_filterMap,
    List.getLast?_map, start]
  cases (items.filterMap value?).getLast? <;> rfl

/-- A flag is set if its item is there. -/
theorem foldl_take_flag (field : Options → Bool) (flag : Item)
    (step : ∀ options item, field (options.take item) = (decide (item = flag) || field options))
    (options : Options) (items : List Item) :
    field (items.foldl take options) = true ↔ flag ∈ items ∨ field options = true := by
  induction items generalizing options with
  | nil => simp
  | cons item items ih =>
      rw [List.foldl_cons, ih, step, List.mem_cons, Bool.or_eq_true, decide_eq_true_iff,
        eq_comm (a := item)]
      tauto

theorem askedBy_foldl_take (items : List Item) : (items.foldl take {}).AskedBy items where
  language :=
    foldl_take_field? language Item.language? (fun _ item => by cases item <;> rfl) rfl items
  configPath :=
    foldl_take_field? configPath Item.config? (fun _ item => by cases item <;> rfl) rfl items
  ansi := by
    rw [foldl_take_flag ansi .ansi (fun _ item => by cases item <;> rfl)]
    simp
  wrap := by
    rw [foldl_take_flag wrap .wrap (fun _ item => by cases item <;> rfl)]
    simp
  list := by
    rw [foldl_take_flag list .list (fun _ item => by cases item <;> rfl)]
    simp
  path := by
    rw [foldl_take_field path Item.input? (fun _ item => by cases item <;> rfl)]
    cases (items.filterMap Item.input?).getLast? <;> rfl

/-- Items ask for one thing only. -/
theorem AskedBy.unique {options other : Options} {items : List Item} (asked : options.AskedBy items)
    (otherAsked : other.AskedBy items) : options = other := by
  have ansi : options.ansi = other.ansi :=
    Bool.eq_iff_iff.mpr (asked.ansi.trans otherAsked.ansi.symm)
  have wrap : options.wrap = other.wrap :=
    Bool.eq_iff_iff.mpr (asked.wrap.trans otherAsked.wrap.symm)
  have list : options.list = other.list :=
    Bool.eq_iff_iff.mpr (asked.list.trans otherAsked.list.symm)
  have language := asked.language.trans otherAsked.language.symm
  have configPath := asked.configPath.trans otherAsked.configPath.symm
  have path := asked.path.trans otherAsked.path.symm
  cases options
  cases other
  simp_all

/-! ## Reading -/

variable {options final : Options} {arguments : List String}

/-- The items that can come once the input of the options has been named. -/
def Allows (options : Options) (items : List Item) : Prop :=
  (options.path :: items.filterMap Item.input?).IsChain fun first second =>
    first = none ∨ second = none

/-- An item can come if it names no file behind another one. -/
theorem allows_cons_iff {item : Item} {items : List Item} :
    options.Allows (item :: items) ↔
      (item.file?.isSome → options.path = none) ∧ (options.take item).Allows items := by
  cases item <;> simp [Allows, List.filterMap_cons, Item.input?, Item.file?, take]

theorem readFrom_file {path : String} (noHyphen : path.toList.head? ≠ some '-')
    (free : options.path = none) :
    options.readFrom (path :: arguments) = (options.take (.file path)).readFrom arguments := by
  have differs {option : String} (isOption : option.toList.head? = some '-') : path ≠ option := by
    rintro rfl
    exact noHyphen isOption
  rw [readFrom.eq_14 _ _ _ (differs rfl) (differs rfl) (differs rfl) (differs rfl) (differs rfl)
    (differs rfl) (differs rfl) (differs rfl), if_neg noHyphen, free]
  rfl

/-- Items that can come are taken one after the other. -/
theorem readFrom_of_readAs {items : List Item} (readAs : ReadAs arguments items)
    (allows : options.Allows items) :
    options.readFrom arguments = .ok (items.foldl take options) := by
  induction readAs generalizing options with
  | nil => rfl
  | language isOption _ ih =>
      have later := ih (allows_cons_iff.mp allows).2
      rcases isOption with rfl | rfl
      · exact later
      · exact later
  | config isOption _ ih =>
      have later := ih (allows_cons_iff.mp allows).2
      rcases isOption with rfl | rfl
      · exact later
      · exact later
  | ansi isFlag _ ih | wrap isFlag _ ih | list isFlag _ ih | standardInput isFlag _ ih =>
      subst isFlag
      exact ih (allows_cons_iff.mp allows).2
  | file noHyphen _ ih =>
      obtain ⟨free, later⟩ := allows_cons_iff.mp allows
      rw [readFrom_file noHyphen (free rfl)]
      exact ih later

/-- If the arguments behind an item are items that can come, so are all of them. -/
theorem exists_readAs_cons {rest : List String} (item : Item)
    (isItem : ∀ items, ReadAs rest items → ReadAs arguments (item :: items))
    (free : item.file?.isSome → options.path = none)
    (later : ∃ items, ReadAs rest items ∧ (options.take item).Allows items ∧
      final = items.foldl take (options.take item)) :
    ∃ items, ReadAs arguments items ∧ options.Allows items ∧
      final = items.foldl take options := by
  obtain ⟨items, readAs, allows, isFinal⟩ := later
  exact ⟨item :: items, isItem items readAs, allows_cons_iff.mpr ⟨free, allows⟩, isFinal⟩

/-- Arguments that are read are items that can come. -/
theorem exists_readAs (read : options.readFrom arguments = .ok final) :
    ∃ items, ReadAs arguments items ∧ options.Allows items ∧
      final = items.foldl take options := by
  fun_induction readFrom options arguments with
  | case1 options =>
      cases read
      exact ⟨[], .nil, .singleton _, rfl⟩
  | case2 | case4 | case6 | case8 => cases read
  | case3 options value rest ih | case5 options value rest ih =>
      exact exists_readAs_cons (.language value) (fun _ => .language (by simp)) nofun (ih read)
  | case7 options value rest ih | case9 options value rest ih =>
      exact exists_readAs_cons (.config value) (fun _ => .config (by simp)) nofun (ih read)
  | case10 options rest ih => exact exists_readAs_cons .ansi (fun _ => .ansi rfl) nofun (ih read)
  | case11 options rest ih => exact exists_readAs_cons .wrap (fun _ => .wrap rfl) nofun (ih read)
  | case12 options rest ih => exact exists_readAs_cons .list (fun _ => .list rfl) nofun (ih read)
  | case13 options rest ih =>
      exact exists_readAs_cons .standardInput (fun _ => .standardInput rfl) nofun (ih read)
  | case14 options argument rest hyphen =>
      rw [if_pos hyphen] at read
      cases read
  | case15 options argument rest noHyphen taken =>
      rw [if_neg noHyphen, if_pos taken] at read
      cases read
  | case16 options argument rest noHyphen free _ _ _ _ _ _ _ _ ih =>
      rw [if_neg noHyphen, if_neg free] at read
      exact exists_readAs_cons (.file argument) (fun _ => .file noHyphen)
        (fun _ => Option.not_isSome_iff_eq_none.mp free) (ih read)

/-- Without an input at the start, items can come if there is one input between any two files. -/
theorem allows_default_iff {items : List Item} : Allows {} items ↔ FilesApart items := by
  unfold Allows FilesApart
  cases items.filterMap Item.input? <;> simp

/-- Arguments are read if they stand for items that name no file right behind another one. -/
theorem ofArguments_iff_exists_readAs :
    ofArguments arguments = .ok options ↔
      ∃ items, ReadAs arguments items ∧ FilesApart items ∧ options.AskedBy items where
  mp read := by
    obtain ⟨items, readAs, allows, rfl⟩ := exists_readAs read
    exact ⟨items, readAs, allows_default_iff.mp allows, askedBy_foldl_take items⟩
  mpr := by
    rintro ⟨items, readAs, apart, asked⟩
    rw [ofArguments, readFrom_of_readAs readAs (allows_default_iff.mpr apart),
      asked.unique (askedBy_foldl_take items)]

end Options

/-! ## How many files are named -/

/-- Arguments stand for one row of items only. -/
theorem ReadAs.unique {arguments : List String} {items other : List Item}
    (readAs : ReadAs arguments items) (otherReadAs : ReadAs arguments other) : items = other := by
  induction readAs generalizing other with
  | nil =>
      cases otherReadAs
      rfl
  | language isOption _ ih =>
      cases otherReadAs with
      | language _ later => rw [ih later]
      | config isConfig => rcases isOption with rfl | rfl <;> simp at isConfig
      | ansi isFlag | wrap isFlag | list isFlag | standardInput isFlag =>
          rcases isOption with rfl | rfl <;> simp at isFlag
      | file noHyphen => rcases isOption with rfl | rfl <;> exact absurd rfl noHyphen
  | config isOption _ ih =>
      cases otherReadAs with
      | language isLanguage => rcases isOption with rfl | rfl <;> simp at isLanguage
      | config _ later => rw [ih later]
      | ansi isFlag | wrap isFlag | list isFlag | standardInput isFlag =>
          rcases isOption with rfl | rfl <;> simp at isFlag
      | file noHyphen => rcases isOption with rfl | rfl <;> exact absurd rfl noHyphen
  | ansi isFlag _ ih =>
      subst isFlag
      cases otherReadAs with
      | ansi _ later => rw [ih later]
      | language isOther | config isOther | wrap isOther | list isOther | standardInput isOther =>
          simp at isOther
      | file noHyphen => exact absurd rfl noHyphen
  | wrap isFlag _ ih =>
      subst isFlag
      cases otherReadAs with
      | wrap _ later => rw [ih later]
      | language isOther | config isOther | ansi isOther | list isOther | standardInput isOther =>
          simp at isOther
      | file noHyphen => exact absurd rfl noHyphen
  | list isFlag _ ih =>
      subst isFlag
      cases otherReadAs with
      | list _ later => rw [ih later]
      | language isOther | config isOther | ansi isOther | wrap isOther | standardInput isOther =>
          simp at isOther
      | file noHyphen => exact absurd rfl noHyphen
  | standardInput isFlag _ ih =>
      subst isFlag
      cases otherReadAs with
      | standardInput _ later => rw [ih later]
      | language isOther | config isOther | ansi isOther | wrap isOther | list isOther =>
          simp at isOther
      | file noHyphen => exact absurd rfl noHyphen
  | file noHyphen _ ih =>
      cases otherReadAs with
      | language isOption | config isOption =>
          rcases isOption with rfl | rfl <;> exact absurd rfl noHyphen
      | ansi isFlag | wrap isFlag | list isFlag | standardInput isFlag =>
          subst isFlag
          exact absurd rfl noHyphen
      | file _ later => rw [ih later]

theorem filterMap_file? (items : List Item) :
    items.filterMap Item.file? = (items.filterMap Item.input?).filterMap id := by
  rw [List.filterMap_filterMap]
  congr 1
  funext item
  cases item <;> rfl

/-- One file does not stand right behind another one. -/
theorem AtMostOneFile.filesApart {items : List Item} (one : AtMostOneFile items) :
    FilesApart items := by
  rw [AtMostOneFile, filterMap_file?] at one
  rw [FilesApart, List.isChain_iff_forall_rel_of_append_cons_cons]
  intro first second before behind inputs
  rw [inputs] at one
  cases first with
  | none => exact .inl rfl
  | some file =>
      cases second with
      | none => exact .inr rfl
      | some other =>
          simp at one
          omega

/-- Without the hyphen every input is a file, and the next one stands right behind it. -/
theorem filesApart_iff_of_not_mem {items : List Item} (noHyphen : .standardInput ∉ items) :
    FilesApart items ↔ AtMostOneFile items where
  mp apart := by
    have areFiles : items.filterMap Item.input? = (items.filterMap Item.file?).map some := by
      rw [List.map_filterMap]
      refine List.filterMap_congr fun item mem => ?_
      cases item with
      | standardInput => exact absurd mem noHyphen
      | _ => rfl
    rw [FilesApart, areFiles] at apart
    rw [AtMostOneFile]
    rcases files : items.filterMap Item.file? with _ | ⟨first, _ | ⟨second, behind⟩⟩
    · simp
    · simp
    · rw [files] at apart
      simp at apart
  mpr one := one.filesApart

namespace Options

/-- Arguments are read if they are items, and no two files are named without the hyphen between
them; then the options are what the items ask for.  At most one file is all that this means where
there is no hyphen. -/
theorem ofArguments_eq_ok_iff (arguments : List String) :
    (∀ options, ofArguments arguments = .ok options ↔
      ∃ items, ReadAs arguments items ∧ FilesApart items ∧ options.AskedBy items) ∧
    ∀ items, ReadAs arguments items →
      (AtMostOneFile items → ∃ options, ofArguments arguments = .ok options) ∧
      (.standardInput ∉ items →
        ((∃ options, ofArguments arguments = .ok options) ↔ AtMostOneFile items)) := by
  refine ⟨fun options => ofArguments_iff_exists_readAs, fun items readAs => ?_⟩
  have succeeds : (∃ options, ofArguments arguments = .ok options) ↔ FilesApart items := by
    constructor
    · rintro ⟨options, read⟩
      obtain ⟨others, othersRead, apart, -⟩ := ofArguments_iff_exists_readAs.mp read
      rwa [readAs.unique othersRead]
    · intro apart
      exact ⟨_, ofArguments_iff_exists_readAs.mpr
        ⟨items, readAs, apart, askedBy_foldl_take items⟩⟩
  refine ⟨fun one => succeeds.mpr one.filesApart, fun noHyphen => ?_⟩
  rw [succeeds, filesApart_iff_of_not_mem noHyphen]

/-- Two files are named with the hyphen between them, and the second one is the input. -/
theorem ofArguments_hyphenBetweenFiles :
    ofArguments ["a.json", "-", "b.json"] = .ok { path := some "b.json" } ∧
      ¬∃ items, ReadAs ["a.json", "-", "b.json"] items ∧ AtMostOneFile items := by
  have readAs : ReadAs ["a.json", "-", "b.json"]
      [.file "a.json", .standardInput, .file "b.json"] :=
    .file (by decide) (.standardInput rfl (.file (by decide) .nil))
  refine ⟨by decide +kernel, ?_⟩
  rintro ⟨items, otherReadAs, one⟩
  rw [← readAs.unique otherReadAs] at one
  revert one
  unfold AtMostOneFile
  decide

end Options

end Tint.CommandLine
