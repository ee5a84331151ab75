import Tint.Proofs.Catalog.Registered
import Tint.Proofs.Unicode.Lowercase

/-!
# Languages as they are defined

A language is defined by its name, its further names, its tokenizer and its rules, in the order in
which they are given.  The language has the names in small letters, and the rules in the order of
their categories, one for each category at most: the last one given.  Adding a rule, and merging
another language, changes the rules of the categories that are given and of no others.
-/

namespace Tint

open Tint.Unicode

/-! ## Inserting rules -/

section Insert

variable {rule other : Rule} {rules : List Rule}

theorem mem_of_mem_insertRule (member : other ∈ insertRule rule rules) :
    other = rule ∨ other ∈ rules := by
  induction rules with
  | nil => exact .inl (List.mem_singleton.mp member)
  | cons first rest ih =>
      rw [insertRule] at member
      split at member
      · rcases List.mem_cons.mp member with rfl | later
        · exact .inr List.mem_cons_self
        · exact (ih later).imp_right (List.mem_cons_of_mem first)
      · split at member
        · exact (List.mem_cons.mp member).imp_right (List.mem_cons_of_mem first)
        · exact List.mem_cons.mp member

/-- Rules stand in the order of their categories, and no two have the same category. -/
def InOrder (rules : List Rule) : Prop :=
  rules.Pairwise fun first second => first.category.rank < second.category.rank

theorem InOrder.insertRule (ordered : InOrder rules) (rule : Rule) :
    InOrder (insertRule rule rules) := by
  induction rules with
  | nil => exact List.pairwise_singleton _ _
  | cons first rest ih =>
      obtain ⟨behind, restOrdered⟩ := List.pairwise_cons.mp ordered
      rw [Tint.insertRule]
      split
      · rename_i before
        refine List.pairwise_cons.mpr ⟨fun other member => ?_, ih restOrdered⟩
        rcases mem_of_mem_insertRule member with rfl | old
        · exact before
        · exact behind other old
      · rename_i notBefore
        split
        · rename_i same
          exact List.pairwise_cons.mpr ⟨by rwa [← same], restOrdered⟩
        · rename_i differ
          have after : rule.category.rank < first.category.rank :=
            lt_of_le_of_ne (Nat.le_of_not_lt notBefore)
              fun sameRank => differ (Category.rank_injective sameRank).symm
          refine List.pairwise_cons.mpr ⟨fun other member => ?_, ordered⟩
          rcases List.mem_cons.mp member with rfl | old
          · exact after
          · exact after.trans (behind other old)

theorem InOrder.foldl_insertRule (ordered : InOrder rules) (added : List Rule) :
    InOrder (added.foldl (fun rules rule => Tint.insertRule rule rules) rules) := by
  induction added generalizing rules with
  | nil => exact ordered
  | cons rule added ih => exact ih (ordered.insertRule rule)

/-- The rule of a category is the one that was inserted, or the one that was there. -/
theorem find?_insertRule (rule : Rule) (rules : List Rule) (category : Category) :
    (insertRule rule rules).find? (·.category == category) =
      if rule.category = category then some rule else rules.find? (·.category == category) := by
  have head (first : Rule) (rest : List Rule) : (first :: rest).find? (·.category == category) =
      if first.category = category then some first else rest.find? (·.category == category) := by
    by_cases isFirst : first.category = category
    · simp [isFirst]
    · rw [List.find?_cons_of_neg (by simpa using isFirst), if_neg isFirst]
  induction rules with
  | nil => exact head rule []
  | cons first rest ih =>
      rw [insertRule]
      split
      · rename_i before
        rw [head first (Tint.insertRule rule rest), head first rest, ih]
        by_cases isFirst : first.category = category
        · have differ : rule.category ≠ category := by
            rintro rfl
            simp [isFirst] at before
          rw [if_pos isFirst, if_neg differ, if_pos isFirst]
        · rw [if_neg isFirst, if_neg isFirst]
      · split
        · rename_i same
          rw [head rule rest, head first rest, same]
          split <;> rfl
        · exact head rule (first :: rest)

/-- A rule goes behind those that come before it. -/
theorem insertRule_append {before : List Rule}
    (front : ∀ other ∈ before, other.category.rank < rule.category.rank) :
    insertRule rule (before ++ rules) = before ++ insertRule rule rules := by
  induction before with
  | nil => rfl
  | cons first rest ih =>
      rw [List.cons_append, insertRule, if_pos (front first List.mem_cons_self),
        ih fun other member => front other (List.mem_cons_of_mem first member), List.cons_append]

/-- Rules that are in order are added behind those before them. -/
theorem foldl_insertRule_of_inOrder {added : List Rule} (ordered : InOrder (rules ++ added)) :
    added.foldl (fun rules rule => insertRule rule rules) rules = rules ++ added := by
  induction added generalizing rules with
  | nil => simp
  | cons rule added ih =>
      have front : ∀ other ∈ rules, other.category.rank < rule.category.rank := fun other member =>
        (List.pairwise_append.mp ordered).2.2 other member rule List.mem_cons_self
      have behind : insertRule rule (rules ++ []) = rules ++ [rule] := insertRule_append front
      rw [List.append_nil] at behind
      rw [List.foldl_cons, behind, ih (by simpa using ordered)]
      simp

/-- Rules that are in order stay as they are. -/
theorem InOrder.foldl_insertRule_nil (ordered : InOrder rules) :
    rules.foldl (fun rules rule => Tint.insertRule rule rules) [] = rules :=
  foldl_insertRule_of_inOrder ordered

end Insert

namespace Language

variable {language other : Language}

/-- The rule of a category after more rules have been added: the last one added, or the one that was
there. -/
theorem rule?_foldl_addRule (language : Language) (added : List Rule) (category : Category) :
    (added.foldl addRule language).rule? category =
      (added.filter (·.category == category)).getLast?.or (language.rule? category) := by
  induction added generalizing language with
  | nil => simp
  | cons rule added ih =>
      have first : (language.addRule rule).rule? category =
          if rule.category = category then some rule else language.rule? category :=
        find?_insertRule rule language.rules category
      rw [List.foldl_cons, ih, first, List.filter_cons]
      by_cases isRule : rule.category = category
      · cases last : (added.filter (·.category == category)).getLast? with
        | none => simp [isRule, List.getLast?_cons, last]
        | some later => simp [isRule, List.getLast?_cons, last]
      · simp [isRule]

/-! ## Merging -/

theorem strategy_merge (language other : Language) :
    (language.merge other).strategy = language.strategy := by
  rw [merge, foldl_addRule]

theorem inOrder_merge (ordered : InOrder language.rules) (other : Language) :
    InOrder (language.merge other).rules := by
  rw [merge, foldl_addRule]
  exact ordered.foldl_insertRule other.rules

/-- The rule of a category after merging: the one of the other language, or the one that was
there. -/
theorem rule?_merge (ordered : InOrder other.rules) (category : Category) :
    (language.merge other).rule? category =
      (other.rule? category).or (language.rule? category) := by
  have asAdded : other.rule? category = (other.rules.filter (·.category == category)).getLast? := by
    have added := rule?_foldl_addRule { other with rules := [] } other.rules category
    rw [foldl_addRule, ordered.foldl_insertRule_nil] at added
    simpa [rule?] using added
  rw [asAdded]
  exact rule?_foldl_addRule _ other.rules category

/-- Names added behind those of a first list: of the names that are not in it, the first occurrence
of each. -/
def namesBehind (first later : List String) : List String :=
  first ++ (later.filter (!first.contains ·)).eraseDups

theorem contains_namesBehind (first later : List String) (name : String) :
    (namesBehind first later).contains name = true ↔ name ∈ first ∨ name ∈ later := by
  by_cases inFirst : name ∈ first <;> simp [namesBehind, inFirst]

/-- One more name is added if it is new. -/
theorem namesBehind_append_singleton (first later : List String) (name : String) :
    namesBehind first (later ++ [name]) =
      if (namesBehind first later).contains name then namesBehind first later
      else namesBehind first later ++ [name] := by
  have known := contains_namesBehind first later name
  by_cases inFirst : name ∈ first
  · rw [if_pos (known.mpr (.inl inFirst))]
    simp [namesBehind, inFirst]
  · by_cases inLater : name ∈ later
    · rw [if_pos (known.mpr (.inr inLater))]
      simp [namesBehind, inFirst, inLater, List.eraseDups_append, List.removeAll]
    · have isNew : ¬(namesBehind first later).contains name = true := by
        rw [known]
        simp [inFirst, inLater]
      rw [if_neg isNew]
      simp [namesBehind, inFirst, inLater, List.eraseDups_append, List.removeAll,
        List.eraseDups_cons]

theorem foldl_namesBehind (first later added : List String) :
    added.foldl (fun names name => if names.contains name then names else names ++ [name])
        (namesBehind first later) = namesBehind first (later ++ added) := by
  induction added generalizing later with
  | nil => simp
  | cons name added ih =>
      rw [List.foldl_cons, ← namesBehind_append_singleton, ih, List.append_assoc,
        List.singleton_append]

/-- Merging adds the further names that are missing behind those that are there. -/
theorem aliases_merge {first later : List String} (old : language.aliases = namesBehind first later)
    (other : Language) :
    (language.merge other).aliases = namesBehind first (later ++ other.aliases) := by
  rw [merge, foldl_addRule, old]
  exact foldl_namesBehind first later other.aliases

end Language

/-! ## Definitions -/

/-- What a language is defined with, in the order in which it is given. -/
structure Definition where
  name : String
  aliases : List String := []
  strategy : Strategy := .generic
  rules : List Rule := []

namespace Definition

/-- The name that the language has. -/
def id (definition : Definition) : String :=
  lowercase definition.name

/-- The further names that the language has. -/
def names (definition : Definition) : List String :=
  definition.aliases.map lowercase

/-- The language that is defined. -/
def language (definition : Definition) : Language :=
  definition.rules.foldl Language.addRule
    { definition.aliases.foldl Language.addAlias (.named definition.name) with
      strategy := definition.strategy }

/-- The rule that is given last for a category. -/
def lastRule? (definition : Definition) (category : Category) : Option Rule :=
  (definition.rules.filter (·.category == category)).getLast?

theorem language_eq (definition : Definition) :
    definition.language =
      { name := definition.id
        aliases := definition.names
        strategy := definition.strategy
        rules := definition.rules.foldl (fun rules rule => insertRule rule rules) [] } := by
  rw [language, Language.foldl_addRule, Language.foldl_addAlias]
  rfl

theorem inOrder_language (definition : Definition) : InOrder definition.language.rules := by
  rw [language_eq]
  exact InOrder.foldl_insertRule .nil definition.rules

theorem rule?_language (definition : Definition) (category : Category) :
    definition.language.rule? category = definition.lastRule? category := by
  rw [language, Language.rule?_foldl_addRule, Language.foldl_addAlias]
  simp [lastRule?, Language.rule?, Language.named]

end Definition

/-- The definition that gives a language as it is. -/
def Language.definition (language : Language) : Definition :=
  { name := language.name
    aliases := language.aliases
    strategy := language.strategy
    rules := language.rules }

/-- A language that was defined can be defined as it is. -/
theorem Definition.language_definition (definition : Definition) :
    definition.language.definition.language = definition.language := by
  have ordered := definition.inOrder_language
  rw [language_eq definition.language.definition]
  simp only [Language.definition, ordered.foldl_insertRule_nil]
  rw [language_eq]
  simp [id, names, lowercase_lowercase]

end Tint
