import Tint.Highlighter
import Tint.Proofs.Language

/-!
# The rules of a language in canonical form

However a language is put together, its rules stand in the order of their categories, one for each
category at most, and it is the one that was supplied last.  So the rules are determined by what was
supplied last for each category.  Neither the order in which rules of different categories come nor
whether they are added one by one or merged shows in them, and it cannot show in tokens.

A rule has one place among rules in order.  Whichever way that place is searched for, the same rules
come out.
-/

namespace Tint

theorem Category.mem_precedence (category : Category) : category ∈ precedence := by
  cases category <;> decide

/-- Categories are listed by rank. -/
theorem Category.pairwise_precedence :
    precedence.Pairwise fun first second => first.rank < second.rank := by
  decide

/-! ## Rules in order -/

section InOrder

variable {rule : Rule} {rules others : List Rule}

namespace InOrder

/-- No two rules have the same category. -/
theorem nodup_categories (ordered : InOrder rules) : (rules.map (·.category)).Nodup := by
  apply List.pairwise_map.mpr
  apply ordered.imp
  intro first second before same
  exact absurd (congrArg Category.rank same) (Nat.ne_of_lt before)

/-- Rules in order have one rule of a category, so they are divided at it in one way. -/
theorem split_unique {higher lower otherHigher otherLower : List Rule} {rule other : Rule}
    (ordered : InOrder rules) (split : rules = higher ++ rule :: lower)
    (otherSplit : rules = otherHigher ++ other :: otherLower)
    (same : rule.category = other.category) :
    higher = otherHigher ∧ rule = other ∧ lower = otherLower := by
  have distinct := ordered.nodup_categories
  have isRule : rule = other :=
    List.inj_on_of_nodup_map distinct (by simp [split]) (by simp [otherSplit]) same
  subst isRule
  have once := List.nodup_middle.mp (split ▸ List.Nodup.of_map _ distinct)
  rw [List.nodup_cons, List.mem_append, not_or] at once
  exact (List.append_cons_inj_of_notMem once.1.1 once.1.2).mp (split.symm.trans otherSplit)

/-- A rule that stands anywhere is the one that is found for its category. -/
theorem find?_eq_some_iff (ordered : InOrder rules) {category : Category} :
    rules.find? (·.category == category) = some rule ↔
      rule ∈ rules ∧ rule.category = category := by
  constructor
  · intro found
    exact ⟨List.mem_of_find?_eq_some found, by simpa using List.find?_some found⟩
  · intro ⟨member, isCategory⟩
    have isSome : (rules.find? (·.category == category)).isSome := by
      apply List.find?_isSome.mpr
      exact ⟨rule, member, by simpa using isCategory⟩
    have ⟨other, found⟩ := Option.isSome_iff_exists.mp isSome
    have otherCategory : other.category = category := by simpa using List.find?_some found
    have same : other = rule :=
      List.inj_on_of_nodup_map ordered.nodup_categories (List.mem_of_find?_eq_some found) member
        (otherCategory.trans isCategory.symm)
    rw [found, same]

theorem mem_iff (ordered : InOrder rules) :
    rules.find? (·.category == rule.category) = some rule ↔ rule ∈ rules :=
  ordered.find?_eq_some_iff.trans (and_iff_left rfl)

/-- Rules in order are told by what is found for each category. -/
theorem ext (ordered : InOrder rules) (othersOrdered : InOrder others)
    (same : ∀ category,
      rules.find? (·.category == category) = others.find? (·.category == category)) :
    rules = others := by
  have sameRules (rule : Rule) : rule ∈ rules ↔ rule ∈ others := by
    rw [← ordered.mem_iff, same, othersOrdered.mem_iff]
  have perm : rules.Perm others :=
    (List.perm_ext_iff_of_nodup ordered.nodup_categories.of_map
      othersOrdered.nodup_categories.of_map).mpr sameRules
  apply List.Perm.eq_of_pairwise _ ordered othersOrdered perm
  intro first second _ _ before after
  exact absurd before (Nat.lt_asymm after)

/-- Listing by category what is found puts rules in order. -/
theorem filterMap_precedence {lookup : Category → Option Rule}
    (categories : ∀ category rule, lookup category = some rule → rule.category = category) :
    InOrder (Category.precedence.filterMap lookup) := by
  apply Category.pairwise_precedence.filterMap
  intro first second before firstRule isFirst secondRule isSecond
  rw [categories first firstRule isFirst, categories second secondRule isSecond]
  exact before

/-- Rules in order are what is found for the categories, in their order. -/
theorem eq_filterMap_precedence (ordered : InOrder rules) :
    rules = Category.precedence.filterMap fun category =>
      rules.find? (·.category == category) := by
  have listed : InOrder (Category.precedence.filterMap fun category =>
      rules.find? (·.category == category)) := by
    apply filterMap_precedence
    intro category rule found
    exact (ordered.find?_eq_some_iff.mp found).2
  apply ordered.ext listed
  intro category
  apply Option.ext
  intro rule
  rw [ordered.find?_eq_some_iff, listed.find?_eq_some_iff]
  apply and_congr_left
  intro isCategory
  rw [List.mem_filterMap]
  constructor
  · intro member
    exact ⟨category, category.mem_precedence, ordered.find?_eq_some_iff.mpr ⟨member, isCategory⟩⟩
  · intro ⟨other, _, found⟩
    exact (ordered.find?_eq_some_iff.mp found).1

end InOrder

/-- The rules of languages are told by the rule of each category. -/
theorem Language.rules_eq_of_rule? {first second : Language} (firstOrdered : InOrder first.rules)
    (secondOrdered : InOrder second.rules)
    (same : ∀ category, first.rule? category = second.rule? category) :
    first.rules = second.rules :=
  firstOrdered.ext secondOrdered same

/-- What may become of rules when one is added: it takes the place of one of its category, or it
goes behind the rules that come before it and in front of those that come after it. -/
inductive Inserts (rule : Rule) : List Rule → List Rule → Prop where
  | replaces (before : List Rule) (old : Rule) (after : List Rule)
      (same : old.category = rule.category) :
      Inserts rule (before ++ old :: after) (before ++ rule :: after)
  | separates (before after : List Rule)
      (front : ∀ other ∈ before, other.category.rank < rule.category.rank)
      (behind : ∀ other ∈ after, rule.category.rank < other.category.rank) :
      Inserts rule (before ++ after) (before ++ rule :: after)

theorem Inserts.cons {first : Rule} (before : first.category.rank < rule.category.rank)
    (inserts : Inserts rule rules others) : Inserts rule (first :: rules) (first :: others) := by
  cases inserts with
  | replaces front old after same => exact .replaces (first :: front) old after same
  | separates front after isFront isBehind =>
      apply Inserts.separates (first :: front) after _ isBehind
      intro other member
      cases List.mem_cons.mp member with
      | inl isFirst => rwa [isFirst]
      | inr later => exact isFront other later

/-- Adding a rule puts it in its place. -/
theorem InOrder.inserts (ordered : InOrder rules) (rule : Rule) :
    Inserts rule rules (Tint.insertRule rule rules) := by
  induction rules with
  | nil => exact .separates [] [] (by simp) (by simp)
  | cons first rest ih =>
      have ⟨behind, restOrdered⟩ := List.pairwise_cons.mp ordered
      rw [Tint.insertRule]
      split
      · rename_i before
        exact (ih restOrdered).cons before
      · rename_i notBefore
        split
        · rename_i same
          exact .replaces [] first rest same
        · rename_i differ
          have after : rule.category.rank < first.category.rank := by
            apply lt_of_le_of_ne (Nat.le_of_not_lt notBefore)
            intro sameRank
            exact differ (Category.rank_injective sameRank).symm
          apply Inserts.separates [] (first :: rest) (by simp)
          intro other member
          cases List.mem_cons.mp member with
          | inl isFirst => rwa [isFirst]
          | inr later => exact after.trans (behind other later)

/-- Among rules in order there is no other place for a rule. -/
theorem InOrder.inserts_iff (ordered : InOrder rules) :
    Inserts rule rules others ↔ others = Tint.insertRule rule rules := by
  constructor
  · intro inserts
    cases inserts with
    | replaces before old after same =>
        have inFront : ∀ other ∈ before, other.category.rank < rule.category.rank := by
          intro other member
          rw [← same]
          exact (List.pairwise_append.mp ordered).2.2 other member old List.mem_cons_self
        rw [insertRule_append inFront, Tint.insertRule, same, if_neg (Nat.lt_irrefl _), if_pos rfl]
    | separates before after front behind =>
        rw [insertRule_append front]
        cases after with
        | nil => rfl
        | cons next later =>
            have isBehind := behind next List.mem_cons_self
            have differ : next.category ≠ rule.category := by
              intro same
              exact absurd (congrArg Category.rank same).symm (Nat.ne_of_lt isBehind)
            rw [Tint.insertRule, if_neg (Nat.lt_asymm isBehind), if_neg differ]
  · intro isResult
    rw [isResult]
    exact ordered.inserts rule

end InOrder

/-! ## Languages as they are put together -/

/-- A way to put a language together. -/
inductive Assembly where
  | named (name : String)
  | addAlias (assembly : Assembly) (name : String)
  | setStrategy (assembly : Assembly) (strategy : Strategy)
  | addRule (assembly : Assembly) (rule : Rule)
  | merge (assembly other : Assembly)

namespace Assembly

/-- The language that is put together. -/
def language : Assembly → Language
  | named name => .named name
  | addAlias assembly name => assembly.language.addAlias name
  | setStrategy assembly strategy => { assembly.language with strategy }
  | addRule assembly rule => assembly.language.addRule rule
  | merge assembly other => assembly.language.merge other.language

/-- The rules that are supplied, from the first to the last.  Merging supplies those of the other
language. -/
def supplied : Assembly → List Rule
  | named _ => []
  | addAlias assembly _ => assembly.supplied
  | setStrategy assembly _ => assembly.supplied
  | addRule assembly rule => assembly.supplied ++ [rule]
  | merge assembly other => assembly.supplied ++ other.supplied

/-- The rule that is supplied last for a category. -/
def lastRule? (assembly : Assembly) (category : Category) : Option Rule :=
  (assembly.supplied.filter (·.category == category)).getLast?

theorem lastRule?_addRule (assembly : Assembly) (rule : Rule) (category : Category) :
    (assembly.addRule rule).lastRule? category =
      ([rule].filter (·.category == category)).getLast?.or (assembly.lastRule? category) := by
  simp only [lastRule?, supplied, List.filter_append, List.getLast?_append]

theorem lastRule?_merge (assembly other : Assembly) (category : Category) :
    (assembly.merge other).lastRule? category =
      (other.lastRule? category).or (assembly.lastRule? category) := by
  simp only [lastRule?, supplied, List.filter_append, List.getLast?_append]

theorem inOrder_rules (assembly : Assembly) : InOrder assembly.language.rules := by
  induction assembly with
  | named name => exact List.Pairwise.nil
  | addAlias assembly name ih => exact ih
  | setStrategy assembly strategy ih => exact ih
  | addRule assembly rule ih => exact ih.insertRule rule
  | merge assembly other ih _ => exact Language.inOrder_merge ih other.language

theorem rule?_eq_lastRule? (assembly : Assembly) (category : Category) :
    assembly.language.rule? category = assembly.lastRule? category := by
  induction assembly with
  | named name => rfl
  | addAlias assembly name ih => exact ih
  | setStrategy assembly strategy ih => exact ih
  | addRule assembly rule ih =>
      have added := Language.rule?_foldl_addRule assembly.language [rule] category
      rw [ih] at added
      rw [lastRule?_addRule]
      exact added
  | merge assembly other ih otherIH =>
      rw [lastRule?_merge, ← ih, ← otherIH]
      exact Language.rule?_merge other.inOrder_rules category

/-- A rule that is supplied is the last of its category if no other has that category. -/
theorem lastRule?_eq_some_iff {assembly : Assembly}
    (distinct : (assembly.supplied.map (·.category)).Nodup) {category : Category} {rule : Rule} :
    assembly.lastRule? category = some rule ↔
      rule ∈ assembly.supplied ∧ rule.category = category := by
  have ofLast {last : Rule} (isLast : assembly.lastRule? category = some last) :
      last ∈ assembly.supplied ∧ last.category = category := by
    simpa using List.mem_filter.mp (List.mem_of_getLast? isLast)
  constructor
  · exact ofLast
  · intro ⟨member, isCategory⟩
    cases isLast : assembly.lastRule? category with
    | none =>
        have noRule := List.getLast?_eq_none_iff.mp isLast
        simp [List.filter_eq_nil_iff] at noRule
        exact absurd isCategory (noRule rule member)
    | some last =>
        have ⟨lastMember, lastCategory⟩ := ofLast isLast
        rw [List.inj_on_of_nodup_map distinct lastMember member
          (lastCategory.trans isCategory.symm)]

/-- Rules of categories that differ can be supplied in any order. -/
theorem rules_eq_of_perm {first second : Assembly} (perm : first.supplied.Perm second.supplied)
    (distinct : (first.supplied.map (·.category)).Nodup) :
    first.language.rules = second.language.rules := by
  have alsoDistinct : (second.supplied.map (·.category)).Nodup :=
    (perm.map (·.category)).nodup_iff.mp distinct
  apply Language.rules_eq_of_rule? first.inOrder_rules second.inOrder_rules
  intro category
  rw [rule?_eq_lastRule?, rule?_eq_lastRule?]
  apply Option.ext
  intro rule
  rw [lastRule?_eq_some_iff distinct, lastRule?_eq_some_iff alsoDistinct, perm.mem_iff]

/-- The rules of a language are canonical: in order, with the last rule for each category, and with
one place for each further rule. -/
structure Canonical (assembly : Assembly) : Prop where
  inOrder : InOrder assembly.language.rules
  nodup_categories : (assembly.language.rules.map (·.category)).Nodup
  rule? : ∀ category, assembly.language.rule? category = assembly.lastRule? category
  rules_eq : assembly.language.rules = Category.precedence.filterMap assembly.lastRule?
  inserts_iff : ∀ rule rules,
    Inserts rule assembly.language.rules rules ↔ rules = (assembly.addRule rule).language.rules

theorem canonical (assembly : Assembly) : assembly.Canonical where
  inOrder := assembly.inOrder_rules
  nodup_categories := assembly.inOrder_rules.nodup_categories
  rule? := assembly.rule?_eq_lastRule?
  rules_eq := by
    have listed := assembly.inOrder_rules.eq_filterMap_precedence
    rwa [show (fun category => assembly.language.rules.find? (·.category == category)) =
      assembly.lastRule? from funext assembly.rule?_eq_lastRule?] at listed
  inserts_iff := by
    intro rule rules
    exact assembly.inOrder_rules.inserts_iff

end Assembly

/-- Tokens depend on the rules of a language and on nothing else of it. -/
theorem Language.tokenize_congr {first second : Language} (same : first.rules = second.rules)
    (text : String) : first.tokenize text = second.tokenize text := by
  simp only [tokenize, same]

/-- Whatever is added and merged, the rules of a language are canonical.  Languages that are
supplied the same rules, of categories that differ, have equal rules in whatever order these come,
and divide every text into the same tokens. -/
theorem Assembly.canonical_language :
    (∀ assembly : Assembly, assembly.Canonical) ∧
    ∀ first second : Assembly, first.supplied.Perm second.supplied →
      (first.supplied.map (·.category)).Nodup →
      first.language.rules = second.language.rules ∧
        ∀ text, first.language.tokenize text = second.language.tokenize text := by
  constructor
  · exact canonical
  · intro first second perm distinct
    have sameRules := rules_eq_of_perm perm distinct
    exact ⟨sameRules, Language.tokenize_congr sameRules⟩

/-! ### Two rules in two orders -/

namespace Rule

/-- Operators are exclamation marks. -/
def exclamation : Rule where
  category := .operators
  source := { text := "!" }
  matcher := .ofPattern (.char '!')
  matcher_eq := rfl

/-- Punctuation is semicolons. -/
def semicolon : Rule where
  category := .punctuation
  source := { text := ";" }
  matcher := .ofPattern (.char ';')
  matcher_eq := rfl

end Rule

/-- Adding two rules, and merging them the other way round. -/
theorem Assembly.canonical_language_twoOrders :
    let added := ((named "added").addRule .exclamation).addRule .semicolon
    let merged := ((named "merged").addRule .semicolon).merge ((named "other").addRule .exclamation)
    added.supplied.Perm merged.supplied ∧ (added.supplied.map (·.category)).Nodup ∧
      added.language.rules = merged.language.rules ∧
      ∀ text, added.language.tokenize text = merged.language.tokenize text := by
  intro added merged
  have perm : added.supplied.Perm merged.supplied := List.Perm.swap _ _ []
  have distinct : (added.supplied.map (·.category)).Nodup := by decide
  exact ⟨perm, distinct, canonical_language.2 added merged perm distinct⟩

end Tint
