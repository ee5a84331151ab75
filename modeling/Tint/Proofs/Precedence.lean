import Tint.Proofs.Tokenized

/-!
# Rules of lower precedence

The rules of a language are tried one after the other, and what an earlier rule has classified is
put away before a later one looks at the text.  So the rules that come later only cut up text that
the earlier ones left plain, whatever their patterns match and also when no placeholder is left.
-/

namespace Tint

/-- Tokens that come about when rules are added: every classified token is still there, at the same
place, and only plain ones are cut up. -/
structure Token.Refines (coarse fine : List Token) : Prop where
  classified : ∀ place token, (place, token) ∈ Token.placedFrom 0 coarse →
    token.tokenClass.isSome → (place, token) ∈ Token.placedFrom 0 fine
  subdivides : Token.Subdivides coarse fine

namespace Language

/-- Rules that are tried after all others only cut up plain tokens. -/
theorem subdivides_tokenize {few more : Language} {lower : List Rule}
    (extended : more.rules = few.rules ++ lower) (text : String) :
    Token.Subdivides (few.tokenize text) (more.tokenize text) := by
  cases found : Stash.protect text.toList with
  | none =>
      simp only [tokenize, found]
      exact .refl _
  | some start =>
      have linked := Stash.protect_consistent found
      have fewSteps := Working.applyRules_putsAway few.rules start
      have lowerSteps := Working.applyRules_putsAway lower (Working.applyRules start few.rules)
      rw [tokenize_of_protect found, tokenize_of_protect found, extended,
        Working.applyRules_append,
        (linked.putsAway fewSteps).resolve_eq_join,
        (linked.putsAway (fewSteps.trans lowerSteps)).resolve_eq_join]
      exact lowerSteps.subdivides_join (linked.putsAway fewSteps)

theorem refines_tokenize {few more : Language} {lower : List Rule}
    (extended : more.rules = few.rules ++ lower) (text : String) :
    Token.Refines (few.tokenize text) (more.tokenize text) where
  classified := by
    intro place token member isClassified
    exact (subdivides_tokenize extended text).mem_placedFrom isClassified member
  subdivides := subdivides_tokenize extended text

/-- What the first rules of a language classify stays as it is, in the language as a whole and with
any other rules in place of the later ones. -/
theorem tokenize_take_refines (language : Language) (count : Nat) (text : String) :
    let higher := language.rules.take count
    let kept := { language with rules := higher }.tokenize text
    Token.Refines kept (language.tokenize text) ∧
      ∀ lower : List Rule,
        Token.Refines kept ({ language with rules := higher ++ lower }.tokenize text) := by
  intro higher kept
  constructor
  · exact refines_tokenize (List.take_append_drop count language.rules).symm text
  · intro lower
    exact refines_tokenize rfl text

end Language

end Tint
