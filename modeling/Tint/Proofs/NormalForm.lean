import Tint.Proofs.Tokenized

/-!
# The normal form of token lists

A list of tokens is in normal form if every token has some text and no two plain tokens meet.
Joining plain tokens gives this form and changes no list that has it.

All tokenizers give lists in normal form.  The plain tokens are joined at the end, and what has been
classified was not empty when it was put away; it is moved out of its slot by the one placeholder
that there is for it, so that no token is left without its text.
-/

namespace Tint

namespace Token

/-- Every token has some text, and of two tokens that meet one at least is classified. -/
structure Normal (tokens : List Token) : Prop where
  nonempty : ∀ token ∈ tokens, token.text ≠ ""
  apart : tokens.IsChain fun first second => first.tokenClass.isSome ∨ second.tokenClass.isSome

namespace Normal

variable {token : Token} {tokens : List Token}

theorem tail (normal : Normal (token :: tokens)) : Normal tokens where
  nonempty := fun other member => normal.nonempty other (List.mem_cons_of_mem _ member)
  apart := normal.apart.tail

/-- Behind a plain token there is a classified one or none. -/
theorem isSome_head? (normal : Normal (token :: tokens)) (isPlain : token.tokenClass = none)
    {next : Token} (isHead : tokens.head? = some next) : next.tokenClass.isSome := by
  have either := (List.isChain_cons.mp normal.apart).1 next isHead
  simpa [isPlain] using either

/-- Without text there are no tokens. -/
theorem eq_nil_iff (normal : Normal tokens) : tokens = [] ↔ chars tokens = [] := by
  constructor
  · rintro rfl
    rfl
  · intro noText
    rw [List.eq_nil_iff_forall_not_mem]
    intro token member
    have empty : token.text.toList = [] := List.flatMap_eq_nil_iff.mp noText token member
    exact normal.nonempty token member (by simpa using empty)

end Normal

/-- Joining leaves a list in normal form as it is. -/
theorem Normal.join_eq {tokens : List Token} (normal : Normal tokens) : join tokens = tokens := by
  induction tokens with
  | nil => rfl
  | cons token rest ih =>
      have restJoined := ih normal.tail
      cases found : token.tokenClass with
      | some tokenClass =>
          rw [join, joinFrom_cons_classified (by simp [found]), gather_nil, List.nil_append]
          rw [join] at restJoined
          rw [restJoined]
      | none =>
          have itself : gather token.text.toList = [token] := by
            have someText : token.text.toList ≠ [] := by
              simpa using normal.nonempty token List.mem_cons_self
            rw [gather_of_ne_nil someText, String.ofList_toList, plain, ← found]
          rw [join, joinFrom_cons_plain found, List.nil_append]
          cases rest with
          | nil => exact itself
          | cons next later =>
              -- what comes next is classified, so the plain text ends here
              have nextClassified := normal.isSome_head? found rfl
              rw [join, joinFrom_cons_classified nextClassified, gather_nil,
                List.nil_append] at restJoined
              rw [joinFrom_cons_classified nextClassified, itself, restJoined,
                List.singleton_append]

/-- Joining gives the normal form if no classified token is empty. -/
theorem normal_join {tokens : List Token}
    (nonempty : ∀ token ∈ tokens, token.tokenClass.isSome → token.text ≠ "") :
    Normal (join tokens) where
  nonempty := by
    intro token member
    cases found : token.tokenClass with
    | none =>
        have plainTexts : ∀ token ∈ join tokens, token.tokenClass = none →
            token.text ≠ "" ∧ ∀ c ∈ token.text.toList, True := joinFrom_plain (by simp) (by simp)
        exact (plainTexts token member found).1
    | some tokenClass =>
        have isClassified : token.tokenClass.isSome := by simp [found]
        exact nonempty token (mem_of_mem_joinFrom isClassified member) isClassified
  apart := isChain_joinFrom [] tokens

end Token

namespace Tokenized

variable {text : String} {tokens : List Token}

theorem normal (tokenized : Tokenized text tokens) : Token.Normal tokens := by
  cases tokenized with
  | plain nonempty =>
      exact ⟨by simpa [Token.plain] using nonempty, .singleton _⟩
  | @resolved start final found steps =>
      have linked := (Stash.protect_consistent found).putsAway steps
      rw [linked.resolve_eq_join]
      refine Token.normal_join fun token member isClassified => ?_
      obtain ⟨c, -, rfl⟩ := List.mem_map.mp member
      exact Token.Stashed.text_ne_empty (linked.stashed_expand isClassified) isClassified

/-- There are no tokens of the empty text, and some of any other. -/
theorem eq_nil_iff (tokenized : Tokenized text tokens) : tokens = [] ↔ text = "" := by
  rw [tokenized.normal.eq_nil_iff, tokenized.chars_eq, String.toList_eq_nil_iff]

end Tokenized

/-- Every tokenizer gives a list in normal form, which is empty for the empty text only, whatever
the catalog, the rules and the text are. -/
theorem normal_tokenize (text : String) :
    (∀ (highlighter : Highlighter) (language : String),
      Token.Normal (highlighter.tokenize text language) ∧
        (highlighter.tokenize text language = [] ↔ text = "")) ∧
    (∀ language : Language,
      Token.Normal (language.tokenize text) ∧ (language.tokenize text = [] ↔ text = "")) ∧
    Token.Normal (Structured.tokenize text) ∧ (Structured.tokenize text = [] ↔ text = "") := by
  refine ⟨fun highlighter language => ?_, fun language => ?_, ?_⟩
  · have tokenized := highlighter.tokenized text language
    exact ⟨tokenized.normal, tokenized.eq_nil_iff⟩
  · have tokenized := language.tokenized text
    exact ⟨tokenized.normal, tokenized.eq_nil_iff⟩
  · have tokenized := Structured.tokenized text
    exact ⟨tokenized.normal, tokenized.eq_nil_iff⟩

end Tint
