import Tint.Proofs.Stash.Resolve

/-!
# What every tokenizer gives

Both tokenizers protect the text, put runs of it away and resolve what is left; a text with too many
reserved characters, or in no known language, is a single plain token.  `Tokenized` says just that,
so what follows from it holds for all of them.
-/

namespace Tint

/-- The tokens of a text, as any tokenizer gives them. -/
inductive Tokenized (text : String) : List Token → Prop where
  | plain : text ≠ "" → Tokenized text [.plain text]
  | resolved {start final : Working} : Stash.protect text.toList = some start →
      PutsAway start final → Tokenized text (final.1.resolve final.2)

namespace Tokenized

variable {text : String} {tokens : List Token}

/-- A text that cannot be protected is not empty. -/
theorem ne_empty_of_protect (failed : Stash.protect text.toList = none) : text ≠ "" := by
  rintro rfl
  simp [Stash.protect, Stash.protectFrom] at failed

/-- The tokens in a row are the whole text. -/
theorem chars_eq (tokenized : Tokenized text tokens) : Token.chars tokens = text.toList := by
  cases tokenized with
  | plain _ => simp [Token.plain]
  | resolved found steps => exact Stash.chars_resolve found steps

/-- A classified token has some text, and no reserved characters in it. -/
theorem stashed_of_classified (tokenized : Tokenized text tokens) {token : Token}
    (member : token ∈ tokens) (isClassified : token.tokenClass.isSome) : token.Stashed := by
  cases tokenized with
  | plain _ =>
      rw [List.mem_singleton] at member
      subst member
      simp [Token.plain] at isClassified
  | @resolved start final found steps =>
      have linked := (Stash.protect_consistent found).putsAway steps
      rw [linked.resolve_eq_join] at member
      obtain ⟨c, inText, expanded⟩ :=
        List.mem_map.mp (Token.mem_of_mem_joinFrom isClassified member)
      subst expanded
      exact linked.stashed_expand isClassified

theorem text_ne_empty_of_classified (tokenized : Tokenized text tokens) {token : Token}
    (member : token ∈ tokens) (isClassified : token.tokenClass.isSome) : token.text ≠ "" :=
  (tokenized.stashed_of_classified member isClassified).text_ne_empty isClassified

end Tokenized

/-- The tokens of a text by way of some passes over its working text. -/
def tokensBy (passes : Working → Working) (text : String) : List Token :=
  match Stash.protect text.toList with
  | none => [.plain text]
  | some start => (passes start).1.resolve (passes start).2

theorem Tokenized.tokensBy {passes : Working → Working}
    (steps : ∀ start, PutsAway start (passes start)) (text : String) :
    Tokenized text (tokensBy passes text) := by
  rw [Tint.tokensBy]
  cases found : Stash.protect text.toList with
  | none => exact .plain (ne_empty_of_protect found)
  | some start => exact .resolved found (steps start)

/-! ## The tokenizers -/

/-- The passes of a language are those of all its rules. -/
theorem Language.tokenize_eq_tokensBy (language : Language) (text : String) :
    language.tokenize text = tokensBy (·.applyRules language.rules) text := by
  rw [tokenize, tokensBy]
  cases Stash.protect text.toList <;> rfl

theorem Language.tokenize_of_protect {language : Language} {text : String} {start : Working}
    (found : Stash.protect text.toList = some start) :
    let final := Working.applyRules start language.rules
    language.tokenize text = final.1.resolve final.2 := by
  rw [tokenize_eq_tokensBy, tokensBy, found]

/-- A working text after the passes for literals and for what is not a literal. -/
def Structured.passes (start : Working) : Working :=
  let literals := start.1.replaceSpans start.2 (literalSpans start.2)
  literals.1.replaceSpans literals.2 (scalarSpans literals.2)

theorem Structured.passes_putsAway (start : Working) : PutsAway start (passes start) :=
  (Stash.replaceSpans_putsAway _ _ _).trans (Stash.replaceSpans_putsAway _ _ _)

theorem Structured.tokenize_eq_tokensBy (text : String) :
    Structured.tokenize text = tokensBy passes text := by
  rw [tokenize, tokensBy]
  cases Stash.protect text.toList <;> rfl

theorem Language.tokenized (language : Language) (text : String) :
    Tokenized text (language.tokenize text) := by
  rw [tokenize_eq_tokensBy]
  exact .tokensBy (Working.applyRules_putsAway language.rules) text

theorem Structured.tokenized (text : String) : Tokenized text (Structured.tokenize text) := by
  rw [tokenize_eq_tokensBy]
  exact .tokensBy passes_putsAway text

theorem Highlighter.tokenized (highlighter : Highlighter) (text language : String) :
    Tokenized text (highlighter.tokenize text language) := by
  rw [Highlighter.tokenize]
  split
  · rename_i empty
    obtain rfl := String.isEmpty_iff.mp empty
    exact Tokenized.resolved (Stash.protect_of_ordinary (by simp)) .refl
  · rename_i nonempty
    split
    · exact .plain (by simpa using nonempty)
    · split
      · exact Language.tokenized _ text
      · exact Structured.tokenized text

/-- No tokenizer loses, doubles or moves text, whatever the catalog, the rules and the text are. -/
theorem join_tokenize (text : String) :
    (∀ (highlighter : Highlighter) (language : String),
      String.join ((highlighter.tokenize text language).map (·.text)) = text) ∧
    (∀ language : Language, String.join ((language.tokenize text).map (·.text)) = text) ∧
    String.join ((Structured.tokenize text).map (·.text)) = text := by
  refine ⟨fun highlighter language => ?_, fun language => ?_, ?_⟩
  · rw [Token.join_text, (highlighter.tokenized text language).chars_eq, String.ofList_toList]
  · rw [Token.join_text, (language.tokenized text).chars_eq, String.ofList_toList]
  · rw [Token.join_text, (Structured.tokenized text).chars_eq, String.ofList_toList]

end Tint
