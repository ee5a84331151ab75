import Tint.Proofs.Config.Reading
import Tint.Proofs.Markup.Reading
import Tint.Proofs.Tokenized

/-!
# Fragments of markup

A highlighted text is a flat sequence of pieces, one for each token: escaped text, or one span
around escaped text.  Since the prefix of class names cannot close the tag that it stands in,
removing the tags leaves the escaped text alone, and that gives the text back.
-/

namespace Tint.Html

/-- The entities of escaped text. -/
def entities : List String :=
  ["&amp;", "&lt;", "&gt;"]

/-- Text that cannot be taken for markup: it has no angle brackets, and each ampersand begins
exactly one entity. -/
structure IsEscaped (content : String) : Prop where
  noLess : '<' ∉ content.toList
  noGreater : '>' ∉ content.toList
  entity : ∀ after, '&' :: after <:+ content.toList →
    ∃! entity, entity ∈ entities ∧ entity.toList <+: '&' :: after

theorem not_mem_flatMap_escapeChar {c : Char} (angle : c = '<' ∨ c = '>') (text : List Char) :
    c ∉ text.flatMap escapeChar := by
  intro member
  rcases List.mem_flatMap.mp member with ⟨other, _, written⟩
  by_cases special : other ∈ specialChars
  · rcases angle with rfl | rfl <;> rcases mem_specialChars.mp special with rfl | rfl | rfl <;>
      simp [escapeChar] at written
  · rw [escapeChar_of_not_mem special, List.mem_singleton] at written
    subst written
    rcases angle with rfl | rfl <;> exact special (by decide)

/-- The entity that an ampersand begins is told from the others by its next character. -/
theorem existsUnique_entity {special : Char} (known : special ∈ specialChars) (rest : List Char) :
    ∃! entity, entity ∈ entities ∧ entity.toList <+: escapeChar special ++ rest := by
  rw [mem_specialChars] at known
  refine ⟨String.ofList (escapeChar special), ⟨?_, ?_⟩, ?_⟩
  · rcases known with rfl | rfl | rfl <;> decide
  · simp
  · rintro entity ⟨member, start⟩
    simp only [entities, List.mem_cons, List.not_mem_nil, or_false] at member
    rcases known with rfl | rfl | rfl <;> rcases member with rfl | rfl | rfl <;>
      simp [escapeChar] at start ⊢

theorem existsUnique_entity_of_suffix {text after : List Char}
    (suffix : '&' :: after <:+ text.flatMap escapeChar) :
    ∃! entity, entity ∈ entities ∧ entity.toList <+: '&' :: after := by
  induction text with
  | nil => simp at suffix
  | cons c text ih =>
      rw [List.flatMap_cons] at suffix
      by_cases special : c ∈ specialChars
      · have unique := existsUnique_entity special (text.flatMap escapeChar)
        have whole : '&' :: after = escapeChar c ++ text.flatMap escapeChar ∨
            '&' :: after <:+ text.flatMap escapeChar := by
          rcases mem_specialChars.mp special with rfl | rfl | rfl <;>
            simpa [escapeChar, List.suffix_cons_iff] using suffix
        rcases whole with here | later
        · rwa [here]
        · exact ih later
      · have notAmp : c ≠ '&' := by
          rintro rfl
          exact special (by decide)
        rw [escapeChar_of_not_mem special, List.singleton_append,
          List.suffix_cons_iff] at suffix
        rcases suffix with here | later
        · exact absurd (List.cons.inj here).1.symm notAmp
        · exact ih later

theorem isEscaped_escape (text : String) : IsEscaped (escape text) where
  noLess := by
    rw [toList_escape]
    exact not_mem_flatMap_escapeChar (.inl rfl) _
  noGreater := by
    rw [toList_escape]
    exact not_mem_flatMap_escapeChar (.inr rfl) _
  entity := by
    intro after suffix
    rw [toList_escape] at suffix
    exact existsUnique_entity_of_suffix suffix

/-! ## Pieces -/

/-- A part of a fragment that has no other parts in it. -/
inductive Piece where
  | text (content : String)
  | span (tokenClass : TokenClass) (content : String)

namespace Piece

/-- A span around content. -/
def spanHtml (classPrefix : String) (tokenClass : TokenClass) (content : String) : String :=
  String.join ["<span class=\"", classPrefix, tokenClass.name, "\">", content, "</span>"]

/-- The piece as markup. -/
def html (classPrefix : String) : Piece → String
  | text content => content
  | span tokenClass content => spanHtml classPrefix tokenClass content

/-- Content is escaped, and no span is empty. -/
def WellFormed : Piece → Prop
  | text content => IsEscaped content
  | span _ content => content ≠ "" ∧ IsEscaped content

/-- The piece of a token. -/
def ofToken (token : Token) : Piece :=
  match token.tokenClass with
  | none => text (escape token.text)
  | some tokenClass => span tokenClass (escape token.text)

theorem wellFormed_ofToken {token : Token}
    (nonempty : token.tokenClass.isSome → token.text ≠ "") : (ofToken token).WellFormed := by
  rw [ofToken]
  split
  · exact isEscaped_escape token.text
  · rename_i tokenClass found
    refine ⟨?_, isEscaped_escape token.text⟩
    intro empty
    apply nonempty (by simp [found])
    rw [← unescape_escape token.text, empty]
    simp [unescape, replaceAll]

end Piece

theorem appendToken_eq (classPrefix done : String) (token : Token) :
    appendToken classPrefix done token = done ++ (Piece.ofToken token).html classPrefix := by
  cases found : token.tokenClass with
  | none => simp [appendToken, Piece.ofToken, Piece.html, found, ← String.toList_inj]
  | some tokenClass =>
      simp [appendToken, Piece.ofToken, Piece.html, Piece.spanHtml, found, ← String.toList_inj]

/-- Rendering writes the pieces of the tokens one after the other. -/
theorem render_eq_join (tokens : List Token) (classPrefix : String) :
    render tokens classPrefix =
      String.join ((tokens.map Piece.ofToken).map (·.html classPrefix)) := by
  have written (done : String) : tokens.foldl (appendToken classPrefix) done =
      done ++ String.join ((tokens.map Piece.ofToken).map (·.html classPrefix)) := by
    induction tokens generalizing done with
    | nil => simp
    | cons token tokens ih =>
        rw [List.foldl_cons, ih, appendToken_eq]
        simp [String.append_assoc]
  rw [render, written, String.empty_append]

/-! ## Reading a fragment back -/

/-- A prefix of class names that can stand in the tag of a span. -/
def IsSafePrefix (classPrefix : String) : Prop :=
  '>' ∉ classPrefix.toList

theorem not_mem_name (tokenClass : TokenClass) : '>' ∉ tokenClass.name.toList := by
  cases tokenClass <;> decide

/-- Of a piece, removing tags leaves the escaped text of its token. -/
theorem stripTagsFrom_html {classPrefix : String} (safe : IsSafePrefix classPrefix) (token : Token)
    (rest : List Char) :
    stripTagsFrom false (((Piece.ofToken token).html classPrefix).toList ++ rest) =
      token.text.toList.flatMap escapeChar ++ stripTagsFrom false rest := by
  have noTag := not_mem_flatMap_escapeChar (.inl rfl) token.text.toList
  cases found : token.tokenClass with
  | none => simp [Piece.ofToken, Piece.html, found, stripTagsFrom_append noTag]
  | some tokenClass =>
      let opening := "span class=\"".toList ++ classPrefix.toList ++ tokenClass.name.toList ++ ['"']
      let closing := "/span".toList
      have openingInside : '>' ∉ opening := by
        have name := not_mem_name tokenClass
        simp [opening, name, show '>' ∉ classPrefix.toList from safe]
      have closingInside : '>' ∉ closing := by decide
      have html : ((Piece.ofToken token).html classPrefix).toList ++ rest =
          '<' :: opening ++ '>' :: (token.text.toList.flatMap escapeChar ++
            ('<' :: closing ++ '>' :: rest)) := by
        simp [Piece.ofToken, Piece.html, Piece.spanHtml, found, opening, closing]
      rw [html, stripTagsFrom_tag openingInside, stripTagsFrom_append noTag,
        stripTagsFrom_tag closingInside]

/-- Of a rendering, removing tags leaves the escaped text of its tokens. -/
theorem stripTagsFrom_render {classPrefix : String} (safe : IsSafePrefix classPrefix)
    (tokens : List Token) (rest : List Char) :
    stripTagsFrom false ((render tokens classPrefix).toList ++ rest) =
      (Token.chars tokens).flatMap escapeChar ++ stripTagsFrom false rest := by
  rw [render_eq_join, String.toList_join]
  induction tokens with
  | nil => rfl
  | cons token tokens ih =>
      simp only [List.map_cons, List.flatMap_cons, List.append_assoc, stripTagsFrom_html safe, ih,
        Token.chars_cons, List.flatMap_append]

/-- Without its tags, a rendering is the escaped text of its tokens. -/
theorem stripTags_render {classPrefix : String} (safe : IsSafePrefix classPrefix)
    (tokens : List Token) :
    stripTags (render tokens classPrefix) = escape (String.ofList (Token.chars tokens)) := by
  have stripped := stripTagsFrom_render safe tokens []
  rw [List.append_nil, stripTagsFrom, List.append_nil] at stripped
  rw [← String.toList_inj]
  simp [stripTags, stripped]

/-- A fragment that shows a text: a flat sequence of pieces, whose spans have classes under the
prefix, and which gives the text back when its tags are removed and its entities replaced. -/
structure Shows (classPrefix text fragment : String) : Prop where
  pieces : ∃ pieces : List Piece, (∀ piece ∈ pieces, piece.WellFormed) ∧
    fragment = String.join (pieces.map (·.html classPrefix))
  readBack : unescape (stripTags fragment) = text

/-- Rendering the tokens of a text gives a fragment that shows it. -/
theorem shows_render {classPrefix text : String} {tokens : List Token}
    (safe : IsSafePrefix classPrefix) (tokenized : Tokenized text tokens) :
    Shows classPrefix text (render tokens classPrefix) where
  pieces := by
    refine ⟨tokens.map Piece.ofToken, ?_, render_eq_join tokens classPrefix⟩
    intro piece member
    rcases List.mem_map.mp member with ⟨token, inTokens, rfl⟩
    exact Piece.wellFormed_ofToken (tokenized.text_ne_empty_of_classified inTokens)
  readBack := by
    rw [stripTags_render safe, unescape_escape, tokenized.chars_eq, String.ofList_toList]

theorem isSafePrefix_of_prefixIsSafe {config : Config} (safe : config.PrefixIsSafe) :
    IsSafePrefix config.classPrefix := by
  intro member
  have allowed := List.all_eq_true.mp safe '>' member
  exact absurd allowed (by decide)

/-- Under any configuration that can be used, a highlighted text is a flat sequence of well-formed
pieces and can be read back from it. -/
theorem shows_highlight {source : String} {config : Config} {highlighter : Highlighter}
    (read : Config.ofText source = .ok config) (built : config.highlighter = .ok highlighter)
    (text language : String) :
    Shows config.classPrefix text (highlighter.highlight text language) := by
  have safe := isSafePrefix_of_prefixIsSafe (Config.ofText_prefixIsSafe read)
  rw [Highlighter.highlight, Config.classPrefix_highlighter built]
  exact shows_render safe (highlighter.tokenized text language)

/-- A text that looks like markup itself, under a configuration with a prefix of its own. -/
theorem shows_highlight_markup :
    Config.ofText "class-prefix = 'hl-'" = .ok { classPrefix := "hl-" } ∧
      Config.highlighter { classPrefix := "hl-" } =
        .ok { catalog := .builtin, classPrefix := "hl-" } ∧
      Shows "hl-" "[\"<b>\", \"&amp;lt;\"]"
        (Highlighter.highlight { catalog := .builtin, classPrefix := "hl-" }
          "[\"<b>\", \"&amp;lt;\"]" "json") := by
  have read : Config.ofText "class-prefix = 'hl-'" = .ok { classPrefix := "hl-" } := by
    cbv
  have built := Config.highlighter_of_prefix "hl-"
  exact ⟨read, built, shows_highlight read built _ _⟩

end Tint.Html
