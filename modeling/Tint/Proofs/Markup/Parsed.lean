import Tint.Proofs.Markup.Fragment
import Tint.Proofs.NormalForm

/-!
# Getting the tokens back

A fragment tells of which tokens it is the rendering.  Escaped text has no angle brackets, so what
stands in front of the next `<` is the whole of a text, and there a span begins or ends, whatever
the text of a token looks like.  The value of the class of a span ends at the next quote, because no
name of a class has one, and the names of two classes differ.

Only the division of plain text is lost, which has no marks of its own: the tokens that are read are
those that were written, with plain ones that meet joined.
-/

namespace Tint

namespace Html

/-! ## Reading a fragment -/

/-- The text that escaped text stands for; `none` if it is not what escaping writes. -/
def readEscaped? (content : List Char) : Option String :=
  let text := unescape (String.ofList content)
  if text.toList.flatMap escapeChar = content then some text else none

/-- Reads a span: its token, and what comes behind it. -/
def readSpan? (classPrefix : String) (fragment : List Char) : Option (Token × List Char) := do
  let tag ← fragment.dropPrefix? ("<span class=\"".toList ++ classPrefix.toList)
  let tokenClass ← TokenClass.ofName? (String.ofList (tag.takeWhile (· != '"')))
  let inside ← (tag.dropWhile (· != '"')).dropPrefix? "\">".toList
  let text ← readEscaped? (inside.takeWhile (· != '<'))
  let behind ← (inside.dropWhile (· != '<')).dropPrefix? "</span>".toList
  return (.classified tokenClass text, behind)

/-! ## Parts of a fragment -/

section Mark

variable {mark : Char} {text : List Char}

theorem takeWhile_ne_append (noMark : mark ∉ text) (rest : List Char) :
    (text ++ mark :: rest).takeWhile (· != mark) = text := by
  rw [List.takeWhile_append_of_pos]
  · simp
  · intro c member
    exact bne_iff_ne.mpr fun same => noMark (same ▸ member)

theorem dropWhile_ne_append (noMark : mark ∉ text) (rest : List Char) :
    (text ++ mark :: rest).dropWhile (· != mark) = mark :: rest := by
  rw [List.dropWhile_append_of_pos]
  · simp
  · intro c member
    exact bne_iff_ne.mpr fun same => noMark (same ▸ member)

end Mark

theorem dropPrefix?_eq_some_iff {front fragment rest : List Char} :
    fragment.dropPrefix? front = some rest ↔ fragment = front ++ rest := by
  rw [List.dropPrefix?_eq_some_iff]
  constructor
  · rintro ⟨other, isFragment, same⟩
    rw [isFragment, eq_of_beq same]
  · rintro rfl
    exact ⟨front, rfl, beq_self_eq_true front⟩

theorem readEscaped?_eq_some_iff {content : List Char} {text : String} :
    readEscaped? content = some text ↔ content = text.toList.flatMap escapeChar := by
  constructor
  · intro read
    rw [readEscaped?, Option.ite_none_right_eq_some] at read
    obtain ⟨written, isText⟩ := read
    rw [← written, Option.some.inj isText]
  · rintro rfl
    have undone := unescape_escape text
    rw [← String.ofList_toList (s := escape text), toList_escape] at undone
    simp [readEscaped?, undone]

theorem noQuote_name (tokenClass : TokenClass) : '"' ∉ tokenClass.name.toList := by
  cases tokenClass <;> decide

/-- A span in front of other text. -/
theorem toList_spanHtml (classPrefix : String) (tokenClass : TokenClass) (text : String)
    (rest : List Char) :
    (Piece.spanHtml classPrefix tokenClass (escape text)).toList ++ rest =
      "<span class=\"".toList ++ classPrefix.toList ++ (tokenClass.name.toList ++ ("\">".toList ++
        (text.toList.flatMap escapeChar ++ ("</span>".toList ++ rest)))) := by
  simp [Piece.spanHtml]

/-- A span is read exactly where one is written. -/
theorem readSpan?_eq_some_iff {classPrefix : String} {fragment rest : List Char} {token : Token} :
    readSpan? classPrefix fragment = some (token, rest) ↔
      token.tokenClass.isSome ∧
        fragment = ((Piece.ofToken token).html classPrefix).toList ++ rest := by
  constructor
  · intro read
    simp only [readSpan?, Option.bind_eq_bind, Option.bind_eq_some_iff, dropPrefix?_eq_some_iff,
      TokenClass.ofName?_eq_some_iff, readEscaped?_eq_some_iff, Option.pure_def,
      Option.some.injEq, Prod.mk.injEq] at read
    obtain ⟨tag, isTag, tokenClass, isName, inside, isInside, text, isText, behind, isBehind,
      rfl, rfl⟩ := read
    refine ⟨rfl, ?_⟩
    have name : tag.takeWhile (· != '"') = tokenClass.name.toList := by
      rw [← isName, String.toList_ofList]
    have splitTag := List.takeWhile_append_dropWhile (p := (· != '"')) (l := tag)
    have splitInside := List.takeWhile_append_dropWhile (p := (· != '<')) (l := inside)
    rw [name, isInside] at splitTag
    rw [isText, isBehind] at splitInside
    rw [isTag, ← splitTag, ← splitInside]
    exact (toList_spanHtml classPrefix tokenClass text behind).symm
  · rintro ⟨isClassified, rfl⟩
    obtain ⟨tokenClass, text⟩ := token
    obtain ⟨tokenClass, rfl⟩ := Option.isSome_iff_exists.mp isClassified
    have noTag := not_mem_flatMap_escapeChar (.inl rfl) text.toList
    have written := toList_spanHtml classPrefix tokenClass text rest
    change readSpan? classPrefix
      ((Piece.spanHtml classPrefix tokenClass (escape text)).toList ++ rest) = _
    simp only [readSpan?, Option.bind_eq_bind, Option.bind_eq_some_iff, dropPrefix?_eq_some_iff,
      TokenClass.ofName?_eq_some_iff, readEscaped?_eq_some_iff, Option.pure_def]
    refine ⟨_, written, tokenClass, ?_,
      text.toList.flatMap escapeChar ++ ("</span>".toList ++ rest), ?_, text, ?_, rest, ?_, rfl⟩
    · exact (congrArg String.ofList (takeWhile_ne_append (noQuote_name tokenClass) _)).trans
        String.ofList_toList
    · exact dropWhile_ne_append (noQuote_name tokenClass) _
    · exact takeWhile_ne_append noTag _
    · exact dropWhile_ne_append noTag _

theorem length_lt_of_readSpan? {classPrefix : String} {fragment rest : List Char} {token : Token}
    (read : readSpan? classPrefix fragment = some (token, rest)) :
    rest.length < fragment.length := by
  obtain ⟨isClassified, rfl⟩ := readSpan?_eq_some_iff.mp read
  obtain ⟨tokenClass, found⟩ := Option.isSome_iff_exists.mp isClassified
  simp only [Piece.ofToken, found, Piece.html, Piece.spanHtml, String.toList_join,
    List.flatMap_cons, List.length_append, show "<span class=\"".toList.length = 13 from rfl]
  omega

/-- Reads the tokens of a fragment: the text up to the next `<`, the span that is there, and what
comes behind it. -/
def readTokens? (classPrefix : String) (fragment : List Char) : Option (List Token) :=
  (readEscaped? (fragment.takeWhile (· != '<'))).bind fun plain =>
    match _ : readSpan? classPrefix (fragment.dropWhile (· != '<')) with
    | some (token, rest) =>
        (readTokens? classPrefix rest).map (Token.gather plain.toList ++ token :: ·)
    | none =>
        if (fragment.dropWhile (· != '<')).isEmpty then some (Token.gather plain.toList) else none
termination_by fragment.length
decreasing_by
  rename_i isSpan
  exact (length_lt_of_readSpan? isSpan).trans_le (List.length_dropWhile_le _ fragment)

/-- Reads the tokens of a fragment; `none` if it is no rendering under the prefix. -/
def parse? (fragment classPrefix : String) : Option (List Token) :=
  readTokens? classPrefix fragment.toList

/-! ## Reading renderings -/

section Render

variable {classPrefix : String}

theorem toList_render (tokens : List Token) (classPrefix : String) :
    (render tokens classPrefix).toList =
      tokens.flatMap fun token => ((Piece.ofToken token).html classPrefix).toList := by
  simp [render_eq_join, List.flatMap_map]

/-- Plain text is read as it is, up to the end. -/
theorem readTokens?_end (plain : List Char) :
    readTokens? classPrefix (plain.flatMap escapeChar) = some (Token.gather plain) := by
  have noTag := not_mem_flatMap_escapeChar (.inl rfl) plain
  have whole : ∀ c ∈ plain.flatMap escapeChar, (c != '<') = true := fun c member =>
    bne_iff_ne.mpr fun same => noTag (same ▸ member)
  have isText : readEscaped? (plain.flatMap escapeChar) = some (String.ofList plain) := by
    rw [readEscaped?_eq_some_iff, String.toList_ofList]
  have noSpan : readSpan? classPrefix [] = none := by
    rw [Option.eq_none_iff_forall_ne_some]
    rintro ⟨token, rest⟩ read
    exact absurd (length_lt_of_readSpan? read) (Nat.not_lt_zero _)
  rw [readTokens?, List.takeWhile_eq_self_iff.mpr whole, List.dropWhile_eq_nil_iff.mpr whole,
    isText, Option.bind_some]
  split
  · rename_i read
    rw [noSpan] at read
    cases read
  · simp

/-- Plain text in front of a span is read up to it. -/
theorem readTokens?_span (plain : List Char) {token : Token}
    (isClassified : token.tokenClass.isSome) (rest : List Char) :
    readTokens? classPrefix (plain.flatMap escapeChar ++
        (((Piece.ofToken token).html classPrefix).toList ++ rest)) =
      (readTokens? classPrefix rest).map (Token.gather plain ++ token :: ·) := by
  have noTag := not_mem_flatMap_escapeChar (.inl rfl) plain
  have isSpan := readSpan?_eq_some_iff.mpr ⟨isClassified,
    rfl (a := ((Piece.ofToken token).html classPrefix).toList ++ rest)⟩
  obtain ⟨tag, begins⟩ : ∃ tag,
      ((Piece.ofToken token).html classPrefix).toList ++ rest = '<' :: tag := by
    obtain ⟨tokenClass, found⟩ := Option.isSome_iff_exists.mp isClassified
    simp [Piece.ofToken, found, Piece.html, Piece.spanHtml]
  have isText : readEscaped? (plain.flatMap escapeChar) = some (String.ofList plain) := by
    rw [readEscaped?_eq_some_iff, String.toList_ofList]
  rw [begins] at isSpan ⊢
  rw [readTokens?, takeWhile_ne_append noTag, dropWhile_ne_append noTag, isText, Option.bind_some]
  split
  · rename_i other behind read
    rw [isSpan] at read
    cases read
    rw [String.toList_ofList]
  · rename_i read
    rw [isSpan] at read
    cases read

/-- Of a rendering the tokens are read, with plain ones that meet joined. -/
theorem readTokens?_render (plain : List Char) (tokens : List Token) :
    readTokens? classPrefix (plain.flatMap escapeChar ++ (render tokens classPrefix).toList) =
      some (Token.joinFrom plain tokens) := by
  rw [toList_render]
  induction tokens generalizing plain with
  | nil => rw [List.flatMap_nil, List.append_nil, readTokens?_end, Token.joinFrom]
  | cons token tokens ih =>
      rw [List.flatMap_cons]
      cases found : token.tokenClass with
      | none =>
          have itself : ((Piece.ofToken token).html classPrefix).toList =
              token.text.toList.flatMap escapeChar := by
            simp [Piece.ofToken, found, Piece.html]
          rw [itself, ← List.append_assoc, ← List.flatMap_append, ih,
            Token.joinFrom_cons_plain found]
      | some tokenClass =>
          have isClassified : token.tokenClass.isSome := by simp [found]
          have behind := ih []
          rw [List.flatMap_nil, List.nil_append] at behind
          rw [readTokens?_span plain isClassified, behind,
            Token.joinFrom_cons_classified isClassified]
          rfl

theorem flatMap_html_gather (plain : List Char) :
    (Token.gather plain).flatMap
        (fun token => ((Piece.ofToken token).html classPrefix).toList) =
      plain.flatMap escapeChar := by
  by_cases empty : plain = []
  · simp [empty]
  · simp [Token.gather_of_ne_nil empty, Token.plain, Piece.ofToken, Piece.html]

/-- Tokens are read only of their own rendering, and no two of them could be joined. -/
theorem of_readTokens? {fragment : List Char} {tokens : List Token}
    (read : readTokens? classPrefix fragment = some tokens) :
    Token.join tokens = tokens ∧ (render tokens classPrefix).toList = fragment := by
  rw [readTokens?, Option.bind_eq_some_iff] at read
  obtain ⟨plain, isText, more⟩ := read
  rw [readEscaped?_eq_some_iff] at isText
  have whole := List.takeWhile_append_dropWhile (p := (· != '<')) (l := fragment)
  rw [isText] at whole
  split at more
  · rename_i token rest isSpan
    obtain ⟨later, isLater, rfl⟩ := Option.map_eq_some_iff.mp more
    obtain ⟨isClassified, written⟩ := readSpan?_eq_some_iff.mp isSpan
    have shorter := (length_lt_of_readSpan? isSpan).trans_le (List.length_dropWhile_le _ fragment)
    obtain ⟨joined, rendered⟩ := of_readTokens? isLater
    rw [Token.join] at joined ⊢
    rw [toList_render] at rendered ⊢
    constructor
    · rw [Token.joinFrom_gather, Token.joinFrom_cons_classified isClassified, joined]
    · rw [List.flatMap_append, flatMap_html_gather, List.flatMap_cons, rendered, ← written, whole]
  · rw [Option.ite_none_right_eq_some, List.isEmpty_iff] at more
    obtain ⟨atEnd, isGathered⟩ := more
    cases isGathered
    have joined := Token.joinFrom_gather plain.toList []
    rw [List.append_nil] at joined
    rw [Token.join, toList_render, flatMap_html_gather]
    exact ⟨joined, by rw [← whole, atEnd, List.append_nil]⟩
termination_by fragment.length

/-- A fragment is read as some tokens exactly if it is their rendering and plain ones are joined. -/
theorem parse?_eq_some_iff {fragment : String} {tokens : List Token} :
    parse? fragment classPrefix = some tokens ↔
      Token.join tokens = tokens ∧ render tokens classPrefix = fragment := by
  constructor
  · intro read
    obtain ⟨joined, rendered⟩ := of_readTokens? read
    exact ⟨joined, String.toList_inj.mp rendered⟩
  · rintro ⟨joined, rfl⟩
    have read : readTokens? classPrefix _ = some (Token.joinFrom [] tokens) :=
      readTokens?_render [] tokens
    rw [List.flatMap_nil, List.nil_append, ← Token.join, joined] at read
    exact read

end Render

/-- A highlighted text tells the tokens that it was divided into. -/
theorem parse?_highlight (highlighter : Highlighter) (text language : String) :
    parse? (highlighter.highlight text language) highlighter.classPrefix =
      some (highlighter.tokenize text language) :=
  parse?_eq_some_iff.mpr ⟨(highlighter.tokenized text language).normal.join_eq, rfl⟩

/-- Tokens in normal form are read from their rendering and from no other fragment, and no other
tokens in normal form have that rendering, whatever the texts and the prefix of class names are. -/
theorem parse?_render {tokens : List Token} (normal : Token.Normal tokens) (classPrefix : String) :
    (∀ fragment, parse? fragment classPrefix = some tokens ↔
      fragment = render tokens classPrefix) ∧
    ∀ others, Token.Normal others →
      render others classPrefix = render tokens classPrefix → others = tokens := by
  have read (fragment : String) : parse? fragment classPrefix = some tokens ↔
      fragment = render tokens classPrefix := by
    rw [parse?_eq_some_iff, and_iff_right normal.join_eq, eq_comm]
  refine ⟨read, fun others othersNormal same => ?_⟩
  have readOthers : parse? (render tokens classPrefix) classPrefix = some others :=
    parse?_eq_some_iff.mpr ⟨othersNormal.join_eq, same⟩
  exact Option.some.inj (readOthers.symm.trans ((read _).mpr rfl))

/-- Texts that look like tags and like an entity. -/
theorem parse?_render_markup :
    let tokens : List Token :=
      [.plain "<span class=\"hl-tag\">", .classified .tag "</span>", .plain "&lt;"]
    Token.Normal tokens ∧
      (∀ fragment, parse? fragment "hl-" = some tokens ↔ fragment = render tokens "hl-") ∧
      ∀ others, Token.Normal others → render others "hl-" = render tokens "hl-" →
        others = tokens := by
  intro tokens
  have normal : Token.Normal tokens := ⟨by decide, by decide⟩
  exact ⟨normal, parse?_render normal "hl-"⟩

end Html

end Tint
