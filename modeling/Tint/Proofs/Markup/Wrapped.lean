import Tint.Proofs.Markup.Block
import Tint.Proofs.Markup.Parsed

/-!
# Reading blocks of code

A block tells of which language and fragment it was made, whatever the two look like.  The value of
the class ends at the first quote, and replacing its entities gives the name of the language back.

The fragment is put in as it is and can hold anything, so its end is only known from the end of the
block.  The first end tag of `code` is that end exactly if the fragment has no such tag, and a
fragment made of tokens has none.
-/

namespace Tint.Html

/-! ## Entities in attribute values -/

/-- The entities of attribute values with what they stand for. -/
def attributeEntities : List (List Char × Char) :=
  [("&amp;".toList, '&'), ("&lt;".toList, '<'), ("&gt;".toList, '>'), ("&quot;".toList, '"')]

/-- Replaces each entity by what it stands for, from left to right. -/
def decodeFrom : List Char → List Char
  | [] => []
  | c :: rest =>
      match attributeEntities.find? fun entity => entity.1.isPrefixOf (c :: rest) with
      | some (entity, special) => special :: decodeFrom (rest.drop (entity.length - 1))
      | none => c :: decodeFrom rest
termination_by text => text.length
decreasing_by
  · simp only [List.length_drop, List.length_cons]
    omega
  · simp

/-- What an attribute value stands for. -/
def decode (value : String) : String :=
  String.ofList (decodeFrom value.toList)

/-- The text with an entity for each double quote. -/
def replaceQuotes (text : String) : String :=
  String.ofList (replaceAll ['"'] "&quot;".toList text.toList)

theorem escapeAttributeChar_of_ordinary {c : Char} (notQuote : c ≠ '"')
    (ordinary : c ∉ specialChars) : escapeAttributeChar c = [c] := by
  rw [escapeAttributeChar_of_ne notQuote, escapeChar_of_not_mem ordinary]

/-- What is not an ampersand begins no entity. -/
theorem decodeFrom_cons_of_ne {c : Char} (notAmp : c ≠ '&') (rest : List Char) :
    decodeFrom (c :: rest) = c :: decodeFrom rest := by
  have noEntity : attributeEntities.find? (fun entity => entity.1.isPrefixOf (c :: rest)) =
      none := by
    simp [attributeEntities, Ne.symm notAmp]
  rw [decodeFrom, noEntity]

/-- Decoding undoes the written form of a character. -/
theorem decodeFrom_escapeAttributeChar (c : Char) (rest : List Char) :
    decodeFrom (escapeAttributeChar c ++ rest) = c :: decodeFrom rest := by
  by_cases isQuote : c = '"'
  · subst isQuote
    simp [escapeAttributeChar, decodeFrom, attributeEntities]
  · by_cases special : c ∈ specialChars
    · rw [escapeAttributeChar_of_ne isQuote]
      rcases mem_specialChars.mp special with rfl | rfl | rfl <;>
        simp [escapeChar, decodeFrom, attributeEntities]
    · have notAmp : c ≠ '&' := by
        intro isAmp
        exact special (mem_specialChars.mpr (.inl isAmp))
      rw [escapeAttributeChar_of_ordinary isQuote special, List.singleton_append,
        decodeFrom_cons_of_ne notAmp]

/-- Escaping is undone exactly. -/
theorem decode_escapeAttribute (text : String) : decode (escapeAttribute text) = text := by
  have undone (cs : List Char) : decodeFrom (cs.flatMap escapeAttributeChar) = cs := by
    induction cs with
    | nil => rw [List.flatMap_nil, decodeFrom]
    | cons c cs ih => rw [List.flatMap_cons, decodeFrom_escapeAttributeChar, ih]
  rw [decode, toList_escapeAttribute, undone, String.ofList_toList]

/-- Replacing passes over text without the character that it looks for. -/
theorem replaceAll_append_of_not_mem {first : Char} {text : List Char} (missing : first ∉ text)
    (old new rest : List Char) :
    replaceAll (first :: old) new (text ++ rest) = text ++ replaceAll (first :: old) new rest := by
  induction text with
  | nil => rfl
  | cons c text ih =>
      have differ : c ≠ first := (List.ne_of_not_mem_cons missing).symm
      have missingLater : first ∉ text := List.not_mem_of_not_mem_cons missing
      rw [List.cons_append, replaceAll_cons_of_ne differ, ih missingLater, List.cons_append]

/-- Attribute values are escaped as text is, and their quotes replaced then. -/
theorem escapeAttribute_eq (text : String) :
    escapeAttribute text = replaceQuotes (escape text) := by
  have step (c : Char) (rest : List Char) :
      replaceAll ['"'] "&quot;".toList (escapeChar c ++ rest) =
        escapeAttributeChar c ++ replaceAll ['"'] "&quot;".toList rest := by
    by_cases isQuote : c = '"'
    · subst isQuote
      simp [escapeChar, escapeAttributeChar, replaceAll]
    · have noQuote : '"' ∉ escapeChar c := by
        rw [← escapeAttributeChar_of_ne isQuote]
        exact not_mem_escapeAttributeChar (.inl rfl) c
      rw [replaceAll_append_of_not_mem noQuote, escapeAttributeChar_of_ne isQuote]
  have replaced (cs : List Char) : replaceAll ['"'] "&quot;".toList (cs.flatMap escapeChar) =
      cs.flatMap escapeAttributeChar := by
    induction cs with
    | nil => simp [replaceAll]
    | cons c cs ih => rw [List.flatMap_cons, step, ih, List.flatMap_cons]
  rw [← String.toList_inj, toList_escapeAttribute, replaceQuotes, String.toList_ofList,
    toList_escape, replaced]

/-! ## Reading a block -/

/-- A block as it is read: the value of the class and the content of the element for code. -/
structure Block where
  value : String
  content : String

/-- The block as markup. -/
def Block.html (block : Block) : String :=
  String.join ["<pre><code class=\"", block.value, "\">", block.content, "</code></pre>"]

/-- Reads the start tags of a block: the value of the class, and what comes behind the tags. -/
def readStart? (output : List Char) : Option (String × List Char) := do
  let tag ← output.dropPrefix? "<pre><code class=\"".toList
  let inside ← (tag.dropWhile (· != '"')).dropPrefix? "\">".toList
  return (String.ofList (tag.takeWhile (· != '"')), inside)

/-- Reads a block, which goes on to the end of the output. -/
def readBlock? (output : String) : Option Block := do
  let (value, inside) ← readStart? output.toList
  let content ← inside.dropSuffix? "</code></pre>".toList
  return { value, content := String.ofList content }

theorem dropSuffix?_eq_some_iff {back text front : List Char} :
    text.dropSuffix? back = some front ↔ text = front ++ back := by
  rw [List.dropSuffix?_eq_some_iff]
  constructor
  · intro ⟨other, isText, same⟩
    rw [isText, eq_of_beq same]
  · intro isText
    exact ⟨back, isText, beq_self_eq_true back⟩

/-- The start tags are read up to the first quote behind their own. -/
theorem readStart?_eq_some_iff {output inside : List Char} {value : String} :
    readStart? output = some (value, inside) ↔
      '"' ∉ value.toList ∧
        output = "<pre><code class=\"".toList ++ (value.toList ++ ("\">".toList ++ inside)) := by
  simp only [readStart?, Option.bind_eq_bind, Option.bind_eq_some_iff, dropPrefix?_eq_some_iff,
    Option.pure_def, Option.some.injEq, Prod.mk.injEq]
  constructor
  · intro ⟨tag, isTag, behind, isBehind, isValue, same⟩
    subst same
    have chars : value.toList = tag.takeWhile (· != '"') := by
      rw [← isValue, String.toList_ofList]
    constructor
    · rw [chars]
      intro member
      simpa using List.mem_takeWhile_imp member
    · rw [isTag, chars, ← isBehind, List.takeWhile_append_dropWhile]
  · intro ⟨noQuote, isOutput⟩
    refine ⟨_, isOutput, inside, dropWhile_ne_append noQuote _, ?_, rfl⟩
    exact (congrArg String.ofList (takeWhile_ne_append noQuote _)).trans String.ofList_toList

theorem toList_html (block : Block) :
    block.html.toList = "<pre><code class=\"".toList ++ (block.value.toList ++
      ("\">".toList ++ (block.content.toList ++ "</code></pre>".toList))) := by
  simp [Block.html]

/-- A block is read exactly where one is written. -/
theorem readBlock?_eq_some_iff {output : String} {block : Block} :
    readBlock? output = some block ↔ '"' ∉ block.value.toList ∧ output = block.html := by
  rw [← String.toList_inj, toList_html]
  simp only [readBlock?, Option.bind_eq_bind, Option.bind_eq_some_iff, Option.pure_def,
    Option.some.injEq, dropSuffix?_eq_some_iff]
  constructor
  · intro ⟨⟨value, inside⟩, isStart, content, isInside, isBlock⟩
    have ⟨noQuote, isOutput⟩ := readStart?_eq_some_iff.mp isStart
    have whole : inside = content ++ "</code></pre>".toList := isInside
    have isContent : block.content.toList = content := by
      rw [← isBlock, String.toList_ofList]
    have isValue : block.value = value := by
      rw [← isBlock]
    rw [isValue, isContent, isOutput, whole]
    exact ⟨noQuote, rfl⟩
  · intro ⟨noQuote, isOutput⟩
    have isStart := readStart?_eq_some_iff.mpr ⟨noQuote, isOutput⟩
    exact ⟨_, isStart, block.content.toList, rfl, by rw [String.ofList_toList]⟩

/-! ## The first end tag -/

/-- The end tag of an element for code. -/
def endTag : String :=
  "</code>"

/-- What stands in front of the first end tag. -/
def beforeEndTag : List Char → List Char
  | [] => []
  | c :: rest => if endTag.toList.isPrefixOf (c :: rest) then [] else c :: beforeEndTag rest

/-- Reads the content of the element for code up to the first end tag. -/
def firstContent? (output : String) : Option String :=
  (readStart? output.toList).map fun start => String.ofList (beforeEndTag start.2)

/-- An end tag that begins in a text in front of end tags ends there as well. -/
theorem endTag_prefix_of_append {c : Char} {text : List Char}
    (begins : endTag.toList <+: c :: text ++ "</code></pre>".toList) :
    endTag.toList <+: c :: text := by
  cases List.prefix_or_prefix_of_prefix begins (List.prefix_append (c :: text) _) with
  | inl within => exact within
  | inr across =>
      have ⟨later, whole⟩ := across
      rw [← whole, List.prefix_append_right_inj] at begins
      cases later with
      | nil =>
          rw [← whole, List.append_nil]
      | cons next later =>
          -- the tag would have a second `<` in it
          have isOpening : next = '<' := (List.cons_prefix_cons.mp begins).1
          have inside : '<' ∈ "/code>".toList := by
            rw [show "/code>".toList = text ++ next :: later from (List.cons.inj whole).2.symm,
              isOpening]
            simp
          exact absurd inside (by decide)

/-- The first end tag is that of the block exactly if there is none in front of it. -/
theorem beforeEndTag_eq_iff (text : List Char) :
    beforeEndTag (text ++ "</code></pre>".toList) = text ↔ ¬endTag.toList <:+: text := by
  induction text with
  | nil =>
      have noTag : ¬endTag.toList <:+: [] := by simp [endTag]
      simp [beforeEndTag, endTag]
  | cons c text ih =>
      rw [List.infix_cons_iff, List.cons_append, beforeEndTag]
      split
      · rename_i begins
        have within := endTag_prefix_of_append (List.isPrefixOf_iff_prefix.mp begins)
        simp [within]
      · rename_i notBegins
        have notWithin : ¬endTag.toList <+: c :: text := by
          intro within
          apply notBegins
          rw [List.isPrefixOf_iff_prefix]
          exact within.trans (List.prefix_append (c :: text) _)
        rw [List.cons.injEq, and_iff_right rfl, ih, not_or, and_iff_right notWithin]

/-- Text without `<` is kept up to the end tag. -/
theorem beforeEndTag_append {text : List Char} (noTag : '<' ∉ text) (rest : List Char) :
    beforeEndTag (text ++ rest) = text ++ beforeEndTag rest := by
  induction text with
  | nil => rfl
  | cons c text ih =>
      simp only [List.mem_cons, not_or] at noTag
      have notEnd : endTag.toList.isPrefixOf (c :: (text ++ rest)) = false := by
        simp [endTag, List.isPrefixOf, noTag.1]
      rw [List.cons_append, beforeEndTag, notEnd, ih noTag.2]
      rfl

theorem noTag_name (tokenClass : TokenClass) : '<' ∉ tokenClass.name.toList := by
  cases tokenClass <;> decide

/-- A piece of a fragment has no end tag for code. -/
theorem beforeEndTag_html {classPrefix : String} (noTag : '<' ∉ classPrefix.toList) (token : Token)
    (rest : List Char) :
    beforeEndTag (((Piece.ofToken token).html classPrefix).toList ++ rest) =
      ((Piece.ofToken token).html classPrefix).toList ++ beforeEndTag rest := by
  have noTagText := not_mem_flatMap_escapeChar (.inl rfl) token.text.toList
  cases found : token.tokenClass with
  | none => simp [Piece.ofToken, Piece.html, found, beforeEndTag_append noTagText]
  | some tokenClass =>
      let opening := "span class=\"".toList ++ classPrefix.toList ++ tokenClass.name.toList ++
        "\">".toList ++ token.text.toList.flatMap escapeChar
      have noTagOpening : '<' ∉ opening := by
        simp [opening, noTag, noTag_name tokenClass, noTagText]
      have html : ((Piece.ofToken token).html classPrefix).toList =
          '<' :: (opening ++ '<' :: "/span>".toList) := by
        simp [Piece.ofToken, Piece.html, Piece.spanHtml, found, opening]
      have notEnd (rest : List Char) :
          endTag.toList.isPrefixOf ('<' :: (opening ++ rest)) = false := by
        simp [endTag, List.isPrefixOf, opening]
      have notEndSpan : endTag.toList.isPrefixOf ('<' :: ("/span>".toList ++ rest)) = false := by
        simp [endTag, List.isPrefixOf]
      have noTagSpan : '<' ∉ "/span>".toList := by decide
      rw [html, List.cons_append, List.append_assoc, List.cons_append, beforeEndTag, notEnd,
        beforeEndTag_append noTagOpening, beforeEndTag, notEndSpan, beforeEndTag_append noTagSpan]
      simp

/-- A rendering has no end tag for code. -/
theorem beforeEndTag_render {classPrefix : String} (noTag : '<' ∉ classPrefix.toList)
    (tokens : List Token) (rest : List Char) :
    beforeEndTag ((render tokens classPrefix).toList ++ rest) =
      (render tokens classPrefix).toList ++ beforeEndTag rest := by
  rw [toList_render]
  induction tokens with
  | nil => rfl
  | cons token tokens ih =>
      rw [List.flatMap_cons, List.append_assoc, beforeEndTag_html noTag, ih, List.append_assoc]

/-! ## Blocks of a language -/

/-- The value of the class of a block in a language. -/
def languageValue (language : String) : String :=
  "language-" ++ replaceQuotes (escape language)

/-- The value is escaped as a whole. -/
theorem languageValue_eq (language : String) :
    languageValue language = escapeAttribute ("language-" ++ language) := by
  have plain : "language-".toList.flatMap escapeAttributeChar = "language-".toList := by decide
  rw [languageValue, ← escapeAttribute_eq, ← String.toList_inj, String.toList_append,
    toList_escapeAttribute, toList_escapeAttribute, String.toList_append, List.flatMap_append,
    plain]

theorem wrapBlock_eq_html (fragment language : String) :
    wrapBlock fragment language = Block.html ⟨languageValue language, fragment⟩ := by
  rw [wrapBlock_eq, inBlock, Block.html, languageValue, escapeAttribute_eq]
  simp [← String.toList_inj]

theorem isQuotable_languageValue (language : String) : IsQuotable (languageValue language) := by
  rw [languageValue_eq]
  exact isQuotable_escapeAttribute _

theorem decode_languageValue (language : String) :
    decode (languageValue language) = "language-" ++ language := by
  rw [languageValue_eq, decode_escapeAttribute]

theorem readBlock?_wrapBlock (fragment language : String) :
    readBlock? (wrapBlock fragment language) = some ⟨languageValue language, fragment⟩ :=
  readBlock?_eq_some_iff.mpr
    ⟨(isQuotable_languageValue language).noQuote, wrapBlock_eq_html fragment language⟩

theorem firstContent?_wrapBlock (fragment language : String) :
    firstContent? (wrapBlock fragment language) =
      some (String.ofList (beforeEndTag (fragment.toList ++ "</code></pre>".toList))) := by
  have isStart := readStart?_eq_some_iff.mpr
    ⟨(isQuotable_languageValue language).noQuote, toList_html ⟨languageValue language, fragment⟩⟩
  rw [firstContent?, wrapBlock_eq_html, isStart, Option.map_some]

/-- Of a block around tokens, the first end tag for code gives the whole fragment. -/
theorem firstContent?_wrapBlock_render {classPrefix : String} (noTag : '<' ∉ classPrefix.toList)
    (tokens : List Token) (language : String) :
    firstContent? (wrapBlock (render tokens classPrefix) language) =
      some (render tokens classPrefix) := by
  have atEnd : beforeEndTag "</code></pre>".toList = [] := by decide
  rw [firstContent?_wrapBlock, beforeEndTag_render noTag, atEnd, List.append_nil,
    String.ofList_toList]

/-- A name of a language stays in its quotes, whatever is in it: the value of the class has no quote
and no angle bracket, and it is read back as the name.  Behind the tags comes the fragment, and no
other fragment or name gives the same block. -/
theorem wrapBlock_envelope (fragment language : String) :
    (∃ value, readBlock? (wrapBlock fragment language) = some ⟨value, fragment⟩ ∧
      value = "language-" ++ replaceQuotes (escape language) ∧ IsQuotable value ∧
      decode value = "language-" ++ language) ∧
    (firstContent? (wrapBlock fragment language) = some fragment ↔
      ¬endTag.toList <:+: fragment.toList) ∧
    ∀ otherFragment otherLanguage : String,
      wrapBlock otherFragment otherLanguage = wrapBlock fragment language ↔
        otherFragment = fragment ∧ otherLanguage = language := by
  refine ⟨⟨languageValue language, readBlock?_wrapBlock fragment language, rfl,
    isQuotable_languageValue language, decode_languageValue language⟩, ?_, ?_⟩
  · rw [firstContent?_wrapBlock, ← beforeEndTag_eq_iff, Option.some.injEq, ← String.toList_inj,
      String.toList_ofList]
  · intro otherFragment otherLanguage
    constructor
    · intro same
      have read := readBlock?_wrapBlock otherFragment otherLanguage
      rw [same, readBlock?_wrapBlock, Option.some.injEq, Block.mk.injEq] at read
      have names := congrArg decode read.1
      rw [decode_languageValue, decode_languageValue] at names
      have sameName := congrArg String.toList names
      rw [String.toList_append, String.toList_append, List.append_cancel_left_eq,
        String.toList_inj] at sameName
      exact ⟨read.2.symm, sameName.symm⟩
    · intro ⟨sameFragment, sameLanguage⟩
      rw [sameFragment, sameLanguage]

end Tint.Html
