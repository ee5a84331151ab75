import Mathlib
import Tint.Html

/-!
# Reading markup back

Removing the tags of a fragment and then replacing its entities gives back the text that the
fragment shows.  Tags are removed in one scan; the entities are replaced one kind after the other,
the ampersand last, so that what is an ampersand in the text does not become part of another entity.
-/

namespace Tint.Html

/-- Leaves out everything from a `<` to the next `>`. -/
def stripTagsFrom : (inTag : Bool) → List Char → List Char
  | _, [] => []
  | inTag, c :: rest =>
      if c = '<' then stripTagsFrom true rest
      else if inTag then stripTagsFrom (c != '>') rest
      else c :: stripTagsFrom false rest

/-- A fragment without its tags. -/
def stripTags (fragment : String) : String :=
  String.ofList (stripTagsFrom false fragment.toList)

/-- Replaces every occurrence of a text, from left to right and not within what was replaced. -/
def replaceAll (old new : List Char) : List Char → List Char
  | [] => []
  | c :: rest =>
      if old.isPrefixOf (c :: rest) then new ++ replaceAll old new (rest.drop (old.length - 1))
      else c :: replaceAll old new rest
termination_by text => text.length
decreasing_by
  · simp only [List.length_drop, List.length_cons]
    omega
  · simp

/-- A text with entities replaced by what they stand for. -/
def unescape (text : String) : String :=
  let angles := replaceAll "&gt;".toList ['>'] (replaceAll "&lt;".toList ['<'] text.toList)
  String.ofList (replaceAll "&amp;".toList ['&'] angles)

/-! ## Escaped text -/

@[simp] theorem toList_foldl_push (cs : List Char) (done : String) :
    (cs.foldl String.push done).toList = done.toList ++ cs := by
  induction cs generalizing done with
  | nil => simp
  | cons c cs ih => simp [ih]

/-- Writing the forms of characters one after the other. -/
theorem toList_foldl_flatMap (form : Char → List Char) (cs : List Char) (done : String) :
    (cs.foldl (fun done c => (form c).foldl String.push done) done).toList =
      done.toList ++ cs.flatMap form := by
  induction cs generalizing done with
  | nil => simp
  | cons c cs ih => simp [ih]

@[simp] theorem toList_appendEscaped (done text : String) :
    (appendEscaped done text).toList = done.toList ++ text.toList.flatMap escapeChar :=
  toList_foldl_flatMap escapeChar text.toList done

@[simp] theorem toList_escape (text : String) :
    (escape text).toList = text.toList.flatMap escapeChar := by
  simp [escape]

/-- The characters with an entity. -/
def specialChars : List Char :=
  ['&', '<', '>']

theorem mem_specialChars {c : Char} : c ∈ specialChars ↔ c = '&' ∨ c = '<' ∨ c = '>' := by
  simp [specialChars]

/-- The written form of a character if only some have their entities. -/
def escapeOnly (special : List Char) (c : Char) : List Char :=
  if c ∈ special then escapeChar c else [c]

theorem escapeChar_of_not_mem {c : Char} (ordinary : c ∉ specialChars) : escapeChar c = [c] := by
  simp only [mem_specialChars, not_or] at ordinary
  rcases ordinary with ⟨notAmp, notLess, notGreater⟩
  simp [escapeChar]

theorem escapeOnly_specialChars : escapeOnly specialChars = escapeChar := by
  funext c
  by_cases special : c ∈ specialChars
  · simp [escapeOnly, special]
  · simp [escapeOnly, special, escapeChar_of_not_mem special]

/-- What an entity does not start with is passed over. -/
theorem replaceAll_cons_of_ne {c first : Char} (differ : c ≠ first) (old new rest : List Char) :
    replaceAll (first :: old) new (c :: rest) = c :: replaceAll (first :: old) new rest := by
  rw [replaceAll, if_neg]
  simp [Ne.symm differ]

/-- Replacing an entity undoes it where it stands for its own character. -/
theorem replaceAll_escapeChar_self {target : Char} (known : target ∈ specialChars)
    (rest : List Char) :
    replaceAll (escapeChar target) [target] (escapeChar target ++ rest) =
      target :: replaceAll (escapeChar target) [target] rest := by
  rcases mem_specialChars.mp known with rfl | rfl | rfl <;> simp [escapeChar, replaceAll]

/-- Replacing an entity passes over those of other characters. -/
theorem replaceAll_escapeChar_of_ne {target c : Char} (known : target ∈ specialChars)
    (differ : c ≠ target) (rest : List Char) :
    replaceAll (escapeChar target) [target] (escapeChar c ++ rest) =
      escapeChar c ++ replaceAll (escapeChar target) [target] rest := by
  by_cases special : c ∈ specialChars
  · rcases mem_specialChars.mp known with rfl | rfl | rfl <;>
      rcases mem_specialChars.mp special with rfl | rfl | rfl <;>
      simp [escapeChar, replaceAll] at differ ⊢
  · have notAmp : c ≠ '&' := by
      rintro rfl
      exact special (by decide)
    rw [escapeChar_of_not_mem special]
    rcases mem_specialChars.mp known with rfl | rfl | rfl <;>
      simp [escapeChar, replaceAll_cons_of_ne notAmp]

/-- Replacing one entity undoes it and passes over all else.  An ampersand that is not escaped could
become part of an entity, so ampersands must still be special. -/
theorem replaceAll_escapeOnly {special : List Char} {target : Char} (known : target ∈ specialChars)
    (isSpecial : target ∈ special) (ampSpecial : '&' ∈ special) (c : Char) (rest : List Char) :
    replaceAll (escapeChar target) [target] (escapeOnly special c ++ rest) =
      escapeOnly (special.filter (· != target)) c ++
        replaceAll (escapeChar target) [target] rest := by
  by_cases same : c = target
  · subst same
    simp [escapeOnly, isSpecial, replaceAll_escapeChar_self known]
  · by_cases member : c ∈ special
    · simp [escapeOnly, member, same, replaceAll_escapeChar_of_ne known same]
    · have notAmp : c ≠ '&' := by
        rintro rfl
        exact member ampSpecial
      have passed : replaceAll (escapeChar target) [target] (c :: rest) =
          c :: replaceAll (escapeChar target) [target] rest := by
        rcases mem_specialChars.mp known with rfl | rfl | rfl <;>
          exact replaceAll_cons_of_ne notAmp _ _ _
      simp [escapeOnly, member, passed]

/-- Replacing the entity of one character takes it from the special ones in the whole text. -/
theorem replaceAll_flatMap_escapeOnly (special : List Char) (target : Char)
    (known : target ∈ specialChars) (isSpecial : target ∈ special) (ampSpecial : '&' ∈ special)
    (cs : List Char) :
    replaceAll (escapeChar target) [target] (cs.flatMap (escapeOnly special)) =
      cs.flatMap (escapeOnly (special.filter (· != target))) := by
  induction cs with
  | nil => simp [replaceAll]
  | cons c cs ih =>
      rw [List.flatMap_cons, replaceAll_escapeOnly known isSpecial ampSpecial, ih,
        List.flatMap_cons]

/-- Escaping is undone exactly. -/
theorem unescape_escape (text : String) : unescape (escape text) = text := by
  have less := replaceAll_flatMap_escapeOnly specialChars '<' (by decide) (by decide) (by decide)
    text.toList
  have greater := replaceAll_flatMap_escapeOnly (specialChars.filter (· != '<')) '>' (by decide)
    (by decide) (by decide) text.toList
  have amp := replaceAll_flatMap_escapeOnly ((specialChars.filter (· != '<')).filter (· != '>'))
    '&' (by decide) (by decide) (by decide) text.toList
  calc unescape (escape text)
      = String.ofList (replaceAll (escapeChar '&') ['&'] (replaceAll (escapeChar '>') ['>']
          (replaceAll (escapeChar '<') ['<']
            (text.toList.flatMap (escapeOnly specialChars))))) := by
        rw [unescape, toList_escape, escapeOnly_specialChars]
        rfl
    _ = String.ofList (text.toList.flatMap (escapeOnly [])) := by
        rw [less, greater, amp]
        rfl
    _ = text := by
        have itself : escapeOnly [] = fun c => [c] := by
          funext c
          simp [escapeOnly]
        simp [itself]

/-! ## Tags -/

/-- Text without `<` is kept outside of tags. -/
theorem stripTagsFrom_append {text : List Char} (noTag : '<' ∉ text) (rest : List Char) :
    stripTagsFrom false (text ++ rest) = text ++ stripTagsFrom false rest := by
  induction text with
  | nil => rfl
  | cons c text ih =>
      simp only [List.mem_cons, not_or] at noTag
      simp [stripTagsFrom, Ne.symm noTag.1, ih noTag.2]

/-- A tag is left out up to its first `>`. -/
theorem stripTagsFrom_tag {inside : List Char} (notClosed : '>' ∉ inside) (rest : List Char) :
    stripTagsFrom false ('<' :: inside ++ '>' :: rest) = stripTagsFrom false rest := by
  have inTag : stripTagsFrom true (inside ++ '>' :: rest) = stripTagsFrom false rest := by
    induction inside with
    | nil => simp [stripTagsFrom]
    | cons c inside ih =>
        simp only [List.mem_cons, not_or] at notClosed
        by_cases opens : c = '<'
        · simp [stripTagsFrom, opens, ih notClosed.2]
        · have stays : (c != '>') = true := bne_iff_ne.mpr (Ne.symm notClosed.1)
          simp [stripTagsFrom, opens, stays, ih notClosed.2]
  simpa [stripTagsFrom] using inTag

end Tint.Html
