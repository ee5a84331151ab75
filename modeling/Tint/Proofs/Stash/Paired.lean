import Tint.Proofs.Tokenized

/-!
# Slots and placeholders in pairs

From the moment a text is protected until it is resolved, the slots in use and the reserved
characters of the working text are in pairs: each slot has its placeholder in the text exactly once,
and the text has no other reserved character.  What the slots hold is either a reserved character,
which was put away by itself, or some text of a class without any reserved character.

A single pass keeps this, whatever it is told to put away: spans can go over placeholders, end next
to them or leave blanks between them, and the slots can run out in the middle of the pass.
-/

namespace Tint

open Tint.Regex

/-- Slots in use and reserved characters of the working text in pairs, and what the slots hold. -/
structure Paired (working : Working) : Prop where
  /-- A slot in use has a placeholder, which is in the text exactly once. -/
  once : ∀ slot < working.1.tokens.size,
    ∃ placeholder, slotChar? slot = some placeholder ∧ working.2.count placeholder = 1
  /-- A reserved character of the text is the placeholder of a slot in use, -/
  inUse : ∀ c ∈ working.2, isReserved c = true →
    ∃ slot < working.1.tokens.size, slotChar? slot = some c
  /-- not of one that is still free, -/
  notFree : ∀ slot placeholder, working.1.tokens.size ≤ slot →
    slotChar? slot = some placeholder → placeholder ∉ working.2
  /-- and it is none of the last two code points of either plane, which have no slot. -/
  notLast : ∀ c ∈ working.2, c.toNat ∉ [0xFFFFE, 0xFFFFF, 0x10FFFE, 0x10FFFF]
  /-- What is classified has some text, and no reserved characters in it. -/
  classified : ∀ token ∈ working.1.tokens, token.tokenClass.isSome →
    token.text ≠ "" ∧ ∀ c ∈ token.text.toList, isReserved c = false
  /-- What is plain is a single reserved character. -/
  plain : ∀ token ∈ working.1.tokens, token.tokenClass = none →
    ∃ c, isReserved c = true ∧ token.text = String.singleton c

/-! ## Pairs and permutations of slots -/

/-- Text that is linked to its stash by a permutation of the slots has them in pairs. -/
theorem Consistent.paired {working : Working} (consistent : Consistent working) :
    Paired working where
  once slot used := by
    have isSlot : slot ∈ working.2.filterMap slotOf? :=
      consistent.slots.mem_iff.mpr (List.mem_range.mpr used)
    obtain ⟨placeholder, -, found⟩ := List.mem_filterMap.mp isSlot
    have hasPlaceholder := slotOf?_eq_some_iff.mp found
    refine ⟨placeholder, hasPlaceholder, ?_⟩
    rw [← count_filterMap_slotOf? hasPlaceholder]
    exact List.count_eq_one_of_mem consistent.slots_nodup isSlot
  inUse c member reserved := by
    obtain ⟨slot, found⟩ := Option.isSome_iff_exists.mp (consistent.reserved c member reserved)
    exact ⟨slot, consistent.slot_lt member found, slotOf?_eq_some_iff.mp found⟩
  notFree slot placeholder free hasPlaceholder member := by
    have used := consistent.slot_lt member (slotOf?_slotChar? hasPlaceholder)
    omega
  notLast c member isLast := by
    have reserved : isReserved c = true := by
      simp only [List.mem_cons, List.not_mem_nil, or_false] at isLast
      simp only [isReserved, decide_eq_true_eq]
      omega
    have hasSlot := consistent.reserved c member reserved
    rw [slotOf?_eq_none_of_mem isLast] at hasSlot
    cases hasSlot
  classified token member isClassified := by
    have stashed := consistent.entries token member
    refine ⟨stashed.text_ne_empty isClassified, ?_⟩
    obtain ⟨tokenClass, isClass⟩ := Option.isSome_iff_exists.mp isClassified
    simp only [Token.Stashed, isClass] at stashed
    exact stashed.2
  plain token member isPlain := by
    have stashed := consistent.entries token member
    simp only [Token.Stashed, isPlain] at stashed
    obtain ⟨c, reserved, isText⟩ := stashed
    exact ⟨c, reserved, String.toList_inj.mp (by simpa using isText)⟩

namespace Paired

variable {working : Working}

/-- The slots of the text are counted one by one: those in use are there once, the others not at
all. -/
theorem consistent (paired : Paired working) : Consistent working where
  slots := by
    rw [List.perm_iff_count]
    intro slot
    rw [List.nodup_range.count]
    by_cases used : slot < working.1.tokens.size
    · obtain ⟨placeholder, hasPlaceholder, once⟩ := paired.once slot used
      rw [count_filterMap_slotOf? hasPlaceholder, once, if_pos (List.mem_range.mpr used)]
    · rw [if_neg (by simpa using used), List.count_eq_zero]
      intro isSlot
      obtain ⟨c, member, found⟩ := List.mem_filterMap.mp isSlot
      exact paired.notFree slot c (by omega) (slotOf?_eq_some_iff.mp found) member
  reserved c member reserved := by
    obtain ⟨slot, -, hasPlaceholder⟩ := paired.inUse c member reserved
    rw [slotOf?_slotChar? hasPlaceholder]
    rfl
  entries token member := by
    rw [Token.Stashed]
    cases isClass : token.tokenClass with
    | none =>
        obtain ⟨c, reserved, isText⟩ := paired.plain token member isClass
        exact ⟨c, reserved, by simp [isText]⟩
    | some tokenClass =>
        obtain ⟨nonempty, ordinary⟩ := paired.classified token member (by simp [isClass])
        exact ⟨by simpa using nonempty, ordinary⟩

/-! ## Passes -/

/-- A pass keeps the pairs, wherever its spans are. -/
theorem replaceSpans (paired : Paired working) (spans : List (Span × TokenClass)) :
    Paired (working.1.replaceSpans working.2 spans) := by
  have steps := Stash.replaceSpans_putsAway working.1 working.2 spans
  exact (paired.consistent.putsAway steps).paired

theorem applyRule (paired : Paired working) (rule : Rule) :
    Paired (working.1.applyRule rule working.2) := by
  rw [Stash.applyRule_eq_replaceSpans]
  exact paired.replaceSpans _

/-- The passes of any rules keep the pairs, one after the other. -/
theorem applyRules (paired : Paired working) (rules : List Rule) :
    Paired (working.applyRules rules) := by
  induction rules generalizing working with
  | nil => exact paired
  | cons rule rules ih => exact ih (paired.applyRule rule)

end Paired

/-! ## Tokenizers -/

/-- Slots and placeholders are in pairs once a text has been protected, and after each of the passes
by which its tokens come about: those of the first rules of a language, however many, and those for
literals and for scalars. -/
theorem paired_passes {text : String} {start : Working}
    (found : Stash.protect text.toList = some start) :
    Paired start ∧
      (∀ language : Language,
        (∀ count, Paired (start.applyRules (language.rules.take count))) ∧
          let final := start.applyRules language.rules
          language.tokenize text = final.1.resolve final.2) ∧
      let literals := start.1.replaceSpans start.2 (Structured.literalSpans start.2)
      let scalars := literals.1.replaceSpans literals.2 (Structured.scalarSpans literals.2)
      Paired literals ∧ Paired scalars ∧
        Structured.tokenize text = scalars.1.resolve scalars.2 := by
  have paired : Paired start := (Stash.protect_consistent found).paired
  refine ⟨paired, fun language => ⟨fun count => ?_, ?_⟩, ?_⟩
  · exact paired.applyRules (language.rules.take count)
  · exact Language.tokenize_of_protect found
  · intro literals scalars
    have pairedLiterals : Paired literals := paired.replaceSpans _
    refine ⟨pairedLiterals, pairedLiterals.replaceSpans _, ?_⟩
    rw [Structured.tokenize, found]

/-- A literal with two reserved characters in it, one of them without a slot, and a blank between
them. -/
theorem paired_passes_literal :
    let last := Char.ofNat 0x10FFFF
    let first := Char.ofNat 0xF0000
    let text := String.ofList ['"', 'a', last, ' ', first, '"', ':', '1']
    let start : Working :=
      (⟨#[.plain (.singleton last), .plain (.singleton first)]⟩,
        ['"', 'a', first, ' ', Char.ofNat 0xF0001, '"', ':', '1'])
    let literals := start.1.replaceSpans start.2 (Structured.literalSpans start.2)
    Stash.protect text.toList = some start ∧
      literals.1.tokens =
        #[.plain (.singleton last), .plain (.singleton first), .classified .property "\"a",
          .classified .property "\""] ∧
      literals.2 =
        [Char.ofNat 0xF0002, first, ' ', Char.ofNat 0xF0001, Char.ofNat 0xF0003, ':', '1'] ∧
      Paired literals := by
  intro last first text start literals
  have found : Stash.protect text.toList = some start := by
    simp [text, last, first, start, Stash.protect, Stash.protectFrom, isReserved, Stash.next?,
      slotChar?, slotsPerPlane, Stash.push, Draft.keep, Draft.text, Char.toString]
  exact ⟨found, by decide +kernel, by decide +kernel, (paired_passes found).2.2.1⟩

end Tint
