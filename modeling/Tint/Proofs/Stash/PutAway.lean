import Tint.Highlighter
import Tint.Proofs.Stash.Segments

/-!
# Putting text away, one run at a time

Whatever the spans of a pass are, all that it does is to put away runs of ordinary characters one
after the other, each into the next slot.  `PutAway` is that one step.

What the steps keep is the link between a stash and its working text: every slot in use has its
placeholder in the text exactly once, and the text has no other reserved character.
-/

namespace Tint

open Tint.Regex

/-- A stash and the working text that refers to it. -/
abbrev Working := Stash × List Char

/-- A run of ordinary characters is put away under a class, and the placeholder of the next slot
takes its place. -/
inductive PutAway : Working → Working → Prop where
  | run {stash : Stash} {placeholder : Char} {run : List Char} (before after : List Char)
      (tokenClass : TokenClass) (free : stash.next? = some placeholder) (nonempty : run ≠ [])
      (ordinary : ∀ c ∈ run, isReserved c = false) :
      PutAway (stash, before ++ run ++ after)
        (stash.push (.classified tokenClass (String.ofList run)), before ++ placeholder :: after)

/-- Runs are put away, any number of them. -/
abbrev PutsAway : Working → Working → Prop :=
  Relation.ReflTransGen PutAway

/-- Nothing is put away once no placeholder is left. -/
theorem PutsAway.eq_of_full {working next : Working} (full : working.1.next? = none)
    (steps : PutsAway working next) : next = working := by
  rcases steps.cases_head with same | ⟨_, step, -⟩
  · exact same.symm
  · cases step with
    | run before after tokenClass free => simp [full] at free

/-! ## Passes as steps -/

namespace Draft

/-- The working text in the middle of a pass: what is written, and what is still to be read. -/
def working (draft : Draft) (rest : List Char) : Working :=
  (draft.stash, draft.text ++ rest)

@[simp] theorem working_keep (draft : Draft) (c : Char) (rest : List Char) :
    (draft.keep c).working rest = draft.working (c :: rest) := by
  simp [working, keep, text]

@[simp] theorem working_keepAll (draft : Draft) (kept rest : List Char) :
    (draft.keepAll kept).working rest = draft.working (kept ++ rest) := by
  simp [working]

theorem classifyRun_putsAway (draft : Draft) (tokenClass : TokenClass) {run : List Char}
    (ordinary : ∀ c ∈ run, isReserved c = false) (rest : List Char) :
    PutsAway (draft.working (run ++ rest)) ((draft.classifyRun tokenClass run).working rest) := by
  by_cases empty : run = []
  · subst empty
    exact .refl
  · cases free : draft.stash.next? with
    | none =>
        rw [classifyRun_of_full free, working_keepAll]
    | some placeholder =>
        have step := PutAway.run draft.text rest tokenClass free empty ordinary
        rw [classifyRun_of_free free empty, working, working, ← List.append_assoc]
        simpa [text] using Relation.ReflTransGen.single step

theorem write_putsAway (draft : Draft) {segment : Segment} (ordinary : segment.Ordinary)
    (rest : List Char) :
    PutsAway (draft.working (segment.text ++ rest)) ((draft.write segment).working rest) := by
  cases segment with
  | keep kept =>
      rw [write, working_keepAll]
      exact .refl
  | claim tokenClass run => exact draft.classifyRun_putsAway tokenClass ordinary rest

/-- Going through segments only puts runs away. -/
theorem foldl_write_putsAway (draft : Draft) {segments : List Segment}
    (ordinary : ∀ segment ∈ segments, segment.Ordinary) (rest : List Char) :
    PutsAway (draft.working (segments.flatMap Segment.text ++ rest))
      ((segments.foldl write draft).working rest) := by
  induction segments generalizing draft with
  | nil => exact .refl
  | cons segment segments ih =>
      rw [List.flatMap_cons, List.append_assoc, List.foldl_cons]
      have first := draft.write_putsAway (ordinary segment List.mem_cons_self)
        (segments.flatMap Segment.text ++ rest)
      exact first.trans
        (ih _ fun other member => ordinary other (List.mem_cons_of_mem _ member))

/-- Classifying spans only puts runs away, wherever the spans are. -/
theorem classifySpans_putsAway (draft : Draft) (offset : Nat) (text : List Char)
    (spans : List (Span × TokenClass)) :
    PutsAway (draft.working text) ((draft.classifySpans offset text spans).working []) := by
  have passes := draft.foldl_write_putsAway
    (Segment.ordinary_of_mem_ofSpans offset text spans) []
  simpa [classifySpans_eq_foldl] using passes

end Draft

namespace Stash

theorem replaceSpans_putsAway (stash : Stash) (text : List Char)
    (spans : List (Span × TokenClass)) :
    PutsAway (stash, text) (stash.replaceSpans text spans) := by
  have passes := Draft.classifySpans_putsAway ⟨stash, []⟩ 0 text spans
  simpa [Draft.working, Draft.text, replaceSpans] using passes

/-- The pass of a rule puts its spans away, also when there are none. -/
theorem applyRule_eq_replaceSpans (rule : Rule) (stash : Stash) (text : List Char) :
    stash.applyRule rule text =
      stash.replaceSpans text ((rule.spans text).map fun span => (span, rule.tokenClass)) := by
  rw [applyRule]
  split
  · rename_i noSpans
    simp [noSpans, replaceSpans, Draft.classifySpans, Draft.keepAll, Draft.text]
  · rfl

theorem applyRule_putsAway (rule : Rule) (stash : Stash) (text : List Char) :
    PutsAway (stash, text) (stash.applyRule rule text) := by
  rw [applyRule_eq_replaceSpans]
  exact stash.replaceSpans_putsAway text _

end Stash

/-- A working text after the passes of some rules, one after the other. -/
def Working.applyRules (start : Working) (rules : List Rule) : Working :=
  rules.foldl (fun working rule => working.1.applyRule rule working.2) start

theorem Working.applyRules_append (start : Working) (higher lower : List Rule) :
    Working.applyRules start (higher ++ lower) =
      Working.applyRules (Working.applyRules start higher) lower :=
  List.foldl_append

/-- Rules that find nothing leave everything as it is. -/
theorem Working.applyRules_of_nil {working : Working} {rules : List Rule}
    (nothing : ∀ rule ∈ rules, rule.spans working.2 = []) :
    working.applyRules rules = working := by
  induction rules with
  | nil => rfl
  | cons rule rules ih =>
      obtain ⟨nothingHere, nothingLater⟩ := List.forall_mem_cons.mp nothing
      have first : working.1.applyRule rule working.2 = working := by
        rw [Stash.applyRule, nothingHere]
      rw [applyRules, List.foldl_cons, first]
      exact ih nothingLater

/-- The passes of any rules only put runs away. -/
theorem Working.applyRules_putsAway (rules : List Rule) (start : Working) :
    PutsAway start (Working.applyRules start rules) := by
  induction rules generalizing start with
  | nil => exact .refl
  | cons rule rules ih => exact (Stash.applyRule_putsAway rule start.1 start.2).trans (ih _)

/-! ## What the steps keep -/

/-- A stash holds plain tokens of one reserved character, and classified tokens of ordinary text. -/
def Token.Stashed (token : Token) : Prop :=
  match token.tokenClass with
  | none => ∃ c, isReserved c = true ∧ token.text.toList = [c]
  | some _ => token.text.toList ≠ [] ∧ ∀ c ∈ token.text.toList, isReserved c = false

theorem Token.Stashed.text_ne_empty {token : Token} (stashed : token.Stashed)
    (isClassified : token.tokenClass.isSome) : token.text ≠ "" := by
  rcases Option.isSome_iff_exists.mp isClassified with ⟨tokenClass, found⟩
  simp only [Token.Stashed, found] at stashed
  simpa using stashed.1

/-- The link between a stash and its working text. -/
structure Consistent (working : Working) : Prop where
  /-- Each slot in use has its placeholder in the text once, and no other slot has it there. -/
  slots : (working.2.filterMap slotOf?).Perm (List.range working.1.tokens.size)
  /-- Every reserved character of the text is the placeholder of some slot. -/
  reserved : ∀ c ∈ working.2, isReserved c = true → (slotOf? c).isSome
  entries : ∀ token ∈ working.1.tokens, token.Stashed

namespace Consistent

variable {stash : Stash} {text : List Char}

theorem slot_lt (consistent : Consistent (stash, text)) {c : Char} (member : c ∈ text)
    {slot : Nat} (slotEq : slotOf? c = some slot) : slot < stash.tokens.size := by
  have inText : slot ∈ text.filterMap slotOf? := List.mem_filterMap.mpr ⟨c, member, slotEq⟩
  exact List.mem_range.mp (consistent.slots.mem_iff.mp inText)

theorem slots_nodup (consistent : Consistent (stash, text)) :
    (text.filterMap slotOf?).Nodup :=
  consistent.slots.nodup_iff.mpr List.nodup_range

/-- A text without reserved characters goes with the empty stash. -/
theorem of_ordinary (ordinary : ∀ c ∈ text, isReserved c = false) :
    Consistent (({} : Stash), text) where
  slots := by simpa using filterMap_slotOf?_of_ordinary ordinary
  reserved := by
    intro c member reserved
    simp [ordinary c member] at reserved
  entries := by simp

/-- A new token and its placeholder, put anywhere in place of ordinary text, keep the link. -/
theorem push {before run after : List Char} {placeholder : Char} {token : Token}
    (consistent : Consistent (stash, before ++ run ++ after))
    (free : stash.next? = some placeholder) (ordinary : ∀ c ∈ run, isReserved c = false)
    (stashed : token.Stashed) :
    Consistent (stash.push token, before ++ placeholder :: after) where
  slots := by
    have old := consistent.slots
    simp only [List.filterMap_append, filterMap_slotOf?_of_ordinary ordinary,
      List.append_nil] at old
    simp only [List.filterMap_append, List.filterMap_cons, slotOf?_slotChar? free,
      Stash.size_push, List.range_succ]
    exact List.perm_middle.trans ((old.cons _).trans (List.perm_append_singleton _ _).symm)
  reserved := by
    intro c member reserved
    rcases List.mem_append.mp member with inBefore | inAfter
    · exact consistent.reserved c (by simp [inBefore]) reserved
    · rcases List.mem_cons.mp inAfter with rfl | inAfter
      · simp [slotOf?_slotChar? free]
      · exact consistent.reserved c (by simp [inAfter]) reserved
  entries := by
    intro other member
    rcases Array.mem_push.mp member with old | rfl
    · exact consistent.entries other old
    · exact stashed

/-- One run that is put away keeps the link. -/
theorem putAway {working next : Working} (consistent : Consistent working)
    (step : PutAway working next) : Consistent next := by
  cases step with
  | run before after tokenClass free nonempty ordinary =>
      apply consistent.push free ordinary
      simpa [Token.Stashed, Token.classified] using ⟨nonempty, ordinary⟩

/-- Runs that are put away keep the link, however many they are. -/
theorem putsAway {working next : Working} (consistent : Consistent working)
    (steps : PutsAway working next) : Consistent next := by
  induction steps with
  | refl => exact consistent
  | tail _ step ih => exact ih.putAway step

end Consistent

end Tint
