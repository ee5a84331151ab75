import Tint.Proofs.Stash.PutAway
import Tint.Proofs.Tokens

/-!
# What a working text stands for

Every character of a working text stands for a token: a placeholder for what is put away in its
slot, any other character for itself.  Resolving a working text joins the plain ones of these
tokens.  It also moves the text out of each slot that it meets, so this needs every placeholder to
be there only once.

Putting a run away replaces the tokens of its characters by a single classified one.
-/

namespace Tint

open Tint.Regex

namespace Stash

/-- The token that a character of a working text stands for. -/
def expand (stash : Stash) (c : Char) : Token :=
  match stash.held? c with
  | some (_, token) => token
  | none => .plain (String.singleton c)

@[simp] theorem expand_of_ordinary {stash : Stash} {c : Char} (ordinary : isReserved c = false) :
    stash.expand c = .plain (String.singleton c) := by
  simp [expand, ordinary]

theorem expand_of_held? {stash : Stash} {c : Char} {slot : Nat} {token : Token}
    (held : stash.held? c = some (slot, token)) : stash.expand c = token := by
  simp [expand, held]

/-- Characters whose slots were in use stand for what they stood for. -/
theorem expand_congr {stash other : Stash} {c : Char}
    (same : ∀ slot, slotOf? c = some slot → stash.tokens[slot]? = other.tokens[slot]?) :
    stash.expand c = other.expand c := by
  cases slotEq : slotOf? c with
  | none => simp [expand, held?, slotEq]
  | some slot => simp [expand, held?, slotEq, same slot slotEq]

@[simp] theorem chars_expand_of_ordinary {stash : Stash} {text : List Char}
    (ordinary : ∀ c ∈ text, isReserved c = false) :
    Token.chars (text.map stash.expand) = text := by
  induction text with
  | nil => rfl
  | cons c rest ih =>
      have restOrdinary := ih fun other member => ordinary other (by simp [member])
      simp [ordinary c (by simp), restOrdinary, Token.plain]

theorem expand_of_ordinary_isPlain {stash : Stash} {text : List Char}
    (ordinary : ∀ c ∈ text, isReserved c = false) :
    ∀ token ∈ text.map stash.expand, token.tokenClass = none := by
  intro token member
  rcases List.mem_map.mp member with ⟨c, inText, rfl⟩
  simp [ordinary c inText, Token.plain]

/-- The characters that were there before stand for the same tokens after another one is put
away. -/
theorem map_expand_push {stash : Stash} {text part : List Char} (token : Token)
    (consistent : Consistent (stash, text)) (inText : ∀ c ∈ part, c ∈ text) :
    part.map (stash.push token).expand = part.map stash.expand := by
  apply List.map_congr_left
  intro c member
  cases slotEq : slotOf? c with
  | none => simp [expand, held?, slotEq]
  | some slot =>
      have used := consistent.slot_lt (inText c member) slotEq
      simp [expand, held?_push_of_lt token slotEq used]

/-- The characters that are left stand for the same tokens after the text in another slot is
taken. -/
theorem map_expand_takeText {stash : Stash} {slot : Nat} {text : List Char}
    (apart : slot ∉ text.filterMap slotOf?) :
    text.map (stash.takeText slot).expand = text.map stash.expand := by
  apply List.map_congr_left
  intro c member
  cases slotEq : slotOf? c with
  | none => simp [expand, held?, slotEq]
  | some other =>
      have differ : slot ≠ other := by
        rintro rfl
        exact apart (List.mem_filterMap.mpr ⟨c, member, slotEq⟩)
      simp [expand, held?_takeText slotEq differ]

/-! ## Resolving -/

theorem reverse_flushPlain (plain : List Char) (done : List Token) :
    (flushPlain plain done).reverse = done.reverse ++ Token.gather plain.reverse := by
  by_cases empty : plain = []
  · simp [flushPlain, empty]
  · simp [flushPlain, Token.gather, empty]

/-- Resolving joins the tokens that the characters stand for, if no placeholder comes twice. -/
theorem resolveFrom_eq (stash : Stash) (plain : List Char) (done : List Token)
    {text : List Char} (once : (text.filterMap slotOf?).Nodup) :
    stash.resolveFrom plain done text =
      done.reverse ++ Token.joinFrom plain.reverse (text.map stash.expand) := by
  induction text generalizing stash plain done with
  | nil => simp [resolveFrom, Token.joinFrom, reverse_flushPlain]
  | cons c rest ih =>
      have restOnce : (rest.filterMap slotOf?).Nodup :=
        once.sublist ((List.sublist_cons_self c rest).filterMap slotOf?)
      rw [List.map_cons]
      cases found : stash.held? c with
      | none =>
          have isPlain : (stash.expand c).tokenClass = none := by
            simp [expand, found, Token.plain]
          have itself : (stash.expand c).text.toList = [c] := by
            simp [expand, found, Token.plain]
          simp only [resolveFrom, found]
          rw [ih stash _ _ restOnce, Token.joinFrom_cons_plain isPlain, itself,
            List.reverse_cons]
      | some held =>
          rcases held with ⟨slot, token⟩
          rw [expand_of_held? found]
          cases isClass : token.tokenClass with
          | none =>
              simp only [resolveFrom, found, isClass]
              rw [ih stash _ _ restOnce, Token.joinFrom_cons_plain isClass]
              simp
          | some tokenClass =>
              have slotEq : slotOf? c = some slot := (held?_eq_some_iff.mp found).1
              have apart : slot ∉ rest.filterMap slotOf? := by
                simp only [List.filterMap_cons, slotEq] at once
                exact (List.nodup_cons.mp once).1
              simp only [resolveFrom, found, isClass]
              rw [ih (stash.takeText slot) _ _ restOnce, map_expand_takeText apart,
                Token.joinFrom_cons_classified (by simp [isClass])]
              simp [reverse_flushPlain]

end Stash

/-- What is classified among the tokens that a working text stands for has been put away. -/
theorem Consistent.stashed_expand {working : Working} (consistent : Consistent working) {c : Char}
    (isClassified : (working.1.expand c).tokenClass.isSome) : (working.1.expand c).Stashed := by
  cases found : working.1.held? c with
  | none => simp [Stash.expand, found, Token.plain] at isClassified
  | some held =>
      rcases held with ⟨slot, token⟩
      have inSlot := (Stash.held?_eq_some_iff.mp found).2
      rw [Stash.expand_of_held? found]
      exact consistent.entries token (Array.mem_of_getElem? inSlot)

/-- The tokens that the characters of a working text stand for. -/
def Working.tokens (working : Working) : List Token :=
  working.2.map working.1.expand

/-- The tokens of a working text are those that its characters stand for, with plain ones that meet
joined. -/
theorem Consistent.resolve_eq_join {working : Working} (consistent : Consistent working) :
    working.1.resolve working.2 = Token.join working.tokens := by
  rw [Stash.resolve, Stash.resolveFrom_eq _ _ _ consistent.slots_nodup, Token.join]
  rfl

/-- A token that is put away stands where its placeholder does, among the tokens that were there. -/
theorem Working.tokens_push {stash : Stash} {before run after : List Char} {placeholder : Char}
    (consistent : Consistent (stash, before ++ run ++ after))
    (free : stash.next? = some placeholder) (token : Token) :
    Working.tokens (stash.push token, before ++ placeholder :: after) =
      before.map stash.expand ++ token :: after.map stash.expand := by
  have fresh : (stash.push token).expand placeholder = token :=
    Stash.expand_of_held? (Stash.held?_push_self free)
  have left : before.map (stash.push token).expand = before.map stash.expand :=
    Stash.map_expand_push token consistent (by simp +contextual)
  have right : after.map (stash.push token).expand = after.map stash.expand :=
    Stash.map_expand_push token consistent (by simp +contextual)
  simp only [Working.tokens, List.map_append, List.map_cons, fresh, left, right]

/-- Putting a run away replaces the tokens of its characters by one classified token of the same
text. -/
theorem PutAway.tokens_eq {working next : Working} (consistent : Consistent working)
    (step : PutAway working next) :
    ∃ before run after, ∃ token : Token, working.tokens = before ++ run ++ after ∧
      next.tokens = before ++ token :: after ∧ (∀ other ∈ run, other.tokenClass = none) ∧
      token.tokenClass.isSome ∧ Token.chars run = token.text.toList ∧ Token.chars run ≠ [] := by
  cases step with
  | @run stash placeholder run before after tokenClass free nonempty ordinary =>
      refine ⟨before.map stash.expand, run.map stash.expand, after.map stash.expand,
        .classified tokenClass (String.ofList run), ?_, ?_, ?_, rfl, ?_, ?_⟩
      · simp [Working.tokens]
      · exact Working.tokens_push consistent free _
      · exact Stash.expand_of_ordinary_isPlain ordinary
      · simp [Stash.chars_expand_of_ordinary ordinary, Token.classified]
      · simpa [Stash.chars_expand_of_ordinary ordinary] using nonempty

/-- The tokens of a working text divide its text more finely with each run that is put away. -/
theorem PutsAway.subdivides_join {working next : Working} (consistent : Consistent working)
    (steps : PutsAway working next) :
    Token.Subdivides (Token.join working.tokens) (Token.join next.tokens) := by
  induction steps with
  | refl => exact .refl _
  | tail steps step ih =>
      obtain ⟨before, run, after, token, old, new, runPlain, isClassified, sameText, nonempty⟩ :=
        step.tokens_eq (consistent.putsAway steps)
      rw [new]
      rw [old] at ih
      exact ih.trans (Token.subdivides_joinFrom isClassified runPlain sameText nonempty [] _ _)

/-- Putting text away loses no text. -/
theorem PutsAway.chars_eq {working next : Working} (consistent : Consistent working)
    (steps : PutsAway working next) :
    Token.chars next.tokens = Token.chars working.tokens := by
  have same := (steps.subdivides_join consistent).chars_eq
  simpa [Token.join] using same

/-! ## Protecting -/

namespace Stash

/-- Protecting a text links stash and working text, which then stands for what was there before and
for each character of the source text by itself. -/
theorem protectFrom_spec {draft result : Draft} {source : List Char}
    (consistent : Consistent (draft.stash, draft.text))
    (found : protectFrom draft source = some result) :
    Consistent (result.stash, result.text) ∧
      Working.tokens (result.stash, result.text) =
        Working.tokens (draft.stash, draft.text) ++ source.map Token.single := by
  induction source generalizing draft with
  | nil =>
      simp only [protectFrom, Option.some.injEq] at found
      subst found
      exact ⟨consistent, by simp⟩
  | cons c rest ih =>
      have whole : Consistent (draft.stash, draft.text ++ [] ++ []) := by simpa using consistent
      cases isRes : isReserved c with
      | true =>
          cases free : draft.stash.next? with
          | none => simp [protectFrom, isRes, free] at found
          | some placeholder =>
              have literal : (Token.plain c.toString).Stashed :=
                ⟨c, isRes, by simp [Token.plain]⟩
              have linked := whole.push free (by simp) literal
              have pushed := Working.tokens_push whole free (.plain c.toString)
              simp only [protectFrom, isRes, if_true, free] at found
              obtain ⟨resultLinked, resultTokens⟩ :=
                ih (by simpa [Draft.text] using linked) found
              refine ⟨resultLinked, resultTokens.trans ?_⟩
              simp only [Draft.text, List.reverse_cons] at pushed ⊢
              rw [pushed]
              simp [Working.tokens, Token.single]
      | false =>
          have linked : Consistent ((draft.keep c).stash, (draft.keep c).text) := by
            refine ⟨?_, ?_, consistent.entries⟩
            · simpa [Draft.keep, Draft.text, isRes] using consistent.slots
            · intro other member reserved
              simp only [Draft.keep, Draft.text, List.reverse_cons, List.mem_append,
                List.mem_singleton] at member
              rcases member with old | rfl
              · exact consistent.reserved other old reserved
              · simp [isRes] at reserved
          rw [protectFrom, isRes, if_neg (by simp)] at found
          rcases ih linked found with ⟨resultLinked, resultTokens⟩
          refine ⟨resultLinked, resultTokens.trans ?_⟩
          simp [Working.tokens, Draft.keep, Draft.text, isRes, Token.single]

private theorem consistent_empty : Consistent (({} : Stash), []) :=
  .of_ordinary (by simp)

theorem protect_consistent {source : List Char} {working : Working}
    (found : protect source = some working) : Consistent working := by
  rcases Option.map_eq_some_iff.mp found with ⟨draft, fromEmpty, rfl⟩
  exact (protectFrom_spec consistent_empty fromEmpty).1

/-- The working text that protecting gives stands for the characters of the source text. -/
theorem tokens_protect {source : List Char} {working : Working}
    (found : protect source = some working) : working.tokens = source.map Token.single := by
  rcases Option.map_eq_some_iff.mp found with ⟨draft, fromEmpty, rfl⟩
  have same := (protectFrom_spec consistent_empty fromEmpty).2
  simpa [Working.tokens, Draft.text] using same

theorem chars_protect {source : List Char} {working : Working}
    (found : protect source = some working) : Token.chars working.tokens = source := by
  rw [tokens_protect found, Token.chars_map_single]

/-- However many runs are put away, resolving gives the source text back. -/
theorem chars_resolve {source : List Char} {start final : Working}
    (found : protect source = some start) (steps : PutsAway start final) :
    Token.chars (final.1.resolve final.2) = source := by
  have linked := protect_consistent found
  calc Token.chars (final.1.resolve final.2)
      = Token.chars (Token.join final.tokens) := by
        rw [(linked.putsAway steps).resolve_eq_join]
    _ = Token.chars final.tokens := by simp [Token.join]
    _ = Token.chars start.tokens := steps.chars_eq linked
    _ = source := chars_protect found

/-- A text without reserved characters is its own working text. -/
theorem protect_of_ordinary {source : List Char} (ordinary : ∀ c ∈ source, isReserved c = false) :
    protect source = some ({}, source) := by
  have kept (draft : Draft) : protectFrom draft source =
      some { draft with written := source.reverse ++ draft.written } := by
    induction source generalizing draft with
    | nil => simp [protectFrom]
    | cons c rest ih =>
        rw [protectFrom, ordinary c (by simp), if_neg (by simp),
          ih (fun other member => ordinary other (by simp [member]))]
        simp [Draft.keep]
  simp [protect, kept, Draft.text]

end Stash

end Tint
