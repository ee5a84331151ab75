import Tint.Proofs.Tokens

/-!
# Which token holds a character

A character of a text is held by the classified token that covers it, or by none if it is plain.  A
token is told from others by its place as well, since two tokens can have the same class and the
same text.
-/

namespace Tint.Token

/-- For each character of the tokens, the classified token that holds it and the number of
characters before that token. -/
def ownersFrom (offset : Nat) : List Token → List (Option (Nat × Token))
  | [] => []
  | token :: rest =>
      let owner := if token.tokenClass.isSome then some (offset, token) else none
      List.replicate token.text.toList.length owner ++
        ownersFrom (offset + token.text.toList.length) rest

/-- The classified token that holds the character at a place, if there is one. -/
def owner? (tokens : List Token) (place : Nat) : Option (Nat × Token) :=
  (ownersFrom 0 tokens)[place]?.join

theorem owner?_eq_some_iff {tokens : List Token} {place : Nat} {owner : Nat × Token} :
    owner? tokens place = some owner ↔ (ownersFrom 0 tokens)[place]? = some (some owner) := by
  rw [owner?, Option.join_eq_some_iff]

@[simp] theorem length_ownersFrom (offset : Nat) (tokens : List Token) :
    (ownersFrom offset tokens).length = (chars tokens).length := by
  induction tokens generalizing offset with
  | nil => rfl
  | cons token rest ih => simp [ownersFrom, ih]

theorem ownersFrom_append (offset : Nat) (first second : List Token) :
    ownersFrom offset (first ++ second) =
      ownersFrom offset first ++ ownersFrom (offset + (chars first).length) second := by
  induction first generalizing offset with
  | nil => simp [ownersFrom]
  | cons token first ih =>
      simp only [List.cons_append, ownersFrom, ih, chars_cons, List.length_append, Nat.add_assoc,
        List.append_assoc]

/-- Nothing holds the characters of plain tokens. -/
theorem ownersFrom_of_plain (offset : Nat) {tokens : List Token}
    (allPlain : ∀ token ∈ tokens, token.tokenClass = none) :
    ownersFrom offset tokens = List.replicate (chars tokens).length none := by
  induction tokens generalizing offset with
  | nil => rfl
  | cons token tokens ih =>
      have restPlain := ih (offset + token.text.toList.length)
        fun other member => allPlain other (List.mem_cons_of_mem _ member)
      simp [ownersFrom, restPlain, allPlain token List.mem_cons_self]

@[simp] theorem ownersFrom_gather (offset : Nat) (plain : List Char) :
    ownersFrom offset (gather plain) = List.replicate plain.length none := by
  have allPlain : ∀ token ∈ gather plain, token.tokenClass = none := by
    by_cases empty : plain = []
    · simp [empty]
    · simp [gather_of_ne_nil empty, Token.plain]
  simpa using ownersFrom_of_plain offset allPlain

/-- Joining plain tokens changes nothing about which token holds a character. -/
theorem ownersFrom_joinFrom (offset : Nat) (plain : List Char) (tokens : List Token) :
    ownersFrom offset (joinFrom plain tokens) =
      List.replicate plain.length none ++ ownersFrom (offset + plain.length) tokens := by
  induction tokens generalizing offset plain with
  | nil => simp [joinFrom, ownersFrom]
  | cons token rest ih =>
      cases found : token.tokenClass with
      | none =>
          rw [joinFrom_cons_plain found, ih]
          simp [ownersFrom, found, ← List.replicate_append_replicate, Nat.add_assoc]
      | some tokenClass =>
          rw [joinFrom_cons_classified (by simp [found]), ownersFrom_append, ownersFrom_gather]
          simp [ownersFrom, ih]

@[simp] theorem owner?_join (tokens : List Token) : owner? (join tokens) = owner? tokens := by
  funext place
  simp [owner?, join, ownersFrom_joinFrom]

/-! ## One part of a list of tokens -/

theorem owner?_of_classified {token : Token} (isClassified : token.tokenClass.isSome)
    (before after : List Token) {index : Nat} (inside : index < token.text.toList.length) :
    owner? (before ++ token :: after) ((chars before).length + index) =
      some ((chars before).length, token) := by
  rw [owner?_eq_some_iff, ownersFrom_append, List.getElem?_append_right (by simp)]
  simp only [length_ownersFrom, Nat.add_sub_cancel_left, ownersFrom, isClassified, if_true]
  rw [List.getElem?_append_left (by simpa using inside), List.getElem?_replicate, if_pos inside,
    Nat.zero_add]

theorem owner?_of_mem_placedFrom {token : Token} (isClassified : token.tokenClass.isSome)
    {tokens : List Token} {place index : Nat} (member : (place, token) ∈ placedFrom 0 tokens)
    (inside : index < token.text.toList.length) :
    owner? tokens (place + index) = some (place, token) := by
  obtain ⟨before, after, rfl, rfl⟩ := exists_of_mem_placedFrom member
  rw [Nat.zero_add]
  exact owner?_of_classified isClassified before after inside

theorem owner?_of_plain {run : List Token} (runPlain : ∀ token ∈ run, token.tokenClass = none)
    (before after : List Token) {index : Nat} (inside : index < (chars run).length) :
    owner? (before ++ run ++ after) ((chars before).length + index) = none := by
  rw [owner?, List.append_assoc, ownersFrom_append, List.getElem?_append_right (by simp),
    length_ownersFrom, Nat.add_sub_cancel_left, ownersFrom_append,
    ownersFrom_of_plain _ runPlain, List.getElem?_append_left (by simpa using inside)]
  simp [inside]

/-- The token that holds a character is one of the tokens, it is classified and has that
character. -/
theorem mem_of_ownersFrom {tokens : List Token} {offset place start : Nat} {token : Token}
    (found : (ownersFrom offset tokens)[place]? = some (some (start, token))) :
    token ∈ tokens ∧ token.tokenClass.isSome ∧
      ∃ c ∈ token.text.toList, (chars tokens)[place]? = some c := by
  induction tokens generalizing offset place with
  | nil => simp [ownersFrom] at found
  | cons other rest ih =>
      rw [ownersFrom] at found
      by_cases inside : place < other.text.toList.length
      · rw [List.getElem?_append_left (by simpa using inside)] at found
        have isOther : other.tokenClass.isSome ∧ other = token := by
          cases isClass : other.tokenClass <;> simp_all
        obtain ⟨isClassified, rfl⟩ := isOther
        refine ⟨List.mem_cons_self, isClassified, other.text.toList[place], List.getElem_mem _, ?_⟩
        rw [chars_cons, List.getElem?_append_left inside, List.getElem?_eq_getElem inside]
      · rw [List.getElem?_append_right (by simpa using inside), List.length_replicate] at found
        obtain ⟨member, isClassified, c, inToken, isChar⟩ := ih found
        refine ⟨List.mem_cons_of_mem _ member, isClassified, c, inToken, ?_⟩
        rw [chars_cons, List.getElem?_append_right (by omega), isChar]

/-! ## What stays -/

/-- Every character that a token holds is held by that token in the second list too. -/
def OwnersKept (old new : List Token) : Prop :=
  ∀ place owner, owner? old place = some owner → owner? new place = some owner

theorem OwnersKept.refl (tokens : List Token) : OwnersKept tokens tokens :=
  fun _ _ held => held

theorem OwnersKept.trans {first second third : List Token} (early : OwnersKept first second)
    (late : OwnersKept second third) : OwnersKept first third :=
  fun place owner held => late place owner (early place owner held)

/-- A classified token in place of plain ones of the same text takes no character from another. -/
theorem ownersKept_of_run {token : Token} (before : List Token) {run : List Token}
    (after : List Token) (runPlain : ∀ other ∈ run, other.tokenClass = none)
    (sameText : chars run = token.text.toList) :
    OwnersKept (before ++ run ++ after) (before ++ token :: after) := by
  intro place owner held
  rw [owner?_eq_some_iff] at held ⊢
  rw [List.append_assoc, ownersFrom_append, ownersFrom_append, ownersFrom_of_plain _ runPlain,
    sameText] at held
  rw [ownersFrom_append, ownersFrom]
  simp only [List.getElem?_append, List.length_replicate, List.getElem?_replicate] at held ⊢
  by_cases inBefore : place < (ownersFrom 0 before).length
  · rw [if_pos inBefore] at held ⊢
    exact held
  · rw [if_neg inBefore] at held ⊢
    by_cases inRun : place - (ownersFrom 0 before).length < token.text.toList.length
    · rw [if_pos inRun, if_pos inRun] at held
      cases held
    · rw [if_neg inRun] at held ⊢
      exact held

end Tint.Token
