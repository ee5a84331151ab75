import Tint.Proofs.Stash.Resolve

/-!
# Passes over the pieces of a text

Suppose the tokens that a text should have are known.  A pass that finds just the tokens of some
classes, each as a whole, replaces each of them by a placeholder and leaves all other text alone; a
later pass may then find tokens of other classes in what is left.  When every classified token has
been found, resolving gives the tokens back, with plain ones that meet joined.
-/

namespace Tint

open Tint.Regex

namespace Stash

/-- Whatever a placeholder held before, it still holds. -/
def Extends (old new : Stash) : Prop :=
  ∀ c held, old.held? c = some held → new.held? c = some held

theorem Extends.refl (stash : Stash) : Extends stash stash :=
  fun _ _ held => held

theorem Extends.trans {first middle last : Stash} (left : Extends first middle)
    (right : Extends middle last) : Extends first last :=
  fun c held inFirst => right c held (left c held inFirst)

theorem extends_push (stash : Stash) (token : Token) : Extends stash (stash.push token) := by
  rintro c ⟨slot, other⟩ held
  have inSlot := held?_eq_some_iff.mp held
  have used : slot < stash.tokens.size := (Array.getElem?_eq_some_iff.mp inSlot.2).1
  rw [held?_push_of_lt token inSlot.1 used, held]

end Stash

/-! ## Working texts for known tokens -/

/-- Whether a token has one of the classes. -/
def Token.isIn (classes : List TokenClass) (token : Token) : Bool :=
  token.tokenClass.any (classes.contains ·)

theorem Token.isIn_append (first second : List TokenClass) (token : Token) :
    token.isIn (first ++ second) = (token.isIn first || token.isIn second) := by
  cases found : token.tokenClass with
  | none => simp [isIn, found]
  | some tokenClass => simp [isIn, found]

/-- Classes that are apart have no token in common. -/
theorem Token.isIn_eq_false {done next : List TokenClass} {token : Token}
    (apart : ∀ tokenClass ∈ next, tokenClass ∉ done) (isDone : token.isIn done = true) :
    token.isIn next = false := by
  cases isClass : token.tokenClass with
  | none => simp [isIn, isClass]
  | some tokenClass =>
      have inDone : tokenClass ∈ done := by simpa [isIn, isClass] using isDone
      have notNext : tokenClass ∉ next := fun inNext => apart tokenClass inNext inDone
      simpa [isIn, isClass] using notNext

/-- A working text that stands for the tokens.  Those of the classes that are done are placeholders;
all others are there as they are. -/
inductive Stands (stash : Stash) (done : List TokenClass) : List Token → List Char → Prop where
  | nil : Stands stash done [] []
  | itself {token : Token} {tokens : List Token} {text : List Char}
      (notDone : token.isIn done = false) (ordinary : ∀ c ∈ token.text.toList, isReserved c = false)
      (rest : Stands stash done tokens text) :
      Stands stash done (token :: tokens) (token.text.toList ++ text)
  | placeholder {token : Token} {tokens : List Token} {c : Char} {slot : Nat} {text : List Char}
      (isDone : token.isIn done = true) (held : stash.held? c = some (slot, token))
      (rest : Stands stash done tokens text) : Stands stash done (token :: tokens) (c :: text)

/-- A text without reserved characters stands for tokens that join to it. -/
theorem Stands.start {tokens : List Token}
    (ordinary : ∀ c ∈ Token.chars tokens, isReserved c = false) :
    Stands {} [] tokens (Token.chars tokens) := by
  induction tokens with
  | nil => exact .nil
  | cons token tokens ih =>
      rw [Token.chars_cons] at ordinary ⊢
      have nothingDone : token.isIn [] = false := by simp [Token.isIn]
      refine .itself nothingDone ?_ (ih ?_)
      · intro c member
        exact ordinary c (List.mem_append_left _ member)
      · intro c member
        exact ordinary c (List.mem_append_right _ member)

/-- When all classified tokens are placeholders, resolving gives them back. -/
theorem Stands.joinFrom_map_expand {stash : Stash} {done : List TokenClass} {tokens : List Token}
    {text : List Char} (stands : Stands stash done tokens text)
    (all : ∀ token ∈ tokens, token.tokenClass.isSome → token.isIn done = true)
    (plain : List Char) :
    Token.joinFrom plain (text.map stash.expand) = Token.joinFrom plain tokens := by
  induction stands generalizing plain with
  | nil => rfl
  | @itself token tokens text notDone ordinary rest ih =>
      have later := ih fun other member => all other (List.mem_cons_of_mem _ member)
      have isPlain : token.tokenClass = none := by
        cases found : token.tokenClass with
        | none => rfl
        | some tokenClass =>
            have isDone := all token List.mem_cons_self (by simp [found])
            simp [notDone] at isDone
      rw [List.map_append, Token.joinFrom_append_plain (Stash.expand_of_ordinary_isPlain ordinary),
        Stash.chars_expand_of_ordinary ordinary, Token.joinFrom_cons_plain isPlain, later]
  | @placeholder token tokens c slot text isDone held rest ih =>
      have later := ih fun other member => all other (List.mem_cons_of_mem _ member)
      have isClassified : token.tokenClass.isSome := by
        cases found : token.tokenClass with
        | none => simp [Token.isIn, found] at isDone
        | some tokenClass => rfl
      rw [List.map_cons, Stash.expand_of_held? held, Token.joinFrom_cons_classified isClassified,
        Token.joinFrom_cons_classified isClassified, later]

/-! ## One pass -/

/-- The length of a token in a working text. -/
def Token.width (done : List TokenClass) (token : Token) : Nat :=
  if token.isIn done then 1 else token.text.toList.length

/-- While nothing is done, the working text is the text itself. -/
theorem Token.width_nil (token : Token) : token.width [] = token.text.toList.length := by
  simp [Token.width, Token.isIn]

/-- The spans of the tokens of some classes in a working text where others are done. -/
def spansOf (done next : List TokenClass) : (offset : Nat) → List Token → List (Span × TokenClass)
  | _, [] => []
  | offset, token :: tokens =>
      let stop := offset + token.width done
      let later := spansOf done next stop tokens
      match token.tokenClass with
      | none => later
      | some tokenClass =>
          if next.contains tokenClass then (⟨offset, stop⟩, tokenClass) :: later else later

variable {done next : List TokenClass}

theorem spansOf_skip {token : Token} (notNext : token.isIn next = false) (offset : Nat)
    (tokens : List Token) :
    spansOf done next offset (token :: tokens) =
      spansOf done next (offset + token.width done) tokens := by
  cases found : token.tokenClass with
  | none => simp [spansOf, found]
  | some tokenClass =>
      have notMember : tokenClass ∉ next := by simpa [Token.isIn, found] using notNext
      simp [spansOf, found, notMember]

theorem spansOf_take {token : Token} {tokenClass : TokenClass}
    (isClass : token.tokenClass = some tokenClass) (isNext : token.isIn next = true)
    (offset : Nat) (tokens : List Token) :
    spansOf done next offset (token :: tokens) =
      (⟨offset, offset + token.width done⟩, tokenClass) ::
        spansOf done next (offset + token.width done) tokens := by
  have member : tokenClass ∈ next := by simpa [Token.isIn, isClass] using isNext
  simp [spansOf, isClass, member]

theorem le_start_of_mem_spansOf {offset : Nat} {tokens : List Token} :
    ∀ entry ∈ spansOf done next offset tokens, offset ≤ entry.1.start := by
  induction tokens generalizing offset with
  | nil => simp [spansOf]
  | cons token tokens ih =>
      intro entry member
      cases isNext : token.isIn next with
      | false =>
          rw [spansOf_skip isNext] at member
          exact (Nat.le_add_right _ _).trans (ih entry member)
      | true =>
          cases found : token.tokenClass with
          | none => simp [Token.isIn, found] at isNext
          | some tokenClass =>
              rw [spansOf_take found isNext] at member
              rcases List.mem_cons.mp member with rfl | later
              · exact le_rfl
              · exact (Nat.le_add_right _ _).trans (ih entry later)

namespace Draft

/-- Text in front of all spans is written as it is. -/
theorem classifySpans_keep (draft : Draft) {offset : Nat} {kept text : List Char}
    {spans : List (Span × TokenClass)}
    (behind : ∀ entry ∈ spans, offset + kept.length ≤ entry.1.start) :
    draft.classifySpans offset (kept ++ text) spans =
      (draft.keepAll kept).classifySpans (offset + kept.length) text spans := by
  cases spans with
  | nil => simp [classifySpans, keepAll]
  | cons entry spans =>
      have start := behind entry List.mem_cons_self
      have before : entry.1.start - offset =
          kept.length + (entry.1.start - (offset + kept.length)) := by omega
      simp only [classifySpans, List.splitAt_eq]
      rw [before, List.take_length_add_append, List.drop_length_add_append]
      simp [keepAll]

/-- A run of ordinary characters that is a span of its own is put away. -/
theorem classifySpans_take (draft : Draft) {offset : Nat} {run text : List Char}
    {tokenClass : TokenClass} {spans : List (Span × TokenClass)} {placeholder : Char}
    (free : draft.stash.next? = some placeholder) (nonempty : run ≠ [])
    (ordinary : ∀ c ∈ run, isReserved c = false) :
    draft.classifySpans offset (run ++ text)
        ((⟨offset, offset + run.length⟩, tokenClass) :: spans) =
      classifySpans
        ⟨draft.stash.push (.classified tokenClass (String.ofList run)),
          placeholder :: draft.written⟩ (offset + run.length) text spans := by
  have noneReserved : run.any isReserved = false := by
    rw [List.any_eq_false]
    intro c member
    simp [ordinary c member]
  simp [classifySpans, keepAll, classify, classifyRun, noneReserved, nonempty, free]

end Draft

/-- The rest of a pass that finds the tokens of the next classes. -/
def Draft.pass (done next : List TokenClass) (draft : Draft) (offset : Nat) (text : List Char)
    (tokens : List Token) : Draft :=
  draft.classifySpans offset text (spansOf done next offset tokens)

/-- What the rest of a pass does: behind what was written comes a text that stands for the tokens,
and each token that it finds takes one slot. -/
structure Passes (done next : List TokenClass) (draft : Draft) (offset : Nat) (text : List Char)
    (tokens : List Token) (written : List Char) : Prop where
  writes : (draft.pass done next offset text tokens).text = draft.text ++ written
  stands : Stands (draft.pass done next offset text tokens).stash (done ++ next) tokens written
  grows : draft.stash.Extends (draft.pass done next offset text tokens).stash
  size : (draft.pass done next offset text tokens).stash.tokens.size =
    draft.stash.tokens.size + tokens.countP (·.isIn next)

namespace Passes

variable {draft : Draft} {offset : Nat} {text written : List Char} {token : Token}
  {tokens : List Token} {placeholder : Char}

theorem nil : Passes done next draft offset [] [] [] where
  writes := by simp [Draft.pass, Draft.classifySpans, spansOf, Draft.keepAll, Draft.text]
  stands := .nil
  grows := .refl _
  size := rfl

/-- A token of other classes is written as it is. -/
theorem keep (notDone : token.isIn done = false) (notNext : token.isIn next = false)
    (ordinary : ∀ c ∈ token.text.toList, isReserved c = false)
    (rest : Passes done next (draft.keepAll token.text.toList) (offset + token.text.toList.length)
      text tokens written) :
    Passes done next draft offset (token.text.toList ++ text) (token :: tokens)
      (token.text.toList ++ written) := by
  have width : token.width done = token.text.toList.length := by simp [Token.width, notDone]
  have notIn : token.isIn (done ++ next) = false := by
    simp [Token.isIn_append, notDone, notNext]
  have step : draft.pass done next offset (token.text.toList ++ text) (token :: tokens) =
      (draft.keepAll token.text.toList).pass done next (offset + token.text.toList.length) text
        tokens := by
    rw [Draft.pass, spansOf_skip notNext, width,
      draft.classifySpans_keep le_start_of_mem_spansOf, Draft.pass]
  constructor
  · rw [step, rest.writes]
    simp [Draft.text, Draft.keepAll]
  · rw [step]
    exact .itself notIn ordinary rest.stands
  · rw [step]
    exact rest.grows
  · rw [step, rest.size, List.countP_cons_of_neg (by simp [notNext])]
    rfl

/-- A placeholder stays. -/
theorem hold {slot : Nat} (apart : ∀ tokenClass ∈ next, tokenClass ∉ done)
    (isDone : token.isIn done = true)
    (held : draft.stash.held? placeholder = some (slot, token))
    (rest : Passes done next (draft.keepAll [placeholder]) (offset + 1) text tokens written) :
    Passes done next draft offset (placeholder :: text) (token :: tokens)
      (placeholder :: written) := by
  have notNext := Token.isIn_eq_false apart isDone
  have width : token.width done = [placeholder].length := by simp [Token.width, isDone]
  have isIn : token.isIn (done ++ next) = true := by simp [Token.isIn_append, isDone]
  have step : draft.pass done next offset (placeholder :: text) (token :: tokens) =
      (draft.keepAll [placeholder]).pass done next (offset + 1) text tokens := by
    rw [Draft.pass, spansOf_skip notNext, width, ← List.singleton_append,
      draft.classifySpans_keep le_start_of_mem_spansOf]
    rfl
  constructor
  · rw [step, rest.writes]
    simp [Draft.text, Draft.keepAll]
  · rw [step]
    exact .placeholder isIn (rest.grows _ _ held) rest.stands
  · rw [step]
    exact rest.grows
  · rw [step, rest.size, List.countP_cons_of_neg (by simp [notNext])]
    rfl

/-- A token of the next classes is put away. -/
theorem put (apart : ∀ tokenClass ∈ next, tokenClass ∉ done) (isNext : token.isIn next = true)
    (ordinary : ∀ c ∈ token.text.toList, isReserved c = false) (nonempty : token.text ≠ "")
    (free : draft.stash.next? = some placeholder)
    (rest : Passes done next ⟨draft.stash.push token, placeholder :: draft.written⟩
      (offset + token.text.toList.length) text tokens written) :
    Passes done next draft offset (token.text.toList ++ text) (token :: tokens)
      (placeholder :: written) := by
  have notDone : token.isIn done = false :=
    Token.isIn_eq_false (fun tokenClass inDone inNext => apart tokenClass inNext inDone) isNext
  have width : token.width done = token.text.toList.length := by simp [Token.width, notDone]
  have isIn : token.isIn (done ++ next) = true := by simp [Token.isIn_append, isNext]
  have someText : token.text.toList ≠ [] := by simpa using nonempty
  have step : draft.pass done next offset (token.text.toList ++ text) (token :: tokens) =
      Draft.pass done next ⟨draft.stash.push token, placeholder :: draft.written⟩
        (offset + token.text.toList.length) text tokens := by
    cases isClass : token.tokenClass with
    | none => simp [Token.isIn, isClass] at isNext
    | some tokenClass =>
        have itself : Token.classified tokenClass (String.ofList token.text.toList) = token := by
          cases token
          simp_all [Token.classified]
        rw [Draft.pass, spansOf_take isClass isNext, width,
          draft.classifySpans_take free someText ordinary, itself, Draft.pass]
  constructor
  · rw [step, rest.writes]
    simp [Draft.text]
  · rw [step]
    exact .placeholder isIn (rest.grows _ _ (Stash.held?_push_self free)) rest.stands
  · rw [step]
    exact (Stash.extends_push draft.stash token).trans rest.grows
  · rw [step, rest.size, Stash.size_push, List.countP_cons_of_pos (by simp [isNext])]
    omega

end Passes

/-- The rest of a pass finds all tokens of the next classes, if there are enough slots for them.
The placeholders of the classes that are done hold in the stash that the pass began with, so they do
in any that it has come to. -/
theorem Stands.passes {start : Stash} {tokens : List Token} {text : List Char}
    (stands : Stands start done tokens text) (apart : ∀ tokenClass ∈ next, tokenClass ∉ done)
    (nonempty : ∀ token ∈ tokens, token.isIn next → token.text ≠ "") (draft : Draft)
    (grown : start.Extends draft.stash) (offset : Nat)
    (room : draft.stash.tokens.size + tokens.countP (·.isIn next) ≤ slotLimit) :
    ∃ written, Passes done next draft offset text tokens written := by
  induction stands generalizing draft offset with
  | nil => exact ⟨[], .nil⟩
  | @itself token tokens text notDone ordinary rest ih =>
      have later := ih fun other member => nonempty other (List.mem_cons_of_mem _ member)
      cases isNext : token.isIn next with
      | false =>
          rw [List.countP_cons_of_neg (by simp [isNext])] at room
          rcases later (draft.keepAll token.text.toList) grown
            (offset + token.text.toList.length) room with ⟨written, passes⟩
          exact ⟨_, passes.keep notDone isNext ordinary⟩
      | true =>
          rw [List.countP_cons_of_pos (by simp [isNext])] at room
          have roomForOne : draft.stash.tokens.size < slotLimit := by omega
          rcases Stash.exists_next?_eq_some roomForOne with ⟨placeholder, free⟩
          rcases later ⟨draft.stash.push token, placeholder :: draft.written⟩
            (grown.trans (Stash.extends_push _ _)) (offset + token.text.toList.length)
            (by rw [Stash.size_push]; omega) with ⟨written, passes⟩
          exact ⟨_, passes.put apart isNext ordinary (nonempty token List.mem_cons_self isNext)
            free⟩
  | @placeholder token tokens c slot text isDone held rest ih =>
      have later := ih fun other member => nonempty other (List.mem_cons_of_mem _ member)
      have notNext := Token.isIn_eq_false apart isDone
      rw [List.countP_cons_of_neg (by simp [notNext])] at room
      rcases later (draft.keepAll [c]) grown (offset + 1) room with ⟨written, passes⟩
      exact ⟨_, passes.hold apart isDone (grown c _ held)⟩

/-- A pass over the tokens of the next classes leaves a working text in which they are done. -/
theorem Stands.replaceSpans {stash : Stash} {tokens : List Token} {text : List Char}
    (stands : Stands stash done tokens text) (next : List TokenClass)
    (apart : ∀ tokenClass ∈ next, tokenClass ∉ done)
    (nonempty : ∀ token ∈ tokens, token.isIn next → token.text ≠ "")
    (room : stash.tokens.size + tokens.countP (·.isIn next) ≤ slotLimit) :
    ∃ newStash newText,
      stash.replaceSpans text (spansOf done next 0 tokens) = (newStash, newText) ∧
        Stands newStash (done ++ next) tokens newText ∧
          newStash.tokens.size = stash.tokens.size + tokens.countP (·.isIn next) := by
  rcases stands.passes apart nonempty ⟨stash, []⟩ (.refl stash) 0 room with ⟨written, passes⟩
  have sameText : (Draft.pass done next ⟨stash, []⟩ 0 text tokens).text = written := by
    simpa [Draft.text] using passes.writes
  refine ⟨_, _, rfl, ?_, passes.size⟩
  rw [← sameText] at passes
  exact passes.stands

/-- A pass over the spans of all classified tokens of a text comes to these tokens. -/
theorem Stash.join_replaceSpans {tokenClass : TokenClass} {tokens : List Token}
    (ordinary : ∀ c ∈ Token.chars tokens, isReserved c = false)
    (each : ∀ token ∈ tokens, token.tokenClass.isSome →
      token.tokenClass = some tokenClass ∧ token.text ≠ "")
    (room : tokens.countP (·.isIn [tokenClass]) ≤ slotLimit) :
    let passed := ({} : Stash).replaceSpans (Token.chars tokens)
      (spansOf [] [tokenClass] 0 tokens)
    Token.join (passed.2.map passed.1.expand) = Token.join tokens := by
  have nonempty : ∀ token ∈ tokens, token.isIn [tokenClass] → token.text ≠ "" := by
    intro token member isNext
    cases isClass : token.tokenClass with
    | none => simp [Token.isIn, isClass] at isNext
    | some other => exact (each token member (by simp [isClass])).2
  obtain ⟨stash, text, isPassed, stands, -⟩ :=
    (Stands.start ordinary).replaceSpans [tokenClass] (by simp) nonempty (by simpa using room)
  rw [isPassed]
  apply stands.joinFrom_map_expand
  intro token member isClassified
  simp [Token.isIn, (each token member isClassified).1]

end Tint
