import Mathlib
import Tint.Token

/-!
# Lists of tokens

What can be said of lists of tokens without asking where they come from: the text that they have
together, how plain tokens that meet are joined, and when one list is a finer division of the same
text than another.

A finer division keeps every classified token where it is and cuts up plain ones only.
-/

namespace Tint.Token

/-- The characters of the tokens in a row. -/
def chars (tokens : List Token) : List Char :=
  tokens.flatMap (·.text.toList)

@[simp] theorem chars_nil : chars [] = [] := rfl

@[simp] theorem chars_cons (token : Token) (tokens : List Token) :
    chars (token :: tokens) = token.text.toList ++ chars tokens := by
  simp [chars]

@[simp] theorem chars_append (first second : List Token) :
    chars (first ++ second) = chars first ++ chars second := by
  simp [chars]

/-- The text of the tokens in a row. -/
theorem join_text (tokens : List Token) :
    String.join (tokens.map (·.text)) = String.ofList (chars tokens) := by
  rw [← String.toList_inj, String.toList_join, String.toList_ofList, List.flatMap_map, chars]

/-- A character as a plain token. -/
def single (c : Char) : Token :=
  .plain (String.singleton c)

@[simp] theorem tokenClass_single (c : Char) : (single c).tokenClass = none := rfl

@[simp] theorem toList_text_single (c : Char) : (single c).text.toList = [c] := by
  simp [single, plain]

@[simp] theorem chars_map_single (text : List Char) : chars (text.map single) = text := by
  induction text with
  | nil => rfl
  | cons c text ih => simp [ih]

/-! ## Joining plain text -/

/-- Plain text as a token of its own, unless it is empty. -/
def gather (plain : List Char) : List Token :=
  if plain.isEmpty then [] else [.plain (String.ofList plain)]

@[simp] theorem gather_nil : gather [] = [] := rfl

theorem gather_of_ne_nil {plain : List Char} (nonempty : plain ≠ []) :
    gather plain = [.plain (String.ofList plain)] := by
  simp [gather, nonempty]

@[simp] theorem chars_gather (plain : List Char) : chars (gather plain) = plain := by
  by_cases empty : plain = []
  · simp [empty]
  · simp [gather_of_ne_nil empty, Token.plain]

/-- Joins plain tokens that meet; `plain` is plain text that comes before. -/
def joinFrom (plain : List Char) : List Token → List Token
  | [] => gather plain
  | token :: rest =>
      match token.tokenClass with
      | none => joinFrom (plain ++ token.text.toList) rest
      | some _ => gather plain ++ token :: joinFrom [] rest

/-- The tokens with plain ones that meet joined and empty plain ones left out. -/
def join (tokens : List Token) : List Token :=
  joinFrom [] tokens

theorem joinFrom_cons_plain {token : Token} (isPlain : token.tokenClass = none)
    (plain : List Char) (rest : List Token) :
    joinFrom plain (token :: rest) = joinFrom (plain ++ token.text.toList) rest := by
  simp [joinFrom, isPlain]

theorem joinFrom_cons_classified {token : Token} (isClassified : token.tokenClass.isSome)
    (plain : List Char) (rest : List Token) :
    joinFrom plain (token :: rest) = gather plain ++ token :: joinFrom [] rest := by
  rcases Option.isSome_iff_exists.mp isClassified with ⟨tokenClass, found⟩
  simp [joinFrom, found]

theorem joinFrom_append_plain {tokens : List Token}
    (allPlain : ∀ token ∈ tokens, token.tokenClass = none) (plain : List Char)
    (rest : List Token) :
    joinFrom plain (tokens ++ rest) = joinFrom (plain ++ chars tokens) rest := by
  induction tokens generalizing plain with
  | nil => simp
  | cons token tokens ih =>
      have headPlain := allPlain token (by simp)
      rw [List.cons_append, joinFrom_cons_plain headPlain,
        ih (fun other member => allPlain other (by simp [member]))]
      simp

/-- Plain text that has been gathered is joined as the text itself is. -/
theorem joinFrom_gather (plain : List Char) (rest : List Token) :
    joinFrom [] (gather plain ++ rest) = joinFrom plain rest := by
  by_cases empty : plain = []
  · rw [empty, gather_nil, List.nil_append]
  · rw [gather_of_ne_nil empty, List.singleton_append, joinFrom_cons_plain rfl]
    simp [Token.plain]

/-- Characters that nothing has classified make one plain token. -/
theorem join_map_single {text : List Char} (nonempty : text ≠ []) :
    join (text.map single) = [.plain (String.ofList text)] := by
  have allPlain : ∀ token ∈ text.map single, token.tokenClass = none := by simp
  have joined := joinFrom_append_plain allPlain [] []
  rw [List.append_nil, List.nil_append, chars_map_single] at joined
  rw [join, joined, joinFrom, gather_of_ne_nil nonempty]

/-- Joining loses no text. -/
@[simp] theorem chars_joinFrom (plain : List Char) (tokens : List Token) :
    chars (joinFrom plain tokens) = plain ++ chars tokens := by
  induction tokens generalizing plain with
  | nil => simp [joinFrom]
  | cons token rest ih =>
      cases found : token.tokenClass with
      | none => rw [joinFrom_cons_plain found, ih, chars_cons, List.append_assoc]
      | some tokenClass =>
          rw [joinFrom_cons_classified (by simp [found])]
          simp [ih]

/-- Joining makes no classified tokens. -/
theorem mem_of_mem_joinFrom {token : Token} (isClassified : token.tokenClass.isSome)
    {plain : List Char} {tokens : List Token} (member : token ∈ joinFrom plain tokens) :
    token ∈ tokens := by
  have notGathered (plain : List Char) : token ∉ gather plain := by
    intro gathered
    have isPlain : token.tokenClass = none := by
      by_cases empty : plain = []
      · simp [empty] at gathered
      · rw [gather_of_ne_nil empty, List.mem_singleton] at gathered
        rw [gathered, Token.plain]
    simp [isPlain] at isClassified
  induction tokens generalizing plain with
  | nil => exact absurd member (notGathered plain)
  | cons other rest ih =>
      cases found : other.tokenClass with
      | none =>
          rw [joinFrom_cons_plain found] at member
          exact List.mem_cons_of_mem other (ih member)
      | some tokenClass =>
          rw [joinFrom_cons_classified (by simp [found]), List.mem_append,
            List.mem_cons] at member
          rcases member with gathered | rfl | later
          · exact absurd gathered (notGathered plain)
          · exact List.mem_cons_self
          · exact List.mem_cons_of_mem other (ih later)

/-- Joining keeps the classified tokens. -/
theorem filter_joinFrom (plain : List Char) (tokens : List Token) :
    (joinFrom plain tokens).filter (·.tokenClass.isSome) =
      tokens.filter (·.tokenClass.isSome) := by
  have gathered (plain : List Char) : (gather plain).filter (·.tokenClass.isSome) = [] := by
    by_cases empty : plain = []
    · simp [empty]
    · simp [gather_of_ne_nil empty, Token.plain]
  induction tokens generalizing plain with
  | nil => exact gathered plain
  | cons token rest ih =>
      cases found : token.tokenClass with
      | none =>
          rw [joinFrom_cons_plain found, ih]
          simp [found]
      | some tokenClass =>
          rw [joinFrom_cons_classified (by simp [found]), List.filter_append, gathered]
          simp [found, ih]

/-- The plain tokens that joining makes have text, all of it from plain tokens. -/
theorem joinFrom_plain {allowed : Char → Prop} {plain : List Char} {tokens : List Token}
    (before : ∀ c ∈ plain, allowed c)
    (all : ∀ token ∈ tokens, token.tokenClass = none → ∀ c ∈ token.text.toList, allowed c) :
    ∀ token ∈ joinFrom plain tokens, token.tokenClass = none →
      token.text ≠ "" ∧ ∀ c ∈ token.text.toList, allowed c := by
  have gathered {plain : List Char} (before : ∀ c ∈ plain, allowed c) :
      ∀ token ∈ gather plain, token.text ≠ "" ∧ ∀ c ∈ token.text.toList, allowed c := by
    by_cases empty : plain = []
    · simp [empty]
    · intro token member
      rw [gather_of_ne_nil empty, List.mem_singleton] at member
      rw [member]
      refine ⟨?_, by simpa [Token.plain] using before⟩
      intro noText
      have noChars := congrArg String.toList noText
      exact empty (by simpa [Token.plain] using noChars)
  induction tokens generalizing plain with
  | nil =>
      intro token member isPlain
      exact gathered before token member
  | cons other rest ih =>
      have restAll : ∀ token ∈ rest, token.tokenClass = none → ∀ c ∈ token.text.toList, allowed c :=
        fun token member => all token (List.mem_cons_of_mem _ member)
      cases found : other.tokenClass with
      | none =>
          rw [joinFrom_cons_plain found]
          refine ih ?_ restAll
          intro c member
          rcases List.mem_append.mp member with inPlain | inOther
          · exact before c inPlain
          · exact all other List.mem_cons_self found c inOther
      | some tokenClass =>
          rw [joinFrom_cons_classified (by simp [found])]
          intro token member isPlain
          rcases List.mem_append.mp member with inPlain | later
          · exact gathered before token inPlain
          · rcases List.mem_cons.mp later with rfl | later
            · simp [found] at isPlain
            · exact ih (by simp) restAll token later isPlain

/-- No two plain tokens meet after joining. -/
theorem isChain_joinFrom (plain : List Char) (tokens : List Token) :
    (joinFrom plain tokens).IsChain fun first second =>
      first.tokenClass.isSome ∨ second.tokenClass.isSome := by
  have gathered (plain : List Char) : (gather plain).IsChain fun first second =>
      first.tokenClass.isSome ∨ second.tokenClass.isSome := by
    by_cases empty : plain = []
    · simp [empty]
    · simp [gather_of_ne_nil empty]
  induction tokens generalizing plain with
  | nil => exact gathered plain
  | cons token rest ih =>
      cases found : token.tokenClass with
      | none =>
          rw [joinFrom_cons_plain found]
          exact ih _
      | some tokenClass =>
          rw [joinFrom_cons_classified (by simp [found]), List.isChain_append]
          refine ⟨gathered plain, ?_, ?_⟩
          · rw [List.isChain_cons]
            exact ⟨fun _ _ => .inl (by simp [found]), ih []⟩
          · intro first _ second isHead
            rw [List.head?_cons, Option.mem_some_iff] at isHead
            exact .inr (by simp [← isHead, found])

/-- Plain text that comes before runs into the plain text that the tokens start with, and changes
nothing behind it. -/
theorem exists_joinFrom_eq (tokens : List Token) :
    ∃ lead rest, ∀ plain, joinFrom plain tokens = gather (plain ++ lead) ++ rest := by
  induction tokens with
  | nil => exact ⟨[], [], fun plain => by simp [joinFrom]⟩
  | cons token tokens ih =>
      cases found : token.tokenClass with
      | none =>
          rcases ih with ⟨lead, rest, joined⟩
          refine ⟨token.text.toList ++ lead, rest, fun plain => ?_⟩
          rw [joinFrom_cons_plain found, joined, List.append_assoc]
      | some tokenClass =>
          refine ⟨[], token :: joinFrom [] tokens, fun plain => ?_⟩
          rw [joinFrom_cons_classified (by simp [found]), List.append_nil]

/-! ## Finer divisions -/

/-- The second list is the first with some plain tokens cut up into others of the same text. -/
inductive Subdivides : List Token → List Token → Prop where
  | nil : Subdivides [] []
  | keep (token : Token) {coarse fine : List Token} :
      Subdivides coarse fine → Subdivides (token :: coarse) (token :: fine)
  | cut {text : String} {parts coarse fine : List Token} :
      chars parts = text.toList → Subdivides coarse fine →
      Subdivides (.plain text :: coarse) (parts ++ fine)

namespace Subdivides

variable {coarse fine : List Token}

theorem refl (tokens : List Token) : Subdivides tokens tokens := by
  induction tokens with
  | nil => exact .nil
  | cons token tokens ih => exact .keep token ih

theorem prepend (tokens : List Token) (below : Subdivides coarse fine) :
    Subdivides (tokens ++ coarse) (tokens ++ fine) := by
  induction tokens with
  | nil => exact below
  | cons token tokens ih => exact .keep token ih

/-- Both divide the same text. -/
theorem chars_eq (below : Subdivides coarse fine) : chars fine = chars coarse := by
  induction below with
  | nil => rfl
  | keep token _ ih => simp [ih]
  | cut same _ ih => simp [same, ih, Token.plain]

/-- What divides two lists in a row is made of what divides each. -/
theorem of_append {first second fine : List Token}
    (below : Subdivides (first ++ second) fine) :
    ∃ left right, fine = left ++ right ∧ Subdivides first left ∧ Subdivides second right := by
  induction first generalizing fine with
  | nil => exact ⟨[], fine, rfl, .nil, below⟩
  | cons token first ih =>
      cases below with
      | keep _ rest =>
          rcases ih rest with ⟨left, right, rfl, leftBelow, rightBelow⟩
          exact ⟨token :: left, right, rfl, .keep token leftBelow, rightBelow⟩
      | @cut text parts _ _ same rest =>
          rcases ih rest with ⟨left, right, rfl, leftBelow, rightBelow⟩
          refine ⟨parts ++ left, right, ?_, .cut same leftBelow, rightBelow⟩
          rw [List.append_assoc]

theorem trans {finest : List Token} (upper : Subdivides coarse fine)
    (lower : Subdivides fine finest) : Subdivides coarse finest := by
  induction upper generalizing finest with
  | nil => exact lower
  | keep token upper ih =>
      cases lower with
      | keep _ rest => exact .keep token (ih rest)
      | cut same rest => exact .cut same (ih rest)
  | cut same upper ih =>
      rcases of_append lower with ⟨left, right, rfl, leftBelow, rightBelow⟩
      exact .cut (leftBelow.chars_eq.trans same) (ih rightBelow)

end Subdivides

/-- A classified token in the middle of plain text cuts that text up and changes nothing else. -/
theorem subdivides_joinFrom {token : Token} (isClassified : token.tokenClass.isSome)
    {run : List Token} (runPlain : ∀ other ∈ run, other.tokenClass = none)
    (sameText : chars run = token.text.toList) (nonempty : chars run ≠ [])
    (plain : List Char) (before after : List Token) :
    Subdivides (joinFrom plain (before ++ run ++ after))
      (joinFrom plain (before ++ token :: after)) := by
  induction before generalizing plain with
  | nil =>
      rcases exists_joinFrom_eq after with ⟨lead, rest, joined⟩
      have parts : chars (gather plain ++ token :: gather lead) =
          (String.ofList (plain ++ chars run ++ lead)).toList := by
        simp [sameText]
      rw [List.nil_append, List.nil_append, joinFrom_append_plain runPlain, joined,
        joinFrom_cons_classified isClassified, joined, gather_of_ne_nil (by simp [nonempty])]
      simpa using Subdivides.cut parts (.refl rest)
  | cons other before ih =>
      cases found : other.tokenClass with
      | none =>
          simp only [List.cons_append, joinFrom_cons_plain found]
          exact ih _
      | some tokenClass =>
          have isSome : other.tokenClass.isSome := by simp [found]
          simp only [List.cons_append, joinFrom_cons_classified isSome]
          exact .prepend _ (.keep other (ih []))

/-! ## Places -/

/-- The tokens, each with the number of characters before it. -/
def placedFrom (offset : Nat) : List Token → List (Nat × Token)
  | [] => []
  | token :: rest => (offset, token) :: placedFrom (offset + token.text.length) rest

theorem map_snd_placedFrom (offset : Nat) (tokens : List Token) :
    (placedFrom offset tokens).map Prod.snd = tokens := by
  induction tokens generalizing offset with
  | nil => rfl
  | cons token rest ih => rw [placedFrom, List.map_cons, ih]

theorem placedFrom_append (offset : Nat) (first second : List Token) :
    placedFrom offset (first ++ second) =
      placedFrom offset first ++ placedFrom (offset + (chars first).length) second := by
  induction first generalizing offset with
  | nil => simp [placedFrom]
  | cons token first ih =>
      rw [List.cons_append, placedFrom, ih, placedFrom, chars_cons, List.length_append,
        String.length_toList, Nat.add_assoc, List.cons_append]

/-- A classified token is where it is in every finer division. -/
theorem Subdivides.mem_placedFrom {coarse fine : List Token} (below : Subdivides coarse fine)
    {offset place : Nat} {token : Token} (isClassified : token.tokenClass.isSome)
    (member : (place, token) ∈ placedFrom offset coarse) :
    (place, token) ∈ placedFrom offset fine := by
  induction below generalizing offset with
  | nil => exact member
  | keep other _ ih =>
      rcases List.mem_cons.mp member with here | later
      · exact List.mem_cons.mpr (.inl here)
      · exact List.mem_cons.mpr (.inr (ih later))
  | @cut text parts _ _ same _ ih =>
      rw [placedFrom_append, List.mem_append, same, String.length_toList]
      right
      rcases List.mem_cons.mp member with here | later
      · cases here
        simp [Token.plain] at isClassified
      · exact ih later

/-- Tokens are inside of the text that they have together. -/
theorem bounds_of_mem_placedFrom {offset place : Nat} {token : Token} {tokens : List Token}
    (member : (place, token) ∈ placedFrom offset tokens) :
    token ∈ tokens ∧ offset ≤ place ∧
      place + token.text.length ≤ offset + (chars tokens).length := by
  induction tokens generalizing offset with
  | nil => cases member
  | cons other tokens ih =>
      rw [chars_cons, List.length_append, String.length_toList]
      rcases List.mem_cons.mp member with here | later
      · cases here
        exact ⟨List.mem_cons_self, le_rfl, by omega⟩
      · obtain ⟨isMember, low, high⟩ := ih later
        exact ⟨List.mem_cons_of_mem other isMember, by omega, by omega⟩

/-- A token at a place has the text of those before it in front of it. -/
theorem exists_of_mem_placedFrom {offset place : Nat} {token : Token} {tokens : List Token}
    (member : (place, token) ∈ placedFrom offset tokens) :
    ∃ before after, tokens = before ++ token :: after ∧ place = offset + (chars before).length := by
  induction tokens generalizing offset with
  | nil => cases member
  | cons other tokens ih =>
      rcases List.mem_cons.mp member with here | later
      · cases here
        exact ⟨[], tokens, rfl, rfl⟩
      · obtain ⟨before, after, rfl, isPlace⟩ := ih later
        refine ⟨other :: before, after, rfl, ?_⟩
        rw [isPlace, chars_cons, List.length_append, String.length_toList, Nat.add_assoc]

theorem mem_placedFrom_append (offset : Nat) (before : List Token) (token : Token)
    (after : List Token) :
    (offset + (chars before).length, token) ∈ placedFrom offset (before ++ token :: after) := by
  rw [placedFrom_append]
  exact List.mem_append_right _ List.mem_cons_self

/-- Joining plain tokens moves no classified token. -/
theorem mem_placedFrom_of_joinFrom {token : Token} (isClassified : token.tokenClass.isSome)
    {offset place : Nat} {plain : List Char} {tokens : List Token}
    (member : (place, token) ∈ placedFrom offset (joinFrom plain tokens)) :
    (place, token) ∈ placedFrom (offset + plain.length) tokens := by
  have notGathered (offset : Nat) (plain : List Char) :
      (place, token) ∉ placedFrom offset (gather plain) := by
    intro gathered
    obtain ⟨isPlain, -⟩ := bounds_of_mem_placedFrom gathered
    by_cases empty : plain = []
    · simp [empty] at isPlain
    · rw [gather_of_ne_nil empty, List.mem_singleton] at isPlain
      simp [isPlain, Token.plain] at isClassified
  induction tokens generalizing offset plain with
  | nil => exact absurd member (notGathered offset plain)
  | cons other tokens ih =>
      cases found : other.tokenClass with
      | none =>
          rw [joinFrom_cons_plain found] at member
          have later := ih member
          rw [List.length_append, String.length_toList, ← Nat.add_assoc] at later
          exact List.mem_cons_of_mem _ later
      | some tokenClass =>
          rw [joinFrom_cons_classified (by simp [found]), placedFrom_append, List.mem_append,
            chars_gather] at member
          rcases member with gathered | there
          · exact absurd gathered (notGathered offset plain)
          · rcases List.mem_cons.mp there with here | later
            · exact List.mem_cons.mpr (.inl here)
            · exact List.mem_cons.mpr (.inr (by simpa using ih later))

end Tint.Token
