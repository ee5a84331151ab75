import Mathlib
import Tint.Stash

/-!
# Slots and their placeholders

Every slot has a reserved character of its own as its placeholder, which gives the slot back.  So a
working text tells from its characters alone which tokens of the stash it refers to, and a token
that is put away changes nothing about those that were there before.

The last two code points of either plane are reserved as well, but are the placeholders of no slot.
-/

namespace Tint

/-- The code point of a placeholder, plane by plane. -/
theorem toNat_of_slotChar? {slot : Nat} {c : Char} (found : slotChar? slot = some c) :
    (slot < slotsPerPlane ∧ c.toNat = 0xF0000 + slot) ∨
      (slotsPerPlane ≤ slot ∧ slot < slotLimit ∧
        c.toNat = 0x100000 + (slot - slotsPerPlane)) := by
  have plane : slotsPerPlane = 0xFFFE := rfl
  have limit : slotLimit = 2 * slotsPerPlane := rfl
  rw [slotChar?] at found
  by_cases first : slot < slotsPerPlane
  · rw [if_pos first, Option.some.injEq] at found
    subst found
    refine .inl ⟨first, ?_⟩
    have valid : (0xF0000 + slot).isValidChar := .inr (by omega)
    rw [Char.toNat_ofNat, if_pos valid]
  · rw [if_neg first] at found
    by_cases second : slot < slotLimit
    · rw [if_pos second, Option.some.injEq] at found
      subst found
      refine .inr ⟨by omega, second, ?_⟩
      have valid : (0x100000 + (slot - slotsPerPlane)).isValidChar := .inr (by omega)
      rw [Char.toNat_ofNat, if_pos valid]
    · rw [if_neg second] at found
      cases found

/-- A placeholder gives its slot back. -/
theorem slotOf?_slotChar? {slot : Nat} {c : Char} (found : slotChar? slot = some c) :
    slotOf? c = some slot := by
  rcases toNat_of_slotChar? found with ⟨bound, code⟩ | ⟨low, bound, code⟩
  · simp only [slotOf?, code, slotsPerPlane] at *
    rw [if_pos (by omega)]
    simp
  · simp only [slotOf?, code, slotLimit, slotsPerPlane] at *
    rw [if_neg (by omega), if_pos (by omega)]
    congr 1
    omega

/-- The slot of a character is the one whose placeholder it is. -/
theorem slotOf?_eq_some_iff {c : Char} {slot : Nat} :
    slotOf? c = some slot ↔ slotChar? slot = some c := by
  refine ⟨fun found => ?_, slotOf?_slotChar?⟩
  have plane : slotsPerPlane = 0xFFFE := rfl
  have limit : slotLimit = 2 * slotsPerPlane := rfl
  simp only [slotOf?] at found
  rw [slotChar?]
  split at found
  · rw [Option.some_inj] at found
    have code : 0xF0000 + slot = c.toNat := by omega
    rw [if_pos (by omega), code, Char.ofNat_toNat]
  · split at found
    · rw [Option.some_inj] at found
      have code : 0x100000 + (slot - slotsPerPlane) = c.toNat := by omega
      rw [if_neg (by omega), if_pos (by omega), code, Char.ofNat_toNat]
    · cases found

/-- The last two code points of either plane have no slot. -/
theorem slotOf?_eq_none_of_mem {c : Char}
    (isLast : c.toNat ∈ [0xFFFFE, 0xFFFFF, 0x10FFFE, 0x10FFFF]) : slotOf? c = none := by
  have plane : slotsPerPlane = 0xFFFE := rfl
  simp only [List.mem_cons, List.not_mem_nil, or_false] at isLast
  rw [slotOf?, if_neg (by omega), if_neg (by omega)]

/-- A placeholder is in a text as often as its slot is among the slots of the text. -/
theorem count_filterMap_slotOf? {slot : Nat} {placeholder : Char}
    (isSlot : slotChar? slot = some placeholder) (text : List Char) :
    (text.filterMap slotOf?).count slot = text.count placeholder := by
  rw [List.count_filterMap, List.count_eq_countP]
  apply List.countP_congr
  intro c _
  rw [beq_iff_eq, beq_iff_eq, slotOf?_eq_some_iff, isSlot, Option.some_inj, eq_comm]

/-- Only reserved characters have a slot. -/
theorem isReserved_of_slotOf? {slot : Nat} {c : Char} (found : slotOf? c = some slot) :
    isReserved c = true := by
  simp only [isReserved, decide_eq_true_eq]
  simp only [slotOf?] at found
  split at found
  · omega
  · split at found
    · omega
    · cases found

@[simp] theorem slotOf?_of_ordinary {c : Char} (ordinary : isReserved c = false) :
    slotOf? c = none := by
  cases found : slotOf? c with
  | none => rfl
  | some slot => simp [isReserved_of_slotOf? found] at ordinary

/-- Slots are given out as long as there are fewer than the limit. -/
theorem slotChar?_isSome_iff (slot : Nat) : (slotChar? slot).isSome ↔ slot < slotLimit := by
  rw [slotChar?]
  by_cases first : slot < slotsPerPlane
  · have second : slot < slotLimit := by
      simp only [slotLimit]
      omega
    simp [first, second]
  · by_cases second : slot < slotLimit <;> simp [first, second]

/-- Ordinary text refers to no slot. -/
@[simp] theorem filterMap_slotOf?_of_ordinary {text : List Char}
    (ordinary : ∀ c ∈ text, isReserved c = false) : text.filterMap slotOf? = [] := by
  rw [List.filterMap_eq_nil_iff]
  exact fun c member => slotOf?_of_ordinary (ordinary c member)

/-- No placeholder is part of a word. -/
theorem isWord_of_isReserved {c : Char} (reserved : isReserved c = true) :
    Unicode.isWord c = false := by
  have code : 0xF0000 ≤ c.toNat := by simpa [isReserved] using reserved
  have notAscii : ¬c.toNat < 0x80 := by omega
  simp only [Unicode.isWord, notAscii, ↓reduceIte]
  rw [if_pos (by omega)]

namespace Stash

/-- A placeholder is refused only when all of them are in use. -/
theorem next?_eq_none_iff {stash : Stash} :
    stash.next? = none ↔ slotLimit ≤ stash.tokens.size := by
  rw [next?, ← Option.not_isSome_iff_eq_none, slotChar?_isSome_iff, Nat.not_lt]

theorem exists_next?_eq_some {stash : Stash} (room : stash.tokens.size < slotLimit) :
    ∃ placeholder, stash.next? = some placeholder :=
  Option.isSome_iff_exists.mp ((slotChar?_isSome_iff _).mpr room)

theorem lt_of_next?_eq_some {stash : Stash} {placeholder : Char}
    (free : stash.next? = some placeholder) : stash.tokens.size < slotLimit :=
  (slotChar?_isSome_iff _).mp (Option.isSome_of_eq_some free)

@[simp] theorem size_push (stash : Stash) (token : Token) :
    (stash.push token).tokens.size = stash.tokens.size + 1 := by
  simp [push]

/-- A placeholder holds the token in its slot. -/
theorem held?_eq_some_iff {stash : Stash} {c : Char} {slot : Nat} {token : Token} :
    stash.held? c = some (slot, token) ↔
      slotOf? c = some slot ∧ stash.tokens[slot]? = some token := by
  simp only [held?, Option.bind_eq_bind, Option.pure_def, Option.bind_eq_some_iff,
    Option.some.injEq, Prod.mk.injEq]
  constructor
  · rintro ⟨_, slotEq, _, tokenEq, rfl, rfl⟩
    exact ⟨slotEq, tokenEq⟩
  · rintro ⟨slotEq, tokenEq⟩
    exact ⟨slot, slotEq, token, tokenEq, rfl, rfl⟩

@[simp] theorem held?_of_ordinary {stash : Stash} {c : Char} (ordinary : isReserved c = false) :
    stash.held? c = none := by
  simp [held?, ordinary]

/-- The placeholder that comes next holds the token that is put away under it. -/
theorem held?_push_self {stash : Stash} {placeholder : Char} {token : Token}
    (free : stash.next? = some placeholder) :
    (stash.push token).held? placeholder = some (stash.tokens.size, token) := by
  rw [held?_eq_some_iff]
  exact ⟨slotOf?_slotChar? free, by simp [push]⟩

/-- What a placeholder holds stays when another token is put away. -/
theorem held?_push_of_lt {stash : Stash} {c : Char} {slot : Nat} (token : Token)
    (slotEq : slotOf? c = some slot) (used : slot < stash.tokens.size) :
    (stash.push token).held? c = stash.held? c := by
  simp only [held?, slotEq, push, Option.bind_eq_bind, Option.bind_some]
  rw [Array.getElem?_push_lt used, Array.getElem?_eq_getElem used]

/-- Taking the text out of one slot leaves the others alone. -/
theorem held?_takeText {stash : Stash} {c : Char} {slot other : Nat}
    (slotEq : slotOf? c = some other) (apart : slot ≠ other) :
    (stash.takeText slot).held? c = stash.held? c := by
  simp [held?, slotEq, takeText, Array.getElem?_modify, apart]

end Stash

end Tint
