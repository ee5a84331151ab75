import Mathlib
import Tint.Unicode.Case

/-!
# Small letters stay small

Putting a text in small letters twice is putting it in small letters once.  For most characters this
is in the table of capital letters: what its blocks send letters to must not be in a block again.
That is checked block against block, by where the two begin and end; blocks that overlap all the
same hold every second code point, and then one has the even ones and the other the odd ones.
-/

namespace Tint.Unicode

/-! ## Tables -/

@[simp] theorem tableWords_nil : tableWords [] = [] := rfl

/-- A line of a table is cut into its words.  Rewriting with this shows the characters of a line
that is written out, which is faster than having them computed. -/
theorem tableWords_cons (line : List Char) (lines : List String) :
    tableWords (String.ofList line :: lines) =
      (line.splitOn ' ').filter (!·.isEmpty) ++ tableWords lines := by
  simp [tableWords]

namespace Shift

/-- Where a block sends its last code point, or where it would send it. -/
def lastTarget (shift : Shift) : Nat :=
  shift.target + (shift.last - shift.first)

/-- Whether the places of the blocks show that the first sends nothing into the second. -/
def misses (first second : Shift) : Bool :=
  Nat.blt first.lastTarget second.first || Nat.blt second.last first.target ||
    (Nat.beq second.step 2 && (Nat.beq first.step 2 || Nat.beq first.first first.last) &&
      Nat.beq ((first.target + second.first) % 2) 1)

/-- Whether all that a block sends code points to lies between two bounds. -/
def sendsInto (shift : Shift) (bounds : Nat × Nat) : Bool :=
  Nat.ble bounds.1 shift.target && Nat.ble shift.lastTarget bounds.2

theorem target?_eq_some_iff {shift : Shift} {code target : Nat} :
    shift.target? code = some target ↔
      (shift.first ≤ code ∧ code ≤ shift.last ∧ (code - shift.first) % shift.step = 0) ∧
        target = shift.target + (code - shift.first) := by
  rw [target?]
  split <;> simp_all [eq_comm]

theorem target?_eq_none_of_misses {first second : Shift} (apart : first.misses second = true)
    {code target : Nat} (found : first.target? code = some target) :
    second.target? target = none := by
  obtain ⟨⟨low, high, isStep⟩, rfl⟩ := target?_eq_some_iff.mp found
  rw [Option.eq_none_iff_forall_ne_some]
  intro further again
  obtain ⟨⟨secondLow, secondHigh, secondStep⟩, -⟩ := target?_eq_some_iff.mp again
  simp only [misses, lastTarget, Bool.or_eq_true, Bool.and_eq_true, Nat.blt_eq, Nat.beq_eq] at apart
  rcases apart with (below | above) | ⟨⟨isTwo, alike⟩, parity⟩
  · omega
  · omega
  · rw [isTwo] at secondStep
    rcases alike with alsoTwo | single
    · rw [alsoTwo] at isStep
      omega
    · omega

theorem target_within {shift : Shift} {bounds : Nat × Nat} (into : shift.sendsInto bounds = true)
    {code target : Nat} (found : shift.target? code = some target) :
    bounds.1 ≤ target ∧ target ≤ bounds.2 := by
  obtain ⟨⟨low, high, -⟩, rfl⟩ := target?_eq_some_iff.mp found
  simp only [sendsInto, lastTarget, Bool.and_eq_true, Nat.ble_eq] at into
  omega

end Shift

/-- The code points between those that small letters must not have: the capital letters of ASCII,
the dotted capital I, the capital sigma, and those that are no characters. -/
def smallBounds : List (Nat × Nat) :=
  [(0x5B, 0x12F), (0x131, 0x3A2), (0x3A4, 0xD7FF), (0xE000, 0x10FFFF)]

theorem lowerShifts_settled :
    lowerShifts.all (fun shift =>
      smallBounds.any shift.sendsInto && lowerShifts.all shift.misses) = true := by
  rw [lowerShifts, Shift.listOfLines]
  repeat rw [tableWords_cons]
  rw [tableWords_nil]
  decide +kernel

/-- The mark that the dotted capital I leaves, and the two small forms of sigma, are in no block. -/
theorem findSome?_lowerShifts_marks :
    [0x307, 0x3C2, 0x3C3].all (fun code => (lowerShifts.findSome? (·.target? code)).isNone) =
      true := by
  rw [lowerShifts, Shift.listOfLines]
  repeat rw [tableWords_cons]
  rw [tableWords_nil]
  decide +kernel

/-! ## Characters -/

/-- A character that stays as it is wherever it stands. -/
structure IsSmall (c : Char) : Prop where
  notSigma : c.toNat ≠ 0x3A3
  lowerOf_eq : lowerOf c = [c]

/-- ASCII characters other than capital letters stay as they are. -/
theorem isSmall_of_ascii {c : Char} (ascii : c.toNat < 0x80)
    (notCapital : c.toNat < 0x41 ∨ 0x5A < c.toNat) : IsSmall c := by
  have isNot : ¬(('A' ≤ c && c ≤ 'Z') = true) := by
    simp only [Bool.and_eq_true, decide_eq_true_eq, Char.le_def, UInt32.le_iff_toNat_le]
    change ¬(0x41 ≤ c.toNat ∧ c.toNat ≤ 0x5A)
    omega
  refine ⟨by omega, ?_⟩
  simp only [lowerOf, if_pos ascii, if_neg isNot]

/-- Characters outside of ASCII that no block of the table holds stay as they are. -/
theorem isSmall_of_findSome?_eq_none {c : Char} (notAscii : ¬c.toNat < 0x80)
    (notDotted : c.toNat ≠ 0x130) (notSigma : c.toNat ≠ 0x3A3)
    (missed : lowerShifts.findSome? (·.target? c.toNat) = none) :
    IsSmall c := by
  refine ⟨notSigma, ?_⟩
  simp [lowerOf, notAscii, notDotted, missed]

/-- What a block of the table sends a letter to stays as it is. -/
theorem isSmall_of_findSome? {code target : Nat}
    (found : lowerShifts.findSome? (·.target? code) = some target) :
    IsSmall (Char.ofNat target) := by
  obtain ⟨shift, member, isTarget⟩ := List.exists_of_findSome?_eq_some found
  have settled := List.all_eq_true.mp lowerShifts_settled shift member
  rw [Bool.and_eq_true] at settled
  obtain ⟨bounds, isBounds, into⟩ := List.any_eq_true.mp settled.1
  obtain ⟨low, high⟩ := Shift.target_within into isTarget
  simp only [smallBounds, List.mem_cons, List.not_mem_nil, or_false] at isBounds
  have free : target.isValidChar ∧ 0x5A < target ∧ target ≠ 0x130 ∧ target ≠ 0x3A3 := by
    rw [Nat.isValidChar]
    rcases isBounds with rfl | rfl | rfl | rfl <;> simp only at low high <;> omega
  obtain ⟨valid, notCapital, notDotted, notSigma⟩ := free
  have isCode : (Char.ofNat target).toNat = target := by rw [Char.toNat_ofNat, if_pos valid]
  by_cases ascii : target < 0x80
  · exact isSmall_of_ascii (by rwa [isCode]) (by rw [isCode]; exact .inr notCapital)
  · refine isSmall_of_findSome?_eq_none (by rwa [isCode]) (by rwa [isCode]) (by rwa [isCode]) ?_
    rw [isCode, List.findSome?_eq_none_iff]
    intro other isOther
    exact Shift.target?_eq_none_of_misses (List.all_eq_true.mp settled.2 other isOther) isTarget

theorem isSmall_of_mark {code : Nat} (mark : code ∈ [0x307, 0x3C2, 0x3C3]) :
    IsSmall (Char.ofNat code) := by
  have missed := List.all_eq_true.mp findSome?_lowerShifts_marks code mark
  rw [Option.isNone_iff_eq_none] at missed
  simp only [List.mem_cons, List.not_mem_nil, or_false] at mark
  have isCode : (Char.ofNat code).toNat = code := by
    rw [Char.toNat_ofNat, if_pos (.inl (by omega))]
  exact isSmall_of_findSome?_eq_none (by omega) (by omega) (by omega) (by rwa [isCode])

/-- The small form of a character has characters that stay as they are. -/
theorem isSmall_of_mem_lowerOf {c d : Char} (notSigma : c.toNat ≠ 0x3A3) (member : d ∈ lowerOf c) :
    IsSmall d := by
  rw [lowerOf] at member
  by_cases ascii : c.toNat < 0x80
  · rw [if_pos ascii, List.mem_singleton] at member
    by_cases capital : ('A' ≤ c && c ≤ 'Z') = true
    · rw [if_pos capital] at member
      have bounds : 0x41 ≤ c.toNat ∧ c.toNat ≤ 0x5A := by
        simpa [Char.le_def, UInt32.le_iff_toNat_le] using capital
      have isCode : d.toNat = c.toNat + 32 := by
        rw [member, Char.toNat_ofNat, if_pos (.inl (by omega))]
      exact isSmall_of_ascii (by omega) (.inr (by omega))
    · rw [if_neg capital] at member
      have bounds : ¬(0x41 ≤ c.toNat ∧ c.toNat ≤ 0x5A) := by
        simpa [Char.le_def, UInt32.le_iff_toNat_le] using capital
      rw [member]
      exact isSmall_of_ascii ascii (by omega)
  · rw [if_neg ascii] at member
    by_cases dotted : c.toNat = 0x130
    · simp only [dotted, beq_self_eq_true, if_true, List.mem_cons, List.not_mem_nil,
        or_false] at member
      rcases member with rfl | rfl
      · exact isSmall_of_ascii (by decide) (.inr (by decide))
      · exact isSmall_of_mark (by decide)
    · rw [if_neg (by simpa using dotted)] at member
      cases found : lowerShifts.findSome? (·.target? c.toNat) with
      | none =>
          simp only [found, List.mem_singleton] at member
          rw [member]
          exact isSmall_of_findSome?_eq_none ascii dotted notSigma found
      | some target =>
          simp only [found, List.mem_singleton] at member
          rw [member]
          exact isSmall_of_findSome? found

/-! ## Texts -/

theorem isSmall_of_mem_lowerFrom {before done text : List Char}
    (doneSmall : ∀ c ∈ done, IsSmall c) :
    ∀ c ∈ lowerFrom before done text, IsSmall c := by
  induction text generalizing before done with
  | nil => simpa [lowerFrom] using doneSmall
  | cons c rest ih =>
      rw [lowerFrom]
      refine ih ?_
      intro d member
      rw [List.mem_append, List.mem_reverse] at member
      rcases member with isNew | isDone
      · by_cases sigma : c.toNat = 0x3A3
        · simp only [sigma, beq_self_eq_true, if_true, List.mem_singleton] at isNew
          rw [isNew]
          split
          · exact isSmall_of_mark (by decide)
          · exact isSmall_of_mark (by decide)
        · rw [if_neg (by simpa using sigma)] at isNew
          exact isSmall_of_mem_lowerOf sigma isNew
      · exact doneSmall d isDone

theorem lowerFrom_of_isSmall {before done text : List Char} (small : ∀ c ∈ text, IsSmall c) :
    lowerFrom before done text = done.reverse ++ text := by
  induction text generalizing before done with
  | nil => simp [lowerFrom]
  | cons c rest ih =>
      have first := small c List.mem_cons_self
      rw [lowerFrom, ih fun other member => small other (List.mem_cons_of_mem _ member)]
      simp [first.notSigma, first.lowerOf_eq]

/-- A text in small letters is its own form in small letters. -/
theorem lowercase_lowercase (text : String) : lowercase (lowercase text) = lowercase text := by
  have small : ∀ c ∈ lowerFrom [] [] text.toList, IsSmall c := isSmall_of_mem_lowerFrom (by simp)
  simp only [lowercase, String.toList_ofList, lowerFrom_of_isSmall small, List.reverse_nil,
    List.nil_append]

end Tint.Unicode
