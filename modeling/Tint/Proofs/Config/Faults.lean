import Tint.Proofs.Config.Document

/-!
# The first fault

Reading either gives a result or stops with a reason.  `Checks` says of one reading when it does the
one and when the other, with a condition for the first and a relation to the reasons for the second,
so nothing is left open.  Readings in a row go to the first item that is at fault, and its reason is
theirs; what stands behind it does not matter.
-/

namespace Tint

open Tint.Toml

variable {ε α β γ : Type}

/-- The reason of the first item at fault, all items before which are good. -/
inductive FirstFault (Good : α → Prop) (Fault : α → ε → Prop) : List α → ε → Prop where
  | here {item : α} {reason : ε} (rest : List α) :
      Fault item reason → FirstFault Good Fault (item :: rest) reason
  | later {item : α} {reason : ε} {rest : List α} :
      Good item → FirstFault Good Fault rest reason → FirstFault Good Fault (item :: rest) reason

theorem FirstFault.exists_mem {Good : α → Prop} {Fault : α → ε → Prop} {items : List α}
    {reason : ε} (first : FirstFault Good Fault items reason) :
    ∃ item ∈ items, Fault item reason := by
  induction first with
  | here rest fault => exact ⟨_, List.mem_cons_self, fault⟩
  | later _ _ ih =>
      obtain ⟨item, member, fault⟩ := ih
      exact ⟨item, List.mem_cons_of_mem _ member, fault⟩

/-- A reading succeeds if something is good, and is refused with the reason for which it is not. -/
structure Checks (reading : Except ε β) (good : Prop) (Fault : ε → Prop) : Prop where
  accepts : good → ∃ result, reading = .ok result
  refuses {reason : ε} : Fault reason → reading = .error reason
  covers : good ∨ ∃ reason, Fault reason

namespace Checks

section One

variable {reading : Except ε β} {good : Prop} {Fault : ε → Prop}

theorem exists_ok_iff (checks : Checks reading good Fault) :
    (∃ result, reading = .ok result) ↔ good := by
  refine ⟨fun ⟨result, isResult⟩ => ?_, checks.accepts⟩
  rcases checks.covers with isGood | ⟨reason, fault⟩
  · exact isGood
  · cases isResult.symm.trans (checks.refuses fault)

theorem eq_error_iff (checks : Checks reading good Fault) {reason : ε} :
    reading = .error reason ↔ Fault reason := by
  refine ⟨fun isRefused => ?_, checks.refuses⟩
  rcases checks.covers with isGood | ⟨other, fault⟩
  · obtain ⟨result, isResult⟩ := checks.accepts isGood
    cases isRefused.symm.trans isResult
  · cases isRefused.symm.trans (checks.refuses fault)
    exact fault

/-- What is done with a result refuses nothing more. -/
theorem andThen (checks : Checks reading good Fault) {next : β → Except ε γ}
    (goesOn : ∀ result, ∃ final, next result = .ok final) :
    Checks (reading >>= next) good Fault where
  accepts isGood := by
    obtain ⟨result, isResult⟩ := checks.accepts isGood
    obtain ⟨final, isFinal⟩ := goesOn result
    exact ⟨final, bind_eq_ok.mpr ⟨result, isResult, isFinal⟩⟩
  refuses fault := bind_eq_error.mpr (.inl (checks.refuses fault))
  covers := checks.covers

end One

/-! ## Readings in a row -/

section Row

variable {Good : α → Prop} {Fault : α → ε → Prop} {items : List α}

/-- Of items that are good or at fault one by one, all are good or there is a first one at fault. -/
theorem covers_list (covers : ∀ item ∈ items, Good item ∨ ∃ reason, Fault item reason) :
    (∀ item ∈ items, Good item) ∨ ∃ reason, FirstFault Good Fault items reason := by
  induction items with
  | nil => exact .inl fun _ member => absurd member List.not_mem_nil
  | cons item items ih =>
      obtain ⟨first, rest⟩ := List.forall_mem_cons.mp covers
      rcases first with isGood | ⟨reason, fault⟩
      · rcases ih rest with allGood | ⟨reason, firstFault⟩
        · exact .inl (List.forall_mem_cons.mpr ⟨isGood, allGood⟩)
        · exact .inr ⟨reason, .later isGood firstFault⟩
      · exact .inr ⟨reason, .here items fault⟩

/-- Steps in a row, each of which checks its item as long as something holds of the state. -/
theorem foldlM {step : β → α → Except ε β} (holds : β → Prop)
    (kept : ∀ state item next, holds state → step state item = .ok next → holds next)
    (checks : ∀ state item, item ∈ items → holds state →
      Checks (step state item) (Good item) (Fault item))
    {start : β} (init : holds start) :
    Checks (items.foldlM step start) (∀ item ∈ items, Good item)
      (FirstFault Good Fault items) where
  accepts allGood := by
    induction items generalizing start with
    | nil => exact ⟨start, rfl⟩
    | cons item items ih =>
        obtain ⟨isGood, restGood⟩ := List.forall_mem_cons.mp allGood
        obtain ⟨next, stepped⟩ := (checks start item List.mem_cons_self init).accepts isGood
        obtain ⟨final, done⟩ :=
          ih (fun state other member => checks state other (List.mem_cons_of_mem _ member))
            (kept start item next init stepped) restGood
        exact ⟨final, bind_eq_ok.mpr ⟨next, stepped, done⟩⟩
  refuses firstFault := by
    -- The steps in front of the fault succeed, so it is met in a state of which `holds` is true.
    induction firstFault generalizing start with
    | here rest fault =>
        exact bind_eq_error.mpr (.inl ((checks start _ List.mem_cons_self init).refuses fault))
    | @later item _ rest isGood _ ih =>
        obtain ⟨next, stepped⟩ := (checks start item List.mem_cons_self init).accepts isGood
        have done :=
          ih (fun state other member => checks state other (List.mem_cons_of_mem _ member))
            (kept start item next init stepped)
        exact bind_eq_error.mpr (.inr ⟨next, stepped, done⟩)
  covers := covers_list fun item member => (checks start item member init).covers

/-- Steps in a row that check their items in any state. -/
theorem foldlM_each {step : β → α → Except ε β}
    (checks : ∀ state, ∀ item ∈ items, Checks (step state item) (Good item) (Fault item))
    (start : β) :
    Checks (items.foldlM step start) (∀ item ∈ items, Good item)
      (FirstFault Good Fault items) :=
  foldlM (fun _ => True) (fun _ _ _ _ _ => trivial)
    (fun state item member _ => checks state item member) trivial

/-- Readings of items one by one. -/
theorem mapM {read : α → Except ε β}
    (checks : ∀ item ∈ items, Checks (read item) (Good item) (Fault item)) :
    Checks (items.mapM read) (∀ item ∈ items, Good item) (FirstFault Good Fault items) where
  accepts allGood := by
    induction items with
    | nil => exact ⟨[], rfl⟩
    | cons item items ih =>
        obtain ⟨isGood, restGood⟩ := List.forall_mem_cons.mp allGood
        obtain ⟨checksItem, checksRest⟩ := List.forall_mem_cons.mp checks
        obtain ⟨first, isFirst⟩ := checksItem.accepts isGood
        obtain ⟨rest, isRest⟩ := ih checksRest restGood
        rw [List.mapM_cons]
        exact ⟨first :: rest,
          bind_eq_ok.mpr ⟨first, isFirst, bind_eq_ok.mpr ⟨rest, isRest, rfl⟩⟩⟩
  refuses firstFault := by
    induction firstFault with
    | here rest fault =>
        rw [List.mapM_cons]
        exact bind_eq_error.mpr (.inl ((checks _ List.mem_cons_self).refuses fault))
    | later isGood _ ih =>
        obtain ⟨checksItem, checksRest⟩ := List.forall_mem_cons.mp checks
        obtain ⟨first, isFirst⟩ := checksItem.accepts isGood
        rw [List.mapM_cons]
        exact bind_eq_error.mpr
          (.inr ⟨first, isFirst, bind_eq_error.mpr (.inl (ih checksRest))⟩)
  covers := covers_list fun item member => (checks item member).covers

end Row

end Checks

/-! ## Tables -/

/-- A table all entries of which are good. -/
inductive IsTableOf (Good : String × Value → Prop) : Value → Prop where
  | table {entries : Table} (each : ∀ entry ∈ entries, Good entry) : IsTableOf Good (.table entries)

/-- Why a value is refused as such a table. -/
inductive TableFault (missing : ConfigError) (Good : String × Value → Prop)
    (Fault : String × Value → ConfigError → Prop) : Value → ConfigError → Prop where
  | notTable {value : Value} (notTable : value.table? = none) :
      TableFault missing Good Fault value missing
  | entry {entries : Table} {reason : ConfigError}
      (first : FirstFault Good Fault entries reason) :
      TableFault missing Good Fault (.table entries) reason

/-- Reading a table: a value that is none is refused with a reason of its own. -/
theorem checks_table {missing : ConfigError} {Good : String × Value → Prop}
    {Fault : String × Value → ConfigError → Prop} {value : Value}
    {read : Table → Except ConfigError β}
    (checks : ∀ entries, value = .table entries →
      Checks (read entries) (∀ entry ∈ entries, Good entry) (FirstFault Good Fault entries)) :
    Checks (orError missing value.table? >>= read) (IsTableOf Good value)
      (TableFault missing Good Fault value) where
  accepts := by
    rintro ⟨each⟩
    exact (checks _ rfl).accepts each
  refuses := by
    rintro reason (notTable | first)
    · exact orError_none_bind notTable _ _
    · exact (checks _ rfl).refuses first
  covers := by
    cases isTable : value.table? with
    | none => exact .inr ⟨missing, .notTable isTable⟩
    | some entries =>
        cases Value.table?_eq_some_iff.mp isTable
        exact (checks entries rfl).covers.imp .table (Exists.imp fun _ => .entry)

/-- Entries that are set one after the other come to what they say together, if it makes no
difference whether the first of them is set or said along with the rest. -/
theorem foldlM_eq_said {State : Type} {set : State → String × Value → Except ε State}
    {said : State → Table → State} (nothing : ∀ state, said state [] = state)
    (sets : ∀ state entry next rest, entry.2.Ordered → rest.lookup entry.1 = none →
      set state entry = .ok next → said next rest = said state (entry :: rest))
    {entries : Table} (ordered : Value.Ordered (.table entries)) {start final : State}
    (read : entries.foldlM set start = .ok final) : final = said start entries := by
  induction entries generalizing start with
  | nil =>
      cases read
      exact (nothing _).symm
  | cons entry rest ih =>
      obtain ⟨next, isSet, more⟩ := bind_eq_ok.mp read
      obtain ⟨entryOrdered, restOrdered⟩ := List.forall_mem_cons.mp ordered.inOrder
      rw [ih (.table ordered.ascending.tail restOrdered) more]
      exact sets start entry next rest entryOrdered ordered.ascending.lookup_tail isSet

end Tint
