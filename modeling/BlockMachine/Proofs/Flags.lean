import BlockMachine.Proofs.Runs
import BlockMachine.Sheet
import Mathlib.Data.List.TakeWhile

/-!
The flags after a run. Where all items take one, a run flags the block it fails
at, at every place where this same block stands, and no other; when it fails at no
block it flags nothing; and the flags that were there before count for nothing.
On any sheet, nothing but flags changes, and the same run again changes nothing.
-/

namespace BlockMachine.Sheet
open Machine

/-- One and the same item stands at both places. -/
def Same (sheet : Sheet) (first second : Nat) : Prop :=
  ∃ left right, sheet.slots[first]? = some left ∧ sheet.slots[second]? = some right ∧
    left.label = right.label

/-- The sheets differ in their flags at most. -/
def Alike (left right : Sheet) : Prop :=
  left.slots.map (fun slot => (slot.label, slot.item)) =
    right.slots.map fun slot => (slot.label, slot.item)

theorem Alike.items_eq {left right : Sheet} (alike : Alike left right) :
    left.items = right.items := by
  have projected : ∀ sheet : Sheet, sheet.items =
      (sheet.slots.map fun slot => (slot.label, slot.item)).map Prod.snd := by
    intro sheet
    simp [items]
  rw [projected left, projected right, show left.slots.map _ = right.slots.map _ from alike]

theorem clear_of_flaggable {sheet : Sheet} (flaggable : Flaggable sheet.items) :
    sheet.clear = ⟨sheet.slots.map fun slot => { slot with flagged := false }⟩ := by
  have whole : sheet.clearable = sheet.slots := by
    apply List.takeWhile_eq_self_iff.2
    intro slot member
    exact flaggable _ (List.mem_map_of_mem member)
  unfold clear
  congr 1
  apply List.map_congr_left
  intro slot member
  rw [whole, if_pos (List.mem_map_of_mem member)]

theorem Alike.clear_eq {left right : Sheet} (alike : Alike left right)
    (flaggable : Flaggable left.items) : left.clear = right.clear := by
  have cleared : ∀ sheet : Sheet, Flaggable sheet.items → sheet.clear =
      ⟨(sheet.slots.map fun slot => (slot.label, slot.item)).map fun (label, item) =>
        ⟨label, item, false⟩⟩ := by
    intro sheet taken
    rw [clear_of_flaggable taken, List.map_map]
    rfl
  rw [cleared left flaggable, cleared right (alike.items_eq ▸ flaggable),
    show left.slots.map _ = right.slots.map _ from alike]

theorem alike_clear (sheet : Sheet) : Alike sheet.clear sheet := by
  unfold Alike clear
  rw [List.map_map]
  apply List.map_congr_left
  intro slot _
  simp only [Function.comp_apply]
  split <;> rfl

theorem alike_setFlag (sheet : Sheet) (index : Nat) (flagged : Bool) :
    Alike (sheet.setFlag index flagged) sheet := by
  unfold Alike setFlag updateAt
  split
  · rfl
  · next target found =>
    rw [List.map_map]
    apply List.map_congr_left
    intro slot _
    simp only [Function.comp_apply]
    split <;> rfl

theorem Alike.labels_clearable {left right : Sheet} (alike : Alike left right) :
    left.clearable.map Slot.label = right.clearable.map Slot.label := by
  have projected : ∀ sheet : Sheet, sheet.clearable.map Slot.label =
      ((sheet.slots.map fun slot => (slot.label, slot.item)).takeWhile fun entry =>
        entry.2.takesFlag).map Prod.fst := by
    intro sheet
    rw [List.takeWhile_map, List.map_map]
    rfl
  rw [projected left, projected right, show left.slots.map _ = right.slots.map _ from alike]

/-- An item that takes no flag ends the second clearing where it ended the first one. -/
theorem clear_clear (sheet : Sheet) : sheet.clear.clear = sheet.clear := by
  have labels := (alike_clear sheet).labels_clearable
  rw [clear, labels]
  simp only [clear, List.map_map]
  congr 1
  apply List.map_congr_left
  intro slot _
  simp only [Function.comp_apply]
  split <;> rfl

example : (clear ⟨[⟨0, .block (.declare "x"), true⟩, ⟨1, .foreign "NoneType" false, false⟩,
    ⟨2, .block (.declare "y"), true⟩, ⟨0, .block (.declare "x"), true⟩]⟩).flags =
      [false, false, true, false] := by decide

/-- The sheet as an outcome leaves it. -/
def marked (sheet : Sheet) : Outcome → Sheet
  | .error _ => sheet.clear
  | .ok report =>
    match report.failedIndex with
    | none => sheet.clear
    | some index => sheet.clear.setFlag index true

theorem execute_eq_marked (limit : Option Int) (sheet : Sheet) :
    sheet.execute limit =
      (Machine.execute limit sheet.items, sheet.marked (Machine.execute limit sheet.items)) := by
  unfold execute marked
  cases Machine.execute limit sheet.items with
  | error unsupported => rfl
  | ok report =>
    cases failed : report.failedIndex with
    | none => simp only [failed]
    | some index => simp only [failed]

theorem execute_fst (limit : Option Int) (sheet : Sheet) :
    (sheet.execute limit).1 = Machine.execute limit sheet.items := by
  rw [execute_eq_marked]

theorem execute_of_flagless {sheet : Sheet} {typeName : String}
    (refuses : flagless? sheet.items = some typeName) (limit : Option Int) :
    sheet.execute limit = (.error (.noFlag typeName), sheet.clear) := by
  rw [execute_eq_marked, Machine.execute_of_flagless refuses]
  rfl

theorem alike_marked (sheet : Sheet) (outcome : Outcome) : Alike (sheet.marked outcome) sheet := by
  unfold marked
  split
  · exact alike_clear sheet
  · split
    · exact alike_clear sheet
    · exact (alike_setFlag sheet.clear _ true).trans (alike_clear sheet)

theorem Alike.marked_eq {left right : Sheet} (alike : Alike left right)
    (flaggable : Flaggable left.items) (outcome : Outcome) :
    left.marked outcome = right.marked outcome := by
  simp only [marked, alike.clear_eq flaggable]

theorem Alike.execute_eq {left right : Sheet} (alike : Alike left right)
    (flaggable : Flaggable left.items) (limit : Option Int) :
    left.execute limit = right.execute limit := by
  rw [execute_eq_marked, execute_eq_marked, alike.items_eq, alike.marked_eq flaggable]

theorem getElem?_flags_clear {sheet : Sheet} (flaggable : Flaggable sheet.items) (index : Nat) :
    sheet.clear.flags[index]? = sheet.slots[index]?.map fun _ => false := by
  rw [clear_of_flaggable flaggable, flags, List.map_map, List.getElem?_map]
  rfl

theorem getElem?_flags_setFlag {sheet : Sheet} (flaggable : Flaggable sheet.items) {index : Nat}
    {target : Slot} (found : sheet.slots[index]? = some target) (place : Nat) :
    (sheet.clear.setFlag index true).flags[place]? =
      sheet.slots[place]?.map fun slot => decide (slot.label = target.label) := by
  rw [clear_of_flaggable flaggable]
  simp only [setFlag, updateAt, List.getElem?_map, found, Option.map_some]
  simp only [flags, List.map_map, List.getElem?_map]
  congr 1
  funext slot
  by_cases shared : slot.label = target.label
  · simp [shared]
  · simp [shared]

theorem exists_slot_of_failedIndex {limit : Option Int} {sheet : Sheet} {report : Report}
    {index : Nat} (ran : Machine.execute limit sheet.items = .ok report)
    (failed : report.failedIndex = some index) : ∃ target, sheet.slots[index]? = some target := by
  obtain ⟨block, found⟩ := block_of_failedIndex ran failed
  rw [items, List.getElem?_map] at found
  obtain ⟨target, present, -⟩ := Option.map_eq_some_iff.1 found
  exact ⟨target, present⟩

section Flaggable

variable {sheet : Sheet} (flaggable : Flaggable sheet.items) (limit : Option Int)
include flaggable

/-- A place is flagged exactly when a run failed at a place with the same item. -/
theorem flagged_iff (place : Nat) :
    (sheet.execute limit).2.flags[place]? = some true ↔
      ∃ report index, (sheet.execute limit).1 = .ok report ∧ report.failedIndex = some index ∧
        sheet.Same index place := by
  rw [execute_eq_marked]
  cases ran : Machine.execute limit sheet.items with
  | error unsupported => simp [marked, getElem?_flags_clear flaggable]
  | ok report =>
    cases failed : report.failedIndex with
    | none => simp [marked, failed, getElem?_flags_clear flaggable]
    | some index =>
      obtain ⟨target, found⟩ := exists_slot_of_failedIndex ran failed
      simp only [marked, failed, getElem?_flags_setFlag flaggable found, Option.map_eq_some_iff,
        decide_eq_true_eq]
      constructor
      · rintro ⟨slot, present, shared⟩
        exact ⟨report, index, rfl, failed, target, slot, found, present, shared.symm⟩
      · rintro ⟨other, first, same, stopped, left, right, leftFound, rightFound, shared⟩
        cases same
        cases failed.symm.trans stopped
        cases found.symm.trans leftFound
        exact ⟨right, rightFound, shared.symm⟩

theorem eq_false_of_not_failed
    (unfailed : ∀ report, (sheet.execute limit).1 = .ok report → report.failedIndex = none) :
    ∀ flag ∈ (sheet.execute limit).2.flags, flag = false := by
  intro flag member
  cases flag with
  | false => rfl
  | true =>
    obtain ⟨place, inside, found⟩ := List.getElem_of_mem member
    obtain ⟨report, index, ran, failed, -⟩ :=
      (flagged_iff flaggable limit place).1 (List.getElem?_eq_some_iff.2 ⟨inside, found⟩)
    rw [unfailed report ran] at failed
    cases failed

end Flaggable

theorem execute_execute (limit : Option Int) (sheet : Sheet) :
    (sheet.execute limit).2.execute limit = sheet.execute limit := by
  have alike : Alike (sheet.execute limit).2 sheet := by
    rw [execute_eq_marked]
    exact alike_marked sheet _
  cases found : flagless? sheet.items with
  | none =>
    have flaggable := flagless?_eq_none_iff.1 found
    exact alike.execute_eq (alike.items_eq ▸ flaggable) limit
  | some typeName =>
    have refuses : flagless? sheet.clear.items = some typeName := by
      rw [(alike_clear sheet).items_eq, found]
    rw [execute_of_flagless found, execute_of_flagless refuses, clear_clear]

/-- After a run of items that take a flag, exactly the places of the failed block are flagged,
whatever was flagged before. Whatever the items, nothing but flags changes on the sheet, and the
same run again returns and leaves the same. -/
theorem execute_flags (limit : Option Int) (sheet : Sheet) :
    (Flaggable sheet.items →
      (∀ place, (sheet.execute limit).2.flags[place]? = some true ↔
        ∃ report index, (sheet.execute limit).1 = .ok report ∧ report.failedIndex = some index ∧
          sheet.Same index place) ∧
      (((∃ unsupported, (sheet.execute limit).1 = .error unsupported) ∨
          ∃ report, (sheet.execute limit).1 = .ok report ∧
            (report.succeeded = true ∨ ∃ count most, report.halt = some (.overLimit count most))) →
        ∀ flag ∈ (sheet.execute limit).2.flags, flag = false) ∧
      ∀ other, Alike other sheet → other.execute limit = sheet.execute limit) ∧
    Alike (sheet.execute limit).2 sheet ∧
    (sheet.execute limit).2.execute limit = sheet.execute limit ∧
    sheet.run limit = ((sheet.execute limit).1.map Report.env, (sheet.execute limit).2) := by
  refine ⟨?_, ?_, execute_execute limit sheet, rfl⟩
  · intro flaggable
    refine ⟨flagged_iff flaggable limit, ?_, ?_⟩
    · intro ending
      apply eq_false_of_not_failed flaggable
      intro report ran
      rcases ending with ⟨unsupported, broke⟩ | ⟨other, same, finished⟩
      · rw [ran] at broke
        cases broke
      · rw [ran] at same
        cases same
        rcases finished with succeeded | ⟨count, most, refused⟩
        · simp only [Report.succeeded, Option.isNone_iff_eq_none] at succeeded
          simp [Report.failedIndex, succeeded]
        · simp [Report.failedIndex, refused, Halt.index?]
    · intro other same
      exact same.execute_eq (same.items_eq ▸ flaggable) limit
  · rw [execute_eq_marked]
    exact alike_marked sheet _

/-- The failed assignment stands at two places and is flagged at both; older flags are gone. -/
theorem shared_assignment_flagged_twice :
    let sheet : Sheet := ⟨[⟨0, .block (.declare "x"), true⟩, ⟨1, .block (.assign "y" "x"), false⟩,
      ⟨2, .foreign "Loop" true, true⟩, ⟨1, .block (.assign "y" "x"), false⟩]⟩
    Flaggable sheet.items ∧ (sheet.execute none).2.flags[3]? = some true ∧
      (sheet.execute none).2.flags[2]? ≠ some true := by
  intro sheet
  have flaggable : Flaggable sheet.items := List.all_eq_true.1 rfl
  have ran : (sheet.execute none).1 =
      .ok ⟨⟨[("x", 0.0)]⟩, some (.failed 1 (.undeclared "y")), 1, []⟩ := by
    rw [execute_fst]
    exact (runFrom_eq_iff_runs _ _).2 (.next rfl (.failed rfl))
  have flagged := ((execute_flags none sheet).1 flaggable).1
  refine ⟨flaggable, (flagged 3).2 ⟨_, 1, ran, rfl, _, _, rfl, rfl, rfl⟩, ?_⟩
  intro foreignFlagged
  obtain ⟨report, index, same, failed, left, right, leftFound, rightFound, shared⟩ :=
    (flagged 2).1 foreignFlagged
  cases ran.symm.trans same
  cases failed
  cases leftFound
  cases rightFound
  cases shared

end BlockMachine.Sheet
