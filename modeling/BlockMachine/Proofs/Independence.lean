import BlockMachine.Proofs.Flags
import BlockMachine.Proofs.Traces

/-!
A run depends only on the items that its cursor visits, once all flags are
cleared. The skipped positions, those behind a failed block, and all positions of
a refused list are not visited: whatever is put there that takes a flag, the run
returns the same, and what was put there is not flagged.
-/

namespace BlockMachine.Machine

/-- The list is within the limit and its cursor comes to this position, so the item there is
performed or is where the run stops. -/
def Visits (limit : Option Int) (items : List Item) (place : Nat) : Prop :=
  (∀ most ∈ limit, (items.length : Int) ≤ most) ∧ place < items.length ∧
    ∃ turns state, Trace items turns state ∧ state.cursor = place

/-- The report tells that the position was left alone: it was skipped, lies behind the failed
block, or the list was refused. -/
def Report.Idle (report : Report) (place : Nat) : Prop :=
  place ∈ report.skipped ∨ (∃ failed, report.failedIndex = some failed ∧ failed < place) ∨
    ∃ count most, report.halt = some (.overLimit count most)

section Agreement

variable {items others : List Item} (sameLength : others.length = items.length)
include sameLength

/-- A trace depends on the items that took their turns. -/
theorem Trace.of_agree {turns : List Turn} {state : State} (trace : Trace items turns state)
    (agree : ∀ turn ∈ turns, others[turn.place]? = items[turn.place]?) :
    Trace others turns state := by
  induction trace with
  | start => exact .start
  | @turn turns state block effect passed found performs ih =>
    have here : others[state.cursor]? = items[state.cursor]? :=
      agree ⟨state, block, effect⟩ (List.mem_append_right _ List.mem_cons_self)
    rw [← here] at found
    rw [← sameLength]
    exact (ih fun turn member => agree turn (List.mem_append_left _ member)).turn found performs

theorem Ends.of_agree {state : State} {outcome : Outcome} (ends : Ends items state outcome)
    (agree : others[state.cursor]? = items[state.cursor]?) : Ends others state outcome := by
  cases ends with
  | done outside => exact .done (sameLength ▸ outside)
  | foreign found => exact .foreign (agree.trans found)
  | failed found fails => exact .failed (agree.trans found) fails

/-- Lists that agree wherever the cursor comes return the same. -/
theorem runFrom_of_agree
    (agree : ∀ turns state, Trace items turns state →
      others[state.cursor]? = items[state.cursor]?) :
    runFrom others .start = runFrom items .start := by
  obtain ⟨turns, last, trace, ends⟩ := exists_trace_to_end items
  have followed : Trace others turns last := by
    apply trace.of_agree sameLength
    intro turn member
    obtain ⟨⟨earlier, before⟩, -⟩ := trace.exists_before member
    exact agree _ _ before
  calc runFrom others .start
      = runFrom others last := followed.runFrom_eq
    _ = runFrom items .start := (ends.of_agree sameLength (agree _ _ trace)).runFrom_eq

theorem execute_of_agree {limit : Option Int} (flaggable : Flaggable items)
    (otherFlaggable : Flaggable others)
    (agree : ∀ place, Visits limit items place → others[place]? = items[place]?) :
    execute limit others = execute limit items := by
  rcases execute_cases flaggable limit with ⟨most, rfl, beyond, refused⟩ | ⟨within, runs⟩
  · rw [refused, execute_of_beyond otherFlaggable (by rwa [sameLength]), sameLength]
  · rw [runs, execute_of_within otherFlaggable (by rwa [sameLength])]
    apply runFrom_of_agree sameLength
    intro turns state trace
    by_cases inside : state.cursor < items.length
    · exact agree _ ⟨within, inside, turns, state, trace, rfl⟩
    · rw [List.getElem?_eq_none (by omega), List.getElem?_eq_none (by omega)]

end Agreement

theorem visits_of_turn {limit : Option Int} {items : List Item} {turns : List Turn} {state : State}
    (within : ∀ most ∈ limit, (items.length : Int) ≤ most) (trace : Trace items turns state)
    {turn : Turn} (member : turn ∈ turns) : Visits limit items turn.place := by
  obtain ⟨⟨earlier, before⟩, found, -⟩ := trace.exists_before member
  obtain ⟨inside, -⟩ := List.getElem?_eq_some_iff.1 found
  exact ⟨within, inside, earlier, turn.before, before, rfl⟩

/-- A position was visited or is idle by the report. -/
theorem visits_or_idle {limit : Option Int} {items : List Item} {report : Report}
    (ran : execute limit items = .ok report) {place : Nat} (inside : place < items.length) :
    Visits limit items place ∨ report.Idle place := by
  rcases execute_cases (flaggable_of_ok ran) limit with
    ⟨most, given, beyond, refused⟩ | ⟨within, runs⟩
  · rw [refused] at ran
    cases ran
    exact .inr (.inr (.inr ⟨_, _, rfl⟩))
  · obtain ⟨turns, last, trace, ends⟩ := exists_trace_to_end items
    have behind : place < last.cursor → Visits limit items place ∨ place ∈ last.skipped := by
      intro passed
      by_cases skipped : place ∈ last.skipped
      · exact .inr skipped
      · obtain ⟨turn, member, rfl⟩ := trace.turn_of_not_skipped passed skipped
        exact .inl (visits_of_turn within trace member)
    rw [← runs, ran] at ends
    cases ends with
    | done outside =>
      rcases behind (by omega) with visited | skipped
      · exact .inl visited
      · exact .inr (.inl skipped)
    | failed found fails =>
      rcases Nat.lt_trichotomy place last.cursor with passed | here | later
      · rcases behind passed with visited | skipped
        · exact .inl visited
        · exact .inr (.inl skipped)
      · exact .inl ⟨within, inside, turns, last, trace, here.symm⟩
      · exact .inr (.inr (.inl ⟨last.cursor, rfl, later⟩))

/-- No position was both visited and idle. -/
theorem not_idle_of_visits {limit : Option Int} {items : List Item} {report : Report}
    (ran : execute limit items = .ok report) {place : Nat} (visited : Visits limit items place) :
    ¬report.Idle place := by
  obtain ⟨within, inside, turns, state, trace, rfl⟩ := visited
  have returned := runFrom_of_within within ran
  obtain ⟨more, last, whole, ends, onTheWay⟩ := trace.exists_end
  have kept : state.cursor ∉ last.skipped ∧ state.cursor ≤ last.cursor := by
    rcases onTheWay with rfl | ⟨turn, member, rfl⟩
    · exact ⟨fun skipped => Nat.lt_irrefl _ (trace.mem_skipped_lt skipped), Nat.le_refl _⟩
    · have performed := List.mem_append_right turns member
      exact ⟨whole.not_skipped_of_turn performed, Nat.le_of_lt (whole.place_lt performed)⟩
  rw [← trace.runFrom_eq, returned] at ends
  rintro (skipped | ⟨failed, stopped, later⟩ | ⟨count, most, refused⟩)
  · cases ends with
    | done outside => exact kept.1 skipped
    | failed found fails => exact kept.1 skipped
  · cases ends with
    | done outside => cases stopped
    | failed found fails =>
      cases stopped
      omega
  · cases ends with
    | done outside => cases refused
    | failed found fails => cases refused

theorem visits_of_failedIndex {limit : Option Int} {items : List Item} {report : Report}
    {index : Nat} (ran : execute limit items = .ok report)
    (failed : report.failedIndex = some index) : Visits limit items index := by
  obtain ⟨within, -⟩ := runs_of_failedIndex ran failed
  obtain ⟨turns, last, trace, ends⟩ := exists_trace_to_end items
  rw [runFrom_of_within within ran] at ends
  cases ends with
  | done outside => cases failed
  | failed found fails =>
    cases failed
    obtain ⟨inside, -⟩ := List.getElem?_eq_some_iff.1 found
    exact ⟨within, inside, turns, last, trace, rfl⟩

end BlockMachine.Machine

namespace BlockMachine.Sheet
open Machine

/-- The sheets differ at these places only, and what the new one has there is none of the items
that stay. -/
structure ReplacedAt (places : List Nat) (old new : Sheet) : Prop where
  sameLength : new.slots.length = old.slots.length
  kept : ∀ place, place ∉ places → new.slots[place]? = old.slots[place]?
  apart : ∀ place ∈ places, ∀ other, other ∉ places → ¬new.Same place other

theorem Same.symm {sheet : Sheet} {first second : Nat} (same : sheet.Same first second) :
    sheet.Same second first := by
  obtain ⟨left, right, leftFound, rightFound, shared⟩ := same
  exact ⟨right, left, rightFound, leftFound, shared.symm⟩

section Replacement

variable {places : List Nat} {old new : Sheet} (replaced : ReplacedAt places old new)
include replaced

theorem ReplacedAt.same_iff {first second : Nat} (firstKept : first ∉ places)
    (secondKept : second ∉ places) : new.Same first second ↔ old.Same first second := by
  rw [Same, Same, replaced.kept first firstKept, replaced.kept second secondKept]

theorem ReplacedAt.execute_items {limit : Option Int} (flaggable : Flaggable old.items)
    (stillFlaggable : Flaggable new.items)
    (unvisited : ∀ place ∈ places, ¬Visits limit old.items place) :
    Machine.execute limit new.items = Machine.execute limit old.items := by
  apply execute_of_agree _ flaggable stillFlaggable
  · intro place visited
    have kept : place ∉ places := fun member => unvisited place member visited
    rw [items, items, List.getElem?_map, List.getElem?_map, replaced.kept place kept]
  · simp only [items, List.length_map, replaced.sameLength]

end Replacement

/-- Unvisited places have no influence: whatever is put there that takes a flag, the run returns the
same, flags nothing of it, and flags the rest as before. Of a run that returns, the unvisited places
are the skipped ones, those behind the failed block, and all places of a refused list. -/
theorem execute_of_replacedAt {limit : Option Int} {places : List Nat} {old new : Sheet}
    (flaggable : Flaggable old.items) (stillFlaggable : Flaggable new.items)
    (replaced : ReplacedAt places old new)
    (unvisited : ∀ place ∈ places, ¬Visits limit old.items place) :
    (new.execute limit).1 = (old.execute limit).1 ∧
    (∀ place ∈ places, (new.execute limit).2.flags[place]? ≠ some true) ∧
    (∀ place, place ∉ places → ((new.execute limit).2.flags[place]? = some true ↔
      (old.execute limit).2.flags[place]? = some true)) ∧
    ∀ report, (old.execute limit).1 = .ok report → ∀ place, place < old.slots.length →
      (¬Visits limit old.items place ↔ report.Idle place) := by
  have returned : (new.execute limit).1 = (old.execute limit).1 := by
    rw [execute_fst, execute_fst, replaced.execute_items flaggable stillFlaggable unvisited]
  have failedKept : ∀ report index, (old.execute limit).1 = .ok report →
      report.failedIndex = some index → index ∉ places := by
    intro report index ran failed member
    rw [execute_fst] at ran
    exact unvisited index member (visits_of_failedIndex ran failed)
  refine ⟨returned, ?_, ?_, ?_⟩
  · intro place member flagged
    obtain ⟨report, index, ran, failed, same⟩ := (flagged_iff stillFlaggable limit place).1 flagged
    rw [returned] at ran
    exact replaced.apart place member index (failedKept report index ran failed) same.symm
  · intro place kept
    rw [flagged_iff stillFlaggable, flagged_iff flaggable, returned]
    constructor
    · rintro ⟨report, index, ran, failed, same⟩
      exact ⟨report, index, ran, failed,
        (replaced.same_iff (failedKept report index ran failed) kept).1 same⟩
    · rintro ⟨report, index, ran, failed, same⟩
      exact ⟨report, index, ran, failed,
        (replaced.same_iff (failedKept report index ran failed) kept).2 same⟩
  · intro report ran place inside
    rw [execute_fst] at ran
    have listed : place < old.items.length := by simpa only [items, List.length_map] using inside
    constructor
    · intro unseen
      exact (visits_or_idle ran listed).resolve_left unseen
    · intro idle visited
      exact not_idle_of_visits ran visited idle

/-- The failing assignment also stands behind itself, and an assignment is skipped: in their places,
an item that is no block and a declaration without names change nothing. -/
theorem skipped_and_later_replaced :
    let old : Sheet := ⟨[⟨0, .block (.declare "x"), false⟩, ⟨1, .block (.branch "x" ">" "x"), true⟩,
      ⟨2, .block (.assign "x" "1"), false⟩, ⟨3, .block (.assign "y" "1"), false⟩,
      ⟨3, .block (.assign "y" "1"), false⟩]⟩
    let new : Sheet := ⟨[⟨0, .block (.declare "x"), false⟩, ⟨1, .block (.branch "x" ">" "x"), true⟩,
      ⟨8, .foreign "Loop" true, true⟩, ⟨3, .block (.assign "y" "1"), false⟩,
      ⟨9, .block (.declare ","), false⟩]⟩
    let report : Report := ⟨⟨[("x", 0.0)]⟩, some (.failed 3 (.undeclared "y")), 2, [2]⟩
    Flaggable old.items ∧ Flaggable new.items ∧ ReplacedAt [2, 4] old new ∧
      (∀ place ∈ [2, 4], ¬Visits none old.items place) ∧
      (new.execute none).1 = .ok report ∧ (new.execute none).2.flags[4]? ≠ some true := by
  intro old new report
  have ran : Machine.execute none old.items = .ok report :=
    (runFrom_eq_iff_runs _ _).2 (.next rfl (.skip rfl (.failed rfl)))
  have replaced : ReplacedAt [2, 4] old new := by
    refine ⟨rfl, ?_, ?_⟩
    · intro place kept
      match place with
      | 0 | 1 | 3 => rfl
      | 2 | 4 => simp at kept
      | place + 5 => rfl
    · rintro place member other kept ⟨left, right, leftFound, rightFound, shared⟩
      have fresh : left.label = 8 ∨ left.label = 9 := by
        simp only [List.mem_cons, List.not_mem_nil, or_false] at member
        rcases member with rfl | rfl
        · cases leftFound
          exact .inl rfl
        · cases leftFound
          exact .inr rfl
      have stays : right.label < 8 := by
        match other with
        | 0 | 1 | 3 => cases rightFound; decide
        | 2 | 4 => simp at kept
        | other + 5 => cases rightFound
      omega
  have unvisited : ∀ place ∈ [2, 4], ¬Visits none old.items place := by
    intro place member visited
    apply not_idle_of_visits ran visited
    simp only [List.mem_cons, List.not_mem_nil, or_false] at member
    rcases member with rfl | rfl
    · exact .inl (List.mem_singleton.2 rfl)
    · exact .inr (.inl ⟨3, rfl, by decide⟩)
  have flaggable : Flaggable old.items := flaggable_of_ok ran
  have stillFlaggable : Flaggable new.items := List.all_eq_true.1 rfl
  obtain ⟨returned, unflagged, -⟩ :=
    execute_of_replacedAt flaggable stillFlaggable replaced unvisited
  refine ⟨flaggable, stillFlaggable, replaced, unvisited, ?_, unflagged 4 (by decide)⟩
  rw [returned, execute_fst, ran]

/-- In the place of a skipped assignment, an item that takes no flag keeps the list from being
run. -/
theorem skipped_replaced_by_flagless :
    let old : Sheet := ⟨[⟨0, .block (.declare "x"), false⟩,
      ⟨1, .block (.branch "x" ">" "x"), false⟩, ⟨2, .block (.assign "x" "1"), false⟩]⟩
    let new : Sheet := ⟨[⟨0, .block (.declare "x"), false⟩,
      ⟨1, .block (.branch "x" ">" "x"), false⟩, ⟨3, .foreign "NoneType" false, false⟩]⟩
    let report : Report := ⟨⟨[("x", 0.0)]⟩, none, 2, [2]⟩
    ReplacedAt [2] old new ∧ (old.execute none).1 = .ok report ∧ report.Idle 2 ∧
      (new.execute none).1 = .error (.noFlag "NoneType") := by
  intro old new report
  have ran : Machine.execute none old.items = .ok report :=
    (runFrom_eq_iff_runs _ _).2 (.next rfl (.skip rfl .done))
  have replaced : ReplacedAt [2] old new := by
    refine ⟨rfl, ?_, ?_⟩
    · intro place kept
      match place with
      | 0 | 1 => rfl
      | 2 => simp at kept
      | place + 3 => rfl
    · rintro place member other kept ⟨left, right, leftFound, rightFound, shared⟩
      rw [List.mem_singleton] at member
      subst member
      cases leftFound
      match other with
      | 0 | 1 => cases rightFound; cases shared
      | 2 => simp at kept
      | other + 3 => cases rightFound
  refine ⟨replaced, ?_, .inl (List.mem_singleton.2 rfl), ?_⟩
  · rw [execute_fst, ran]
  · exact congrArg Prod.fst (execute_of_flagless rfl none)

end BlockMachine.Sheet
