import BlockMachine.Proofs.Runs

/-!
The history of a run, turn by turn. A turn is one block performed: the state in
which the cursor stood on it, the block, and its effect. A trace lists the turns
from the start of the list up to a state, so the states a run passes through are
those with a trace. Every trace goes on to where the run ends, and the positions
of its turns and the skipped ones together are those the cursor has left behind.
To each position it comes in one state only.
-/

namespace BlockMachine.Machine

structure Turn where
  before : State
  block : Block
  effect : Block.Effect

def Turn.place (turn : Turn) : Nat :=
  turn.before.cursor

/-- The turns of a run, the first one first, up to a state. -/
inductive Trace (items : List Item) : List Turn → State → Prop
  | start : Trace items [] .start
  | turn {turns : List Turn} {state : State} {block : Block} {effect : Block.Effect}
      (passed : Trace items turns state) (found : items[state.cursor]? = some (.block block))
      (performs : block.perform state.env = .ok effect) :
      Trace items (turns ++ [⟨state, block, effect⟩]) (state.after items.length effect)

/-- The state takes no further turn, and the run ends in it with this outcome. -/
inductive Ends (items : List Item) (state : State) : Outcome → Prop
  | done (outside : items.length ≤ state.cursor) : Ends items state (.ok (state.report none))
  | foreign {typeName : String} {takesFlag : Bool}
      (found : items[state.cursor]? = some (.foreign typeName takesFlag)) :
      Ends items state (.error (.noBlock typeName))
  | failed {block : Block} {fault : Block.Fault}
      (found : items[state.cursor]? = some (.block block))
      (fails : block.perform state.env = .error fault) :
      Ends items state (.ok (state.report (some (.failed state.cursor fault))))

theorem runFrom_of_turn {items : List Item} {state : State} {block : Block} {effect : Block.Effect}
    (found : items[state.cursor]? = some (.block block))
    (performs : block.perform state.env = .ok effect) :
    runFrom items state = runFrom items (state.after items.length effect) := by
  obtain ⟨inside, present⟩ := List.getElem?_eq_some_iff.1 found
  rw [runFrom.eq_1 items state, dif_pos inside, present]
  simp only [performs]

theorem Ends.runFrom_eq {items : List Item} {state : State} {outcome : Outcome}
    (ends : Ends items state outcome) : runFrom items state = outcome := by
  cases ends with
  | done outside => rw [runFrom.eq_1 items state, dif_neg (Nat.not_lt.2 outside)]
  | foreign found =>
    obtain ⟨inside, present⟩ := List.getElem?_eq_some_iff.1 found
    rw [runFrom.eq_1 items state, dif_pos inside, present]
  | failed found fails =>
    obtain ⟨inside, present⟩ := List.getElem?_eq_some_iff.1 found
    rw [runFrom.eq_1 items state, dif_pos inside, present]
    simp only [fails]

/-- The rest of a run is the run from any state it passes through. -/
theorem Trace.runFrom_eq {items : List Item} {turns : List Turn} {state : State}
    (trace : Trace items turns state) : runFrom items .start = runFrom items state := by
  induction trace with
  | start => rfl
  | turn passed found performs ih => rw [ih, runFrom_of_turn found performs]

/-- A trace goes on to the end of its run, by way of the state it has come to. -/
theorem Trace.exists_end {items : List Item} {turns : List Turn} {state : State}
    (trace : Trace items turns state) :
    ∃ more last, Trace items (turns ++ more) last ∧ Ends items last (runFrom items state) ∧
      (last = state ∨ ∃ turn ∈ more, turn.before = state) := by
  fun_induction runFrom items state generalizing turns with
  | case1 state inside typeName takesFlag present =>
    have found := List.getElem?_eq_some_iff.2 ⟨inside, present⟩
    exact ⟨[], state, by rwa [List.append_nil], .foreign found, .inl rfl⟩
  | case2 state inside block present fault fails =>
    have found := List.getElem?_eq_some_iff.2 ⟨inside, present⟩
    exact ⟨[], state, by rwa [List.append_nil], .failed found fails, .inl rfl⟩
  | case3 state inside block present effect performs ih =>
    have found := List.getElem?_eq_some_iff.2 ⟨inside, present⟩
    obtain ⟨more, last, continues, ends, -⟩ := ih (trace.turn found performs)
    rw [List.append_assoc] at continues
    exact ⟨_, last, continues, ends, .inr ⟨_, List.mem_append_left _ List.mem_cons_self, rfl⟩⟩
  | case4 state outside =>
    exact ⟨[], state, by rwa [List.append_nil], .done (Nat.not_lt.1 outside), .inl rfl⟩

theorem exists_trace_to_end (items : List Item) :
    ∃ turns last, Trace items turns last ∧ Ends items last (runFrom items .start) := by
  have begun : Trace items [] .start := .start
  obtain ⟨turns, last, trace, ends, -⟩ := begun.exists_end
  exact ⟨turns, last, trace, ends⟩

/-- Every position behind the cursor was either performed or skipped, and none was both. -/
theorem Trace.partition {items : List Item} {turns : List Turn} {state : State}
    (trace : Trace items turns state) :
    (turns.map Turn.place ++ state.skipped).Perm (List.range state.cursor) := by
  induction trace with
  | start => exact .refl _
  | @turn turns state block effect passed found performs ih =>
    rw [List.perm_iff_count] at ih ⊢
    intro place
    have before := ih place
    simp only [List.map_append, List.map_cons, List.map_nil, List.count_append] at before ⊢
    unfold State.after
    split
    · simp only [List.range_succ, List.count_append, Turn.place] at before ⊢
      omega
    · simp only [List.range_succ, List.count_append, Turn.place] at before ⊢
      omega

theorem Trace.mem_skipped_lt {items : List Item} {turns : List Turn} {state : State}
    (trace : Trace items turns state) {place : Nat} (skipped : place ∈ state.skipped) :
    place < state.cursor := by
  have member := trace.partition.mem_iff.1 (List.mem_append_right _ skipped)
  exact List.mem_range.1 member

theorem Trace.place_lt {items : List Item} {turns : List Turn} {state : State}
    (trace : Trace items turns state) {turn : Turn} (member : turn ∈ turns) :
    turn.place < state.cursor := by
  have performed : turn.place ∈ turns.map Turn.place := List.mem_map_of_mem member
  exact List.mem_range.1 (trace.partition.mem_iff.1 (List.mem_append_left _ performed))

theorem Trace.turn_of_not_skipped {items : List Item} {turns : List Turn} {state : State}
    (trace : Trace items turns state) {place : Nat} (behind : place < state.cursor)
    (kept : place ∉ state.skipped) : ∃ turn ∈ turns, turn.place = place := by
  have member := trace.partition.mem_iff.2 (List.mem_range.2 behind)
  rcases List.mem_append.1 member with performed | skipped
  · exact List.mem_map.1 performed
  · exact absurd skipped kept

theorem Trace.not_skipped_of_turn {items : List Item} {turns : List Turn} {state : State}
    (trace : Trace items turns state) {turn : Turn} (member : turn ∈ turns) :
    turn.place ∉ state.skipped := by
  have distinct := trace.partition.nodup_iff.2 List.nodup_range
  intro skipped
  exact (List.nodup_append.1 distinct).2.2 _ (List.mem_map_of_mem member) _ skipped rfl

/-- The state and the block of a turn are those of the run. -/
theorem Trace.exists_before {items : List Item} {turns : List Turn} {state : State}
    (trace : Trace items turns state) {turn : Turn} (member : turn ∈ turns) :
    (∃ earlier, Trace items earlier turn.before) ∧
      items[turn.place]? = some (.block turn.block) ∧
      turn.block.perform turn.before.env = .ok turn.effect := by
  induction trace with
  | start => cases member
  | @turn turns state block effect passed found performs ih =>
    rcases List.mem_append.1 member with earlier | last
    · exact ih earlier
    · rw [List.mem_singleton] at last
      subst last
      exact ⟨⟨turns, passed⟩, found, performs⟩

/-- The item at the position takes its turn in the run of the list, and does not fail. -/
def Performed (items : List Item) (place : Nat) : Prop :=
  ∃ turns state, Trace items turns state ∧ ∃ turn ∈ turns, turn.place = place

theorem Performed.exists_before {items : List Item} {place : Nat}
    (performed : Performed items place) {block : Block} (found : items[place]? = some (.block block)) :
    ∃ turns state effect, Trace items turns state ∧ state.cursor = place ∧
      block.perform state.env = .ok effect := by
  obtain ⟨turns, state, trace, turn, member, rfl⟩ := performed
  obtain ⟨⟨earlier, before⟩, present, performs⟩ := trace.exists_before member
  rw [found] at present
  cases present
  exact ⟨earlier, turn.before, turn.effect, before, rfl, performs⟩

/-- Behind a turn, the run takes its next turn or has come to the state of the trace. -/
theorem Trace.after_turn {items : List Item} {turns : List Turn} {state : State}
    (trace : Trace items turns state) {turn : Turn} (member : turn ∈ turns) :
    turn.before.after items.length turn.effect = state ∨
      ∃ next ∈ turns, next.before = turn.before.after items.length turn.effect := by
  induction trace with
  | start => cases member
  | @turn turns state block effect passed found performs ih =>
    rcases List.mem_append.1 member with earlier | last
    · rcases ih earlier with here | ⟨next, taken, follows⟩
      · exact .inr ⟨_, List.mem_append_right _ List.mem_cons_self, here.symm⟩
      · exact .inr ⟨next, List.mem_append_left _ taken, follows⟩
    · rw [List.mem_singleton] at last
      subst last
      exact .inl rfl

theorem Trace.start_or_turn {items : List Item} {turns : List Turn} {state : State}
    (trace : Trace items turns state) :
    State.start = state ∨ ∃ turn ∈ turns, turn.before = .start := by
  induction trace with
  | start => exact .inl rfl
  | @turn turns state block effect passed found performs ih =>
    rcases ih with here | ⟨turn, taken, begins⟩
    · exact .inr ⟨_, List.mem_append_right _ List.mem_cons_self, here.symm⟩
    · exact .inr ⟨turn, List.mem_append_left _ taken, begins⟩

/-- Of two states of a run, the later one is come to by way of the earlier one. -/
theorem Trace.meets {items : List Item} {turns others : List Turn} {state other : State}
    (first : Trace items turns state) (second : Trace items others other) :
    state = other ∨ (∃ turn ∈ others, turn.before = state) ∨
      ∃ turn ∈ turns, turn.before = other := by
  induction first with
  | start =>
    rcases second.start_or_turn with same | begins
    · exact .inl same
    · exact .inr (.inl begins)
  | @turn turns state block effect passed found performs ih =>
    rcases ih with rfl | ⟨turn, taken, rfl⟩ | ⟨turn, taken, later⟩
    · exact .inr (.inr ⟨_, List.mem_append_right _ List.mem_cons_self, rfl⟩)
    · -- both runs take their turn in this state, and a block does one thing only
      obtain ⟨-, present, does⟩ := second.exists_before taken
      have sameBlock : turn.block = block := by
        rw [Turn.place, found] at present
        cases present
        rfl
      have sameEffect : turn.effect = effect := by
        rw [sameBlock, performs] at does
        cases does
        rfl
      rw [← sameEffect]
      rcases second.after_turn taken with same | next
      · exact .inl same
      · exact .inr (.inl next)
    · exact .inr (.inr ⟨turn, List.mem_append_left _ taken, later⟩)

/-- The cursor comes to a position in one state only. -/
theorem Trace.eq_of_cursor_eq {items : List Item} {turns others : List Turn} {state other : State}
    (first : Trace items turns state) (second : Trace items others other)
    (same : state.cursor = other.cursor) : state = other := by
  rcases first.meets second with equal | ⟨turn, taken, rfl⟩ | ⟨turn, taken, rfl⟩
  · exact equal
  · have behind : turn.before.cursor < other.cursor := second.place_lt taken
    omega
  · have behind : turn.before.cursor < state.cursor := first.place_lt taken
    omega

theorem Trace.steps_eq {items : List Item} {turns : List Turn} {state : State}
    (trace : Trace items turns state) : state.steps = turns.length := by
  induction trace with
  | start => rfl
  | turn passed found performs ih =>
    unfold State.after
    split
    · simp only [ih, List.length_append, List.length_singleton]
    · simp only [ih, List.length_append, List.length_singleton]

/-- What a list returns is told by the state in which its run ends, or by the start if the list is
refused. -/
theorem exists_trace_of_execute {limit : Option Int} {items : List Item} {report : Report}
    (ran : execute limit items = .ok report) :
    ∃ turns state, Trace items turns state ∧ report = state.report report.halt ∧
      (Ends items state (.ok report) ∨ state = .start ∧ ∃ most ∈ limit, most < items.length) := by
  rcases execute_cases (flaggable_of_ok ran) limit with ⟨most, given, beyond, refused⟩ | ⟨-, runs⟩
  · rw [refused] at ran
    cases ran
    exact ⟨[], .start, .start, rfl, .inr ⟨rfl, most, given, beyond⟩⟩
  · obtain ⟨turns, last, trace, ends⟩ := exists_trace_to_end items
    rw [← runs, ran] at ends
    refine ⟨turns, last, trace, ?_, .inl ends⟩
    cases ends with
    | done outside => rfl
    | failed found fails => rfl

end BlockMachine.Machine
